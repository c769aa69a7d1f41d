import RouteMatch.Proofs.Evaluation.Parameters
import RouteMatch.Proofs.Path.SimpleTemplate

/-!
# The rest of a path

A wildcard takes what a path has after a slash, once the template is through.  If a
template without an optional group matches a path, then with a wildcard it also matches
that path with a slash and any line of text after it: the walk along the longer path goes
the same way as before, and leaves the slash and the text to the wildcard.  Only a line
feed keeps a text from being taken.

## Main definitions

* `RouteDefinition.withoutWildcard` — the same definition without a wildcard.

## Main results

* `walk_append_slash` — a walk does not notice what comes after a slash at its end.
* `checkPath_append_slash` — the wildcard captures what comes after the slash.
* `evaluate_catchAll` — **a longer path matches if the rest is one line.**
-/

namespace RouteMatch.Template

/-! ### The walk along a longer path -/

theorem heading_append_slash (text rest : List Char) :
    heading (text ++ '/' :: rest) = heading text := by
  induction text with
  | nil => rfl
  | cons c text ih =>
    by_cases hc : c = '/'
    · rw [hc, List.cons_append, heading_slash, heading_slash]
    · rw [List.cons_append, heading_cons hc, heading_cons hc, ih]

/-- A walk does not notice what comes after a slash at its end, unless an optional group
could take it. -/
theorem walk_append_slash {ps : List Part} (hgroup : ∀ p ∈ ps, p.isGroup = false)
    {text left : List Char} {found : List (Option (List Char))}
    (h : walk ps text = some (found, left)) (rest : List Char) :
    walk ps (text ++ '/' :: rest) = some (found, left ++ '/' :: rest) := by
  induction ps generalizing text found with
  | nil =>
    obtain ⟨rfl, rfl⟩ := Prod.mk.inj (Option.some.inj h)
    rfl
  | cons p ps ih =>
    have ih := @ih fun q hq => hgroup q (List.mem_cons_of_mem _ hq)
    cases p with
    | char c =>
      cases text with
      | nil => exact absurd h (by simp [walk])
      | cons d text =>
        rw [walk] at h
        rw [List.cons_append, walk]
        by_cases hd : d = c
        · rw [if_pos hd] at h ⊢
          exact ih h
        · rw [if_neg hd] at h
          exact absurd h (by simp)
    | token name =>
      rw [walk] at h
      rw [walk, heading_append_slash]
      simp only at h ⊢
      by_cases hzero : (heading text).length - (ending ps).length = 0
      · rw [if_pos hzero] at h
        exact absurd h (by simp)
      · rw [if_neg hzero] at h ⊢
        obtain ⟨⟨found', left'⟩, hwalk, heq⟩ := Option.map_eq_some_iff.mp h
        obtain ⟨rfl, rfl⟩ := Prod.mk.inj heq
        -- The token ends within the heading, so it ends within the shorter path.
        have hle : (heading text).length - (ending ps).length ≤ text.length := by
          have hprefix : heading text <+: text := List.takeWhile_prefix _
          have := hprefix.length_le
          omega
        rw [List.drop_append_of_le_length hle, List.take_append_of_le_length hle, ih hwalk]
        rfl
    | group names => exact absurd (hgroup _ List.mem_cons_self) (by simp [Part.isGroup])

/-- What a template has found in a path it finds in the longer path, and the wildcard takes
the rest if that is one line. -/
theorem walkWhole_append_slash {ps : List Part} (hgroup : ∀ p ∈ ps, p.isGroup = false)
    {text : List Char} {found : List (Option (List Char))}
    (h : walkWhole ps none text = some found) (wildcard rest : List Char) :
    walkWhole ps (some wildcard) (text ++ '/' :: rest)
      = if '\n' ∈ rest then none else some (found ++ [some rest]) := by
  unfold walkWhole at h
  cases hwalk : walk ps text with
  | none =>
    rw [hwalk] at h
    exact absurd h (by simp)
  | some outcome =>
    obtain ⟨found', left⟩ := outcome
    rw [hwalk] at h
    obtain ⟨more, hmore, rfl⟩ := Option.map_eq_some_iff.mp h
    -- Without a wildcard nothing is left of the path.
    cases left with
    | cons d left => exact absurd hmore (by simp [wildcardTail])
    | nil =>
      obtain rfl : more = [] := by simpa [wildcardTail, eq_comm] using hmore
      rw [walkWhole, walk_append_slash hgroup hwalk, List.append_nil, List.nil_append]
      simp only [wildcardTail]
      by_cases hline : '\n' ∈ rest
      · rw [if_pos hline, if_pos hline]
        rfl
      · rw [if_neg hline, if_neg hline]
        rfl

/-- Without names for it a simple template has no optional group. -/
theorem SimpleTemplate.not_isGroup_of_mem_parts {T : SimpleTemplate} (hgroup : T.group = []) :
    ∀ p ∈ T.parts, p.isGroup = false := by
  intro p hp
  rw [parts, groupParts, if_pos hgroup, List.append_nil] at hp
  obtain ⟨segment, -, hp⟩ := List.mem_flatMap.mp hp
  cases segment with
  | literal text =>
    rcases List.mem_cons.mp hp with rfl | hp
    · rfl
    · obtain ⟨c, -, rfl⟩ := List.mem_map.mp hp
      rfl
  | token name =>
    rcases List.mem_cons.mp hp with rfl | hp
    · rfl
    · rw [List.mem_singleton.mp hp]
      rfl

end RouteMatch.Template

namespace RouteMatch

open Template

/-! ### Definitions -/

/-- The same definition without a wildcard. -/
def RouteDefinition.withoutWildcard (d : RouteDefinition) : RouteDefinition :=
  { d with wildcard := none }

namespace Route.IsPlainDefinition

variable {d : RouteDefinition} {ps : List Template.Part} {wildcard : Option (List Char)}

/-- A plain definition stays plain without its wildcard. -/
theorem withoutWildcard (h : IsPlainDefinition d ps wildcard) :
    IsPlainDefinition d.withoutWildcard ps none where
  path_eq := h.path_eq
  isPlain := h.isPlain
  separated := h.separated
  front := h.front
  nodup := by simpa using (List.nodup_append.mp h.nodup).1
  defaults := h.defaults
  wildcard_eq := rfl
  wildcard_isName := fun name hname => absurd hname (by simp)
  last := Or.inl rfl
  accept := h.accept
  server := h.server

/-- A simple template whose tokens have no patterns of their own is plain. -/
theorem of_simpleTemplate (T : SimpleTemplate) (hpath : d.path.toList = T.text)
    (hwildcard : wildcardOf d = T.wildcard.map String.ofList)
    (hdefaults : HasDefaults d.tokens T.names) (haccept : d.accept = []) (hserver : d.server = []) :
    IsPlainDefinition d T.parts T.wildcard where
  path_eq := hpath.trans T.written_parts.symm
  isPlain := T.isPlain_of_mem_parts
  separated := T.isSeparated_parts
  front := T.head?_parts
  nodup := T.flatMap_names_parts.symm ▸ T.nodup
  defaults := T.flatMap_names_parts.symm ▸ hdefaults
  wildcard_eq := hwildcard
  wildcard_isName := fun name hname =>
    T.isName name (List.mem_append_right _ (Option.mem_toList.mpr hname))
  last := Or.inr T.getLast?_parts
  accept := fun mediaType hmem => absurd hmem (by simp [haccept])
  server := ⟨[], by rw [hserver]; rfl⟩

end Route.IsPlainDefinition

/-! ### The path check -/

section

variable {d : RouteDefinition} {ps : List Template.Part}

/-- There is one finding for each name. -/
theorem length_of_walkWhole {wildcard : Option (List Char)} (hsep : IsSeparated ps)
    {text : List Char} {found : List (Option (List Char))}
    (h : walkWhole ps wildcard text = some found) :
    found.length = (ps.flatMap Template.Part.names ++ wildcard.toList).length := by
  rw [← fullMatch?_wholeSketch hsep] at h
  obtain ⟨t, -, rfl⟩ := Option.map_eq_some_iff.mp h
  have hnames := congrArg List.length ((wholeSketch ps wildcard).map_fst_named 0)
  rw [List.length_map] at hnames ⊢
  rw [hnames]
  simp [wholeSketch]

/-- A path that passes the check of a plain route is what a walk has found. -/
theorem exists_found_of_checkPath {wildcard : Option (List Char)}
    (h : Route.IsPlainDefinition d ps wildcard) {r : Route} (hbuild : Route.build d = .ok r)
    {path : String} {config : Config} {captures : Captures}
    (hlimit : exceeds config.maxPathLength path.length = none)
    (hcheck : checkPath r path config [] = .ok (captures, none)) :
    ∃ found, walkWhole ps wildcard path.toList = some found ∧
      captures = capturesOf ((ps.flatMap Template.Part.names ++ wildcard.toList).zip found) := by
  rw [checkPath_plain h hbuild hlimit] at hcheck
  cases hfound : walkWhole ps wildcard path.toList with
  | none =>
    rw [hfound] at hcheck
    exact absurd hcheck (by simp)
  | some found =>
    rw [hfound] at hcheck
    exact ⟨found, rfl, (Prod.mk.inj (Except.ok.inj hcheck)).1.symm⟩

/-- The names of a plain template with what was found for them. -/
theorem map_fst_zip_found {found : List (Option (List Char))} {text : List Char}
    (hsep : IsSeparated ps) (h : walkWhole ps none text = some found) :
    ((ps.flatMap Template.Part.names).zip found).map Prod.fst
      = ps.flatMap Template.Part.names := by
  have hlength := length_of_walkWhole hsep h
  rw [Option.toList_none, List.append_nil] at hlength
  exact List.map_fst_zip (le_of_eq hlength.symm)

variable {w : List Char} {r plain : Route} {p : String} {config : Config} {captures : Captures}

/-- **The wildcard captures what comes after the slash**, if that is one line, and leaves
the other captures as they are. -/
theorem checkPath_append_slash (h : Route.IsPlainDefinition d ps (some w))
    (hgroup : ∀ q ∈ ps, q.isGroup = false) (hbuild : Route.build d = .ok r)
    (hplain : Route.build d.withoutWildcard = .ok plain) (hlimit : config.maxPathLength = none)
    (hcheck : checkPath plain p config [] = .ok (captures, none)) (rest : String) :
    checkPath r (p ++ "/" ++ rest) config [] = .ok
      (if '\n' ∈ rest.toList then ([], some .path)
      else (captures ++ [(.text (String.ofList w), .text rest)], none)) := by
  have hexceeds : ∀ length, exceeds config.maxPathLength length = none := by
    intro length
    rw [hlimit]
    rfl
  obtain ⟨found, hfound, rfl⟩ :=
    exists_found_of_checkPath h.withoutWildcard hplain (hexceeds _) hcheck
  have hwalk := walkWhole_append_slash hgroup hfound w rest.toList
  have hlength := length_of_walkWhole h.separated hfound
  rw [Option.toList_none, List.append_nil] at hlength hcheck ⊢
  have htext : (p ++ "/" ++ rest).toList = p.toList ++ '/' :: rest.toList := by simp
  rw [checkPath_plain h hbuild (hexceeds _), htext, hwalk]
  by_cases hline : '\n' ∈ rest.toList
  · rw [if_pos hline, if_pos hline]
  · rw [if_neg hline, if_neg hline]
    simp only [Option.toList_some]
    rw [List.zip_append hlength.symm, capturesOf, List.map_append, ← capturesOf]
    simp [capturedValue]

/-! ### Parameters -/

/-- The last capture, under a name of its own, is decoded into the parameters unless it is
empty. -/
theorem get?_overlay_concat (params : Params) {found : List (List Char × Option (List Char))}
    (hname : w ∉ found.map Prod.fst) (rest : String) :
    ((capturesOf found ++ [(Value.text (String.ofList w), Value.text rest)]).foldl overlay
        params).get? (String.ofList w)
      = if rest = "" then params.get? (String.ofList w)
        else some (.text (Text.percentDecode rest)) := by
  rw [List.foldl_append, List.foldl_cons, List.foldl_nil]
  have hother : ((capturesOf found).foldl overlay params).get? (String.ofList w)
      = params.get? (String.ofList w) :=
    get?_overlay_of_forall_ne fun text hmem => hname (List.mem_map.mpr ⟨_, hmem, rfl⟩)
  by_cases hrest : rest = ""
  · rw [if_pos hrest, hrest, ← hother]
    rfl
  · have hmissing : (rest == "") = false := beq_eq_false_iff_ne.mpr hrest
    rw [if_neg hrest]
    simp [overlay, isMissing, hmissing, decodeCapture, Entries.get?_insert]

/-- The parameter of a wildcard is a list of pieces. -/
theorem extractParams_of_wildcard (r : Route) (captures : Captures) {w : String}
    {pieces : List Value} (hw : Route.wildcardOf r.definition = some w)
    (h : splitWildcard (((captures.foldl overlay r.values).get? w).getD .none) = .ok pieces) :
    ∃ params, extractParams r captures = .ok params ∧ params.get? w = some (.list pieces) := by
  refine ⟨(captures.foldl overlay r.values).insert w (.list pieces), ?_, ?_⟩
  · rw [extractParams, hw]
    simp only [h, Except.map]
  · rw [Entries.get?_insert, if_pos (beq_self_eq_true w)]

/-! ### The evaluation -/

/-- What the check of a path on an unconstrained route comes to. -/
theorem checkPath_of_evaluate {a : Attributes} {attempt : Attempt}
    (hd : IsUnconstrained r.definition) (hconstraints : r.constraints = [])
    (heval : evaluate r p a config = .ok attempt) (hmatched : attempt.matched = true) :
    checkPath r p config [] = .ok (attempt.captures, none) := by
  obtain ⟨⟨captures, rejection⟩, hcheck⟩ : ∃ outcome, checkPath r p config [] = .ok outcome := by
    unfold checkPath
    split
    · exact ⟨_, rfl⟩
    · split
      · exact ⟨_, rfl⟩
      · exact ⟨_, rfl⟩
  have hplain : IsUnconstrained { r.definition with wildcard := none } :=
    ⟨rfl, hd.secure, hd.methods, hd.accept, hd.server, hd.predicate, hd.routable⟩
  cases rejection with
  | some why =>
    rw [evaluate, evaluation, firstRejection_unconstrained hplain hconstraints hcheck] at heval
    rw [← Except.ok.inj heval] at hmatched
    exact absurd hmatched (by simp [Attempt.matched])
  | none =>
    rw [evaluate_unconstrained hd hconstraints hcheck] at heval
    rw [hcheck, ← Except.ok.inj heval]

/-- What is known of a route that was built from a plain definition without constraints. -/
theorem build_unconstrained {wildcard : Option (List Char)}
    (h : Route.IsPlainDefinition d ps wildcard) (hserver : d.server = [])
    (hbuild : Route.build d = .ok r) :
    r.definition = d ∧ r.constraints = [] ∧
      ∀ key : List Char, key ∉ ps.flatMap Template.Part.names →
        r.values.get? (String.ofList key) = d.values.get? (String.ofList key) := by
  obtain ⟨r', hbuild', hdefinition, -, -, hnames, hconstraints, hvalues⟩ := h.build_eq
  obtain rfl : r' = r := by
    rw [hbuild'] at hbuild
    exact Except.ok.inj hbuild
  refine ⟨hdefinition, ?_, fun key hkey => ?_⟩
  · rw [hserver] at hconstraints
    exact (Except.ok.inj hconstraints).symm
  · have hnotin : String.ofList key ∉ r'.names := by
      rwa [hnames, List.mem_map_of_injective fun _ _ heq => String.ofList_injective heq]
    rw [hvalues, get?_foldl_insertNew, if_neg hnotin, Option.or_none]

section

variable (h : Route.IsPlainDefinition d ps (some w)) (hd : IsUnconstrained d.withoutWildcard)
  (hgroup : ∀ q ∈ ps, q.isGroup = false) (hbuild : Route.build d = .ok r)
  (hplain : Route.build d.withoutWildcard = .ok plain) (hlimit : config.maxPathLength = none)
  {a : Attributes} {attempt : Attempt} (heval : evaluate plain p a config = .ok attempt)
  (hmatched : attempt.matched = true)

include h hd hgroup hbuild hplain hlimit heval hmatched

/-- What the checks of a longer path come to, if the path matches without the wildcard. -/
theorem firstRejection_append_slash (rest : String) :
    firstRejection (checks r (p ++ "/" ++ rest) a config) [] = .silent (.ok
      (if '\n' ∈ rest.toList then ([], some .path)
      else (attempt.captures ++ [(.text (String.ofList w), .text rest)], none))) := by
  obtain ⟨hdefinition, hconstraints, -⟩ := build_unconstrained h hd.server hbuild
  obtain ⟨hdefinition', hconstraints', -⟩ := build_unconstrained h.withoutWildcard hd.server hplain
  have hcheck := checkPath_of_evaluate (hdefinition' ▸ hd) hconstraints' heval hmatched
  exact firstRejection_unconstrained (hdefinition ▸ hd) hconstraints
    (checkPath_append_slash h hgroup hbuild hplain hlimit hcheck rest)

/-- A longer path matches if the rest is one line, and the parameter of the wildcard is the
pieces of the rest; without a rest it is the pieces of its default. -/
theorem evaluate_append_slash {rest : String} (hline : '\n' ∉ rest.toList) {pieces : List Value}
    (hpieces : splitWildcard
      (if rest = "" then (d.values.get? (String.ofList w)).getD .none
      else .text (Text.percentDecode rest)) = .ok pieces) :
    ∃ params, evaluate r (p ++ "/" ++ rest) a config
        = .ok ⟨params, attempt.captures ++ [(.text (String.ofList w), .text rest)], none⟩ ∧
      params.get? (String.ofList w) = some (.list pieces) := by
  obtain ⟨hdefinition, -, hvalues⟩ := build_unconstrained h hd.server hbuild
  obtain ⟨hdefinition', hconstraints', -⟩ := build_unconstrained h.withoutWildcard hd.server hplain
  have hcheck := checkPath_of_evaluate (hdefinition' ▸ hd) hconstraints' heval hmatched
  obtain ⟨found, hfound, hcaptures⟩ := exists_found_of_checkPath h.withoutWildcard hplain
    (by rw [hlimit]; rfl) hcheck
  rw [Option.toList_none, List.append_nil] at hcaptures
  -- The wildcard has a name that no token has.
  have hw : w ∉ ps.flatMap Template.Part.names := by
    have hdisjoint := (List.nodup_append.mp h.nodup).2.2
    exact fun hmem => hdisjoint w hmem w (by simp) rfl
  have hname : w ∉ ((ps.flatMap Template.Part.names).zip found).map Prod.fst := by
    rwa [map_fst_zip_found h.separated hfound]
  have hget := get?_overlay_concat r.values hname rest
  rw [← hcaptures, hvalues w hw] at hget
  have hwildcard : Route.wildcardOf r.definition = some (String.ofList w) := by
    rw [hdefinition, h.wildcard_eq]
    rfl
  obtain ⟨params, hextract, hparam⟩ := extractParams_of_wildcard r
    (attempt.captures ++ [(.text (String.ofList w), .text rest)]) hwildcard
    (show splitWildcard _ = .ok pieces by rw [hget, ← hpieces]; split <;> rfl)
  refine ⟨params, ?_, hparam⟩
  rw [evaluate, evaluation, firstRejection_append_slash h hd hgroup hbuild hplain hlimit heval hmatched,
    if_neg hline]
  simp only [Asked.bind_silent_ok, Asked.result_silent, hextract, Except.map]

end

end

/-- **The wildcard takes any rest of one line.**  Take a simple template without an optional
group, with a wildcard, on a route that asks for nothing but the path.  If the same route
without its wildcard matches a path, then the route matches that path with a slash and a rest
after it exactly if the rest has no line feed.  The wildcard captures the rest as it stands, and
the other captures are those of the shorter path.  (An empty rest leaves the parameter of
the wildcard to its default, which must then be something that can be split.) -/
theorem evaluate_catchAll (T : SimpleTemplate) {w : List Char} (hgroup : T.group = [])
    (hw : T.wildcard = some w) {d : RouteDefinition} (hpath : d.path.toList = T.text)
    (hwildcard : d.wildcard = some (String.ofList w)) (hdefaults : HasDefaults d.tokens T.names)
    (hd : IsUnconstrained d.withoutWildcard) :
    ∃ r plain, Route.build d = .ok r ∧ Route.build d.withoutWildcard = .ok plain ∧
      ∀ (p rest : String) (a : Attributes) (config : Config) (attempt : Attempt),
        config.maxPathLength = none → evaluate plain p a config = .ok attempt →
        attempt.matched = true →
        (rest = "" → ∃ pieces,
          splitWildcard ((d.values.get? (String.ofList w)).getD .none) = .ok pieces) →
        ∃ longer, evaluate r (p ++ "/" ++ rest) a config = .ok longer ∧
          (longer.matched = true ↔ '\n' ∉ rest.toList) ∧
          (longer.matched = true →
            longer.captures = attempt.captures ++ [(.text (String.ofList w), .text rest)]) := by
  have hname : isName w = true :=
    T.isName w (List.mem_append_right _ (by rw [hw]; exact List.mem_singleton_self w))
  have hne : String.ofList w ≠ "" := by
    intro heq
    rw [String.ofList_injective (heq : String.ofList w = String.ofList [])] at hname
    exact absurd hname (by decide)
  have hwildcardOf : Route.wildcardOf d = T.wildcard.map String.ofList := by
    rw [Route.wildcardOf, hwildcard, hw]
    simp [hne]
  have hdefinition : Route.IsPlainDefinition d T.parts (some w) :=
    hw ▸ .of_simpleTemplate T hpath hwildcardOf hdefaults hd.accept hd.server
  have hgroups := T.not_isGroup_of_mem_parts hgroup
  obtain ⟨r, hbuild, -⟩ := hdefinition.build_eq
  obtain ⟨plain, hplain, -⟩ := hdefinition.withoutWildcard.build_eq
  refine ⟨r, plain, hbuild, hplain, ?_⟩
  intro p rest a config attempt hlimit heval hmatched hdefault
  by_cases hline : '\n' ∈ rest.toList
  · have hreject := firstRejection_append_slash hdefinition hd hgroups hbuild hplain hlimit heval
      hmatched rest
    rw [if_pos hline] at hreject
    refine ⟨⟨[], [], some .path⟩, by rw [evaluate, evaluation, hreject]; rfl, ?_, fun h => absurd h (by decide)⟩
    exact iff_of_false (by decide) fun h => h hline
  · obtain ⟨pieces, hpieces⟩ : ∃ pieces, splitWildcard
        (if rest = "" then (d.values.get? (String.ofList w)).getD .none
        else .text (Text.percentDecode rest)) = .ok pieces := by
      split
      · next hrest => exact hdefault hrest
      · obtain ⟨texts, htexts⟩ := exists_splitWildcard (v := .text (Text.percentDecode rest)) rfl
        exact ⟨_, htexts⟩
    obtain ⟨params, hlonger, -⟩ := evaluate_append_slash hdefinition hd hgroups hbuild hplain hlimit
      heval hmatched hline hpieces
    exact ⟨_, hlonger, iff_of_true rfl hline, fun _ => rfl⟩

/-- A simple template with a wildcard. -/
def filesTemplate : SimpleTemplate where
  segments := [.literal "files".toList, .token "id".toList]
  group := []
  wildcard := some "rest".toList
  segments_ne_nil := List.cons_ne_nil _ _
  literal_ne_nil := by simp
  literal_plain := by
    intro text htext
    obtain rfl : text = "files".toList := by simpa using htext
    have hplain : "files".toList.all (fun c => c ≠ '/' && Pattern.isPlain c) = true := by
      decide +kernel
    simpa using hplain
  isName := by decide
  nodup := by decide

/-- The definition of a route with that template. -/
def filesDefinition : RouteDefinition :=
  { path := "/files/{id}", wildcard := some "rest" }

theorem evaluate_catchAll_filesDefinition :
    ∃ r plain attempt longer, Route.build filesDefinition = .ok r ∧
      Route.build filesDefinition.withoutWildcard = .ok plain ∧
      evaluate plain "/files/7" {} { maxPathLength := none } = .ok attempt ∧
      attempt.matched = true ∧
      evaluate r "/files/7//a%2F\tb/" {} { maxPathLength := none } = .ok longer ∧
      longer.matched = true ∧
      longer.captures = attempt.captures ++ [(.text "rest", .text "/a%2F\tb/")] := by
  obtain ⟨r, plain, hbuild, hplain, hlonger⟩ := evaluate_catchAll filesTemplate
    (w := "rest".toList) (d := filesDefinition) rfl rfl (by decide) rfl (fun _ _ => rfl)
    ⟨rfl, rfl, rfl, rfl, rfl, rfl, rfl⟩
  obtain ⟨plain', hplain', hshort⟩ :
      ∃ plain, Route.build filesDefinition.withoutWildcard = .ok plain ∧
        (evaluate plain "/files/7" {} { maxPathLength := none }).toOption.any Attempt.matched
          = true :=
    exists_of_any_toOption (by decide +kernel)
  obtain rfl : plain' = plain := by
    rw [hplain'] at hplain
    exact Except.ok.inj hplain
  obtain ⟨attempt, hattempt, hmatched⟩ := exists_of_any_toOption hshort
  obtain ⟨longer, heval, hiff, hcaptures⟩ :=
    hlonger "/files/7" "/a%2F\tb/" {} { maxPathLength := none } attempt rfl hattempt hmatched
      fun h => absurd h (by decide)
  have hmatches := hiff.mpr (by decide)
  exact ⟨r, plain', attempt, longer, hbuild, hplain', hattempt, hmatched, heval, hmatches,
    hcaptures hmatches⟩

/-- A rest of two lines is not taken. -/
theorem not_evaluate_catchAll_filesDefinition :
    ∃ r plain attempt longer, Route.build filesDefinition = .ok r ∧
      Route.build filesDefinition.withoutWildcard = .ok plain ∧
      evaluate plain "/files/7" {} { maxPathLength := none } = .ok attempt ∧
      attempt.matched = true ∧
      evaluate r "/files/7/a\nb" {} { maxPathLength := none } = .ok longer ∧
      longer.matched = false := by
  obtain ⟨r, hbuild, hlonger⟩ :
      ∃ r, Route.build filesDefinition = .ok r ∧
        (evaluate r "/files/7/a\nb" {} { maxPathLength := none }).toOption.any (!·.matched)
          = true :=
    exists_of_any_toOption (by decide +kernel)
  obtain ⟨plain, hplain, hshort⟩ :
      ∃ plain, Route.build filesDefinition.withoutWildcard = .ok plain ∧
        (evaluate plain "/files/7" {} { maxPathLength := none }).toOption.any Attempt.matched
          = true :=
    exists_of_any_toOption (by decide +kernel)
  obtain ⟨longer, heval, hnot⟩ := exists_of_any_toOption hlonger
  obtain ⟨attempt, hattempt, hmatched⟩ := exists_of_any_toOption hshort
  exact ⟨r, plain, attempt, longer, hbuild, hplain, hattempt, hmatched, heval, by simpa using hnot⟩

end RouteMatch
