import RouteMatch.Params
import RouteMatch.Proofs.Path.Pieces
import RouteMatch.Proofs.Path.PlainCheck
import RouteMatch.Proofs.Text.PercentEncoding

/-!
# Putting values into a template

A path is built from a template by writing an encoded value for each token and for
the first names of the optional group.  Evaluating that path on the route gives the
values back.  An encoded value holds no slash, so the walk along the path takes
exactly what was put in, even where a value looks like the text that follows it.

## Main definitions

* `Part.filled`, `Part.assigned` — a part with values in it, and the names that have
  got one.
* `IsFillable` — what is asked of a template.
* `IsUnconstrained` — a route that asks for nothing but the path.

## Main results

* `walkWhole_filled` — the walk takes the values that were put in.
* `evaluate_filled` — **evaluating a path that was built from a template gives the
  values back.**
-/

namespace RouteMatch.Template

open Text

/-! ### Paths from templates -/

variable (value : List Char → List Char) (count : Nat)

namespace Part

/-- The text of a part with values put in, as many as `count` in an optional
group. -/
def filled : Part → List Char
  | .char c => [c]
  | .token name => percentEncode (value name)
  | .group names => slashed ((names.take count).map fun name => percentEncode (value name))

/-- The names that a value is put in for. -/
def assigned : Part → List (List Char)
  | .char _ => []
  | .token name => [name]
  | .group names => names.take count

/-- The names with what the path has for them. -/
def found : Part → List (List Char × Option (List Char))
  | .char _ => []
  | .token name => [(name, some (percentEncode (value name)))]
  | .group names =>
    (names.take count).map (fun name => (name, some (percentEncode (value name))))
      ++ (names.drop count).map fun name => (name, none)

theorem map_fst_found (p : Part) : (p.found value count).map Prod.fst = p.names := by
  cases p with
  | char c => rfl
  | token name => rfl
  | group list => simp [found, Part.names, Function.comp_def]

/-- A text is found just for the names that have got a value. -/
theorem mem_found_some_iff {p : Part} {name text : List Char} :
    (name, some text) ∈ p.found value count
      ↔ name ∈ p.assigned count ∧ text = percentEncode (value name) := by
  cases p with
  | char c => simp [found, assigned]
  | token n =>
    simp only [found, assigned, List.mem_singleton, Prod.mk.injEq, Option.some.injEq]
    constructor
    · rintro ⟨rfl, rfl⟩
      exact ⟨rfl, rfl⟩
    · rintro ⟨rfl, rfl⟩
      exact ⟨rfl, rfl⟩
  | group list =>
    simp only [found, assigned, List.mem_append]
    constructor
    · rintro (h | h)
      · obtain ⟨n, hn, heq⟩ := List.mem_map.mp h
        obtain ⟨rfl, htext⟩ := Prod.mk.inj heq
        exact ⟨hn, (Option.some.inj htext).symm⟩
      · obtain ⟨n, -, heq⟩ := List.mem_map.mp h
        exact absurd (Prod.mk.inj heq).2 (by simp)
    · rintro ⟨hname, rfl⟩
      exact Or.inl (List.mem_map_of_mem hname)

end Part

/-- The path from a template. -/
def filledPath (ps : List Part) : List Char :=
  ps.flatMap (Part.filled value count)

/-- The names of a template with what the path from it has for them. -/
def foundIn (ps : List Part) : List (List Char × Option (List Char)) :=
  ps.flatMap (Part.found value count)

theorem map_fst_foundIn (ps : List Part) :
    (foundIn value count ps).map Prod.fst = ps.flatMap Part.names := by
  induction ps with
  | nil => rfl
  | cons p ps ih =>
    rw [foundIn, List.flatMap_cons, List.flatMap_cons, List.map_append, p.map_fst_found, ← foundIn,
      ih]

/-- A text is found just for the names that have got a value. -/
theorem mem_foundIn_some_iff {ps : List Part} {name text : List Char} :
    (name, some text) ∈ foundIn value count ps
      ↔ name ∈ ps.flatMap (Part.assigned count) ∧ text = percentEncode (value name) := by
  simp only [foundIn, List.mem_flatMap, Part.mem_found_some_iff]
  constructor
  · rintro ⟨p, hp, hname, rfl⟩
    exact ⟨⟨p, hp, hname⟩, rfl⟩
  · rintro ⟨⟨p, hp, hname⟩, rfl⟩
    exact ⟨p, hp, hname, rfl⟩

/-! ### The walk along a filled path -/

variable {value count}

/-- What comes before the next slash of a path is what the template has there. -/
theorem heading_filledPath {ps : List Part} (hapart : IsApart ps) (hsep : IsSeparated ps) :
    heading (filledPath value count ps) = ending ps := by
  induction ps with
  | nil => rfl
  | cons p ps ih =>
    rw [filledPath, List.flatMap_cons]
    cases p with
    | char c =>
      by_cases hc : c = '/'
      · simp [Part.filled, ending, hc]
      · have ih := ih (hapart.resolve_left hc) hsep
        rw [filledPath] at ih
        rw [Part.filled, List.singleton_append, heading_cons hc, ih, ending, if_neg hc]
    | token name => exact absurd hapart id
    | group names =>
      have hps : ps = [] := hsep
      rw [hps, List.flatMap_nil, List.append_nil, Part.filled, heading_slashed]
      rfl

/-- An optional group takes the values that were put in. -/
theorem longestRun_filled {pieces : List (List Char)} {most : Nat} (hlength : pieces.length ≤ most)
    (hne : ∀ piece ∈ pieces, piece ≠ []) : longestRun most pieces = pieces := by
  rw [longestRun, List.take_of_length_le hlength, List.takeWhile_eq_self_iff]
  exact fun piece hpiece => by simpa using hne piece hpiece

/-- The walk takes the value of a token. -/
theorem walkWhole_filled_token {ps : List Part} (hapart : IsApart ps) (hsep : IsSeparated ps)
    {name : List Char} (hvalue : value name ≠ []) :
    walkWhole (.token name :: ps) none (percentEncode (value name) ++ filledPath value count ps)
      = (walkWhole ps none (filledPath value count ps)).map
          (some (percentEncode (value name)) :: ·) := by
  let text := percentEncode (value name)
  have hne : text ≠ [] := percentEncode_ne_nil hvalue
  -- What the parts after the token have before their slash is left to them.
  have hheading : heading (text ++ filledPath value count ps) = text ++ ending ps := by
    rw [heading_append (slash_notMem_percentEncode _), heading_filledPath hapart hsep]
  have hlength : text.length
      = (heading (text ++ filledPath value count ps)).length - (ending ps).length := by
    rw [hheading, List.length_append, Nat.add_sub_cancel]
  rw [walkWhole_token ps none name _ hlength, if_neg (mt List.length_eq_zero_iff.mp hne),
    List.drop_left, List.take_left]

/-- The walk takes the values of an optional group. -/
theorem walkWhole_filled_group {names : List (List Char)}
    (hvalue : ∀ name ∈ names.take count, value name ≠ []) :
    walkWhole [.group names] none (Part.filled value count (.group names))
      = some ((Part.found value count (.group names)).map Prod.snd) := by
  let pieces := (names.take count).map fun name => percentEncode (value name)
  have hslash : ∀ piece ∈ pieces, '/' ∉ piece := by
    intro piece hpiece
    obtain ⟨name, -, rfl⟩ := List.mem_map.mp hpiece
    exact slash_notMem_percentEncode _
  have hne : ∀ piece ∈ pieces, piece ≠ [] := by
    intro piece hpiece
    obtain ⟨name, hname, rfl⟩ := List.mem_map.mp hpiece
    exact percentEncode_ne_nil (hvalue name hname)
  have hlength : pieces.length ≤ names.length := by
    simp only [pieces, List.length_map, List.length_take]
    exact Nat.min_le_right _ _
  have htake := takeSegments_slashed names.length hslash
  rw [longestRun_filled hlength hne, List.drop_length, slashed_nil] at htake
  have hcount : names.length - pieces.length = (names.drop count).length := by
    simp only [pieces, List.length_map, List.length_take, List.length_drop]
    omega
  rw [Part.filled, walkWhole_group, htake, padded, hcount]
  simp [wildcardTail, pieces, Part.found, Function.comp_def]

/-- **The walk takes the values that were put in.** -/
theorem walkWhole_filled {ps : List Part} (hsep : IsSeparated ps)
    (hvalue : ∀ name ∈ ps.flatMap (Part.assigned count), value name ≠ []) :
    walkWhole ps none (filledPath value count ps)
      = some ((foundIn value count ps).map Prod.snd) := by
  induction ps with
  | nil => rfl
  | cons p ps ih =>
    rw [List.flatMap_cons] at hvalue
    have hrest := fun name hname => hvalue name (List.mem_append_right _ hname)
    cases p with
    | char c =>
      rw [filledPath, foundIn, List.flatMap_cons, List.flatMap_cons, Part.filled,
        List.singleton_append, walkWhole_char_cons, if_pos rfl]
      exact ih hsep hrest
    | token name =>
      have hname := hvalue name (List.mem_append_left _ List.mem_cons_self)
      have hstep : walkWhole (.token name :: ps) none (filledPath value count (.token name :: ps))
          = (walkWhole ps none (filledPath value count ps)).map
              (some (percentEncode (value name)) :: ·) :=
        walkWhole_filled_token hsep.1 hsep.2 hname
      rw [hstep, ih hsep.2 hrest]
      rfl
    | group names =>
      have hps : ps = [] := hsep
      subst hps
      rw [filledPath, foundIn, List.flatMap_singleton, List.flatMap_singleton]
      exact walkWhole_filled_group fun name hname => hvalue name (List.mem_append_left _ hname)

/-! ### Templates that values can be put into -/

/-- What is asked of a template: its text means the same in a pattern, no token has
a pattern of its own, names are distinct, a slash stands between any two tokens, and
an optional group comes last but not first. -/
structure IsFillable (tokens : Entries String Value) (ps : List Part) : Prop where
  plain : ∀ c, .char c ∈ ps → Pattern.isPlain c = true
  defaults : HasDefaults tokens (ps.flatMap Part.names)
  nodup : (ps.flatMap Part.names).Nodup
  apart : ∀ front name between other back,
    ps = front ++ .token name :: between ++ .token other :: back → .char '/' ∈ between
  last : ∀ front names back, ps = front ++ .group names :: back → front ≠ [] ∧ back = []

theorem isApart_of_forall {ps : List Part}
    (hapart : ∀ between other back, ps = between ++ .token other :: back → .char '/' ∈ between) :
    IsApart ps := by
  induction ps with
  | nil => trivial
  | cons p ps ih =>
    cases p with
    | char c =>
      by_cases hc : c = '/'
      · exact Or.inl hc
      · refine Or.inr (ih fun between other back h => ?_)
        have hmem := hapart (.char c :: between) other back (by rw [h, List.cons_append])
        rcases List.mem_cons.mp hmem with heq | hmem
        · exact absurd (Part.char.inj heq).symm hc
        · exact hmem
    | token name => exact absurd (hapart [] name ps rfl) List.not_mem_nil
    | group names => trivial

theorem slash_mem_of_isApart {between back : List Part} {other : List Char}
    (hapart : IsApart (between ++ .token other :: back))
    (hsep : IsSeparated (between ++ .token other :: back)) : .char '/' ∈ between := by
  induction between with
  | nil => exact absurd hapart id
  | cons p between ih =>
    cases p with
    | char c =>
      rcases hapart with rfl | hapart
      · exact List.mem_cons_self
      · exact List.mem_cons_of_mem _ (ih hapart hsep)
    | token name => exact absurd hapart id
    | group names => exact absurd (show between ++ .token other :: back = [] from hsep) (by simp)

/-- Parts are separated if a slash stands between any two tokens, and nothing comes
after an optional group. -/
theorem isSeparated_iff {ps : List Part} :
    IsSeparated ps
      ↔ (∀ front name between other back,
          ps = front ++ .token name :: between ++ .token other :: back → .char '/' ∈ between) ∧
        ∀ front names back, ps = front ++ .group names :: back → back = [] := by
  constructor
  · intro hsep
    constructor
    · rintro front name between other back rfl
      induction front with
      | nil => exact slash_mem_of_isApart hsep.1 hsep.2
      | cons p front ih =>
        cases p with
        | char c => exact ih hsep
        | token name => exact ih hsep.2
        | group names => exact absurd (show _ = [] from hsep) (by simp)
    · rintro front names back rfl
      induction front with
      | nil => exact hsep
      | cons p front ih =>
        cases p with
        | char c => exact ih hsep
        | token name => exact ih hsep.2
        | group names => exact absurd (show _ = [] from hsep) (by simp)
  · rintro ⟨hapart, hlast⟩
    induction ps with
    | nil => trivial
    | cons p ps ih =>
      have ih := ih
        (fun front name between other back h =>
          hapart (p :: front) name between other back (by rw [h]; rfl))
        fun front names back h => hlast (p :: front) names back (by rw [h]; rfl)
      cases p with
      | char c => exact ih
      | token name =>
        refine ⟨isApart_of_forall fun between other back h => ?_, ih⟩
        exact hapart [] name between other back (by rw [h]; rfl)
      | group names => exact hlast [] names ps rfl

end RouteMatch.Template

namespace RouteMatch

open Template Text

/-- A route that asks for nothing but the path, and has no wildcard. -/
structure IsUnconstrained (d : RouteDefinition) : Prop where
  wildcard : Route.wildcardOf d = none
  secure : d.secure = none
  methods : d.methods = []
  accept : d.accept = []
  server : d.server = []
  predicate : d.predicate = none
  routable : d.routable = true

/-- An accepted fillable template without other constraints is plain. -/
theorem isPlainDefinition_of_isFillable {d : RouteDefinition} {r : Route}
    (hbuild : Route.build d = .ok r) (hd : IsUnconstrained d)
    (h : IsFillable d.tokens (parts d.path.toList)) :
    Route.IsPlainDefinition d (parts d.path.toList) none := by
  obtain ⟨hfault, -⟩ := Route.build_eq_ok_iff.mp hbuild
  have hclosed : Closed d.path.toList := fun c hc =>
    ne_brace_of_isPlain (h.plain c (List.mem_map_of_mem hc))
  have hwell := isWellFormed_of_mem_parts (Route.validate_of_definitionFault? hfault) hclosed
  refine
    { path_eq := (Template.written_parts _).symm
      isPlain := fun p hp => ?_
      separated := isSeparated_iff.mpr ⟨h.apart, fun front names back heq =>
        (h.last front names back heq).2⟩
      front := ?_
      nodup := by simpa using h.nodup
      defaults := h.defaults
      wildcard_eq := hd.wildcard
      wildcard_isName := fun name hname => absurd hname (by simp)
      last := Or.inl rfl
      accept := fun mediaType hmem => absurd hmem (by simp [hd.accept])
      server := ⟨[], by rw [hd.server]; rfl⟩ }
  · cases p with
    | char c => exact h.plain c hp
    | token name => exact hwell _ hp
    | group names => exact hwell _ hp
  · cases hparts : parts d.path.toList with
    | nil => rfl
    | cons p ps =>
      cases p with
      | char c => rfl
      | token name => rfl
      | group names => exact absurd rfl (h.last [] names ps hparts).1

/-! ### Parameters -/

/-- A capture of some text is decoded into the parameters. -/
theorem overlay_text (params : Params) (name : List Char) {text : List Char} (hne : text ≠ []) :
    overlay params (.text (String.ofList name), capturedValue (some text))
      = params.insert (String.ofList name)
          (.text (String.ofList (percentDecodeChars text))) := by
  have hempty : (String.ofList text == "") = false :=
    beq_eq_false_iff_ne.mpr fun heq => hne (String.ofList_injective heq)
  simp [overlay, capturedValue, isMissing, decodeCapture, hempty, percentDecode]

/-- A capture leaves the parameters of other names alone. -/
theorem get?_overlay_of_ne (params : Params) {other name : List Char} (hne : other ≠ name)
    (text : Option (List Char)) :
    (overlay params (.text (String.ofList other), capturedValue text)).get? (String.ofList name)
      = params.get? (String.ofList name) := by
  have hkey : (String.ofList other == String.ofList name) = false :=
    beq_eq_false_iff_ne.mpr fun heq => hne (String.ofList_injective heq)
  cases text with
  | none => rfl
  | some text =>
    by_cases htext : text = []
    · rw [htext]
      rfl
    · rw [overlay_text params other htext, Entries.get?_insert, hkey]
      rfl

/-- A name for which no text is found keeps its parameter. -/
theorem get?_overlay_of_forall_ne {found : List (List Char × Option (List Char))}
    {params : Params} {name : List Char} (h : ∀ text, (name, some text) ∉ found) :
    ((capturesOf found).foldl overlay params).get? (String.ofList name)
      = params.get? (String.ofList name) := by
  induction found generalizing params with
  | nil => rfl
  | cons entry found ih =>
    obtain ⟨other, text⟩ := entry
    rw [capturesOf_cons, List.foldl_cons, ih fun t hmem => h t (List.mem_cons_of_mem _ hmem)]
    cases text with
    | none => rfl
    | some text =>
      refine get?_overlay_of_ne params ?_ _
      rintro rfl
      exact h text List.mem_cons_self

/-- A name for which a text is found gets the decoded text. -/
theorem get?_overlay_of_mem {found : List (List Char × Option (List Char))} {params : Params}
    {name text : List Char} (hnodup : (found.map Prod.fst).Nodup)
    (hmem : (name, some text) ∈ found) (hne : text ≠ []) :
    ((capturesOf found).foldl overlay params).get? (String.ofList name)
      = some (.text (String.ofList (percentDecodeChars text))) := by
  induction found generalizing params with
  | nil => exact absurd hmem List.not_mem_nil
  | cons entry found ih =>
    obtain ⟨other, text'⟩ := entry
    rw [List.map_cons, List.nodup_cons] at hnodup
    rw [capturesOf_cons, List.foldl_cons]
    rcases List.mem_cons.mp hmem with heq | hmem
    · obtain ⟨rfl, rfl⟩ := Prod.mk.inj heq
      -- Later captures are under other names.
      rw [get?_overlay_of_forall_ne fun t ht => hnodup.1 (List.mem_map.mpr ⟨_, ht, rfl⟩),
        overlay_text params name hne, Entries.get?_insert, if_pos (beq_self_eq_true _)]
    · exact ih hnodup.2 hmem

/-- Defaults with an empty one for each name that had none. -/
theorem get?_foldl_insertNew (names : List String) (values : Params) (key : String) :
    (names.foldl (fun values name => values.insertNew name Value.none) values).get? key
      = (values.get? key).or (if key ∈ names then some .none else none) := by
  induction names generalizing values with
  | nil => simp
  | cons name names ih =>
    rw [List.foldl_cons, ih, Entries.get?_insertNew, Option.or_assoc]
    congr 1
    by_cases hname : name = key
    · simp [hname]
    · have hkey : key ≠ name := Ne.symm hname
      simp [hname, hkey]

/-! ### The evaluation -/

/-- On a route that asks for nothing but the path, whatever its wildcard, the path check
decides. -/
theorem firstRejection_unconstrained {r : Route} {path : String} {a : Attributes} {config : Config}
    {outcome : Outcome} (hd : IsUnconstrained { r.definition with wildcard := none })
    (hconstraints : r.constraints = []) (hpath : checkPath r path config [] = .ok outcome) :
    firstRejection (checks r path a config) [] = .silent (.ok outcome) := by
  have hroutable : r.definition.routable = true := hd.routable
  have hsecure : r.definition.secure = none := hd.secure
  have hmethods : r.definition.methods = [] := hd.methods
  have haccept : r.definition.accept = [] := hd.accept
  have hpredicate : r.definition.predicate = none := hd.predicate
  obtain ⟨captures, rejection⟩ := outcome
  cases rejection <;>
    simp [checks, plainChecks, firstRejection, Check.silent, Inquiry.onward, checkRoutable,
      hroutable, checkSecure, hsecure, checkMethod, hmethods, checkAccept, haccept, hconstraints,
      checkPredicate, hpredicate, Check.ofBool, hpath]

/-- On an unconstrained route only the path decides. -/
theorem evaluate_unconstrained {r : Route} {path : String} {a : Attributes} {config : Config}
    {captures : Captures} (hd : IsUnconstrained r.definition) (hconstraints : r.constraints = [])
    (hpath : checkPath r path config [] = .ok (captures, none)) :
    evaluate r path a config = .ok ⟨captures.foldl overlay r.values, captures, none⟩ := by
  have hplain : IsUnconstrained { r.definition with wildcard := none } :=
    ⟨rfl, hd.secure, hd.methods, hd.accept, hd.server, hd.predicate, hd.routable⟩
  rw [evaluate, evaluation, firstRejection_unconstrained hplain hconstraints hpath]
  simp only [Asked.bind_silent_ok, Asked.result_silent, extractParams, hd.wildcard, Except.map]

/-- **Values come back from the path that they were put into.**  Take an accepted
template that values can be put into, on a route without other constraints, and a
value that is not empty for each token and for the first names of the optional group.
The path with the encoded values matches.  Its parameters are these values, and for
all other names the defaults of the route, with an empty one for each name of the
template that had none. -/
theorem evaluate_filled {d : RouteDefinition} {r : Route} (hbuild : Route.build d = .ok r)
    (hd : IsUnconstrained d) (h : IsFillable d.tokens (parts d.path.toList))
    (value : List Char → List Char) (count : Nat)
    (hvalue : ∀ name ∈ (parts d.path.toList).flatMap (Template.Part.assigned count),
      value name ≠ [])
    (a : Attributes) {config : Config} (hlimit : config.maxPathLength = none) :
    ∃ attempt,
      evaluate r (String.ofList (filledPath value count (parts d.path.toList))) a config
          = .ok attempt ∧
        attempt.matched = true ∧
        ∀ name : List Char, attempt.params.get? (String.ofList name)
          = if name ∈ (parts d.path.toList).flatMap (Template.Part.assigned count) then
              some (.text (String.ofList (value name)))
            else
              (d.values.get? (String.ofList name)).or
                (if name ∈ (parts d.path.toList).flatMap Template.Part.names then some .none
                else none) := by
  have hplain := isPlainDefinition_of_isFillable hbuild hd h
  obtain ⟨r', hbuild', hdefinition, -, -, hnames, hconstraints, hvalues⟩ := hplain.build_eq
  obtain rfl : r' = r := by
    rw [hbuild'] at hbuild
    exact Except.ok.inj hbuild
  let ps := parts d.path.toList
  let found := foundIn value count ps
  have hfst : found.map Prod.fst = ps.flatMap Template.Part.names := map_fst_foundIn value count ps
  have hnodup : (found.map Prod.fst).Nodup := hfst ▸ h.nodup
  have hcheck : checkPath r' (String.ofList (filledPath value count ps)) config []
      = .ok (capturesOf found, none) := by
    rw [checkPath_plain hplain hbuild' (by rw [hlimit]; rfl), String.toList_ofList,
      walkWhole_filled hplain.separated hvalue, Option.toList_none, List.append_nil, ← hfst]
    simp only [List.zip_map', List.map_id', found, ps]
  have hempty : r'.constraints = [] := by
    rw [hd.server] at hconstraints
    exact (Except.ok.inj hconstraints).symm
  refine ⟨_, evaluate_unconstrained (hdefinition ▸ hd) hempty hcheck, rfl, fun name => ?_⟩
  by_cases hname : name ∈ ps.flatMap (Template.Part.assigned count)
  · rw [if_pos hname]
    have hmem := (mem_foundIn_some_iff value count).mpr ⟨hname, rfl⟩
    have hne := percentEncode_ne_nil (hvalue name hname)
    rw [get?_overlay_of_mem hnodup hmem hne, percentDecodeChars_percentEncode]
  · rw [if_neg hname]
    have hnone : ∀ text, (name, some text) ∉ found := fun text hmem =>
      hname ((mem_foundIn_some_iff value count).mp hmem).1
    have hkey : String.ofList name ∈ r'.names ↔ name ∈ ps.flatMap Template.Part.names := by
      rw [hnames, List.mem_map_of_injective fun _ _ heq => String.ofList_injective heq]
    rw [get?_overlay_of_forall_ne hnone, hvalues, get?_foldl_insertNew]
    simp only [hkey, ps]

/-- The definition of a route with two tokens, an optional group and defaults. -/
def profileDefinition : RouteDefinition :=
  { path := "/u/{id}-x/{tag}{/year,month}"
    values := [("year", .text "1999"), ("lang", .text "en")] }

/-- A value for each name, one of them with what is special in a path. -/
def profileValue (name : List Char) : List Char :=
  if name = "id".toList then "a-x/é%\n".toList else if name = "tag".toList then ['0'] else
    "2024".toList

theorem isFillable_profileDefinition :
    IsFillable profileDefinition.tokens (parts profileDefinition.path.toList) := by
  have hparts : parts profileDefinition.path.toList
      = "/u/".toList.map .char ++ .token "id".toList :: "-x/".toList.map .char
        ++ [.token "tag".toList, .group ["year".toList, "month".toList]] := by decide +kernel
  have hsep : IsSeparated (parts profileDefinition.path.toList) := hparts ▸ by decide
  have hplain : ∀ p ∈ parts profileDefinition.path.toList, p.isPlain = true := hparts ▸ by decide
  obtain ⟨hapart, hlast⟩ := isSeparated_iff.mp hsep
  refine
    { plain := fun c hc => hplain _ hc
      defaults := fun _ _ => rfl
      nodup := hparts ▸ by decide
      apart := hapart
      last := fun front names back heq => ⟨?_, hlast front names back heq⟩ }
  rintro rfl
  rw [hparts] at heq
  exact absurd (List.cons.inj heq).1 (by simp)

theorem evaluate_filled_profileDefinition :
    ∃ r attempt, Route.build profileDefinition = .ok r ∧
      evaluate r "/u/a-x%2F%C3%A9%25%0A-x/0/2024" {} { maxPathLength := none } = .ok attempt ∧
      attempt.matched = true ∧
      attempt.params.get? "id" = some (.text "a-x/é%\n") ∧
      attempt.params.get? "year" = some (.text "2024") ∧
      attempt.params.get? "month" = some .none ∧
      attempt.params.get? "lang" = some (.text "en") := by
  obtain ⟨r, hbuild⟩ : ∃ r, Route.build profileDefinition = .ok r :=
    exists_of_toBool (by decide +kernel)
  have hlimit : ({ maxPathLength := none } : Config).maxPathLength = none := rfl
  obtain ⟨attempt, hattempt, hmatched, hparams⟩ := evaluate_filled hbuild
    ⟨rfl, rfl, rfl, rfl, rfl, rfl, rfl⟩ isFillable_profileDefinition profileValue 1
    (by decide +kernel) {} hlimit
  have hpath : String.ofList (filledPath profileValue 1 (parts profileDefinition.path.toList))
      = "/u/a-x%2F%C3%A9%25%0A-x/0/2024" := by decide +kernel
  refine ⟨r, attempt, hbuild, hpath ▸ hattempt, hmatched, ?_, ?_, ?_, ?_⟩
  · exact (hparams "id".toList).trans (if_pos (by decide +kernel))
  · exact (hparams "year".toList).trans (if_pos (by decide +kernel))
  · exact (hparams "month".toList).trans (if_neg (by decide +kernel))
  · exact (hparams "lang".toList).trans (if_neg (by decide +kernel))

end RouteMatch
