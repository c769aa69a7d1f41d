import RouteMatch.Proofs.Path.Pieces
import RouteMatch.Proofs.Path.PlainCheck

/-!
# The language of simple templates

A simple template is read segment by segment: a literal text or a token after each
slash, then perhaps an optional group and a wildcard.  Whether a path matches can be
told without any pattern, by cutting the path at its slashes.  `reference` is that
matcher; it never mentions the order in which anything is tried.

## Main definitions

* `Segment`, `SimpleTemplate` — the templates; `SimpleTemplate.text` is how one is
  written.
* `SimpleTemplate.reference` — the matcher that cuts the path at its slashes.

## Main results

* `walkWhole_parts` — the walk is the reference.
* `checkPath_simpleTemplate` — **the path check is the reference**, with the same
  captures.
-/

namespace RouteMatch.Template

open Text

/-! ### Simple templates -/

/-- A segment of a simple template. -/
inductive Segment
  /-- What the segment of the path must be. -/
  | literal (text : List Char)
  /-- The name that any segment of the path is captured under. -/
  | token (name : List Char)
  deriving DecidableEq, Repr

namespace Segment

/-- The text of a segment, with its slash. -/
def text : Segment → List Char
  | .literal text => '/' :: text
  | .token name => '/' :: '{' :: name ++ ['}']

/-- The name in a segment. -/
def names : Segment → List (List Char)
  | .literal _ => []
  | .token name => [name]

/-- The parts of a segment. -/
def parts : Segment → List Part
  | .literal text => .char '/' :: text.map .char
  | .token name => [.char '/', .token name]

end Segment

/-- A template of one or more segments, with an optional group at the end and a
wildcard. -/
structure SimpleTemplate where
  segments : List Segment
  /-- The names of the optional group; without names there is no group. -/
  group : List (List Char)
  wildcard : Option (List Char)
  segments_ne_nil : segments ≠ []
  literal_ne_nil : ∀ text, Segment.literal text ∈ segments → text ≠ []
  literal_plain : ∀ text, Segment.literal text ∈ segments →
    ∀ c ∈ text, c ≠ '/' ∧ Pattern.isPlain c = true
  isName : ∀ name ∈ segments.flatMap Segment.names ++ group ++ wildcard.toList,
    Template.isName name = true
  nodup : (segments.flatMap Segment.names ++ group ++ wildcard.toList).Nodup

/-! ### The reference -/

/-- Compares segments with the pieces of a path.  Gives what the tokens capture and
the pieces that are left. -/
def matchSegments : List Segment → List (List Char) →
    Option (List (List Char × List Char) × List (List Char))
  | [], pieces => some ([], pieces)
  | _ :: _, [] => none
  | .literal text :: segments, piece :: pieces =>
    if piece = text then matchSegments segments pieces else none
  | .token name :: segments, piece :: pieces =>
    if piece = [] then none
    else (matchSegments segments pieces).map fun (found, rest) => ((name, piece) :: found, rest)

/-- Pieces assigned to names in order; the names after them get none. -/
def assign : List (List Char) → List (List Char) → List (List Char × Option (List Char))
  | [], _ => []
  | name :: names, [] => (name, none) :: assign names []
  | name :: names, piece :: pieces => (name, some piece) :: assign names pieces

/-- What becomes of the pieces that are left: there must be none, unless a wildcard
takes them, slashes between them included. -/
def matchRest : (wildcard : Option (List Char)) → List (List Char) →
    Option (List (List Char × Option (List Char)))
  | none, [] => some []
  | none, _ :: _ => none
  | some name, [] => some [(name, none)]
  | some name, piece :: pieces => some [(name, some (join '/' (piece :: pieces)))]

namespace SimpleTemplate

variable (T : SimpleTemplate)

/-- The names of the tokens and the optional group. -/
def names : List (List Char) :=
  T.segments.flatMap Segment.names ++ T.group

/-- The optional group as parts. -/
def groupParts : List Part :=
  if T.group = [] then [] else [.group T.group]

/-- The parts of a template. -/
def parts : List Part :=
  T.segments.flatMap Segment.parts ++ T.groupParts

/-- The text of a template. -/
def text : List Char :=
  T.segments.flatMap Segment.text
    ++ if T.group = [] then [] else '{' :: '/' :: join ',' T.group ++ ['}']

/-- What becomes of the pieces after the segments. -/
def matchEnd (pieces : List (List Char)) : Option (List (List Char × Option (List Char))) :=
  let run := longestRun T.group.length pieces
  (matchRest T.wildcard (pieces.drop run.length)).map fun more => assign T.group run ++ more

/-- Matches a path by its pieces between slashes.  Gives the captures under their
names, in the order of the template. -/
def reference (path : List Char) : Option (List (List Char × Option (List Char))) :=
  match split '/' path with
  | [] :: pieces =>
    match matchSegments T.segments pieces with
    | none => none
    | some (found, rest) =>
      (T.matchEnd rest).map fun more => found.map (fun (name, piece) => (name, some piece)) ++ more
  | _ => none

end SimpleTemplate

/-! ### The walk over segments -/

variable {wildcard : Option (List Char)}

/-- The walk over a literal text, before parts that need a slash. -/
theorem walkWhole_literal {ps : List Part}
    (hps : ∀ rest, heading rest ≠ [] → walkWhole ps wildcard rest = none) (text : List Char)
    {piece : List Char} (htext : '/' ∉ text) (hpiece : '/' ∉ piece) (pieces : List (List Char)) :
    walkWhole (text.map .char ++ ps) wildcard (piece ++ slashed pieces)
      = if piece = text then walkWhole ps wildcard (slashed pieces) else none := by
  induction text generalizing piece with
  | nil =>
    by_cases hnil : piece = []
    · simp [hnil]
    · -- The piece goes on after the text, where a slash is needed.
      rw [if_neg hnil]
      refine hps _ ?_
      rwa [heading_append_slashed hpiece]
  | cons c text ih =>
    rw [List.mem_cons, not_or] at htext
    rw [List.map_cons, List.cons_append]
    cases piece with
    | nil =>
      rw [if_neg (List.cons_ne_nil c text).symm, List.nil_append]
      cases pieces with
      | nil => rfl
      | cons next pieces => rw [slashed_cons, walkWhole_char_cons, if_neg htext.1]
    | cons d piece =>
      rw [List.mem_cons, not_or] at hpiece
      rw [List.cons_append, walkWhole_char_cons, ih htext.2 hpiece.2]
      by_cases hd : d = c
      · simp [hd]
      · simp [hd]

namespace SimpleTemplate

variable (T : SimpleTemplate)

theorem ending_groupParts : ending T.groupParts = [] := by
  unfold groupParts
  split <;> rfl

/-- Without a slash or an end in front, the rest of a simple template does not
match. -/
theorem walkWhole_of_heading (segments : List Segment) (rest : List Char)
    (h : heading rest ≠ []) :
    walkWhole (segments.flatMap Segment.parts ++ T.groupParts) wildcard rest = none := by
  cases rest with
  | nil => exact absurd heading_nil h
  | cons d rest =>
    have hd : d ≠ '/' := ne_slash_of_heading h
    have htail : wildcardTail wildcard (d :: rest) = none := wildcardTail_of_heading h
    cases segments with
    | nil =>
      rw [List.flatMap_nil, List.nil_append, groupParts]
      split
      · rw [walkWhole_nil, htail]
      · have htake : takeSegments T.group.length (d :: rest) = ([], d :: rest) := by
          cases T.group.length with
          | zero => rfl
          | succ most => simp [takeSegments, nextSegment?, hd]
        rw [walkWhole_group, htake, walkWhole_nil, htail]
        rfl
    | cons segment segments =>
      cases segment with
      | literal text =>
        simp only [List.flatMap_cons, Segment.parts, List.cons_append]
        rw [walkWhole_char_cons, if_neg hd]
      | token name =>
        simp only [List.flatMap_cons, Segment.parts, List.cons_append]
        rw [walkWhole_char_cons, if_neg hd]

theorem ending_segments (segments : List Segment) :
    ending (segments.flatMap Segment.parts ++ T.groupParts) = [] := by
  cases segments with
  | nil => exact T.ending_groupParts
  | cons segment segments => cases segment <;> simp [Segment.parts, ending]

/-- The walk over segments compares them with the pieces of the path. -/
theorem walkWhole_segments (segments : List Segment)
    (hsegments : ∀ text, Segment.literal text ∈ segments → '/' ∉ text) (pieces : List (List Char))
    (hpieces : ∀ piece ∈ pieces, '/' ∉ piece) :
    walkWhole (segments.flatMap Segment.parts ++ T.groupParts) wildcard (slashed pieces)
      = match matchSegments segments pieces with
        | none => none
        | some (found, rest) =>
          (walkWhole T.groupParts wildcard (slashed rest)).map fun more =>
            found.map (fun entry => some entry.2) ++ more := by
  induction segments generalizing pieces with
  | nil => simp [matchSegments]
  | cons segment segments ih =>
    have ih := ih fun text htext => hsegments text (List.mem_cons_of_mem _ htext)
    cases pieces with
    | nil => cases segment <;> rfl
    | cons piece pieces =>
      have hpiece := hpieces piece List.mem_cons_self
      have ih := ih pieces fun p hp => hpieces p (List.mem_cons_of_mem _ hp)
      cases segment with
      | literal text =>
        have htext := hsegments text List.mem_cons_self
        simp only [List.flatMap_cons, Segment.parts, List.cons_append, List.append_assoc,
          slashed_cons]
        rw [walkWhole_char_cons, if_pos rfl,
          walkWhole_literal (T.walkWhole_of_heading segments) text htext hpiece, matchSegments]
        by_cases heq : piece = text
        · rw [if_pos heq, if_pos heq, ih]
        · rw [if_neg heq, if_neg heq]
      | token name =>
        simp only [List.flatMap_cons, Segment.parts, List.cons_append, List.nil_append,
          slashed_cons]
        -- No text stands between the token and the next slash, so it takes all of the piece.
        have hlength : piece.length = (heading (piece ++ slashed pieces)).length
            - (ending (segments.flatMap Segment.parts ++ T.groupParts)).length := by
          rw [heading_append_slashed hpiece, ending_segments, List.length_nil, Nat.sub_zero]
        rw [walkWhole_char_cons, if_pos rfl, walkWhole_token _ _ _ _ hlength, matchSegments]
        by_cases hnil : piece = []
        · rw [if_pos hnil, if_pos (List.length_eq_zero_iff.mpr hnil)]
        · rw [if_neg hnil, if_neg (mt List.length_eq_zero_iff.mp hnil), List.drop_left,
            List.take_left, ih]
          cases matchSegments segments pieces with
          | none => rfl
          | some outcome => simp [Function.comp_def]

/-! ### The walk at the end -/

/-- The pieces that are left are the last ones, and the captures are under the names
of the segments. -/
theorem matchSegments_eq_some {segments : List Segment} {pieces rest : List (List Char)}
    {found : List (List Char × List Char)}
    (h : matchSegments segments pieces = some (found, rest)) :
    rest <:+ pieces ∧ found.map Prod.fst = segments.flatMap Segment.names := by
  induction segments generalizing pieces found with
  | nil =>
    simp only [matchSegments, Option.some.injEq, Prod.mk.injEq] at h
    obtain ⟨rfl, rfl⟩ := h
    exact ⟨List.suffix_refl pieces, rfl⟩
  | cons segment segments ih =>
    cases pieces with
    | nil => cases segment <;> exact absurd h (by simp [matchSegments])
    | cons piece pieces =>
      cases segment with
      | literal text =>
        by_cases heq : piece = text
        · rw [matchSegments, if_pos heq] at h
          obtain ⟨hsuffix, hnames⟩ := ih h
          exact ⟨hsuffix.trans (List.suffix_cons piece pieces), hnames⟩
        · rw [matchSegments, if_neg heq] at h
          exact absurd h (by simp)
      | token name =>
        by_cases hnil : piece = []
        · rw [matchSegments, if_pos hnil] at h
          exact absurd h (by simp)
        · rw [matchSegments, if_neg hnil] at h
          obtain ⟨⟨found', rest'⟩, houtcome, heq⟩ := Option.map_eq_some_iff.mp h
          obtain ⟨rfl, rfl⟩ := Prod.mk.inj heq
          obtain ⟨hsuffix, hnames⟩ := ih houtcome
          refine ⟨hsuffix.trans (List.suffix_cons piece pieces), ?_⟩
          rw [List.map_cons, hnames]
          rfl

theorem map_snd_assign {names pieces : List (List Char)} (h : pieces.length ≤ names.length) :
    (assign names pieces).map Prod.snd = padded names.length pieces := by
  induction names generalizing pieces with
  | nil =>
    obtain rfl := List.length_eq_zero_iff.mp (Nat.le_zero.mp h)
    rfl
  | cons name names ih =>
    cases pieces with
    | nil =>
      have hrest : (assign names []).map Prod.snd = padded names.length [] := ih (Nat.zero_le _)
      simp only [padded, List.map_nil, List.nil_append, List.length_nil, Nat.sub_zero] at hrest ⊢
      rw [assign, List.map_cons, hrest, List.length_cons, List.replicate_succ]
    | cons piece pieces =>
      rw [List.length_cons, List.length_cons, Nat.add_le_add_iff_right] at h
      simpa [assign, padded] using ih h

theorem wildcardTail_slashed (wildcard : Option (List Char)) {pieces : List (List Char)}
    (hline : '\n' ∉ slashed pieces) :
    wildcardTail wildcard (slashed pieces)
      = (matchRest wildcard pieces).map fun found => found.map Prod.snd := by
  cases pieces with
  | nil => cases wildcard <;> rfl
  | cons piece pieces =>
    cases wildcard with
    | none => rfl
    | some name =>
      rw [slashed_cons, ← join_cons, List.mem_cons, not_or] at hline
      rw [slashed_cons, ← join_cons, wildcardTail, if_neg hline.2]
      rfl

theorem walkWhole_groupParts {pieces : List (List Char)}
    (hpieces : ∀ piece ∈ pieces, '/' ∉ piece) (hline : '\n' ∉ slashed pieces) :
    walkWhole T.groupParts T.wildcard (slashed pieces)
      = (T.matchEnd pieces).map fun found => found.map Prod.snd := by
  have hrest : '\n' ∉ slashed (pieces.drop (longestRun T.group.length pieces).length) :=
    fun hmem => hline (slashed_subset (List.drop_subset _ pieces) hmem)
  have htail := wildcardTail_slashed T.wildcard hrest
  have hassign := map_snd_assign (length_longestRun T.group.length pieces)
  have hwalk : walkWhole T.groupParts T.wildcard (slashed pieces)
      = (wildcardTail T.wildcard
          (slashed (pieces.drop (longestRun T.group.length pieces).length))).map
            (padded T.group.length (longestRun T.group.length pieces) ++ ·) := by
    unfold groupParts
    split
    · next hgroup => simp [hgroup, longestRun, padded]
    · rw [walkWhole_group, takeSegments_slashed _ hpieces, walkWhole_nil]
  rw [hwalk, htail, ← hassign, matchEnd]
  simp [Function.comp_def]

/-! ### The walk is the reference -/

theorem notMem_literal {text : List Char} (h : Segment.literal text ∈ T.segments) : '/' ∉ text :=
  fun hmem => (T.literal_plain text h '/' hmem).1 rfl

theorem walkWhole_of_head_ne_nil {d : Char} (hd : d ≠ '/') (rest : List Char) :
    walkWhole T.parts T.wildcard (d :: rest) = none :=
  T.walkWhole_of_heading T.segments (d :: rest) (by simp [heading_cons hd])

/-- On a path of one line the walk finds what the reference finds. -/
theorem walkWhole_parts {path : List Char} (hline : '\n' ∉ path) :
    walkWhole T.parts T.wildcard path
      = (T.reference path).map fun found => found.map Prod.snd := by
  cases hsplit : split '/' path with
  | nil => exact absurd hsplit (split_ne_nil '/' path)
  | cons head pieces =>
    obtain ⟨hpath, hslash⟩ := split_slash_eq_cons hsplit
    rw [reference, hsplit]
    cases head with
    | cons d head =>
      -- The path does not begin with a slash, as every template does.
      have hd : d ≠ '/' := by
        rintro rfl
        exact hslash _ List.mem_cons_self List.mem_cons_self
      rw [hpath, List.cons_append, T.walkWhole_of_head_ne_nil hd]
      rfl
    | nil =>
      rw [List.nil_append] at hpath
      rw [hpath] at hline ⊢
      have hpieces : ∀ piece ∈ pieces, '/' ∉ piece :=
        fun piece hpiece => hslash piece (List.mem_cons_of_mem _ hpiece)
      rw [parts, T.walkWhole_segments T.segments (fun _ => T.notMem_literal) pieces hpieces]
      cases hfound : matchSegments T.segments pieces with
      | none => simp only [hfound, Option.map_none]
      | some outcome =>
        obtain ⟨found, rest⟩ := outcome
        obtain ⟨hsuffix, -⟩ := matchSegments_eq_some hfound
        have hrest := T.walkWhole_groupParts
          (fun piece hpiece => hpieces piece (hsuffix.subset hpiece))
          fun hmem => hline (slashed_subset hsuffix.subset hmem)
        simp only [hfound, hrest, Option.map_map]
        congr 1
        funext more
        simp

/-! ### Names -/

theorem map_fst_assign (names pieces : List (List Char)) :
    (assign names pieces).map Prod.fst = names := by
  induction names generalizing pieces with
  | nil => rfl
  | cons name names ih => cases pieces <;> simp [assign, ih]

theorem map_fst_matchRest {wildcard : Option (List Char)} {pieces : List (List Char)}
    {found : List (List Char × Option (List Char))} (h : matchRest wildcard pieces = some found) :
    found.map Prod.fst = wildcard.toList := by
  cases wildcard <;> cases pieces <;> simp only [matchRest, Option.some.injEq, reduceCtorEq] at h
  · rw [← h]
    rfl
  · rw [← h]
    rfl
  · rw [← h]
    rfl

/-- The reference captures under the names of the template, in their order. -/
theorem map_fst_reference {path : List Char} {found : List (List Char × Option (List Char))}
    (h : T.reference path = some found) :
    found.map Prod.fst = T.names ++ T.wildcard.toList := by
  unfold reference at h
  split at h
  · next pieces _ =>
    cases hsegments : matchSegments T.segments pieces with
    | none =>
      rw [hsegments] at h
      exact absurd h (by simp)
    | some outcome =>
      rw [hsegments] at h
      obtain ⟨more, hmore, rfl⟩ := Option.map_eq_some_iff.mp h
      obtain ⟨rest, hrest, rfl⟩ := Option.map_eq_some_iff.mp hmore
      obtain ⟨-, hfirst⟩ := matchSegments_eq_some hsegments
      have hlast := map_fst_matchRest hrest
      simp [map_fst_assign, hlast, names, ← hfirst, Function.comp_def]
  · exact absurd h (by simp)

/-! ### Simple templates are plain -/

theorem written_segments (segments : List Segment) :
    written (segments.flatMap Segment.parts) = segments.flatMap Segment.text := by
  induction segments with
  | nil => rfl
  | cons segment segments ih =>
    rw [List.flatMap_cons, written_append, ih, List.flatMap_cons]
    congr 1
    cases segment with
    | literal text =>
      have htext : written (text.map .char) = text := by
        rw [written, List.map_map]
        exact render_map_char text
      simp [Segment.parts, Segment.text, htext, Part.piece, Piece.render]
    | token name => simp [Segment.parts, Segment.text, Part.piece, Piece.render]

theorem written_parts : written T.parts = T.text := by
  rw [parts, text, written_append, written_segments]
  congr 1
  unfold groupParts
  split
  · rfl
  · simp [Part.piece, Piece.render]

theorem flatMap_names_parts : T.parts.flatMap Part.names = T.names := by
  have hgroup : T.groupParts.flatMap Part.names = T.group := by
    unfold groupParts
    split
    · next h => rw [h]; rfl
    · simp [Part.names]
  rw [parts, names, List.flatMap_append, hgroup, List.flatMap_assoc]
  congr 1
  refine List.flatMap_congr fun segment _ => ?_
  cases segment with
  | literal text => simp [Segment.parts, Segment.names, Part.names, List.flatMap_map]
  | token name => rfl

theorem isSeparated_map_char {text : List Char} {ps : List Part} (h : IsSeparated ps) :
    IsSeparated (text.map .char ++ ps) := by
  induction text with
  | nil => exact h
  | cons c text ih => exact ih

theorem isSeparated_segments (segments : List Segment) {ps : List Part} (hsep : IsSeparated ps)
    (hapart : IsApart ps) :
    IsSeparated (segments.flatMap Segment.parts ++ ps) ∧
      IsApart (segments.flatMap Segment.parts ++ ps) := by
  induction segments with
  | nil => exact ⟨hsep, hapart⟩
  | cons segment segments ih =>
    rw [List.flatMap_cons, List.append_assoc]
    cases segment with
    | literal text => exact ⟨isSeparated_map_char ih.1, Or.inl rfl⟩
    | token name => exact ⟨⟨ih.2, ih.1⟩, Or.inl rfl⟩

theorem isSeparated_parts : IsSeparated T.parts := by
  have hgroup : IsSeparated T.groupParts ∧ IsApart T.groupParts := by
    unfold groupParts
    split
    · exact ⟨trivial, trivial⟩
    · exact ⟨rfl, trivial⟩
  exact (isSeparated_segments T.segments hgroup.1 hgroup.2).1

theorem isName_of_mem_names {name : List Char} (h : name ∈ T.names) :
    Template.isName name = true :=
  T.isName name (List.mem_append_left _ h)

theorem isPlain_of_mem_parts : ∀ p ∈ T.parts, p.isPlain = true := by
  intro p hp
  rcases List.mem_append.mp hp with hp | hp
  · obtain ⟨segment, hsegment, hp⟩ := List.mem_flatMap.mp hp
    cases segment with
    | literal text =>
      rcases List.mem_cons.mp hp with rfl | hp
      · rfl
      · obtain ⟨c, hc, rfl⟩ := List.mem_map.mp hp
        exact (T.literal_plain text hsegment c hc).2
    | token name =>
      have hname : name ∈ T.names :=
        List.mem_append_left _ (List.mem_flatMap.mpr ⟨_, hsegment, List.mem_cons_self⟩)
      rcases List.mem_cons.mp hp with rfl | hp
      · rfl
      · obtain rfl := List.mem_singleton.mp hp
        exact T.isName_of_mem_names hname
  · unfold groupParts at hp
    split at hp
    · exact absurd hp List.not_mem_nil
    · next hgroup =>
      obtain rfl := List.mem_singleton.mp hp
      have hwell : (Part.group T.group).isWellFormed = true := by
        rw [Part.isWellFormed, Bool.and_eq_true, List.all_eq_true]
        refine ⟨by simpa using hgroup, fun name hname => ?_⟩
        exact T.isName_of_mem_names (List.mem_append_right _ hname)
      exact hwell

theorem head?_parts : T.parts.head?.any Part.isGroup = false := by
  obtain ⟨segment, segments, hsegments⟩ := List.exists_cons_of_ne_nil T.segments_ne_nil
  rw [parts, hsegments]
  cases segment <;> rfl

/-- A simple template does not end in a slash. -/
theorem getLast?_parts : T.parts.getLast? ≠ some (.char '/') := by
  rw [parts, List.getLast?_append]
  by_cases hgroup : T.group = []
  · have hsegments : T.segments = T.segments.dropLast ++ [T.segments.getLast T.segments_ne_nil] :=
      (List.dropLast_append_getLast T.segments_ne_nil).symm
    have hmem := List.getLast_mem T.segments_ne_nil
    rw [groupParts, if_pos hgroup, hsegments, List.flatMap_append, List.flatMap_singleton]
    cases hlast : T.segments.getLast T.segments_ne_nil with
    | literal text =>
      rw [hlast] at hmem
      -- The last character belongs to the text, which has no slash.
      have htext := T.literal_ne_nil text hmem
      obtain ⟨front, c, rfl⟩ := (List.eq_nil_or_concat text).resolve_left htext
      have hc := (T.literal_plain _ hmem c (by simp)).1
      have hend : (Segment.literal (front.concat c)).parts
          = (.char '/' :: front.map .char) ++ [.char c] := by
        simp [Segment.parts]
      rw [hend, ← List.append_assoc, List.getLast?_concat]
      simpa using hc
    | token name => simp [Segment.parts]
  · rw [groupParts, if_neg hgroup]
    simp

end SimpleTemplate

end RouteMatch.Template

namespace RouteMatch

open Template

/-- **The path check of a simple template is the reference.**  A route can be built
from a simple template whose tokens have no patterns of their own.  On any path of
one line that is not too long its path check succeeds exactly if the reference does,
and with the same captures. -/
theorem checkPath_simpleTemplate (T : SimpleTemplate) {d : RouteDefinition}
    (hpath : d.path.toList = T.text) (hwildcard : Route.wildcardOf d = T.wildcard.map String.ofList)
    (hdefaults : HasDefaults d.tokens T.names)
    (haccept : ∀ mediaType ∈ d.accept, Route.isMediaType mediaType.toList = true)
    (hserver : ∃ constraints, Route.compileConstraints d.path d.server = .ok constraints) :
    ∃ r, Route.build d = .ok r ∧
      ∀ (path : String) (config : Config), '\n' ∉ path.toList →
        exceeds config.maxPathLength path.length = none →
        checkPath r path config [] = .ok
          (match T.reference path.toList with
          | none => ([], some .path)
          | some found => (capturesOf found, none)) := by
  have hplain : Route.IsPlainDefinition d T.parts T.wildcard :=
    { path_eq := hpath.trans T.written_parts.symm
      isPlain := T.isPlain_of_mem_parts
      separated := T.isSeparated_parts
      front := T.head?_parts
      nodup := T.flatMap_names_parts.symm ▸ T.nodup
      defaults := T.flatMap_names_parts.symm ▸ hdefaults
      wildcard_eq := hwildcard
      wildcard_isName := fun name hname =>
        T.isName name (List.mem_append_right _ (Option.mem_toList.mpr hname))
      last := Or.inr T.getLast?_parts
      accept := haccept
      server := hserver }
  obtain ⟨r, hbuild, -⟩ := hplain.build_eq
  refine ⟨r, hbuild, fun path config hline hlimit => ?_⟩
  rw [checkPath_plain hplain hbuild hlimit, T.walkWhole_parts hline, T.flatMap_names_parts]
  cases hfound : T.reference path.toList with
  | none => rfl
  | some found =>
    have hzip : (T.names ++ T.wildcard.toList).zip (found.map Prod.snd) = found := by
      rw [← T.map_fst_reference hfound, List.zip_map']
      exact List.map_id found
    simp only [Option.map_some, hzip]

/-- A simple template with all that one can have. -/
def archiveTemplate : SimpleTemplate where
  segments := [.literal "blog".toList, .token "id".toList]
  group := ["year".toList, "month".toList]
  wildcard := some "rest".toList
  segments_ne_nil := List.cons_ne_nil _ _
  literal_ne_nil := by simp
  literal_plain := by
    intro text htext
    obtain rfl : text = "blog".toList := by simpa using htext
    have hplain : "blog".toList.all (fun c => c ≠ '/' && Pattern.isPlain c) = true := by
      decide +kernel
    simpa using hplain
  isName := by decide
  nodup := by decide

/-- The definition of a route with that template. -/
def archiveDefinition : RouteDefinition :=
  { path := "/blog/{id}{/year,month}", wildcard := some "rest" }

theorem checkPath_simpleTemplate_archive :
    ∃ r, Route.build archiveDefinition = .ok r ∧
      checkPath r "/blog/7/2024//x/y" {} [] = .ok
        ([(.text "id", .text "7"), (.text "year", .text "2024"), (.text "month", .none),
          (.text "rest", .text "/x/y")], none) ∧
      checkPath r "/blog//2024" {} [] = .ok ([], some .path) := by
  obtain ⟨r, hbuild, hcheck⟩ := checkPath_simpleTemplate archiveTemplate (d := archiveDefinition)
    (by decide) (by decide) (fun _ _ => rfl) (by decide) ⟨[], rfl⟩
  refine ⟨r, hbuild, ?_, ?_⟩
  · have hfound : archiveTemplate.reference "/blog/7/2024//x/y".toList
        = some [("id".toList, some ['7']), ("year".toList, some "2024".toList),
            ("month".toList, none), ("rest".toList, some "/x/y".toList)] := by decide
    rw [hcheck _ {} (by decide) (by decide), hfound]
    rfl
  · have hnone : archiveTemplate.reference "/blog//2024".toList = none := by decide
    rw [hcheck _ {} (by decide) (by decide), hnone]

end RouteMatch
