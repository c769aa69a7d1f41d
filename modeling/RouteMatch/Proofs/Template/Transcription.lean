import Mathlib.Data.List.DropRight
import RouteMatch.Proofs.Template.Parts
import RouteMatch.Route

/-!
# The pattern text of a template in one pass

The pattern of a template is made by rewriting its text twice: the optional group
becomes tokens between parentheses, and the tokens of the text so obtained become
capturing groups.  On a valid template without stray braces both rewritings see
exactly the parts that were written, so that the result is a single walk over the
parts: `transcription`.

## Main definitions

* `Part.pattern`, `transcription` — the pattern text of parts.
* `withWildcard` — the group for the rest of the path.
* `Part.expanded` — a part without its optional group.

## Main results

* `expandOptional_written`, `expandTokens_written` — what the rewritings make of
  the text of parts.
* `Route.build_transcribes` — **a built route holds the transcription of its
  template**, the names of its parts, and defaults for just these names.
-/

namespace RouteMatch.Template

open Text

/-! ### One walk over the parts -/

/-- Optional groups for several names, each inside the one before. -/
def nestedGroups (tokens : Entries String Value) : List (List Char) → List Char
  | [] => []
  | name :: rest =>
    "(/".toList ++ namedGroup name (tokenBody tokens name) ++ nestedGroups tokens rest
      ++ ")?".toList

/-- The pattern text of a part.  At the front of a template the first name of an
optional group follows a slash of its own. -/
def Part.pattern (tokens : Entries String Value) (atFront : Bool) : Part → List Char
  | .char c => [c]
  | .token name => namedGroup name (tokenBody tokens name)
  | .group names =>
    match atFront, names with
    | true, first :: rest =>
      "/(".toList ++ namedGroup first (tokenBody tokens first) ++ ")?".toList
        ++ nestedGroups tokens rest
    | _, names => nestedGroups tokens names

/-- The pattern text of the parts of a template. -/
def transcription (tokens : Entries String Value) : List Part → List Char
  | [] => []
  | first :: rest => first.pattern tokens true ++ rest.flatMap (Part.pattern tokens false)

/-- A pattern text with the group for the rest of the path, if there is a name for
it. -/
def withWildcard (wildcard : Option String) (text : List Char) : List Char :=
  match wildcard with
  | none => text
  | some name =>
    if name = "" then text
    else
      text.rdropWhile (fun c => c = '/')
        ++ ("(/(?P<".toList ++ name.toList ++ ">.*))?".toList)

/-! ### The optional group -/

/-- Parts that are written as nested optional groups. -/
def chainParts : List (List Char) → List Part
  | [] => []
  | name :: rest =>
    .char '(' :: .char '/' :: .token name :: chainParts rest ++ [.char ')', .char '?']

/-- The parts that an optional group stands for. -/
def groupParts (atFront : Bool) (names : List (List Char)) : List Part :=
  match atFront, names with
  | true, first :: rest =>
    [.char '/', .char '(', .token first, .char ')', .char '?'] ++ chainParts rest
  | _, names => chainParts names

/-- The parts that a part becomes when the optional group is written with
tokens. -/
def Part.expanded (atFront : Bool) : Part → List Part
  | .group names => groupParts atFront names
  | p => [p]

theorem written_chainParts (names : List (List Char)) :
    written (chainParts names) = chain names := by
  induction names with
  | nil => rfl
  | cons name rest ih => simp [chainParts, chain, Part.piece, Piece.render, ih]

theorem written_groupParts (atFront : Bool) (names : List (List Char)) :
    written (groupParts atFront names) = groupText atFront names := by
  cases names with
  | nil => cases atFront <;> rfl
  | cons first rest =>
    cases atFront with
    | false => exact written_chainParts (first :: rest)
    | true => simp [groupParts, groupText, written_chainParts, Part.piece, Piece.render]

/-- Without an optional group nothing is expanded. -/
theorem flatMap_expanded_of_no_group {atFront : Bool} {ps : List Part}
    (h : ∀ p ∈ ps, p.isGroup = false) : ps.flatMap (Part.expanded atFront) = ps := by
  induction ps with
  | nil => rfl
  | cons p ps ih =>
    rw [List.flatMap_cons, ih fun q hq => h q (List.mem_cons_of_mem _ hq)]
    have hp := h p List.mem_cons_self
    cases p with
    | char c => rfl
    | token name => rfl
    | group names => exact absurd hp (by simp [Part.isGroup])

theorem expandFirst_token {atFront : Bool} {name : List Char} (h : isName name = true)
    (rest : List Piece) :
    expandFirst atFront (.braces name :: rest)
      = (Piece.braces name).render ++ expandFirst atFront rest := by
  obtain ⟨c, tail, rfl, hc, -⟩ := isName_iff.mp h
  have hslash : c ≠ '/' := ne_slash_of_isAsciiLetter hc
  simp [expandFirst, hslash]

theorem expandFirst_group {atFront : Bool} {names : List (List Char)}
    (h : (Part.group names).isWellFormed = true) (rest : List Piece) :
    expandFirst atFront ((Part.group names).piece :: rest)
      = groupText atFront names ++ render rest := by
  obtain ⟨c, tail, hlist⟩ := List.exists_cons_of_ne_nil (join_ne_nil_of_isWellFormed h)
  rw [Part.piece, hlist, expandFirst, ← hlist, split_join_of_isWellFormed h]

theorem expandFirst_written {atFront : Bool} {ps : List Part}
    (h : ∀ p ∈ ps, p.IsSound) (hcount : ps.countP Part.isGroup ≤ 1) :
    expandFirst atFront (ps.map Part.piece) = written (ps.flatMap (Part.expanded atFront)) := by
  induction ps with
  | nil => rfl
  | cons p ps ih =>
    have hp := h p List.mem_cons_self
    have hps : ∀ q ∈ ps, q.IsSound := fun q hq => h q (List.mem_cons_of_mem _ hq)
    rw [List.countP_cons] at hcount
    rw [List.flatMap_cons, written_append, List.map_cons]
    cases p with
    | char c =>
      rw [← ih hps (by omega)]
      simp [Part.piece, Part.expanded, expandFirst]
    | token name =>
      rw [← ih hps (by omega), Part.piece, expandFirst_token hp]
      simp [Part.expanded, Part.piece]
    | group names =>
      -- The text after the first optional group is not looked at.
      have hrest : ∀ q ∈ ps, q.isGroup = false := by
        have hzero : ps.countP Part.isGroup = 0 := by
          simp only [Part.isGroup, if_true] at hcount
          omega
        intro q hq
        simpa using List.countP_eq_zero.mp hzero q hq
      rw [expandFirst_group hp, flatMap_expanded_of_no_group hrest, Part.expanded,
        written_groupParts, written]

/-- The first two characters tell whether an optional group comes first. -/
theorem isPrefixOf_written {ps : List Part} (h : ∀ p ∈ ps, p.isWellFormed = true) :
    ['{', '/'].isPrefixOf (written ps) = ps.head?.any Part.isGroup := by
  cases ps with
  | nil => rfl
  | cons p ps =>
    have hp := h p List.mem_cons_self
    cases p with
    | char c =>
      simp only [Part.isWellFormed, Bool.and_eq_true, bne_iff_ne] at hp
      simp [Part.piece, Piece.render, Part.isGroup, List.isPrefixOf, Ne.symm hp.1]
    | token name =>
      -- A token begins with a brace too, but its name begins with a letter.
      obtain ⟨c, tail, rfl, hc, -⟩ := isName_iff.mp hp
      have hslash : '/' ≠ c := Ne.symm (ne_slash_of_isAsciiLetter hc)
      simp [Part.piece, Piece.render, Part.isGroup, List.isPrefixOf, hslash]
    | group names => simp [Part.piece, Piece.render, Part.isGroup, List.isPrefixOf]

/-- Writing the optional group with tokens, on the text of parts. -/
theorem expandOptional_written {ps : List Part} (h : ∀ p ∈ ps, p.isWellFormed = true)
    (hcount : ps.countP Part.isGroup ≤ 1) :
    expandOptional (written ps)
      = written (ps.flatMap (Part.expanded (ps.head?.any Part.isGroup))) := by
  have hsound : ∀ p ∈ ps, p.IsSound := fun p hp => Part.isSound_of_isWellFormed (h p hp)
  rw [expandOptional, isPrefixOf_written h, pieces_written h, expandFirst_written hsound hcount]

/-! ### Tokens -/

theorem mem_chainParts {names : List (List Char)} {p : Part} (h : p ∈ chainParts names) :
    (∃ c, c ∈ ['(', '/', ')', '?'] ∧ p = .char c) ∨ ∃ name ∈ names, p = .token name := by
  induction names with
  | nil => exact absurd h List.not_mem_nil
  | cons name rest ih =>
    simp only [chainParts, List.cons_append, List.mem_cons, List.mem_append, List.not_mem_nil,
      or_false] at h
    rcases h with rfl | rfl | rfl | h | rfl | rfl
    · exact Or.inl ⟨'(', by simp, rfl⟩
    · exact Or.inl ⟨'/', by simp, rfl⟩
    · exact Or.inr ⟨name, List.mem_cons_self, rfl⟩
    · rcases ih h with h | ⟨n, hn, h⟩
      · exact Or.inl h
      · exact Or.inr ⟨n, List.mem_cons_of_mem _ hn, h⟩
    · exact Or.inl ⟨')', by simp, rfl⟩
    · exact Or.inl ⟨'?', by simp, rfl⟩

theorem mem_groupParts {atFront : Bool} {names : List (List Char)} {p : Part}
    (h : p ∈ groupParts atFront names) :
    (∃ c, c ∈ ['(', '/', ')', '?'] ∧ p = .char c) ∨ ∃ name ∈ names, p = .token name := by
  unfold groupParts at h
  split at h
  · next first rest =>
    rcases List.mem_append.mp h with h | h
    · simp only [List.mem_cons, List.not_mem_nil, or_false] at h
      rcases h with rfl | rfl | rfl | rfl | rfl
      · exact Or.inl ⟨'/', by simp, rfl⟩
      · exact Or.inl ⟨'(', by simp, rfl⟩
      · exact Or.inr ⟨first, List.mem_cons_self, rfl⟩
      · exact Or.inl ⟨')', by simp, rfl⟩
      · exact Or.inl ⟨'?', by simp, rfl⟩
    · rcases mem_chainParts h with h | ⟨n, hn, h⟩
      · exact Or.inl h
      · exact Or.inr ⟨n, List.mem_cons_of_mem _ hn, h⟩
  · exact mem_chainParts h

/-- Expanding leaves well-formed parts, and no optional group. -/
theorem expanded_isWellFormed {atFront : Bool} {p q : Part} (h : p.isWellFormed = true)
    (hq : q ∈ p.expanded atFront) : q.isWellFormed = true ∧ q.isGroup = false := by
  cases p with
  | char c =>
    obtain rfl := List.mem_singleton.mp hq
    exact ⟨h, rfl⟩
  | token name =>
    obtain rfl := List.mem_singleton.mp hq
    exact ⟨h, rfl⟩
  | group names =>
    simp only [Part.isWellFormed, Bool.and_eq_true, List.all_eq_true] at h
    rcases mem_groupParts hq with ⟨c, hc, rfl⟩ | ⟨name, hname, rfl⟩
    · have key : ∀ c ∈ ['(', '/', ')', '?'], (Part.char c).isWellFormed = true := by
        simp [Part.isWellFormed]
      exact ⟨key c hc, rfl⟩
    · exact ⟨h.2 name hname, rfl⟩

theorem forall_mem_expanded {atFront : Bool} {ps : List Part}
    (h : ∀ p ∈ ps, p.isWellFormed = true) :
    ∀ q ∈ ps.flatMap (Part.expanded atFront), q.isWellFormed = true ∧ q.isGroup = false := by
  intro q hq
  obtain ⟨p, hp, hq⟩ := List.mem_flatMap.mp hq
  exact expanded_isWellFormed (h p hp) hq

/-- Writing the tokens as capturing groups, on a text that is cut into parts without an
optional group. -/
theorem expandTokens_of_pieces (tokens : Entries String Value) {text : List Char} {ps : List Part}
    (hpieces : pieces text = ps.map Part.piece) (h : ∀ p ∈ ps, p.IsSound ∧ p.isGroup = false) :
    expandTokens tokens text = ps.flatMap (Part.pattern tokens false) := by
  rw [expandTokens, hpieces, List.flatMap_map]
  refine List.flatMap_congr fun p hp => ?_
  obtain ⟨hsound, hgroup⟩ := h p hp
  cases p with
  | char c => rfl
  | token name =>
    have hname : isName name = true := hsound
    simp [Part.piece, expandPiece, Part.pattern, hname]
  | group names => exact absurd hgroup (by simp [Part.isGroup])

theorem tokenNames_of_pieces {text : List Char} {ps : List Part}
    (hpieces : pieces text = ps.map Part.piece) (h : ∀ p ∈ ps, p.IsSound ∧ p.isGroup = false) :
    tokenNames text = ps.flatMap Part.names := by
  rw [tokenNames, placeholders, hpieces]
  clear hpieces
  induction ps with
  | nil => rfl
  | cons p ps ih =>
    obtain ⟨hsound, hgroup⟩ := h p List.mem_cons_self
    have ih := ih fun q hq => h q (List.mem_cons_of_mem _ hq)
    cases p with
    | char c => simpa [Part.piece, Part.names] using ih
    | token name =>
      have hname : isName name = true := hsound
      simpa [Part.piece, Part.names, hname] using ih
    | group names => exact absurd hgroup (by simp [Part.isGroup])

/-- Writing the tokens as capturing groups, on the text of parts without an
optional group. -/
theorem expandTokens_written (tokens : Entries String Value) {ps : List Part}
    (h : ∀ p ∈ ps, p.isWellFormed = true ∧ p.isGroup = false) :
    expandTokens tokens (written ps) = ps.flatMap (Part.pattern tokens false) :=
  expandTokens_of_pieces tokens (pieces_written fun p hp => (h p hp).1) fun p hp =>
    ⟨Part.isSound_of_isWellFormed (h p hp).1, (h p hp).2⟩

theorem tokenNames_written {ps : List Part}
    (h : ∀ p ∈ ps, p.isWellFormed = true ∧ p.isGroup = false) :
    tokenNames (written ps) = ps.flatMap Part.names :=
  tokenNames_of_pieces (pieces_written fun p hp => (h p hp).1) fun p hp =>
    ⟨Part.isSound_of_isWellFormed (h p hp).1, (h p hp).2⟩

/-! ### Both rewritings -/

theorem flatMap_pattern_chainParts (tokens : Entries String Value) (names : List (List Char)) :
    (chainParts names).flatMap (Part.pattern tokens false) = nestedGroups tokens names := by
  induction names with
  | nil => rfl
  | cons name rest ih => simp [chainParts, nestedGroups, Part.pattern, ih]

theorem flatMap_pattern_expanded (tokens : Entries String Value) (atFront : Bool) (p : Part) :
    (p.expanded atFront).flatMap (Part.pattern tokens false) = p.pattern tokens atFront := by
  cases p with
  | char c => rfl
  | token name => simp [Part.expanded, Part.pattern]
  | group names =>
    cases names with
    | nil => cases atFront <;> rfl
    | cons first rest =>
      cases atFront with
      | false => exact flatMap_pattern_chainParts tokens (first :: rest)
      | true =>
        simp [Part.expanded, groupParts, Part.pattern, flatMap_pattern_chainParts]

theorem flatMap_names_chainParts (names : List (List Char)) :
    (chainParts names).flatMap Part.names = names := by
  induction names with
  | nil => rfl
  | cons name rest ih => simp [chainParts, Part.names, ih]

theorem flatMap_names_expanded (atFront : Bool) (p : Part) :
    (p.expanded atFront).flatMap Part.names = p.names := by
  cases p with
  | char c => rfl
  | token name => rfl
  | group names =>
    cases names with
    | nil => cases atFront <;> rfl
    | cons first rest =>
      cases atFront with
      | false => exact flatMap_names_chainParts (first :: rest)
      | true => simp [Part.expanded, groupParts, Part.names, flatMap_names_chainParts]

/-- A part that is no optional group has the same pattern everywhere. -/
theorem pattern_of_not_isGroup (tokens : Entries String Value) {p : Part}
    (h : p.isGroup = false) (atFront : Bool) :
    p.pattern tokens atFront = p.pattern tokens false := by
  cases p with
  | char c => rfl
  | token name => rfl
  | group names => exact absurd h (by simp [Part.isGroup])

theorem transcription_eq_flatMap (tokens : Entries String Value) {ps : List Part}
    (hcount : ps.countP Part.isGroup ≤ 1) :
    ps.flatMap (Part.pattern tokens (ps.head?.any Part.isGroup)) = transcription tokens ps := by
  cases ps with
  | nil => rfl
  | cons p ps =>
    rw [List.flatMap_cons, transcription]
    cases hp : p.isGroup with
    | false => simp [hp, pattern_of_not_isGroup tokens hp true]
    | true =>
      -- The group that comes first is the only one.
      have hzero : ps.countP Part.isGroup = 0 := by
        rw [List.countP_cons, if_pos hp] at hcount
        omega
      have hrest : ∀ q ∈ ps, q.isGroup = false := fun q hq => by
        simpa using List.countP_eq_zero.mp hzero q hq
      simp only [List.head?_cons, Option.any_some, hp]
      rw [List.flatMap_congr fun q hq => pattern_of_not_isGroup tokens (hrest q hq) true]

/-- Both rewritings one after the other are the walk over the parts. -/
theorem expandTokens_expandOptional_written (tokens : Entries String Value) {ps : List Part}
    (h : ∀ p ∈ ps, p.isWellFormed = true) (hcount : ps.countP Part.isGroup ≤ 1) :
    expandTokens tokens (expandOptional (written ps)) = transcription tokens ps := by
  rw [expandOptional_written h hcount, expandTokens_written tokens (forall_mem_expanded h),
    List.flatMap_assoc, ← transcription_eq_flatMap tokens hcount]
  exact List.flatMap_congr fun p _ => flatMap_pattern_expanded tokens _ p

theorem tokenNames_expandOptional_written {ps : List Part}
    (h : ∀ p ∈ ps, p.isWellFormed = true) (hcount : ps.countP Part.isGroup ≤ 1) :
    tokenNames (expandOptional (written ps)) = ps.flatMap Part.names := by
  rw [expandOptional_written h hcount, tokenNames_written (forall_mem_expanded h),
    List.flatMap_assoc]
  exact List.flatMap_congr fun p _ => flatMap_names_expanded _ p

end RouteMatch.Template

namespace RouteMatch

open Template

/-! ### Defaults for names -/

/-- Supplying an empty default for each of several names adds just the missing
names, each once. -/
theorem foldl_insertNew_none (names : List String) (values : Params) :
    ∃ added : List String, added.Nodup ∧
      (∀ name, name ∈ added ↔ name ∈ names ∧ values.get? name = none) ∧
      names.foldl (fun values name => values.insertNew name Value.none) values
        = values ++ added.map fun name => (name, Value.none) := by
  induction names generalizing values with
  | nil => exact ⟨[], List.nodup_nil, by simp, by simp⟩
  | cons first rest ih =>
    rw [List.foldl_cons, Entries.insertNew]
    cases hfirst : values.get? first with
    | some v =>
      obtain ⟨added, hnodup, hmem, heq⟩ := ih values
      refine ⟨added, hnodup, fun name => ?_, by simpa [Entries.contains, hfirst] using heq⟩
      rw [hmem, List.mem_cons]
      constructor
      · exact fun h => ⟨Or.inr h.1, h.2⟩
      · rintro ⟨rfl | h, hnone⟩
        · rw [hfirst] at hnone
          exact absurd hnone (by simp)
        · exact ⟨h, hnone⟩
    | none =>
      obtain ⟨added, hnodup, hmem, heq⟩ := ih (values ++ [(first, Value.none)])
      -- The first name is there now, so it is not added once more.
      have hget : ∀ name, (values ++ [(first, Value.none)]).get? name = none ↔
          values.get? name = none ∧ first ≠ name := by
        intro name
        rw [Entries.get?_append, Option.or_eq_none_iff]
        simp [Entries.get?]
      have hnotin : first ∉ added := by
        rw [hmem, hget]
        exact fun h => h.2.2 rfl
      refine ⟨first :: added, List.nodup_cons.mpr ⟨hnotin, hnodup⟩, fun name => ?_, ?_⟩
      · rw [List.mem_cons, hmem, hget, List.mem_cons]
        constructor
        · rintro (rfl | ⟨h, hnone, -⟩)
          · exact ⟨Or.inl rfl, hfirst⟩
          · exact ⟨Or.inr h, hnone⟩
        · rintro ⟨h, hnone⟩
          by_cases hne : name = first
          · exact Or.inl hne
          · exact Or.inr ⟨h.resolve_left hne, hnone, Ne.symm hne⟩
      · simpa [Entries.contains, hfirst] using heq

namespace Route

/-! ### Building -/

theorem source_of_compile {path source : String} {p : Pattern}
    (h : compile path source = .ok p) : p.source = source := by
  unfold compile Pattern.compile at h
  cases hparse : Pattern.parse source.toList with
  | error failure =>
    rw [hparse] at h
    cases failure <;> exact absurd h (by simp [Except.map])
  | ok parsed =>
    rw [hparse] at h
    simp only [Except.map, Except.ok.injEq] at h
    rw [← h]

/-- What a definition that a route was built from is like, and what the route
holds. -/
theorem build_eq_ok_iff {d : RouteDefinition} {r : Route} :
    build d = .ok r ↔
      definitionFault? d = none ∧
        ∃ pattern constraints, compile d.path (patternText d) = .ok pattern ∧
          compileConstraints d.path d.server = .ok constraints ∧
          r = { definition := d
                pattern := pattern
                names := (tokenNames (tokenTemplate d)).map String.ofList
                constraints := constraints
                values := ((tokenNames (tokenTemplate d)).map String.ofList).foldl
                  (fun values name => values.insertNew name Value.none) d.values } := by
  unfold build
  cases hfault : definitionFault? d with
  | some fault => simp
  | none =>
    cases hpattern : compile d.path (patternText d) with
    | error failure => simp
    | ok pattern =>
      cases hconstraints : compileConstraints d.path d.server with
      | error failure => simp [Except.map]
      | ok constraints => simp [Except.map, eq_comm]

/-- A definition has no fault if its template is valid, its media types are some, and its
wildcard is a name. -/
theorem definitionFault?_eq_none_iff {d : RouteDefinition} :
    definitionFault? d = none ↔
      validate d.path.toList = .ok () ∧
        (∀ mediaType ∈ d.accept, isMediaType mediaType.toList = true) ∧
        ∀ w, wildcardOf d = some w → isName w.toList = true := by
  unfold definitionFault?
  cases hvalid : validate d.path.toList with
  | error fault => simp
  | ok u =>
    have hmediaTypes : (d.accept.find? fun mediaType => !isMediaType mediaType.toList) = none ↔
        ∀ mediaType ∈ d.accept, isMediaType mediaType.toList = true := by
      simp [List.find?_eq_none]
    rw [← hmediaTypes]
    cases hfind : d.accept.find? fun mediaType => !isMediaType mediaType.toList with
    | some mediaType => simp
    | none => cases hwildcard : wildcardOf d <;> simp

/-- The template of a definition without fault is valid. -/
theorem validate_of_definitionFault? {d : RouteDefinition} (h : definitionFault? d = none) :
    validate d.path.toList = .ok () :=
  (definitionFault?_eq_none_iff.mp h).1

/-- The pattern text of a definition, with its wildcard as it was given. -/
theorem patternText_eq (d : RouteDefinition) :
    patternText d
      = String.ofList
          ('^' :: withWildcard d.wildcard (expandTokens d.tokens (tokenTemplate d)) ++ ['$']) := by
  unfold patternText wildcardOf withWildcard
  cases d.wildcard with
  | none => rfl
  | some w =>
    by_cases hw : w = ""
    · simp [hw, Option.filter]
    · simp [hw, Option.filter, expandWildcard, stripSlashes, List.rdropWhile, namedGroup]

/-- **What a built route holds.**  If every brace of the template belongs to a
placeholder, the pattern is the transcription of the parts of the template between
two anchors, the names are those of the parts, and the defaults are the given ones
with an empty one for each name that had none. -/
theorem build_transcribes {d : RouteDefinition} {r : Route} (hbuild : build d = .ok r)
    (hclosed : Closed d.path.toList) :
    r.pattern.source
        = String.ofList
            ('^' :: withWildcard d.wildcard (transcription d.tokens (parts d.path.toList))
              ++ ['$']) ∧
      r.names = ((parts d.path.toList).flatMap Template.Part.names).map String.ofList ∧
      ∃ added : List String, added.Nodup ∧
        (∀ name, name ∈ added ↔ name ∈ r.names ∧ d.values.get? name = none) ∧
        r.values = d.values ++ added.map fun name => (name, Value.none) := by
  obtain ⟨hfault, pattern, constraints, hpattern, -, rfl⟩ := build_eq_ok_iff.mp hbuild
  have hvalid := validate_of_definitionFault? hfault
  have hwell := isWellFormed_of_mem_parts hvalid hclosed
  have hcount := countP_isGroup_le_one hvalid
  have hnames : tokenNames (tokenTemplate d) = (parts d.path.toList).flatMap Template.Part.names := by
    rw [← tokenNames_expandOptional_written hwell hcount, written_parts, tokenTemplate]
  have htext : expandTokens d.tokens (tokenTemplate d)
      = transcription d.tokens (parts d.path.toList) := by
    rw [← expandTokens_expandOptional_written d.tokens hwell hcount, written_parts, tokenTemplate]
  refine ⟨?_, by rw [hnames], foldl_insertNew_none _ _⟩
  rw [source_of_compile hpattern, patternText_eq, htext]

/-- The definition of a route with a token, an optional group and a wildcard. -/
def blogDefinition : RouteDefinition :=
  { path := "/blog/{id}{/year,month}/"
    tokens := [("id", .text "[0-9]+")]
    values := [("year", .text "2024")]
    wildcard := some "rest" }

theorem build_transcribes_blogDefinition :
    ∃ r, build blogDefinition = .ok r ∧ Closed blogDefinition.path.toList ∧
      r.pattern.source
        = "^/blog/(?P<id>[0-9]+)(/(?P<year>[^/]+)(/(?P<month>[^/]+))?)?(/(?P<rest>.*))?$" ∧
      r.names = ["id", "year", "month"] := by
  have hclosed : Closed blogDefinition.path.toList := by decide +kernel
  obtain ⟨r, hr⟩ : ∃ r, build blogDefinition = .ok r := exists_of_toBool (by decide +kernel)
  obtain ⟨hsource, hnames, -⟩ := build_transcribes hr hclosed
  exact ⟨r, hr, hclosed, hsource.trans (by decide +kernel), hnames.trans (by decide +kernel)⟩

end Route

end RouteMatch
