import RouteMatch.Proofs.Evaluation.Parameters
import RouteMatch.Proofs.Pattern.Places
import RouteMatch.Proofs.Route.Bodies

/-!
# Names that are repeated

The tokens of a template and its wildcard are written as groups with their names.  Nothing
compares these names: it is the pattern that must not have two groups of one name.  The text
around a placeholder is taken as it stands, though, and can keep its group from being opened:
behind a backslash, in a character set or in a comment the parenthesis is no parenthesis.  Of the
groups that are opened no two have the same name.

## Main definitions

* `Template.groupPlaces`, `Route.groups` — the groups that are written for placeholders and the
  wildcard, each with its place in the pattern.
* `Route.IsOpened`, `Route.openedNames` — the groups that are opened.

## Main results

* `Route.map_fst_groups` — the groups have the names of the template and of the wildcard.
* `Route.nodup_openedNames` — the groups of a built route that are opened have different names.
* `Route.refused_of_repeated` — **repeated names are refused** if their groups are opened.
* `Route.not_refused_escapedDefinition` — a group that is not opened may repeat a name.
-/

namespace RouteMatch.Template

variable {tokens : Entries String Value}

/-! ### The groups of placeholders -/

/-- The groups that pieces are written as, each with its name and its place; the first piece
stands at `position`. -/
def groupPlaces (tokens : Entries String Value) : (position : Nat) → List Piece →
    List (List Char × Nat)
  | _, [] => []
  | position, .char _ :: ps => groupPlaces tokens (position + 1) ps
  | position, .braces inner :: ps =>
    (if isName inner then [(inner, position)] else [])
      ++ groupPlaces tokens (position + (expandPiece tokens (.braces inner)).length) ps

/-- The groups have the names of the tokens, in order. -/
theorem map_fst_groupPlaces (position : Nat) (text : List Char) :
    (groupPlaces tokens position (pieces text)).map Prod.fst = tokenNames text := by
  rw [tokenNames, placeholders]
  generalize pieces text = ps
  induction ps generalizing position with
  | nil => rfl
  | cons p ps ih =>
    cases p with
    | char c => exact ih (position + 1)
    | braces inner =>
      rw [groupPlaces, List.map_append, ih]
      simp only [List.filterMap_cons, List.filter_cons]
      split <;> rfl

/-- A group stands where its piece is written. -/
theorem exists_of_mem_groupPlaces {position place : Nat} {ps : List Piece} {name : List Char}
    (h : (name, place) ∈ groupPlaces tokens position ps) :
    isName name = true ∧ ∃ front back, ps = front ++ .braces name :: back ∧
      place = position + (front.flatMap (expandPiece tokens)).length := by
  induction ps generalizing position with
  | nil => exact absurd h List.not_mem_nil
  | cons p ps ih =>
    have hbehind : (name, place) ∈ groupPlaces tokens (position + (expandPiece tokens p).length) ps →
        isName name = true ∧ ∃ front back, p :: ps = front ++ .braces name :: back ∧
          place = position + (front.flatMap (expandPiece tokens)).length := by
      intro h
      obtain ⟨hname, front, back, rfl, rfl⟩ := ih h
      refine ⟨hname, p :: front, back, rfl, ?_⟩
      rw [List.flatMap_cons, List.length_append]
      omega
    cases p with
    | char c => exact hbehind h
    | braces inner =>
      rw [groupPlaces] at h
      rcases List.mem_append.mp h with h | h
      · split at h
        · next hname =>
          obtain ⟨rfl, rfl⟩ := Prod.mk.inj (List.mem_singleton.mp h)
          exact ⟨hname, [], ps, rfl, rfl⟩
        · exact absurd h List.not_mem_nil
      · exact hbehind h

/-- The groups come one behind the other. -/
theorem pairwise_groupPlaces (tokens : Entries String Value) (position : Nat) (ps : List Piece) :
    (groupPlaces tokens position ps).Pairwise fun g g' => g.2 < g'.2 := by
  induction ps generalizing position with
  | nil => exact .nil
  | cons p ps ih =>
    cases p with
    | char c => exact ih (position + 1)
    | braces inner =>
      rw [groupPlaces]
      split
      · next hname =>
        refine List.pairwise_cons.mpr ⟨?_, ih _⟩
        rintro ⟨name, place⟩ hmem
        obtain ⟨-, front, back, -, rfl⟩ := exists_of_mem_groupPlaces hmem
        have hpos : 0 < (expandPiece tokens (.braces inner)).length := by
          simp [expandPiece, hname, namedGroup]
        show position < _
        omega
      · exact ih _

/-! ### Slashes at the end -/

/-- What does not end with a slash stays when the slashes at the end are dropped. -/
theorem stripSlashes_append {front : List Char} (h : front.getLast? ≠ some '/')
    (back : List Char) : stripSlashes (front ++ back) = front ++ stripSlashes back := by
  induction back using List.reverseRecOn with
  | nil =>
    rw [List.append_nil, stripSlashes_of_getLast?_ne h]
    exact (List.append_nil front).symm
  | append_singleton back c ih =>
    by_cases hc : c = '/'
    · have hdrop : ∀ text : List Char, stripSlashes (text ++ [c]) = stripSlashes text := by
        intro text
        simp [stripSlashes, hc]
      rw [← List.append_assoc, hdrop, hdrop, ih]
    · have hkeep : ∀ text : List Char, stripSlashes (text ++ [c]) = text ++ [c] := by
        intro text
        apply stripSlashes_of_getLast?_ne
        simpa using hc
      rw [← List.append_assoc, hkeep, hkeep, List.append_assoc]

end RouteMatch.Template

namespace RouteMatch.Route

open Pattern (lexemePlaces OpensAt HasOversizedCount)
open Template

variable {d : RouteDefinition}

/-! ### The groups of a definition -/

/-- The text of the tokens of a definition, without a wildcard. -/
def expandedText (d : RouteDefinition) : List Char :=
  expandTokens d.tokens (tokenTemplate d)

/-- The groups that are written for the placeholders of a template and for its wildcard, each
with its name and its place in the pattern. -/
def groups (d : RouteDefinition) : List (List Char × Nat) :=
  groupPlaces d.tokens 1 (pieces (tokenTemplate d))
    ++ (wildcardOf d).toList.map fun w => (w.toList, (stripSlashes (expandedText d)).length + 3)

/-- A group is opened: a lexeme begins at its place. -/
def IsOpened (d : RouteDefinition) (group : List Char × Nat) : Prop :=
  group.2 ∈ lexemePlaces (patternText d).toList

instance (d : RouteDefinition) (group : List Char × Nat) : Decidable (IsOpened d group) :=
  inferInstanceAs (Decidable (group.2 ∈ lexemePlaces (patternText d).toList))

/-- The names of the groups that are opened. -/
def openedNames (d : RouteDefinition) : List (List Char) :=
  ((groups d).filter fun group => IsOpened d group).map Prod.fst

/-- The groups have the names of the template and of the wildcard. -/
theorem map_fst_groups (hfault : definitionFault? d = none) :
    (groups d).map Prod.fst = tokensOf d ++ ((wildcardOf d).map String.toList).toList := by
  have hsound := validate_eq_ok_iff_hasSoundParts.mp (validate_of_definitionFault? hfault)
  rw [groups, List.map_append, map_fst_groupPlaces, tokenTemplate, tokenNames_expandOptional hsound,
    tokensOf]
  cases wildcardOf d <;> rfl

/-! ### Openings -/

theorem patternText_of_none (hw : wildcardOf d = none) :
    patternText d = String.ofList ('^' :: expandedText d ++ ['$']) := by
  rw [patternText, hw]
  rfl

theorem patternText_of_some {w : String} (hw : wildcardOf d = some w) :
    patternText d
      = String.ofList ('^' :: expandWildcard (expandedText d) w.toList ++ ['$']) := by
  rw [patternText, hw]
  rfl

/-- What comes before the slashes at the end is written behind the anchor. -/
theorem exists_patternText_eq {text : List Char} (h : text <+: stripSlashes (expandedText d)) :
    ∃ rest, (patternText d).toList = '^' :: (text ++ rest) := by
  cases hw : wildcardOf d with
  | none =>
    obtain ⟨rest, hrest⟩ := h.trans (List.rdropWhile_prefix _ _)
    refine ⟨rest ++ ['$'], ?_⟩
    rw [patternText_of_none hw, String.toList_ofList, ← hrest]
    simp
  | some w =>
    obtain ⟨rest, hrest⟩ := h
    refine ⟨rest ++ "(/".toList ++ namedGroup w.toList ".*".toList ++ ")?".toList ++ ['$'], ?_⟩
    rw [patternText_of_some hw, String.toList_ofList, expandWildcard, ← hrest]
    simp

/-- The group of a placeholder is written before the slashes at the end. -/
theorem prefix_of_pieces {front back : List Piece} {name : List Char} (hname : isName name = true)
    (hpieces : pieces (tokenTemplate d) = front ++ .braces name :: back) :
    front.flatMap (expandPiece d.tokens) ++ namedGroup name (tokenBody d.tokens name)
      <+: stripSlashes (expandedText d) := by
  have hexpanded : expandedText d
      = front.flatMap (expandPiece d.tokens) ++ namedGroup name (tokenBody d.tokens name)
        ++ back.flatMap (expandPiece d.tokens) := by
    rw [expandedText, expandTokens, hpieces, List.flatMap_append, List.flatMap_cons, expandPiece,
      if_pos hname, List.append_assoc]
  have hlast : (front.flatMap (expandPiece d.tokens)
      ++ namedGroup name (tokenBody d.tokens name)).getLast? ≠ some '/' := by
    rw [namedGroup, ← List.append_assoc, List.getLast?_concat]
    decide
  rw [hexpanded, stripSlashes_append hlast]
  exact List.prefix_append _ _

/-- A placeholder's group has a name, and its opening stands at its place, before that of the
wildcard. -/
theorem opensAt_of_mem_groupPlaces {name : List Char} {place : Nat}
    (h : (name, place) ∈ groupPlaces d.tokens 1 (pieces (tokenTemplate d))) :
    isName name = true ∧ OpensAt (patternText d).toList place name ∧
      place < (stripSlashes (expandedText d)).length + 3 := by
  obtain ⟨hname, front, back, hpieces, rfl⟩ := exists_of_mem_groupPlaces h
  have hprefix := prefix_of_pieces hname hpieces
  have hlength := hprefix.length_le
  obtain ⟨rest, hrest⟩ := exists_patternText_eq hprefix
  rw [List.length_append] at hlength
  refine ⟨hname, ⟨'^' :: front.flatMap (expandPiece d.tokens),
    tokenBody d.tokens name ++ ')' :: rest, ?_, ?_⟩, by omega⟩
  · rw [hrest]
    simp [namedGroup]
  · rw [List.length_cons, Nat.add_comm]

/-- The group of the wildcard has a name, and its opening stands at its place. -/
theorem opensAt_of_wildcardOf (hfault : definitionFault? d = none) {w : String}
    (hw : wildcardOf d = some w) :
    isName w.toList = true ∧
      OpensAt (patternText d).toList ((stripSlashes (expandedText d)).length + 3) w.toList := by
  refine ⟨isName_wildcard hfault hw, '^' :: stripSlashes (expandedText d) ++ ['(', '/'],
    ".*".toList ++ ')' :: ')' :: '?' :: ['$'], ?_, by simp⟩
  simp [patternText, hw, expandWildcard, expandedText, namedGroup]

/-- A group has a name, and its opening stands at its place. -/
theorem opensAt_of_mem_groups (hfault : definitionFault? d = none) {group : List Char × Nat}
    (h : group ∈ groups d) :
    isName group.1 = true ∧ OpensAt (patternText d).toList group.2 group.1 := by
  rw [groups, List.mem_append] at h
  rcases h with hplaceholder | hwildcard
  · obtain ⟨hname, hopens, -⟩ := opensAt_of_mem_groupPlaces hplaceholder
    exact ⟨hname, hopens⟩
  · obtain ⟨w, hw, rfl⟩ := List.mem_map.mp hwildcard
    exact opensAt_of_wildcardOf hfault (Option.mem_toList.mp hw)

/-- The groups come one behind the other. -/
theorem pairwise_groups (d : RouteDefinition) :
    (groups d).Pairwise fun group later => group.2 < later.2 := by
  rw [groups, List.pairwise_append]
  refine ⟨pairwise_groupPlaces _ _ _, ?_, ?_⟩
  · cases wildcardOf d with
    | none => exact .nil
    | some w => exact List.pairwise_singleton _ _
  · rintro ⟨name, place⟩ hplaceholder later hwildcard
    obtain ⟨w, -, rfl⟩ := List.mem_map.mp hwildcard
    exact (opensAt_of_mem_groupPlaces hplaceholder).2.2

/-! ### Repeated names -/

/-- The groups of a built route that are opened have different names. -/
theorem nodup_openedNames {r : Route} (h : build d = .ok r) : (openedNames d).Nodup := by
  obtain ⟨hfault, pattern, -, hpattern, -⟩ := build_eq_ok_iff.mp h
  obtain ⟨parsed, hparse, -⟩ := exists_parse_of_compile hpattern
  rw [openedNames, List.nodup_iff_pairwise_ne, List.pairwise_map]
  refine List.Pairwise.imp_of_mem ?_ ((pairwise_groups d).filter _)
  intro group later hgroup hlater hlt
  obtain ⟨hmem, hopened⟩ := List.mem_filter.mp hgroup
  obtain ⟨hmem', hopened'⟩ := List.mem_filter.mp hlater
  obtain ⟨hname, hopens⟩ := opensAt_of_mem_groups hfault hmem
  obtain ⟨hname', hopens'⟩ := opensAt_of_mem_groups hfault hmem'
  exact Pattern.ne_of_mem_lexemePlaces hparse hname hname' hopens hopens' hlt
    (of_decide_eq_true hopened) (of_decide_eq_true hopened')

/-- The groups of the pattern of a built route have different names. -/
theorem nodup_names_of_build {r : Route} (h : build d = .ok r) :
    (r.pattern.names.map Prod.fst).Nodup := by
  obtain ⟨-, pattern, constraints, hpattern, -, rfl⟩ := build_eq_ok_iff.mp h
  obtain ⟨parsed, hparse, -, hnames⟩ := exists_parse_of_compile hpattern
  obtain ⟨final, hscan, -, rfl⟩ := Pattern.exists_scan_of_parse hparse
  have hnodup : (final.groups.names.map Prod.fst).Nodup :=
    (Pattern.State.scan_grows hscan).nodup List.nodup_nil
  rw [hnames, List.map_map]
  have hcomp : Prod.fst ∘ (fun (group : List Char × Nat) => (String.ofList group.1, group.2))
      = String.ofList ∘ Prod.fst := rfl
  rw [hcomp, ← List.map_map]
  exact List.pairwise_map.mpr (hnodup.imp fun hne heq => hne (String.ofList_injective heq))

/-- **Repeated names are refused** if their groups are opened.  The groups that are written have
the names of the template and of the wildcard.  If two that are opened have the same name, the
definition is refused, unless a pattern has an oversized count.  So the names of a built route
differ from one another and from its wildcard, if all groups are opened. -/
theorem refused_of_repeated (d : RouteDefinition) :
    (definitionFault? d = none →
        (groups d).map Prod.fst = tokensOf d ++ ((wildcardOf d).map String.toList).toList) ∧
      (¬(openedNames d).Nodup →
        (∃ fault, build d = .error (.route d.path fault)) ∨
          (∃ body ∈ bodies d, HasOversizedCount body) ∧
            ∃ failure, IsCountFailure failure ∧ build d = .error failure) ∧
      ∀ r, build d = .ok r → (∀ group ∈ groups d, IsOpened d group) →
        (r.names ++ (wildcardOf d).toList).Nodup := by
  refine ⟨map_fst_groups, fun hrepeated => ?_, fun r hbuild hopened => ?_⟩
  · rcases build_cases d with ⟨r, hbuild⟩ | hrefused
    · exact absurd (nodup_openedNames hbuild) hrepeated
    · exact hrefused
  · obtain ⟨hfault, -⟩ := build_eq_ok_iff.mp hbuild
    have hall : (groups d).filter (fun group => IsOpened d group) = groups d :=
      List.filter_eq_self.mpr fun group hgroup => decide_eq_true (hopened group hgroup)
    have hnodup := nodup_openedNames hbuild
    rw [openedNames, hall, map_fst_groups hfault] at hnodup
    have hwildcard : (wildcardOf d).toList
        = ((wildcardOf d).map String.toList).toList.map String.ofList := by
      cases wildcardOf d with
      | none => rfl
      | some w => simp
    rw [names_of_build hbuild, hwildcard]
    rw [tokensOf] at hnodup
    rw [← List.map_append]
    exact List.Pairwise.map String.ofList (fun _ _ hne heq => hne (String.ofList_injective heq))
      hnodup

/-- The definition of a route with a name in its optional group that is also its wildcard. -/
def sharedDefinition : RouteDefinition :=
  { path := "/\x7bid\x7d\x7b/name,rest\x7d"
    wildcard := some "rest" }

/-- The definition of a route whose names differ. -/
def distinctDefinition : RouteDefinition :=
  { path := "/[\\w(]+/\x7bid\x7d\x7b/name\x7d"
    wildcard := some "rest" }

/-- The definition of a route with a name that is repeated.  The first placeholder stands behind
a backslash, so that its group is not opened. -/
def escapedDefinition : RouteDefinition :=
  { path := "/(\\\x7bid\x7d/\x7bid\x7d" }

theorem refused_of_repeated_sharedDefinition :
    (groups sharedDefinition).map Prod.fst
        = ["id".toList, "name".toList, "rest".toList, "rest".toList] ∧
      ¬(openedNames sharedDefinition).Nodup ∧
      (∃ fault, build sharedDefinition = .error (.route sharedDefinition.path fault)) ∧
      ∃ r, build distinctDefinition = .ok r ∧
        (∀ group ∈ groups distinctDefinition, IsOpened distinctDefinition group) ∧
        (r.names ++ (wildcardOf distinctDefinition).toList).Nodup := by
  obtain ⟨hnames, hrefused, -⟩ := refused_of_repeated sharedDefinition
  have hrepeated : ¬(openedNames sharedDefinition).Nodup := by decide +kernel
  obtain ⟨r, hr⟩ : ∃ r, build distinctDefinition = .ok r := exists_of_toBool (by decide +kernel)
  have hopened : ∀ group ∈ groups distinctDefinition, IsOpened distinctDefinition group := by
    decide +kernel
  refine ⟨(hnames (by decide +kernel)).trans (by decide +kernel), hrepeated, ?_, r, hr, hopened,
    (refused_of_repeated distinctDefinition).2.2 r hr hopened⟩
  -- No pattern holds a brace, so that none has an oversized count.
  refine (hrefused hrepeated).resolve_right ?_
  rintro ⟨⟨body, hmem, least, most, -, hsub⟩, -⟩
  have hbodies : ∀ body ∈ bodies sharedDefinition, '\x7b' ∉ body := by decide +kernel
  exact hbodies body hmem (hsub.subset (by simp [Pattern.bracedCounts]))

/-- A group that is not opened may repeat a name. -/
theorem not_refused_escapedDefinition :
    ¬(¬(tokensOf escapedDefinition).Nodup →
      ∃ fault, build escapedDefinition = .error (.route escapedDefinition.path fault)) := by
  intro h
  obtain ⟨fault, hfault⟩ := h (by decide +kernel)
  obtain ⟨r, hr⟩ : ∃ r, build escapedDefinition = .ok r := exists_of_toBool (by decide +kernel)
  rw [hr] at hfault
  exact absurd hfault (by simp)

end RouteMatch.Route
