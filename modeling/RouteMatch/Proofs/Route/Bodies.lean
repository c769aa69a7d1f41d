import RouteMatch.Proofs.Route.Constraints
import RouteMatch.Proofs.Route.Failures
import RouteMatch.Proofs.Template.Bodies

/-!
# The patterns that a route is given

Building a route compiles the patterns of tokens and constraints in the place where they
are written, between the parentheses of a group, and never alone.  A pattern that is
confined is nonetheless refused if it is no pattern in its own right.  A pattern that is
not confined may be completed by the text around it: it can end its group and begin
another.

## Main definitions

* `HasPlainText` — the text of a template stands for itself in a pattern.
* `StaysInGroup` — a pattern that a definition was given and that is confined.

## Main results

* `Route.patternText_eq_transcription` — the pattern text of a plain template.
* `Route.refused_of_invalid` — **a confined pattern that is no pattern on its own is
  refused.**
* `Route.not_refused_splitDefinition` — a pattern that is not confined may be accepted.
-/

namespace RouteMatch.Template

/-- The character that a part is, if it is one. -/
def Part.char? : Part → Option Char
  | .char c => some c
  | _ => none

end RouteMatch.Template

namespace RouteMatch.Route

open Pattern (Confined RefersToNone HasOversizedCount)
open Template

/-! ### Plain templates -/

/-- The text of a template, outside of its placeholders, stands for itself in a
pattern. -/
def HasPlainText (d : RouteDefinition) : Prop :=
  ∀ c, Template.Part.char c ∈ parts d.path.toList → Pattern.isPlain c = true

instance (d : RouteDefinition) : Decidable (HasPlainText d) :=
  decidable_of_iff
    (((parts d.path.toList).all fun p => p.char?.all Pattern.isPlain) = true) <| by
    rw [List.all_eq_true]
    constructor
    · intro h c hc
      simpa [Template.Part.char?] using h _ hc
    · intro h p hp
      cases p with
      | char c => exact h c hp
      | token name => rfl
      | group names => rfl

/-- The names of the tokens of a template. -/
def tokensOf (d : RouteDefinition) : List (List Char) :=
  (parts d.path.toList).flatMap Template.Part.names

/-- The parts of a template that are kept in its pattern: a wildcard takes the place of
the slashes at the end. -/
def keptParts (d : RouteDefinition) : List Template.Part :=
  match wildcardOf d with
  | none => parts d.path.toList
  | some _ => (parts d.path.toList).rdropWhile fun p => p = .char '/'

variable {d : RouteDefinition}

theorem closed_of_hasPlainText (hplain : HasPlainText d) : Closed d.path.toList := by
  intro c hc
  exact ne_brace_of_isPlain (hplain c (List.mem_map_of_mem hc))

theorem isPlain_of_hasPlainText (hplain : HasPlainText d) (hfault : definitionFault? d = none) :
    ∀ p ∈ parts d.path.toList, p.isPlain = true := by
  intro p hp
  have hwell := isWellFormed_of_mem_parts (validate_of_definitionFault? hfault)
    (closed_of_hasPlainText hplain) p hp
  cases p with
  | char c => exact hplain c hp
  | token name => exact hwell
  | group names => exact hwell

theorem mem_parts_of_mem_keptParts {p : Template.Part} (h : p ∈ keptParts d) :
    p ∈ parts d.path.toList := by
  unfold keptParts at h
  split at h
  · exact h
  · exact (List.rdropWhile_prefix _ _).subset h

theorem flatMap_names_keptParts : (keptParts d).flatMap Template.Part.names = tokensOf d := by
  unfold keptParts
  split
  · rfl
  · exact flatMap_names_rdropWhile _

theorem isName_of_mem_tokensOf (hplain : HasPlainText d) (hfault : definitionFault? d = none)
    {name : List Char} (h : name ∈ tokensOf d) : isName name = true := by
  obtain ⟨p, hp, hname⟩ := List.mem_flatMap.mp h
  have hpart := isPlain_of_hasPlainText hplain hfault p hp
  cases p with
  | char c => exact absurd hname List.not_mem_nil
  | token n =>
    obtain rfl := List.mem_singleton.mp hname
    exact hpart
  | group names =>
    simp only [Template.Part.isPlain, Template.Part.isWellFormed, Bool.and_eq_true,
      List.all_eq_true] at hpart
    exact hpart.2 name hname

theorem isPlain_keptParts (hplain : HasPlainText d) (hfault : definitionFault? d = none) :
    ∀ p ∈ keptParts d, p.isPlain = true :=
  fun p hp => isPlain_of_hasPlainText hplain hfault p (mem_parts_of_mem_keptParts hp)

theorem hasConfined_keptParts (hplain : HasPlainText d) (hfault : definitionFault? d = none)
    (hconfined : ∀ name ∈ tokensOf d, Confined (tokenBody d.tokens name)) :
    HasConfined d.tokens ((keptParts d).flatMap Template.Part.names) := by
  rw [flatMap_names_keptParts]
  exact fun n hn => ⟨isName_of_mem_tokensOf hplain hfault hn, hconfined n hn⟩

/-- The pattern of the rest of a path passes after that of a template. -/
theorem passes_wildcardOf (hfault : definitionFault? d = none) :
    Pattern.Passes (wildcardSketch ((wildcardOf d).map String.toList)).text
      (((wildcardOf d).map String.toList).toList.map fun _ => ".*".toList) := by
  refine passes_wildcardSketch fun w hw => ?_
  obtain ⟨w', hw', rfl⟩ := Option.map_eq_some_iff.mp hw
  exact isName_wildcard hfault hw'

/-- **The pattern text of a plain template** is the transcription of its parts and the
group for the rest of the path. -/
theorem patternText_eq_transcription (hplain : HasPlainText d)
    (hfault : definitionFault? d = none) :
    patternText d = String.ofList ('^' :: (transcription d.tokens (keptParts d)
      ++ (wildcardSketch ((wildcardOf d).map String.toList)).text) ++ ['$']) := by
  have hvalid := validate_of_definitionFault? hfault
  have hwell := isWellFormed_of_mem_parts hvalid (closed_of_hasPlainText hplain)
  have htext : expandTokens d.tokens (tokenTemplate d)
      = transcription d.tokens (parts d.path.toList) := by
    rw [← expandTokens_expandOptional_written d.tokens hwell (countP_isGroup_le_one hvalid),
      written_parts, tokenTemplate]
  unfold patternText keptParts
  simp only [htext]
  cases wildcardOf d with
  | none => simp [wildcardSketch, Pattern.Sketch.text]
  | some w =>
    simp only [expandWildcard, stripSlashes_transcription hwell, Option.map_some]
    simp [wildcardSketch, Pattern.Sketch.text, Pattern.Span.text]

/-! ### Patterns that are read in their place -/

/-- A compiled pattern is what its text is read as. -/
theorem exists_parse_of_compile {path source : String} {p : Pattern}
    (h : compile path source = .ok p) :
    ∃ parsed, Pattern.parse source.toList = .ok parsed ∧ p.regex = parsed.regex ∧
      p.names = parsed.names.map fun (name, index) => (String.ofList name, index) := by
  unfold compile Pattern.compile at h
  cases hparse : Pattern.parse source.toList with
  | error failure =>
    rw [hparse] at h
    cases failure <;> exact absurd h (by simp [Except.map])
  | ok parsed =>
    rw [hparse] at h
    obtain rfl := Except.ok.inj h
    exact ⟨parsed, rfl, rfl, rfl⟩

theorem exists_compile_of_parse {body : List Char} {parsed : Pattern.Parsed}
    (h : Pattern.parse body = .ok parsed) :
    ∃ p, Pattern.compile (String.ofList body) = .ok p := by
  rw [Pattern.compile, String.toList_ofList, h]
  exact ⟨_, rfl⟩

/-- A text that the machine comes to inside a group is a pattern. -/
theorem exists_compile_of_reached {final : Pattern.State} {body : List Char}
    (h : Pattern.Reached final body) (hfinal : final.fixedLookbehinds = true)
    (hbody : Confined body) (hrefers : RefersToNone body) :
    ∃ p, Pattern.compile (String.ofList body) = .ok p := by
  obtain ⟨st, start, position, name, rest, hscan⟩ := h
  obtain ⟨parsed, hparsed⟩ := Pattern.exists_parse_of_scan hbody hrefers hscan hfinal
  exact exists_compile_of_parse hparsed

/-- A confined pattern of a constraint is a pattern on its own. -/
theorem exists_compile_of_constraint {path : String} {entry : String × String}
    {constraint : String × Pattern} (h : compileConstraint path entry = .ok constraint)
    (hbody : Confined entry.2.toList) (hrefers : RefersToNone entry.2.toList) :
    ∃ p, Pattern.compile (String.ofList entry.2.toList) = .ok p := by
  unfold compileConstraint at h
  split at h
  · next hname =>
    obtain ⟨p, hcompile, -⟩ := map_eq_ok h
    obtain ⟨parsed, hparse, -⟩ := exists_parse_of_compile hcompile
    obtain ⟨final, hscan, hfixed, -⟩ := Pattern.exists_scan_of_parse hparse
    -- The text of a constraint is one group, at the beginning of a pattern.
    have htext : (constraintText entry.1 entry.2).toList
        = "(?P<".toList ++ entry.1.toList ++ '>' :: (entry.2.toList ++ ')' :: []) := by
      simp [constraintText, namedGroup]
    rw [htext] at hscan
    obtain ⟨-, stop, hinside⟩ := Pattern.State.exists_inside_of_scan hname rfl hscan
    exact exists_compile_of_reached ⟨_, _, _, _, _, hinside⟩ hfixed hbody hrefers
  · exact absurd h (by simp)

/-- A confined pattern of a token is a pattern on its own. -/
theorem exists_compile_of_token {pattern : Pattern} (hplain : HasPlainText d)
    (hfault : definitionFault? d = none)
    (hcompile : compile d.path (patternText d) = .ok pattern)
    (hconfined : ∀ name ∈ tokensOf d, Confined (tokenBody d.tokens name)) {name : List Char}
    (hname : name ∈ tokensOf d) (hrefers : RefersToNone (tokenBody d.tokens name)) :
    ∃ p, Pattern.compile (String.ofList (tokenBody d.tokens name)) = .ok p := by
  have hpasses := (passes_transcription (isPlain_keptParts hplain hfault)
    (hasConfined_keptParts hplain hfault hconfined)).append (passes_wildcardOf hfault)
  obtain ⟨parsed, hparse, -⟩ := exists_parse_of_compile hcompile
  rw [patternText_eq_transcription hplain hfault, String.toList_ofList] at hparse
  obtain ⟨final, hfixed, hreached⟩ := hpasses.reached hparse
  refine exists_compile_of_reached (hreached _ (List.mem_append_left _ ?_)) hfixed
    (hconfined name hname) hrefers
  rw [flatMap_names_keptParts]
  exact List.mem_map_of_mem hname

/-! ### Refusals -/

/-- A pattern that a definition was given and that is confined.  For the pattern of a
token the rest of the template must not interfere: its text stands for itself, and the
patterns of the other tokens are confined as well. -/
inductive StaysInGroup (d : RouteDefinition) : List Char → Prop
  | constraint {entry : String × String} (given : entry ∈ d.server)
    (confined : Confined entry.2.toList) : StaysInGroup d entry.2.toList
  | token {name : List Char} (given : name ∈ tokensOf d) (plain : HasPlainText d)
    (confined : ∀ n ∈ tokensOf d, Confined (tokenBody d.tokens n)) :
    StaysInGroup d (tokenBody d.tokens name)

/-- **A confined pattern that is no pattern on its own is refused**, if it refers to no
group.  The refusal names the definition, unless a pattern has an oversized count. -/
theorem refused_of_invalid {body : List Char} (hbody : StaysInGroup d body)
    (hrefers : RefersToNone body)
    (hinvalid : ∀ p, Pattern.compile (String.ofList body) ≠ .ok p) :
    (∃ fault, build d = .error (.route d.path fault)) ∨
      (∃ body ∈ bodies d, HasOversizedCount body) ∧
        ∃ failure, IsCountFailure failure ∧ build d = .error failure := by
  cases hbuild : build d with
  | error failure =>
    rcases error_of_build hbuild with ⟨fault, rfl⟩ | ⟨hfailure, hcount⟩
    · exact Or.inl ⟨fault, rfl⟩
    · exact Or.inr ⟨hcount, failure, hfailure, rfl⟩
  | ok r =>
    -- A route that is built has compiled the pattern in its place.
    obtain ⟨hfault, pattern, constraints, hpattern, hconstraints, -⟩ := build_eq_ok_iff.mp hbuild
    have hvalid : ∃ p, Pattern.compile (String.ofList body) = .ok p := by
      cases hbody with
      | constraint given confined =>
        obtain ⟨constraint, hconstraint⟩ := exists_compileConstraint hconstraints given
        exact exists_compile_of_constraint hconstraint confined hrefers
      | token given plain confined =>
        exact exists_compile_of_token plain hfault hpattern confined given hrefers
    obtain ⟨p, hp⟩ := hvalid
    exact absurd hp (hinvalid p)

/-- The definition of a route whose token has a pattern that repeats a repetition. -/
def starDefinition : RouteDefinition :=
  { path := "/\x7bid\x7d"
    tokens := [("id", .text "a**")] }

theorem refused_of_invalid_starDefinition :
    StaysInGroup starDefinition "a**".toList ∧ RefersToNone "a**".toList ∧
      (∀ p, Pattern.compile "a**" ≠ .ok p) ∧
      ∃ fault, build starDefinition = .error (.route starDefinition.path fault) := by
  have hname : "id".toList ∈ tokensOf starDefinition := by decide +kernel
  have hbody : tokenBody starDefinition.tokens "id".toList = "a**".toList := by decide +kernel
  have hstays : StaysInGroup starDefinition "a**".toList :=
    hbody ▸ .token hname (by decide +kernel) (by decide +kernel)
  have hrefers : RefersToNone "a**".toList := by decide +kernel
  have hcompile : Pattern.compile (String.ofList "a**".toList)
      = .error (.invalid ⟨.multipleRepeat, some 2⟩) := by decide +kernel
  have hinvalid : ∀ p, Pattern.compile (String.ofList "a**".toList) ≠ .ok p := by
    intro p
    rw [hcompile]
    simp
  refine ⟨hstays, hrefers, by simpa using hinvalid, ?_⟩
  -- No pattern holds a brace, so that none has an oversized count.
  refine (refused_of_invalid hstays hrefers hinvalid).resolve_right ?_
  rintro ⟨⟨body, hmem, least, most, -, hsub⟩, -⟩
  have hbodies : ∀ body ∈ bodies starDefinition, '\x7b' ∉ body := by decide +kernel
  exact hbodies body hmem (hsub.subset (by simp [Pattern.bracedCounts]))

/-- The definition of a route whose token has a pattern that ends its group and begins
another. -/
def splitDefinition : RouteDefinition :=
  { path := "/\x7bid\x7d"
    tokens := [("id", .text "a)(b")] }

/-- A pattern that is no pattern on its own need not be refused. -/
theorem not_refused_splitDefinition :
    ¬∀ body ∈ bodies splitDefinition, (∀ p, Pattern.compile (String.ofList body) ≠ .ok p) →
      ∃ failure, build splitDefinition = .error failure := by
  have hbody : "a)(b".toList ∈ bodies splitDefinition := by decide +kernel
  have hcompile : Pattern.compile (String.ofList "a)(b".toList)
      = .error (.invalid ⟨.unbalanced, some 1⟩) := by decide +kernel
  obtain ⟨r, hr⟩ : ∃ r, build splitDefinition = .ok r := exists_of_toBool (by decide +kernel)
  intro h
  obtain ⟨failure, hfailure⟩ := h _ hbody fun p => by rw [hcompile]; simp
  rw [hr] at hfailure
  exact absurd hfailure (by simp)

end RouteMatch.Route
