import RouteMatch.Proofs.Path.CatchAll
import RouteMatch.Proofs.Path.EarlierNames
import RouteMatch.Proofs.Route.RepeatedNames
import RouteMatch.Proofs.Template.TrailingSlashes

/-!
# Adding a wildcard

A route that was built without a wildcard is built with one as well, if its name is a new one, and
matches every path that it matched: the group for the rest of the path may take nothing, or the
slashes of the path that it is written in place of.  That is so whatever the text of the template
and the patterns of its tokens say, with one exception.  The slashes at the end are dropped as they
are written, so if the first of them is escaped, a route without a wildcard may end so and one with
a wildcard may not.

## Main definitions

* `RouteDefinition.addWildcard` — the same definition with a wildcard.

## Main results

* `Route.build_addWildcard` — **a wildcard keeps what a route matches.**
* `Route.not_build_addWildcard_slashDefinition` — a template that ends in an escaped slash.
-/

namespace RouteMatch

open Template

/-- The same definition with a wildcard. -/
def RouteDefinition.addWildcard (d : RouteDefinition) (w : String) : RouteDefinition :=
  { d with wildcard := some w }

/-! ### Parameters -/

/-- What texts, or nothing, leave of a parameter is the parameter or another text. -/
theorem get?_foldl_overlay_cases {captures : Captures}
    (h : ∀ capture ∈ captures, capture.2.isOptionalText = true) (params : Params) (key : String) :
    (captures.foldl overlay params).get? key = params.get? key ∨
      ∃ text, (captures.foldl overlay params).get? key = some (.text text) := by
  induction captures generalizing params with
  | nil => exact Or.inl rfl
  | cons capture rest ih =>
    rw [List.foldl_cons]
    rcases ih (fun other hother => h other (List.mem_cons_of_mem _ hother)) (overlay params capture)
      with hsame | htext
    · rw [hsame]
      rcases overlay_cases params (h capture List.mem_cons_self) with heq | ⟨name, text, -, heq⟩
      · exact Or.inl (by rw [heq])
      · rw [heq, Entries.get?_insert]
        split
        · exact Or.inr ⟨text, rfl⟩
        · exact Or.inl rfl
    · exact Or.inr htext

namespace Route

variable {d : RouteDefinition} {r : Route} {w : String}

/-- The defaults that a built route has for the names of its template are empty. -/
theorem getD_values_of_build (hbuild : build d = .ok r) (key : String) :
    (r.values.get? key).getD .none = (d.values.get? key).getD .none := by
  rw [get?_values_of_build hbuild]
  cases d.values.get? key with
  | some value => rfl
  | none =>
    rw [Option.none_or]
    split
    · rfl
    · rfl

/-! ### The pattern -/

theorem wildcardOf_addWildcard (hname : isName w.toList = true) :
    wildcardOf (d.addWildcard w) = some w := by
  have hne : w ≠ "" := by
    rintro rfl
    exact absurd hname (by decide)
  simp [wildcardOf, RouteDefinition.addWildcard, hne]

/-- A definition has no other fault with a wildcard whose name is a name. -/
theorem definitionFault?_addWildcard (hfault : definitionFault? d = none)
    (hname : isName w.toList = true) : definitionFault? (d.addWildcard w) = none := by
  obtain ⟨hvalid, haccept, -⟩ := definitionFault?_eq_none_iff.mp hfault
  refine definitionFault?_eq_none_iff.mpr ⟨hvalid, haccept, fun v hv => ?_⟩
  rw [wildcardOf_addWildcard hname] at hv
  exact Option.some.inj hv ▸ hname

theorem patternText_addWildcard (hname : isName w.toList = true) :
    patternText (d.addWildcard w)
      = String.ofList ('^' :: expandWildcard (expandedText d) w.toList ++ ['$']) :=
  patternText_of_some (wildcardOf_addWildcard hname)

/-- The pattern of a built route without a wildcard. -/
theorem exists_parse_expandedText (hbuild : build d = .ok r) (hnone : wildcardOf d = none) :
    ∃ parsed, Pattern.parse ('^' :: expandedText d ++ ['$']) = .ok parsed ∧
      r.pattern.regex = parsed.regex ∧
      r.pattern.names = parsed.names.map fun (name, index) => (String.ofList name, index) := by
  obtain ⟨-, pattern, constraints, hpattern, -, rfl⟩ := build_eq_ok_iff.mp hbuild
  rw [patternText_of_none hnone] at hpattern
  obtain ⟨parsed, hparse, hregex, hnames⟩ := exists_parse_of_compile hpattern
  rw [String.toList_ofList] at hparse
  exact ⟨parsed, hparse, hregex, hnames⟩

theorem notMem_names_parsed {p : Pattern} {parsed : Pattern.Parsed}
    (hnames : p.names = parsed.names.map fun (name, index) => (String.ofList name, index))
    (hnew : w ∉ p.names.map Prod.fst) : w.toList ∉ parsed.names.map Prod.fst := by
  intro hmem
  obtain ⟨⟨name, index⟩, hentry, rfl⟩ := List.mem_map.mp hmem
  refine hnew ?_
  rw [hnames, List.map_map]
  exact List.mem_map.mpr ⟨_, hentry, String.ofList_toList⟩

section

variable (hbuild : build d = .ok r) (hnone : wildcardOf d = none) (hname : isName w.toList = true)
  (hnew : w ∉ r.pattern.names.map Prod.fst)

include hbuild hnone hname hnew

/-- A route is built with a wildcard, and its pattern matches what it did. -/
theorem exists_build_addWildcard (hescape : ¬EndsInEscape (expandedText d)) :
    ∃ r', build (d.addWildcard w) = .ok r' ∧
      ∀ path, (r.pattern.matchAll? path).isSome → (r'.pattern.matchAll? path).isSome := by
  obtain ⟨parsed, hparse, hregex, hnames⟩ := exists_parse_expandedText hbuild hnone
  obtain ⟨parsed', hparse', hmatches⟩ :=
    exists_parse_expandWildcard hparse hname (notMem_names_parsed hnames hnew) hescape
  obtain ⟨hfault, pattern, constraints, -, hconstraints, rfl⟩ := build_eq_ok_iff.mp hbuild
  obtain ⟨p, hp⟩ : ∃ p, compile d.path (patternText (d.addWildcard w)) = .ok p := by
    obtain ⟨p, hp⟩ := exists_compile_of_parse hparse'
    refine ⟨p, ?_⟩
    rw [patternText_addWildcard hname, compile, hp]
  have hregex' : p.regex = parsed'.regex := by
    obtain ⟨parsed₂, hparse₂, hregex₂, -⟩ := exists_parse_of_compile hp
    rw [patternText_addWildcard hname, String.toList_ofList, hparse'] at hparse₂
    rw [hregex₂, Except.ok.inj hparse₂]
  refine ⟨_, build_eq_ok_iff.mpr
    ⟨definitionFault?_addWildcard hfault hname, p, constraints, hp, hconstraints, rfl⟩, ?_⟩
  intro path hpath
  simp only [Pattern.matchAll?, Option.isSome_map, hregex'] at hpath ⊢
  exact hmatches path.toList (hregex ▸ hpath)

/-- A route is not built with a wildcard if its pattern ends in an escape. -/
theorem build_addWildcard_escaped (hescape : EndsInEscape (expandedText d)) :
    ∃ fault, build (d.addWildcard w) = .error (.route d.path fault) := by
  obtain ⟨parsed, hparse, -, hnames⟩ := exists_parse_expandedText hbuild hnone
  obtain ⟨position, herror⟩ :=
    parse_expandWildcard_escaped hparse hname (notMem_names_parsed hnames hnew) hescape
  obtain ⟨hfault, -⟩ := build_eq_ok_iff.mp hbuild
  have hcompile : Pattern.compile (patternText (d.addWildcard w))
      = .error (.at position .unbalanced) := by
    rw [Pattern.compile, patternText_addWildcard hname, String.toList_ofList, herror]
    rfl
  refine ⟨.pattern (patternText (d.addWildcard w)) ⟨.unbalanced, some position⟩, ?_⟩
  rw [build, definitionFault?_addWildcard hfault hname]
  simp only [compile, hcompile]
  rfl

end

end Route

/-! ### The evaluation -/

section

variable {d : RouteDefinition} {r r' : Route} {w : String}

/-- What stands under a name after a path was matched can be split, or it is the default. -/
theorem splitWildcard_cases (hbuild : Route.build d = .ok r) (w path : String) (config : Config) :
    (∃ pieces, splitWildcard
        ((((groupCaptures r path config).foldl overlay r.values).get? w).getD .none) = .ok pieces) ∨
      (((groupCaptures r path config).foldl overlay r.values).get? w).getD .none
        = (d.values.get? w).getD .none := by
  rcases get?_foldl_overlay_cases (isOptionalText_groupCaptures r path config) r.values w
    with hdefault | ⟨text, htext⟩
  · right
    rw [hdefault, Route.getD_values_of_build hbuild]
  · left
    rw [htext]
    obtain ⟨texts, htexts⟩ := exists_splitWildcard (v := .text text) rfl
    exact ⟨_, htexts⟩

section

variable (hbuild : Route.build d = .ok r) (hbuild' : Route.build (d.addWildcard w) = .ok r')
  (hmatches : ∀ path, (r.pattern.matchAll? path).isSome → (r'.pattern.matchAll? path).isSome)
  (hd : IsUnconstrained d) {path : String} {a : Attributes} {config : Config} {attempt : Attempt}
  (hlimit : config.maxPathLength = none) (heval : evaluate r path a config = .ok attempt)
  (hmatched : attempt.matched = true)

include hbuild hbuild' hmatches hd hlimit heval hmatched

/-- No check rejects with a wildcard what matched without one, if the pattern does not. -/
theorem firstRejection_addWildcard :
    firstRejection (checks r' path a config) []
      = .silent (.ok (groupCaptures r' path config, none)) := by
  have hdefinition := Route.definition_of_build hbuild
  have hcheck := checkPath_of_evaluate (hdefinition ▸ hd)
    (Route.constraints_eq_nil_of_build hbuild hd.server) heval hmatched
  obtain ⟨v, hv, -⟩ := exists_match_of_checkPath hcheck
  obtain ⟨m, hm⟩ : ∃ m, r'.pattern.matchAll? path = some m := by
    refine Option.isSome_iff_exists.mp (hmatches path ?_)
    rw [Pattern.matchAll?, hv]
    rfl
  have hcheck' : checkPath r' path config [] = .ok (groupCaptures r' path config, none) := by
    simp [checkPath, groupCaptures, pathMatch?, hlimit, hm, exceeds]
  have hplain : IsUnconstrained { r'.definition with wildcard := none } := by
    rw [Route.definition_of_build hbuild']
    exact ⟨rfl, hd.secure, hd.methods, hd.accept, hd.server, hd.predicate, hd.routable⟩
  exact firstRejection_unconstrained hplain
    (Route.constraints_eq_nil_of_build hbuild' hd.server) hcheck'

/-- What matches without a wildcard matches with one if the pattern matches what it did, unless
the default of the wildcard cannot be split. -/
theorem evaluate_addWildcard (hname : isName w.toList = true) :
    (∃ attempt', evaluate r' path a config = .ok attempt' ∧ attempt'.matched = true) ∨
      ∃ failure, splitWildcard ((d.values.get? w).getD .none) = .error failure ∧
        evaluate r' path a config = .error failure := by
  have hfirst := firstRejection_addWildcard hbuild hbuild' hmatches hd hlimit heval hmatched
  have hwildcard : Route.wildcardOf r'.definition = some w := by
    rw [Route.definition_of_build hbuild']
    exact Route.wildcardOf_addWildcard hname
  let captures := groupCaptures r' path config
  cases hsplit : splitWildcard (((captures.foldl overlay r'.values).get? w).getD .none) with
  | ok pieces =>
    left
    obtain ⟨params, hparams, -⟩ := extractParams_of_wildcard r' captures hwildcard hsplit
    refine ⟨⟨params, captures, none⟩, ?_, rfl⟩
    rw [evaluate, evaluation, hfirst]
    simp only [Asked.bind_silent_ok, Asked.result_silent, captures, hparams, Except.map]
  | error failure =>
    right
    refine ⟨failure, ?_, ?_⟩
    · rcases splitWildcard_cases hbuild' w path config with ⟨pieces, hpieces⟩ | hdefault
      · rw [hpieces] at hsplit
        exact absurd hsplit (by simp)
      · rw [← hsplit]
        exact congrArg splitWildcard hdefault.symm
    · rw [evaluate, evaluation, hfirst]
      simp only [captures] at hsplit
      simp only [Asked.bind_silent_ok, Asked.result_silent, extractParams, hwildcard, hsplit,
        Except.map]

end

end

namespace Route

/-- **A wildcard keeps what a route matches.**  Take a route that was built without a wildcard,
whatever the text of its template and the patterns of its tokens are, and a name that no group of
its pattern has.  If the slashes at the end of the pattern are not escaped, the definition with
this wildcard is built as well, and its pattern matches every path that it matched before.  So on a
route that asks for nothing but the path, every path that matched does so again, unless the default
under the name is nothing that can be split; then the evaluation fails with that.  If the slashes
are escaped, the definition is refused. -/
theorem build_addWildcard {d : RouteDefinition} {r : Route} {w : String} (hbuild : build d = .ok r)
    (hnone : wildcardOf d = none) (hname : isName w.toList = true)
    (hnew : w ∉ r.pattern.names.map Prod.fst) :
    (¬EndsInEscape (expandedText d) → ∃ r', build (d.addWildcard w) = .ok r' ∧
        (∀ path, (r.pattern.matchAll? path).isSome → (r'.pattern.matchAll? path).isSome) ∧
        (IsUnconstrained d →
          ∀ (path : String) (a : Attributes) (config : Config) (attempt : Attempt),
            config.maxPathLength = none → evaluate r path a config = .ok attempt →
            attempt.matched = true →
            (∃ attempt', evaluate r' path a config = .ok attempt' ∧ attempt'.matched = true) ∨
              ∃ failure, splitWildcard ((d.values.get? w).getD .none) = .error failure ∧
                evaluate r' path a config = .error failure)) ∧
      (EndsInEscape (expandedText d) →
        ∃ fault, build (d.addWildcard w) = .error (.route d.path fault)) := by
  refine ⟨fun hescape => ?_, build_addWildcard_escaped hbuild hnone hname hnew⟩
  obtain ⟨r', hbuild', hmatches⟩ := exists_build_addWildcard hbuild hnone hname hnew hescape
  refine ⟨r', hbuild', hmatches, fun hd path a config attempt hlimit heval hmatched => ?_⟩
  exact evaluate_addWildcard hbuild hbuild' hmatches hd hlimit heval hmatched hname

/-- The definition of a route whose template ends in an escaped backslash and a slash. -/
def backslashDefinition : RouteDefinition :=
  { path := "/(?:a|b)*\\\\/" }

/-- The definition of a route whose template ends in an escaped slash. -/
def slashDefinition : RouteDefinition :=
  { path := "/a\\/" }

theorem build_addWildcard_backslashDefinition :
    (∃ r r' attempt attempt', build backslashDefinition = .ok r ∧
        build (backslashDefinition.addWildcard "rest") = .ok r' ∧
        (r.pattern.matchAll? "/ab\\/").isSome = true ∧
        (r'.pattern.matchAll? "/ab\\/").isSome = true ∧
        evaluate r "/ab\\/" {} { maxPathLength := none } = .ok attempt ∧
        attempt.matched = true ∧
        evaluate r' "/ab\\/" {} { maxPathLength := none } = .ok attempt' ∧
        attempt'.matched = true) ∧
      ∃ fault, build (slashDefinition.addWildcard "rest")
        = .error (.route slashDefinition.path fault) := by
  constructor
  · obtain ⟨r, hbuild, hr⟩ :
        ∃ r, build backslashDefinition = .ok r ∧
          (decide ("rest" ∉ r.pattern.names.map Prod.fst) &&
            (r.pattern.matchAll? "/ab\\/").isSome &&
            (evaluate r "/ab\\/" {} { maxPathLength := none }).toOption.any Attempt.matched)
            = true :=
      exists_of_any_toOption (by decide +kernel)
    simp only [Bool.and_eq_true] at hr
    obtain ⟨⟨hnew, hmatch⟩, hattempt⟩ := hr
    obtain ⟨attempt, heval, hmatched⟩ := exists_of_any_toOption hattempt
    obtain ⟨r', hbuild', hmatches, hevaluates⟩ := (build_addWildcard hbuild (by decide)
      (by decide) (of_decide_eq_true hnew)).1 (by decide +kernel)
    have hdefault : splitWildcard ((backslashDefinition.values.get? "rest").getD .none) = .ok [] :=
      rfl
    obtain ⟨attempt', heval', hmatched'⟩ := (hevaluates ⟨rfl, rfl, rfl, rfl, rfl, rfl, rfl⟩
        "/ab\\/" {} { maxPathLength := none } attempt rfl heval hmatched).resolve_right <| by
      rintro ⟨failure, hfailure, -⟩
      rw [hdefault] at hfailure
      exact absurd hfailure (by simp)
    exact ⟨r, r', attempt, attempt', hbuild, hbuild', hmatch, hmatches _ hmatch, heval, hmatched,
      heval', hmatched'⟩
  · obtain ⟨r, hbuild, hnew⟩ :
        ∃ r, build slashDefinition = .ok r ∧
          decide ("rest" ∉ r.pattern.names.map Prod.fst) = true :=
      exists_of_any_toOption (by decide +kernel)
    exact (build_addWildcard hbuild (by decide) (by decide) (of_decide_eq_true hnew)).2
      (by decide +kernel)

/-- A template that ends in an escaped slash is refused with a wildcard. -/
theorem not_build_addWildcard_slashDefinition :
    ∃ r, build slashDefinition = .ok r ∧ wildcardOf slashDefinition = none ∧
      isName "rest".toList = true ∧ "rest" ∉ r.pattern.names.map Prod.fst ∧
      (r.pattern.matchAll? "/a/").isSome = true ∧
      ¬∃ r', build (slashDefinition.addWildcard "rest") = .ok r' := by
  obtain ⟨r, hbuild, hr⟩ :
      ∃ r, build slashDefinition = .ok r ∧
        (decide ("rest" ∉ r.pattern.names.map Prod.fst) && (r.pattern.matchAll? "/a/").isSome)
          = true :=
    exists_of_any_toOption (by decide +kernel)
  obtain ⟨hnew, hmatch⟩ := Bool.and_eq_true_iff.mp hr
  have hrefused : (build (slashDefinition.addWildcard "rest")).toBool = false := by
    decide +kernel
  refine ⟨r, hbuild, by decide, by decide, of_decide_eq_true hnew, hmatch, ?_⟩
  rintro ⟨r', hr'⟩
  rw [hr'] at hrefused
  exact absurd hrefused (by simp [Except.toBool])

end Route

end RouteMatch
