import RouteMatch.Proofs.Evaluation.Parameters

/-!
# Tightened definitions

A definition is tightened by more constraints on server variables, by fewer methods and media
types, by a demand on the connection where there was none, by a predicate, or by making it
unreachable.  Each condition of a match that holds on the tightened route holds on the other
one: methods and media types must be left over, since none at all stand for any.  So a tightened
route matches nothing else, and without a predicate it gives the same parameters, except for
those under the names of the new constraints.

## Main definitions

* `Narrows` — a list of choices, where none stand for any, that allows nothing else.
* `RouteDefinition.Tightens` — a definition that tightens another one.

## Main results

* `answer_of_tightens` — a condition that holds on the tightened route holds on the other one.
* `get?_extractParams_congr` — a parameter depends on the capture under its name only.
* `evaluate_tightens` — **a tightened route matches nothing else.**
-/

namespace RouteMatch

/-! ### Tightened definitions -/

/-- A list of choices that allows nothing but what another list allows, if no choices at all
allow everything. -/
def Narrows (narrow wide : List String) : Prop :=
  narrow = wide ∨ narrow ≠ [] ∧ (wide = [] ∨ narrow ⊆ wide)

/-- A definition that tightens another one, by new constraints among other things. -/
structure RouteDefinition.Tightens (d' d : RouteDefinition) (added : Entries String String) :
    Prop where
  path : d'.path = d.path
  tokens : d'.tokens = d.tokens
  values : d'.values = d.values
  wildcard : d'.wildcard = d.wildcard
  /-- The connection is left alone, or there was no demand on it. -/
  secure : d'.secure = d.secure ∨ d.secure = none
  methods : Narrows d'.methods d.methods
  accept : Narrows d'.accept d.accept
  /-- The new constraints stand among the old ones. -/
  server : (d.server ++ added).Perm d'.server
  isDictionary : d'.server.IsDictionary
  routable : d'.routable = true → d.routable = true

section Narrows

variable {narrow wide : List String}

theorem Narrows.ne_nil (h : Narrows narrow wide) (hwide : wide ≠ []) : narrow ≠ [] := by
  rcases h with rfl | ⟨hne, -⟩
  · exact hwide
  · exact hne

theorem Narrows.subset (h : Narrows narrow wide) (hwide : wide ≠ []) : narrow ⊆ wide := by
  rcases h with rfl | ⟨-, hnil | hsubset⟩
  · exact List.Subset.refl _
  · exact absurd hnil hwide
  · exact hsubset

/-- Of more media types one is accepted if one of fewer is. -/
theorem Negotiation.accepts_of_subset {mediaTypes mediaTypes' : List (List Char)}
    (hne : mediaTypes ≠ []) (h : mediaTypes ⊆ mediaTypes') {header : Option (List Char)}
    (haccepts : Negotiation.accepts mediaTypes header = true) :
    Negotiation.accepts mediaTypes' header = true := by
  cases header with
  | none => rfl
  | some header =>
    rw [Negotiation.accepts] at haccepts ⊢
    rcases Bool.or_eq_true_iff.mp haccepts with hany | hany
    · rcases Bool.or_eq_true_iff.mp hany with hempty | hall
      · exact absurd (List.isEmpty_iff.mp hempty) hne
      · rw [hall, Bool.or_true, Bool.true_or]
    · obtain ⟨mediaType, hmem, haccepted⟩ := List.any_eq_true.mp hany
      rw [List.any_eq_true.mpr ⟨mediaType, h hmem, haccepted⟩, Bool.or_true]

end Narrows

/-! ### Tightened routes -/

/-- What two built routes have to do with each other if the definition of one tightens that of
the other. -/
structure Route.Tightens (r' r : Route) (added : Entries String String) : Prop where
  definition : r'.definition.Tightens r.definition added
  pattern : r'.pattern = r.pattern
  values : r'.values = r.values
  /-- The new constraints are compiled, and stand among the old ones. -/
  constraints : ∃ more : List (String × Pattern), more.map Prod.fst = added.map Prod.fst ∧
    (r.constraints ++ more).Perm r'.constraints
  nodup : (r'.constraints.map Prod.fst).Nodup

theorem Route.tightens_of_build {d d' : RouteDefinition} {added : Entries String String}
    (h : d'.Tightens d added) {r r' : Route} (hbuild : Route.build d = .ok r)
    (hbuild' : Route.build d' = .ok r') : r'.Tightens r added := by
  have hnodup : (r'.constraints.map Prod.fst).Nodup := by
    rw [map_fst_constraints_of_build hbuild']
    exact Entries.isDictionary_iff_nodup.mp h.isDictionary
  obtain ⟨-, pattern, constraints, hpattern, hconstraints, rfl⟩ := build_eq_ok_iff.mp hbuild
  obtain ⟨-, pattern', constraints', hpattern', hconstraints', rfl⟩ := build_eq_ok_iff.mp hbuild'
  have htext : patternText d' = patternText d := by
    simp only [patternText, wildcardOf, tokenTemplate, h.path, h.tokens, h.wildcard]
  obtain ⟨both, hboth, hperm⟩ := compileConstraints_perm h.server.symm hconstraints'
  obtain ⟨front, more, hfront, hmore, rfl⟩ := compileConstraints_append hboth
  rw [h.path, hconstraints] at hfront
  obtain rfl := Except.ok.inj hfront
  refine ⟨h, ?_, ?_, ⟨more, map_fst_of_compileConstraints hmore, hperm.symm⟩, hnodup⟩
  · rw [htext, h.path, hpattern] at hpattern'
    exact (Except.ok.inj hpattern').symm
  · simp only [tokenTemplate, h.path, h.values]

section Conditions

variable {r r' : Route} {added : Entries String String} (h : r'.Tightens r added)
  {path : String} {a : Attributes} {config : Config}

include h

/-- All that the path captures is captured on both routes. -/
theorem groupCaptures_of_tightens :
    groupCaptures r' path config = groupCaptures r path config := by
  rw [groupCaptures, groupCaptures, pathMatch?, pathMatch?, h.pattern]

/-- **A condition that holds on the tightened route holds on the other one.** -/
theorem answer_of_tightens (hpredicate : r.definition.predicate = none) {c : Condition}
    (hc : c.answer r' path a config = .ok true) : c.answer r path a config = .ok true := by
  cases c with
  | routable => exact congrArg Except.ok (h.definition.routable (Except.ok.inj hc))
  | secure =>
    rw [Condition.answer] at hc ⊢
    rcases h.definition.secure with hsecure | hsecure
    · rw [← hsecure]
      exact hc
    · rw [hsecure]
  | path =>
    rw [Condition.answer, pathMatch?, h.pattern] at hc
    exact hc
  | method =>
    rw [Condition.answer] at hc ⊢
    by_cases hwide : r.definition.methods = []
    · rw [if_pos hwide]
    · rw [if_neg hwide]
      rw [if_neg (h.definition.methods.ne_nil hwide)] at hc
      obtain ⟨u, hhashable, hany⟩ := map_eq_ok hc
      obtain ⟨m, hm, hequal⟩ := List.any_eq_true.mp hany
      have hallowed : (r.definition.methods.any fun m => a.method == .text m) = true :=
        List.any_eq_true.mpr ⟨m, h.definition.methods.subset hwide hm, hequal⟩
      rw [hhashable, hallowed]
      rfl
  | accept =>
    rw [Condition.answer] at hc ⊢
    by_cases hwide : r.definition.accept = []
    · rw [if_pos hwide]
    · -- The tightened route has media types too, so that it looks at the same header.
      have hnarrow := h.definition.accept.ne_nil hwide
      rw [if_neg hwide]
      rw [if_neg hnarrow] at hc
      split at hc
      · rfl
      · refine congrArg Except.ok (Negotiation.accepts_of_subset ?_ ?_ (Except.ok.inj hc))
        · simpa using hnarrow
        · exact List.map_subset _ (h.definition.accept.subset hwide)
      · exact absurd hc (by simp)
  | server =>
    obtain ⟨more, -, hperm⟩ := h.constraints
    have hfound := holds_server_iff.mp (Condition.holds_iff.mpr hc)
    refine Condition.holds_iff.mp (holds_server_iff.mpr ?_)
    intro constraint hconstraint
    exact hfound constraint (hperm.mem_iff.mp (List.mem_append_left _ hconstraint))
  | predicate =>
    rw [Condition.answer, judgement_of_none hpredicate]
    rfl

/-- The server variables capture the same under names that are not new. -/
theorem get?_serverCaptures_of_tightens
    (hholds : Condition.server.holds r path a config = true)
    (hholds' : Condition.server.holds r' path a config = true) {key : String}
    (hkey : key ∉ added.map Prod.fst) :
    (serverCaptures r' path a config).get? (.text key)
      = (serverCaptures r path a config).get? (.text key) := by
  obtain ⟨more, hmore, hperm⟩ := h.constraints
  obtain ⟨named, -, hgroups⟩ := exists_groupCaptures_eq r path config
  have hgroups' := (groupCaptures_of_tightens h).trans hgroups
  have hnodup' : ((constraintEntries a r'.constraints).map Prod.fst).Nodup := by
    rw [map_fst_constraintEntries]
    exact h.nodup
  -- In another order the new constraints come last; none of them writes under the name.
  have hentries : (constraintEntries a r'.constraints).Perm
      (constraintEntries a r.constraints ++ constraintEntries a more) := by
    rw [constraintEntries, constraintEntries, constraintEntries, ← List.map_append]
    exact hperm.symm.map _
  have hnodup : ((constraintEntries a r.constraints).map Prod.fst).Nodup := by
    have happend := (hentries.map Prod.fst).nodup_iff.mp hnodup'
    rw [List.map_append] at happend
    exact (List.nodup_append.mp happend).1
  have hnew : (constraintEntries a more).get? key = none := by
    rw [Entries.get?_eq_none_iff, map_fst_constraintEntries, hmore]
    exact hkey
  rw [serverCaptures_of_holds r path a config hgroups hholds,
    serverCaptures_of_holds r' path a config hgroups' hholds', Entries.get?_asCaptures,
    Entries.get?_asCaptures, Entries.get?_update hnodup, Entries.get?_update hnodup',
    Entries.get?_of_perm hentries hnodup', Entries.get?_append, hnew, Option.or_none]

end Conditions

/-! ### Parameters -/

/-- A parameter depends on the capture under its name only. -/
theorem get?_extractParams_congr {r r' : Route} (hvalues : r'.values = r.values)
    (hwildcard : Route.wildcardOf r'.definition = Route.wildcardOf r.definition)
    {captures captures' : Captures} (hcaptures : captures.IsDictionary)
    (hcaptures' : captures'.IsDictionary) {params params' : Params}
    (h : extractParams r captures = .ok params) (h' : extractParams r' captures' = .ok params')
    {key : String} (hkey : captures'.get? (.text key) = captures.get? (.text key)) :
    params'.get? key = params.get? key := by
  have hoverlaid : (captures'.foldl overlay r'.values).get? key
      = (captures.foldl overlay r.values).get? key := by
    rw [get?_foldl_overlay hcaptures, get?_foldl_overlay hcaptures', hkey, hvalues]
  rcases extractParams_eq_ok h with ⟨hw, rfl⟩ | ⟨w, pieces, hw, hpieces, rfl⟩
  · rcases extractParams_eq_ok h' with ⟨-, rfl⟩ | ⟨w', -, hw', -, -⟩
    · exact hoverlaid
    · rw [hwildcard, hw] at hw'
      exact absurd hw' (by simp)
  · rcases extractParams_eq_ok h' with ⟨hw', -⟩ | ⟨w', pieces', hw', hpieces', rfl⟩
    · rw [hwildcard, hw] at hw'
      exact absurd hw' (by simp)
    · rw [hwildcard, hw] at hw'
      obtain rfl := Option.some.inj hw'
      rw [Entries.get?_insert, Entries.get?_insert]
      by_cases hname : w = key
      · -- The pieces are those of the same value.
        subst hname
        rw [hoverlaid, hpieces] at hpieces'
        rw [Except.ok.inj hpieces', hoverlaid]
      · rw [hoverlaid, if_neg (by simpa using hname), if_neg (by simpa using hname)]

/-! ### Evaluation -/

/-- **A tightened route matches nothing else.**  Let a route without a predicate be built whose
defaults are texts or nothing, and another one whose definition tightens that of the first.
Whatever the path, the attributes and the configuration: if the second route matches, the first
one matches.  If the second one has no predicate either, both give the same parameters, except
under the names of its new constraints. -/
theorem evaluate_tightens {d d' : RouteDefinition} {added : Entries String String}
    (h : d'.Tightens d added) (hpredicate : d.predicate = none)
    (hvalues : ∀ key value, d.values.get? key = some value → value.isOptionalText = true)
    {r r' : Route} (hbuild : Route.build d = .ok r) (hbuild' : Route.build d' = .ok r')
    {path : String} {a : Attributes} {config : Config} {attempt' : Attempt}
    (heval' : evaluate r' path a config = .ok attempt') (hmatched' : attempt'.matched = true) :
    ∃ attempt, evaluate r path a config = .ok attempt ∧ attempt.matched = true ∧
      (d'.predicate = none → ∀ key, key ∉ added.map Prod.fst →
        attempt'.params.get? key = attempt.params.get? key) := by
  have htightens := Route.tightens_of_build h hbuild hbuild'
  have hnone : r.definition.predicate = none := by
    rw [Route.definition_of_build hbuild]
    exact hpredicate
  rcases evaluate_eq_ok heval' with ⟨hholds', params', hextract', rfl⟩ | ⟨c, -, -, rfl⟩
  · have hanswer : ∀ c : Condition, c.answer r path a config = .ok true := by
      intro c
      exact answer_of_tightens htightens hnone (Condition.holds_iff.mp (hholds' c))
    obtain ⟨params, hextract, -⟩ :=
      exists_params hbuild hvalues (isOptionalText_left r path a config hnone)
    refine ⟨⟨params, Condition.predicate.left r path a config, none⟩, ?_, rfl, ?_⟩
    · -- Captures of texts or nothing over such defaults give parameters.
      rw [evaluate_of_holds fun c => Condition.holds_iff.mpr (hanswer c), hextract]
      rfl
    · intro hpredicate' key hkey
      have hnone' : r'.definition.predicate = none := by
        rw [Route.definition_of_build hbuild']
        exact hpredicate'
      have hwildcard : Route.wildcardOf r'.definition = Route.wildcardOf r.definition := by
        rw [Route.wildcardOf, Route.wildcardOf, htightens.definition.wildcard]
      refine get?_extractParams_congr htightens.values hwildcard (isDictionary_left .predicate)
        (isDictionary_left .predicate) hextract hextract' ?_
      rw [left_predicate_of_none r path a config hnone,
        left_predicate_of_none r' path a config hnone']
      exact get?_serverCaptures_of_tightens htightens (Condition.holds_iff.mpr (hanswer .server))
        (hholds' .server) hkey
  · exact absurd hmatched' (by simp [Attempt.matched])

/-- The definition of a route with a constraint and two media types. -/
def reportDefinition : RouteDefinition :=
  { path := "/report/{id}"
    wildcard := some "rest"
    accept := ["text/html", "application/json"]
    server := [("HOST", "[a-z]+")] }

/-- The same with one media type, a method, a secure connection, and a constraint in front that
has the name of the token. -/
def strictReportDefinition : RouteDefinition :=
  { reportDefinition with
    secure := some true
    methods := ["GET"]
    accept := ["application/json"]
    server := [("id", "[0-9]+"), ("HOST", "[a-z]+")] }

/-- Attributes that the stricter route accepts. -/
def reportAttributes : Attributes :=
  { https := .text "on"
    accept := .text "application/json"
    server := [(.text "HOST", .text "www"), (.text "id", .text "no 42")] }

theorem evaluate_tightens_strictReportDefinition :
    strictReportDefinition.Tightens reportDefinition [("id", "[0-9]+")] ∧
    ∃ r r' attempt attempt', Route.build reportDefinition = .ok r ∧
      Route.build strictReportDefinition = .ok r' ∧
      evaluate r "/report/7/a/b" reportAttributes {} = .ok attempt ∧
      evaluate r' "/report/7/a/b" reportAttributes {} = .ok attempt' ∧
      attempt'.matched = true ∧ attempt.matched = true ∧
      attempt'.params.get? "rest" = attempt.params.get? "rest" := by
  have htightens : strictReportDefinition.Tightens reportDefinition [("id", "[0-9]+")] := by
    refine ⟨rfl, rfl, rfl, rfl, Or.inr rfl, Or.inr ⟨by decide, Or.inl rfl⟩,
      Or.inr ⟨by decide, Or.inr (by decide)⟩, .swap _ _ [], ?_, id⟩
    exact Entries.isDictionary_iff_nodup.mpr (by decide)
  obtain ⟨r', hbuild', hmatches⟩ : ∃ r', Route.build strictReportDefinition = .ok r' ∧
      (evaluate r' "/report/7/a/b" reportAttributes {}).toOption.any Attempt.matched = true :=
    exists_of_any_toOption (by decide +kernel)
  obtain ⟨attempt', heval', hmatched'⟩ := exists_of_any_toOption hmatches
  obtain ⟨r, hbuild⟩ : ∃ r, Route.build reportDefinition = .ok r :=
    exists_of_toBool (by decide +kernel)
  have hvalues : ∀ key value, reportDefinition.values.get? key = some value →
      value.isOptionalText = true := by
    intro key value hget
    exact absurd hget (by simp [reportDefinition])
  obtain ⟨attempt, heval, hmatched, hparams⟩ :=
    evaluate_tightens htightens rfl hvalues hbuild hbuild' heval' hmatched'
  exact ⟨htightens, r, r', attempt, attempt', hbuild, hbuild', heval, heval', hmatched', hmatched,
    hparams rfl "rest" (by decide)⟩

end RouteMatch
