import RouteMatch.Proofs.Evaluation.Parameters

/-!
# The order of constraints

The constraints on server variables are tried one after the other, up to the first that is
not found, and each that is found writes its capture; the media types of a route are tried one
after the other as well.  Yet the order in which a definition lists them hardly matters.  A
route can be built from both listings or from none.  If all constraints are found, each of
them has written under its own name, so the captures are the same but for their order; if one
is not found, a server variable is the reason in both listings.  Only which of several missing
constraints is named, and what had been captured by then, depends on the order.  So does what
becomes of a server variable that has no text, an integer with too many digits: an evaluation
fails there, unless it has been rejected for another variable before.

A predicate is handed the captures in their order.  It must give the same verdict for every
order, up to the order of the captures that it gives itself.

## Main definitions

* `RouteDefinition.relisted` — a definition with other lists of constraints and media types.
* `Entries.IsReordered` — dictionaries that differ at most in the order of their entries.
* `Verdict.Agrees`, `Predicate.IgnoresOrder` — a predicate whose verdict does not depend on the
  order of captures.
* `Attempt.AgreesUpToOrder` — attempts that agree but for the order of entries.
* `EvaluationsAgree` — evaluations that do, unless both end at a server variable.

## Main results

* `Route.build_relisted` — routes can be built from both listings, with the same constraints.
* `Verdict.Agrees.read`, `extractParams_perm` — the predicate and the parameters.
* `evaluate_relisted` — **the order of constraints does not matter.**
-/

namespace RouteMatch

/-! ### Building -/

/-- A definition that lists its constraints and media types otherwise. -/
def RouteDefinition.relisted (d : RouteDefinition) (server : Entries String String)
    (accept : List String) : RouteDefinition :=
  { d with server := server, accept := accept }

namespace Route

/-- A route with its constraints and media types listed otherwise. -/
def relisted (r : Route) (server : Entries String String) (accept : List String)
    (constraints : List (String × Pattern)) : Route :=
  { r with definition := r.definition.relisted server accept, constraints := constraints }

/-- A definition whose media types are listed otherwise has no other fault. -/
theorem definitionFault?_relisted {d : RouteDefinition} (server : Entries String String)
    {accept : List String} (haccept : d.accept.Perm accept) (h : definitionFault? d = none) :
    definitionFault? (d.relisted server accept) = none := by
  obtain ⟨hvalid, hmediaTypes, hwildcard⟩ := definitionFault?_eq_none_iff.mp h
  refine definitionFault?_eq_none_iff.mpr ⟨hvalid, ?_, hwildcard⟩
  intro mediaType hmem
  exact hmediaTypes mediaType (haccept.mem_iff.mpr hmem)

/-- A route that is built from another listing has the same constraints in another order. -/
theorem build_relisted {d : RouteDefinition} {server : Entries String String}
    {accept : List String} (hserver : d.server.Perm server) (haccept : d.accept.Perm accept)
    {r : Route} (h : build d = .ok r) :
    ∃ constraints, r.constraints.Perm constraints ∧
      build (d.relisted server accept) = .ok (r.relisted server accept constraints) := by
  obtain ⟨hfault, pattern, constraints, hpattern, hconstraints, rfl⟩ := build_eq_ok_iff.mp h
  obtain ⟨constraints', hconstraints', hperm⟩ := compileConstraints_perm hserver hconstraints
  exact ⟨constraints', hperm, build_eq_ok_iff.mpr
    ⟨definitionFault?_relisted server haccept hfault, pattern, constraints', hpattern,
      hconstraints', rfl⟩⟩

/-- Routes can be built from both listings or from none. -/
theorem exists_build_relisted_iff {d : RouteDefinition} {server : Entries String String}
    {accept : List String} (hserver : d.server.Perm server) (haccept : d.accept.Perm accept) :
    (∃ r, build d = .ok r) ↔ ∃ r, build (d.relisted server accept) = .ok r := by
  constructor
  · rintro ⟨r, hbuild⟩
    obtain ⟨constraints, -, hbuild'⟩ := build_relisted hserver haccept hbuild
    exact ⟨_, hbuild'⟩
  · rintro ⟨r, hbuild⟩
    -- The first listing is the second one relisted.
    have hserver' : (d.relisted server accept).server.Perm d.server := hserver.symm
    have haccept' : (d.relisted server accept).accept.Perm d.accept := haccept.symm
    obtain ⟨constraints, -, hbuild'⟩ := build_relisted hserver' haccept' hbuild
    exact ⟨_, hbuild'⟩

end Route

/-! ### Dictionaries in another order -/

/-- Dictionaries that differ at most in the order of their entries. -/
structure Entries.IsReordered {κ β : Type} [BEq κ] (entries entries' : Entries κ β) : Prop where
  isDictionary : entries.IsDictionary
  isDictionary' : entries'.IsDictionary
  perm : entries.Perm entries'

namespace Entries.IsReordered

theorem refl {κ β : Type} [BEq κ] {entries : Entries κ β} (h : entries.IsDictionary) :
    entries.IsReordered entries :=
  ⟨h, h, .refl _⟩

theorem of_perm {κ β : Type} [BEq κ] [LawfulBEq κ] {entries entries' : Entries κ β}
    (h : entries.IsDictionary) (hperm : entries.Perm entries') : entries.IsReordered entries' :=
  ⟨h, isDictionary_iff_nodup.mpr ((hperm.map Prod.fst).nodup_iff.mp (isDictionary_iff_nodup.mp h)),
    hperm⟩

/-- Writes under different keys, in any order, into a dictionary in any order. -/
theorem update {κ β : Type} [BEq κ] [LawfulBEq κ] {entries entries' more more' : Entries κ β}
    (h : entries.IsReordered entries') (hmore : more.Perm more')
    (hnodup : (more.map Prod.fst).Nodup) :
    (entries.update more).IsReordered (entries'.update more') :=
  of_perm (h.isDictionary.update more)
    (update_perm h.perm hmore (isDictionary_iff_nodup.mp h.isDictionary) hnodup)

theorem asCaptures {named named' : Entries String Value} (h : named.IsReordered named') :
    named.asCaptures.IsReordered named'.asCaptures :=
  ⟨isDictionary_asCaptures h.isDictionary, isDictionary_asCaptures h.isDictionary', h.perm.map _⟩

end Entries.IsReordered

/-! ### Predicates -/

/-- Verdicts that say the same but for the order of the captures that they give. -/
inductive Verdict.Agrees : Value → Value → Prop
  | same (verdict : Value) : Agrees verdict verdict
  /-- Verdicts without captures that count alike. -/
  | plain {verdict verdict' : Value} (h : verdict.kind ≠ .tuple) (h' : verdict'.kind ≠ .tuple)
      (htrue : verdict.isTrue = verdict'.isTrue) : Agrees verdict verdict'
  | captures {ok ok' : Value} {captures captures' : Captures} (htrue : ok.isTrue = ok'.isTrue)
      (h : captures.IsReordered captures') :
      Agrees (.tuple [ok, .dict captures]) (.tuple [ok', .dict captures'])

/-- A predicate whose verdict does not depend on the order in which captures are listed. -/
def Predicate.IgnoresOrder (predicate : Predicate) : Prop :=
  ∀ (a : Attributes) (named named' : Entries String Value), named.IsReordered named' →
    Corresponds Verdict.Agrees (predicate a named.asCaptures) (predicate a named'.asCaptures)

/-- A predicate that adds captures ignores the order of those before it. -/
theorem Predicate.setCaptures_ignoresOrder (ok : Value) {more : Entries String Value}
    (hmore : more.IsDictionary) : (Predicate.setCaptures ok more.asCaptures).IgnoresOrder := by
  intro a named named' h
  have hupdate := (h.update (.refl more) (Entries.isDictionary_iff_nodup.mp hmore)).asCaptures
  rw [← Entries.update_asCaptures, ← Entries.update_asCaptures] at hupdate
  exact .value (.captures rfl hupdate)

/-- Judgements that agree but for the order of captures. -/
structure JudgementsAgree (outcome outcome' : Bool × Captures) : Prop where
  ok : outcome.1 = outcome'.1
  captures : outcome.2.IsReordered outcome'.2

/-- What is read of a verdict that is no tuple: whether it counts as true. -/
theorem Verdict.read_of_kind_ne {verdict : Value} (h : verdict.kind ≠ .tuple)
    (captures : Captures) : Verdict.read captures verdict = .ok (verdict.isTrue, captures) := by
  cases verdict with
  | tuple items => exact absurd rfl h
  | _ => rfl

/-- A tuple takes the place of the captures, whatever they were. -/
theorem Verdict.read_tuple (captures captures' : Captures) (items : List Value) :
    Verdict.read captures (.tuple items) = Verdict.read captures' (.tuple items) := by
  cases items with
  | nil => rfl
  | cons ok rest =>
    cases rest with
    | nil => rfl
    | cons updated rest => cases rest <;> rfl

theorem Verdict.read_captures {updated : Captures} (h : updated.IsDictionary)
    (captures : Captures) (ok : Value) :
    Verdict.read captures (.tuple [ok, .dict updated]) = .ok (ok.isTrue, updated) := by
  rw [Verdict.read, Value.entries, h.ofList_eq]
  rfl

/-- Verdicts that agree are read alike. -/
theorem Verdict.Agrees.read {verdict verdict' : Value} (hverdict : Verdict.Agrees verdict verdict')
    {captures captures' : Captures} (h : captures.IsReordered captures') :
    Corresponds JudgementsAgree (Verdict.read captures verdict)
      (Verdict.read captures' verdict') := by
  cases hverdict with
  | same =>
    cases verdict with
    | tuple items =>
      rw [Verdict.read_tuple captures captures']
      cases hresult : Verdict.read captures' (.tuple items) with
      | error why => exact .failure why
      | ok outcome => exact .value ⟨rfl, .refl (isDictionary_read h.isDictionary' hresult)⟩
    | _ => exact .value ⟨rfl, h⟩
  | plain hkind hkind' htrue =>
    rw [Verdict.read_of_kind_ne hkind, Verdict.read_of_kind_ne hkind']
    exact .value ⟨htrue, h⟩
  | captures htrue hcaptures =>
    rw [Verdict.read_captures hcaptures.isDictionary, Verdict.read_captures hcaptures.isDictionary']
    exact .value ⟨htrue, hcaptures⟩

/-! ### Evaluation -/

/-- Attempts that agree but for the order of captures and parameters, unless both are rejected
for a server variable. -/
inductive Attempt.AgreesUpToOrder : Attempt → Attempt → Prop
  | entries {params params' : Params} {captures captures' : Captures}
      (hparams : params.IsReordered params') (hcaptures : captures.IsReordered captures')
      (rejection : Option Rejection) :
      AgreesUpToOrder ⟨params, captures, rejection⟩ ⟨params', captures', rejection⟩
  | server (captures captures' : Captures) (name name' : String) :
      AgreesUpToOrder ⟨[], captures, some (.server name)⟩ ⟨[], captures', some (.server name')⟩

/-- An evaluation that ends at a server variable: it is rejected for one, or one has no text. -/
def EndsAtServer (result : Except Failure Attempt) : Prop :=
  result = .error .integerTooLong ∨
    ∃ captures name, result = .ok ⟨[], captures, some (.server name)⟩

/-- Evaluations of both listings.  A listing may come to a variable that has no text before it
comes to one that is not matched, and the other to the latter first. -/
inductive EvaluationsAgree (r : Route) (a : Attributes) :
    Except Failure Attempt → Except Failure Attempt → Prop
  | alike {result result' : Except Failure Attempt}
      (h : Corresponds Attempt.AgreesUpToOrder result result') : EvaluationsAgree r a result result'
  | server {result result' : Except Failure Attempt}
      (htextless : ∃ c ∈ r.constraints, serverText a c.1 = .error .integerTooLong)
      (h : EndsAtServer result) (h' : EndsAtServer result') : EvaluationsAgree r a result result'

theorem Negotiation.accepts_perm {mediaTypes mediaTypes' : List (List Char)}
    (h : mediaTypes.Perm mediaTypes') (header : Option (List Char)) :
    Negotiation.accepts mediaTypes header = Negotiation.accepts mediaTypes' header := by
  cases header with
  | none => rfl
  | some header => rw [Negotiation.accepts, Negotiation.accepts, h.isEmpty_eq, h.any_eq]

section Evaluation

variable {r : Route} {server : Entries String String} {accept : List String}
  {constraints : List (String × Pattern)} {path : String} {a : Attributes} {config : Config}

section Answers

variable (haccept : r.definition.accept.Perm accept) (hconstraints : r.constraints.Perm constraints)

include haccept

/-- The conditions before the server variables are answered alike. -/
theorem answer_relisted {c : Condition} (hc : c ≠ .predicate) (hserver : c ≠ .server) :
    c.answer (r.relisted server accept constraints) path a config = c.answer r path a config := by
  cases c with
  | accept =>
    have hempty : accept = [] ↔ r.definition.accept = [] := by
      rw [← List.isEmpty_iff, ← List.isEmpty_iff, haccept.isEmpty_eq]
    have haccepts := Negotiation.accepts_perm (haccept.map String.toList)
    simp only [Condition.answer, Route.relisted, RouteDefinition.relisted, hempty, haccepts]
  | server => exact absurd rfl hserver
  | predicate => exact absurd rfl hc
  | _ => rfl

include hconstraints

theorem holds_relisted {c : Condition} (hc : c ≠ .predicate) :
    c.holds (r.relisted server accept constraints) path a config = c.holds r path a config := by
  by_cases hserver : c = .server
  · subst hserver
    -- All constraints of one listing are found if all of the other are.
    rw [Bool.eq_iff_iff, holds_server_iff, holds_server_iff]
    constructor
    · intro h constraint hmem
      exact h constraint (hconstraints.mem_iff.mp hmem)
    · intro h constraint hmem
      exact h constraint (hconstraints.mem_iff.mpr hmem)
  · rw [Condition.holds, Condition.holds, answer_relisted haccept hc hserver]

theorem reached_relisted_iff (c : Condition) :
    c.Reached (r.relisted server accept constraints) path a config ↔ c.Reached r path a config := by
  have hne : ∀ c' ∈ c.earlier, c' ≠ .predicate := by
    rintro c' hmem rfl
    exact c.predicate_notMem_earlier hmem
  constructor
  · intro h c' hc'
    rw [← holds_relisted haccept hconstraints (hne c' hc')]
    exact h c' hc'
  · intro h c' hc'
    rw [holds_relisted haccept hconstraints (hne c' hc')]
    exact h c' hc'

end Answers

/-- If all constraints are found, they capture the same in any order. -/
theorem exists_serverCaptures_relisted (haccept : r.definition.accept.Perm accept)
    (hconstraints : r.constraints.Perm constraints) (hnodup : (r.constraints.map Prod.fst).Nodup)
    (h : Condition.server.holds r path a config = true) :
    ∃ named named' : Entries String Value, named.IsReordered named' ∧
      serverCaptures r path a config = named.asCaptures ∧
      serverCaptures (r.relisted server accept constraints) path a config = named'.asCaptures := by
  obtain ⟨named, hnamed, hgroups⟩ := exists_groupCaptures_eq r path config
  have h' : Condition.server.holds (r.relisted server accept constraints) path a config = true := by
    rw [holds_relisted haccept hconstraints (by decide), h]
  refine ⟨_, _, ?_, serverCaptures_of_holds r path a config hgroups h,
    serverCaptures_of_holds (r.relisted server accept constraints) path a config hgroups h'⟩
  refine (Entries.IsReordered.refl hnamed).update (hconstraints.map _) ?_
  rw [map_fst_constraintEntries]
  exact hnodup

/-- The judgement of a predicate is what is read of its verdict. -/
theorem judgement_of_some {p : Predicate} (hp : r.definition.predicate = some p)
    (captures : Captures) :
    judgement r a captures = (p a captures).bind (Verdict.read captures) := by
  rw [judgement, hp]
  cases h : p a captures <;> simp only [h, Except.bind]

/-- A predicate that ignores the order of captures judges them alike. -/
theorem judgement_agrees (hpredicate : ∀ p, r.definition.predicate = some p → p.IgnoresOrder)
    {named named' : Entries String Value} (h : named.IsReordered named') :
    Corresponds JudgementsAgree (judgement r a named.asCaptures)
      (judgement r a named'.asCaptures) := by
  cases hp : r.definition.predicate with
  | none =>
    rw [judgement_of_none hp, judgement_of_none hp]
    exact .value ⟨rfl, h.asCaptures⟩
  | some p =>
    rw [judgement_of_some hp, judgement_of_some hp]
    refine (hpredicate p hp a named named' h).bind ?_
    intro verdict verdict' hagrees
    exact hagrees.read h.asCaptures

/-- The same captures in another order give the same parameters in another order. -/
theorem extractParams_perm (hvalues : r.values.IsDictionary) {captures captures' : Captures}
    (h : captures.IsReordered captures') :
    Corresponds Entries.IsReordered (extractParams r captures) (extractParams r captures') := by
  have hwritten : (writtenParams captures).Perm (writtenParams captures') := h.perm.filterMap _
  have hoverlaid : (captures.foldl overlay r.values).IsReordered
      (captures'.foldl overlay r.values) := by
    rw [foldl_overlay, foldl_overlay]
    exact (Entries.IsReordered.refl hvalues).update hwritten (nodup_writtenParams h.isDictionary)
  unfold extractParams
  simp only []
  cases Route.wildcardOf r.definition with
  | none => exact .value hoverlaid
  | some w =>
    -- The wildcard is split from the same value.
    have hsame : (captures.foldl overlay r.values).get? w
        = (captures'.foldl overlay r.values).get? w :=
      Entries.get?_of_perm hoverlaid.perm
        (Entries.isDictionary_iff_nodup.mp hoverlaid.isDictionary) w
    simp only [hsame]
    refine (Corresponds.refl _).map ?_
    rintro pieces - rfl
    exact hoverlaid.update (.refl [(w, .list pieces)]) (by simp)

/-- Judgements that agree decide attempts that agree. -/
theorem attemptOf_agrees (hvalues : r.values.IsDictionary) {outcome outcome' : Bool × Captures}
    (h : JudgementsAgree outcome outcome') :
    Corresponds Attempt.AgreesUpToOrder (attemptOf r outcome) (attemptOf r outcome') := by
  unfold attemptOf
  rw [← h.ok]
  cases outcome.1 with
  | false => exact .value (.entries (.refl List.Pairwise.nil) h.captures _)
  | true =>
    refine (extractParams_perm hvalues h.captures).map ?_
    intro params params' hparams
    exact .entries hparams h.captures _

/-- The only failure to give the text of a server variable. -/
theorem serverText_eq_error {name : String} {failure : Failure}
    (h : serverText a name = .error failure) : failure = .integerTooLong := by
  rw [serverText, Value.toText] at h
  split at h
  · exact (Except.error.inj h).symm
  · exact absurd h (by simp)

/-- Where the server variables decide an evaluation, a constraint is not found in a text, or its
variable has none. -/
theorem evaluate_of_not_holds_server (hreached : Condition.server.Reached r path a config)
    (h : Condition.server.holds r path a config = false) :
    (∃ captures name, evaluate r path a config = .ok ⟨[], captures, some (.server name)⟩) ∨
      evaluate r path a config = .error .integerTooLong ∧
        ∃ c ∈ r.constraints, serverText a c.1 = .error .integerTooLong := by
  rw [evaluate_of_not_holds hreached h]
  rw [Condition.holds] at h
  rw [Condition.answer] at h ⊢
  cases hmissing : missingConstraint? r a with
  | none =>
    rw [hmissing] at h
    exact absurd h (by simp)
  | some c =>
    have hmem : c ∈ r.constraints := List.mem_of_find?_eq_some hmissing
    cases htext : serverText a c.1 with
    | ok text =>
      left
      refine ⟨Condition.server.left r path a config, c.1, ?_⟩
      simp only [htext, Except.map, Condition.rejection, hmissing, Option.elim_some]
    | error failure =>
      obtain rfl := serverText_eq_error htext
      exact Or.inr ⟨by simp [htext, Except.map], c, hmem, htext⟩

/-- An evaluation with the constraints in another order. -/
theorem evaluate_agrees (haccept : r.definition.accept.Perm accept)
    (hconstraints : r.constraints.Perm constraints)
    (hnodup : (r.constraints.map Prod.fst).Nodup) (hvalues : r.values.IsDictionary)
    (hpredicate : ∀ p, r.definition.predicate = some p → p.IgnoresOrder) :
    EvaluationsAgree r a (evaluate r path a config)
      (evaluate (r.relisted server accept constraints) path a config) := by
  have hreached : ∀ {c : Condition}, c.Reached r path a config →
      c.Reached (r.relisted server accept constraints) path a config := fun {c} =>
    (reached_relisted_iff haccept hconstraints c).mpr
  -- The predicate decides both evaluations, or the same earlier condition does.
  rcases predicate_reached_or_exists r path a config with hpred | ⟨c, hc, hlast, hholds⟩
  · have hfound : Condition.server.holds r path a config = true := hpred .server (by decide)
    obtain ⟨named, named', hnamed, heq, heq'⟩ := exists_serverCaptures_relisted haccept hconstraints
      hnodup hfound
    rw [evaluate_of_reached hpred, evaluate_of_reached (hreached hpred), heq, heq']
    refine .alike ((judgement_agrees hpredicate hnamed).bind ?_)
    intro outcome outcome' h
    exact attemptOf_agrees hvalues h
  · have hholds' : c.holds (r.relisted server accept constraints) path a config = false :=
      (holds_relisted haccept hconstraints hc).trans hholds
    by_cases hserver : c = .server
    · -- Which constraint is named, and what was captured by then, depends on the order.
      subst hserver
      rcases evaluate_of_not_holds_server hlast hholds with ⟨_, _, heq⟩ | ⟨heq, htextless⟩
      · rcases evaluate_of_not_holds_server (hreached hlast) hholds' with
          ⟨_, _, heq'⟩ | ⟨heq', c, hmem, htext⟩
        · rw [heq, heq']
          exact .alike (.value (.server _ _ _ _))
        · exact .server ⟨c, hconstraints.mem_iff.mpr hmem, htext⟩ (.inr ⟨_, _, heq⟩) (.inl heq')
      · rcases evaluate_of_not_holds_server (hreached hlast) hholds' with
          ⟨_, _, heq'⟩ | ⟨heq', -⟩
        · exact .server htextless (.inl heq) (.inr ⟨_, _, heq'⟩)
        · rw [heq, heq']
          exact .alike (.failure _)
    · rw [evaluate_of_not_holds hlast hholds, evaluate_of_not_holds (hreached hlast) hholds',
        answer_relisted haccept hc hserver]
      refine .alike ((Corresponds.refl _).map ?_)
      rintro ok - rfl
      have hleft : (c.left r path a config).IsDictionary := isDictionary_left c
      cases c with
      | server => exact absurd rfl hserver
      | predicate => exact absurd rfl hc
      | _ => exact .entries (.refl List.Pairwise.nil) (.refl hleft) _

end Evaluation

/-- **The order of constraints does not matter.**  Let a definition list its constraints and its
media types in two ways.  A route can be built from both listings or from none.  The evaluations
of both routes fail alike, or both give attempts, whatever the path, the attributes and the
configuration, if the verdict of the predicate does not depend on the order of captures.  Both
attempts match, with the same parameters and the same captures, or both are rejected for the same
reason, with the same captures; only if the reason is a server variable, it may be another one.
Of a server variable that has no text, an integer with too many digits, one listing may fail
where the other rejects a variable before it. -/
theorem evaluate_relisted {d : RouteDefinition} {server : Entries String String}
    {accept : List String} (hserver : d.server.Perm server) (haccept : d.accept.Perm accept)
    (hdictionary : d.server.IsDictionary) (hvalues : d.values.IsDictionary)
    (hpredicate : ∀ p, d.predicate = some p → p.IgnoresOrder) :
    ((∃ r, Route.build d = .ok r) ↔ ∃ r, Route.build (d.relisted server accept) = .ok r) ∧
      ∀ r r', Route.build d = .ok r → Route.build (d.relisted server accept) = .ok r' →
        ∀ path a config,
          EvaluationsAgree r a (evaluate r path a config) (evaluate r' path a config) := by
  refine ⟨Route.exists_build_relisted_iff hserver haccept, ?_⟩
  intro r r' hbuild hbuild' path a config
  obtain ⟨constraints, hconstraints, hrelisted⟩ := Route.build_relisted hserver haccept hbuild
  obtain rfl := Except.ok.inj (hrelisted.symm.trans hbuild')
  have hdefinition := Route.definition_of_build hbuild
  have hnodup : (r.constraints.map Prod.fst).Nodup := by
    rw [Route.map_fst_constraints_of_build hbuild]
    exact Entries.isDictionary_iff_nodup.mp hdictionary
  have hdefaults : r.values.IsDictionary :=
    Entries.isDictionary_iff_nodup.mpr
      (Route.nodup_values_of_build hbuild (Entries.isDictionary_iff_nodup.mp hvalues))
  refine evaluate_agrees ?_ hconstraints hnodup hdefaults ?_
  · rw [hdefinition]
    exact haccept
  · rw [hdefinition]
    exact hpredicate

/-- The definition of a route with two constraints, one of them under the name of a token, and a
predicate that adds a capture. -/
def visitorDefinition : RouteDefinition :=
  { path := "/host/{id}"
    accept := ["text/html", "application/json"]
    server := [("HOST", "[a-z]+"), ("id", "[0-9]+")]
    predicate := some (Predicate.setCaptures (.bool true)
      (Entries.asCaptures [("lang", .text "en")])) }

/-- Attributes that meet both constraints. -/
def visitorAttributes : Attributes :=
  { accept := .text "application/json;q=0.5"
    server := [(.text "id", .text "no 42"), (.text "HOST", .text "www")] }

theorem evaluate_relisted_visitorDefinition :
    ∃ r r', Route.build visitorDefinition = .ok r ∧
      Route.build (visitorDefinition.relisted [("id", "[0-9]+"), ("HOST", "[a-z]+")]
        ["application/json", "text/html"]) = .ok r' ∧
      (evaluate r "/host/7" visitorAttributes {}).toOption.any Attempt.matched = true ∧
      EvaluationsAgree r visitorAttributes (evaluate r "/host/7" visitorAttributes {})
        (evaluate r' "/host/7" visitorAttributes {}) := by
  obtain ⟨r, hbuild, hmatched⟩ : ∃ r, Route.build visitorDefinition = .ok r ∧
      (evaluate r "/host/7" visitorAttributes {}).toOption.any Attempt.matched = true :=
    exists_of_any_toOption (by decide +kernel)
  have hpredicate : ∀ p, visitorDefinition.predicate = some p → p.IgnoresOrder := by
    intro p hp
    obtain rfl := Option.some.inj hp
    exact Predicate.setCaptures_ignoresOrder _ (List.pairwise_singleton _ _)
  obtain ⟨hiff, hagree⟩ :=
    evaluate_relisted (d := visitorDefinition) (.swap _ _ []) (.swap _ _ [])
      (Entries.isDictionary_iff_nodup.mpr (by decide)) List.Pairwise.nil hpredicate
  obtain ⟨r', hbuild'⟩ := hiff.mp ⟨r, hbuild⟩
  exact ⟨r, r', hbuild, hbuild', hmatched, hagree r r' hbuild hbuild' _ _ _⟩

end RouteMatch
