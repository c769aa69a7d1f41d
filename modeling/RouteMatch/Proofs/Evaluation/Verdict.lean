import RouteMatch.Proofs.Evaluation.Limits
import RouteMatch.Proofs.Evaluation.Overlay
import RouteMatch.Proofs.Route.RepeatedNames

/-!
# The verdict on a path

What a match asks for, in terms of the route, the attributes and the configuration alone: the
named groups of the pattern, the texts of the server variables and what is found in them, the
limit on the length, and what the predicate says.  A path matches exactly if seven conditions are
met.  Otherwise the first that is not met gives the only reason, and what has been captured is
what the conditions before it left behind.

None of this mentions a check.  That the checks of an evaluation come to the same is shown one
condition after the other.

## Main definitions

* `Match.groupValues` — what the named groups of a match captured.
* `Attributes.HasText`, `Attributes.Finds` — the text of a server variable, and what a constraint
  captures from it.
* `Tries` — constraints that are tried in order.
* `Verdict.Means`, `Route.Judges` — what a verdict means, and how a route judges captures.
* `Condition.Met`, `Condition.IsDefined` — a condition is met, and it can be told whether it is.
* `Condition.LeavesBehind`, `Condition.Explains` — what has been captured where an evaluation
  stops, and the reason that it gives.

## Main results

* `Condition.met_iff`, `Condition.isDefined_iff` — the conditions and their answers.
* `Condition.leavesBehind_iff`, `Condition.explains_iff` — what is captured and what is said.
* `evaluate_verdict` — **the outcome of an evaluation.**
-/

namespace RouteMatch

/-! ### Named groups -/

/-- What the named groups of a match captured, each under its name; a group that took no part has
captured nothing. -/
def Match.groupValues (m : Match) : Captures :=
  m.pattern.names.map fun group => (.text group.1, (m.captured? group.2).elim .none .text)

/-- If no name is repeated, the captures of a path are those of the named groups. -/
theorem Match.update_pathCaptures {m : Match} (h : (m.pattern.names.map Prod.fst).Nodup) :
    Entries.update [] (pathCaptures m) = m.groupValues := by
  have hsame : pathCaptures m = m.groupValues := by
    rw [pathCaptures, Match.named, Match.groupValues, List.map_map]
    refine List.map_congr_left ?_
    intro group _
    cases hcaptured : m.captured? group.2 <;> simp [hcaptured]
  have hdictionary : m.groupValues.IsDictionary := by
    refine List.pairwise_map.mpr ((List.pairwise_map.mp h).imp ?_)
    intro group later hne
    exact Bool.eq_false_iff.mpr fun heq => hne (eq_of_beq heq)
  rw [hsame]
  exact hdictionary.ofList_eq

/-! ### Kinds -/

theorem Value.kind_eq_text_iff {v : Value} : v.kind = .text ↔ ∃ s, v = .text s := by
  cases v with
  | number n => cases n <;> simp [kind]
  | _ => simp [kind]

theorem Value.kind_eq_tuple_iff {v : Value} : v.kind = .tuple ↔ ∃ items, v = .tuple items := by
  cases v with
  | number n => cases n <;> simp [kind]
  | _ => simp [kind]

/-- A value that is no text is written out. -/
theorem Value.asText_of_kind_ne {v : Value} (h : v.kind ≠ .text) : v.asText = v.display := by
  cases v with
  | text s => exact absurd rfl h
  | _ => rfl

/-! ### Server variables -/

section Server

variable {a : Attributes}

/-- The text of a server variable.  One that is missing is empty, and a value that is no text is
written out, unless it is or holds an integer with too many digits. -/
inductive Attributes.HasText (a : Attributes) (name : String) : String → Prop
  | missing (h : a.server.get? (.text name) = none) : HasText a name ""
  | text {s : String} (h : a.server.get? (.text name) = some (.text s)) : HasText a name s
  | written {v : Value} (h : a.server.get? (.text name) = some v) (hkind : v.kind ≠ .text)
      (hshort : v.holdsTooLong = false) : HasText a name v.display

theorem Attributes.hasText_iff {name text : String} :
    a.HasText name text ↔ serverText a name = .ok text := by
  constructor
  · intro h
    cases h with
    | missing h => rw [serverText, h]; rfl
    | text h => rw [serverText, h]; rfl
    | @written v h hkind hshort =>
      rw [serverText, h, Option.getD_some, Value.toText, hshort, Value.asText_of_kind_ne hkind]
      rfl
  · intro h
    rw [serverText] at h
    cases hget : a.server.get? (.text name) with
    | none =>
      rw [hget] at h
      obtain rfl := Except.ok.inj h
      exact .missing hget
    | some v =>
      rw [hget, Option.getD_some, Value.toText] at h
      split at h
      · exact absurd h (by simp)
      · next hshort =>
        obtain rfl := Except.ok.inj h
        by_cases hkind : v.kind = .text
        · obtain ⟨s, rfl⟩ := Value.kind_eq_text_iff.mp hkind
          exact .text hget
        · rw [Value.asText_of_kind_ne hkind]
          exact .written hget hkind (Bool.eq_false_iff.mpr hshort)

/-- A constraint is found in its variable, and the group of its name captures a value. -/
def Attributes.Finds (a : Attributes) (constraint : String × Pattern) (value : Value) : Prop :=
  ∃ text m, a.HasText constraint.1 text ∧ constraint.2.find? text = some m ∧
    value = (m.namedCapture? constraint.1).elim .none .text

theorem Attributes.finds_iff {constraint : String × Pattern} {value : Value} :
    a.Finds constraint value ↔ constraintCapture? a constraint = some value := by
  rw [Attributes.Finds, constraintCapture?]
  simp only [Attributes.hasText_iff]
  cases htext : serverText a constraint.1 with
  | error failure => simp [Except.toOption]
  | ok text => cases hfind : constraint.2.find? text <;> simp [Except.toOption, hfind, eq_comm]

/-- Constraints are tried in order, up to the first that is not found.  Each that is found puts
what it captures over the captures. -/
inductive Tries (a : Attributes) :
    Captures → List (String × Pattern) → Captures → (missing : Option String) → Prop
  | done (captures : Captures) : Tries a captures [] captures none
  | missing {captures : Captures} {constraint : String × Pattern} {text : String}
      (htext : a.HasText constraint.1 text) (hfind : constraint.2.find? text = none)
      (rest : List (String × Pattern)) :
      Tries a captures (constraint :: rest) captures (some constraint.1)
  | found {captures captures' : Captures} {constraint : String × Pattern} {value : Value}
      {rest : List (String × Pattern)} {missing : Option String}
      (hfound : a.Finds constraint value)
      (hrest : Tries a (captures.insert (.text constraint.1) value) rest captures' missing) :
      Tries a captures (constraint :: rest) captures' missing

/-- Constraints are tried until one is not found in a text. -/
theorem tries_iff {constraints : List (String × Pattern)} {captures captures' : Captures}
    {missing : Option String} :
    Tries a captures constraints captures' missing ↔
      captures' = (constraints.takeWhile fun c => (constraintCapture? a c).isSome).foldl
        (fun captures c => captures.insert (.text c.1) ((constraintCapture? a c).getD .none))
        captures ∧
      match constraints.find? fun c => (constraintCapture? a c).isNone with
      | none => missing = none
      | some c => missing = some c.1 ∧ ∃ text, serverText a c.1 = .ok text := by
  induction constraints generalizing captures with
  | nil =>
    constructor
    · intro h
      cases h
      exact ⟨rfl, rfl⟩
    · rintro ⟨rfl, rfl⟩
      exact .done _
  | cons constraint rest ih =>
    cases hcapture : constraintCapture? a constraint with
    | none =>
      simp only [List.takeWhile_cons, List.find?_cons, hcapture, Option.isSome_none,
        Option.isNone_none, Bool.false_eq_true, if_false, List.foldl_nil]
      constructor
      · intro h
        cases h with
        | missing htext hfind => exact ⟨rfl, rfl, _, Attributes.hasText_iff.mp htext⟩
        | found hfound hrest =>
          rw [Attributes.finds_iff, hcapture] at hfound
          exact absurd hfound (by simp)
      · rintro ⟨rfl, rfl, text, htext⟩
        refine .missing (Attributes.hasText_iff.mpr htext) ?_ rest
        rw [constraintCapture?, htext] at hcapture
        simpa [Except.toOption] using hcapture
    | some value =>
      simp only [List.takeWhile_cons, List.find?_cons, hcapture, Option.isSome_some,
        Option.isNone_some, if_true, List.foldl_cons, Option.getD_some]
      rw [← ih]
      constructor
      · intro h
        cases h with
        | missing htext hfind =>
          rw [constraintCapture?, Attributes.hasText_iff.mp htext] at hcapture
          simp [Except.toOption, hfind] at hcapture
        | found hfound hrest =>
          rw [Attributes.finds_iff, hcapture] at hfound
          obtain rfl := Option.some.inj hfound
          exact hrest
      · exact .found (Attributes.finds_iff.mpr hcapture)

end Server

/-! ### Verdicts -/

/-- What a verdict means for the captures that the predicate was asked about.  A pair takes its
second item, read as a dictionary, for the captures; any other verdict leaves them alone. -/
inductive Verdict.Means (captures : Captures) : Value → (ok : Bool) → Captures → Prop
  | plain {verdict : Value} (h : verdict.kind ≠ .tuple) :
    Means captures verdict verdict.isTrue captures
  | replaced {ok updated : Value} {entries : Captures} (h : updated.entries = .ok entries) :
      Means captures (.tuple [ok, updated]) ok.isTrue entries

theorem Verdict.means_iff {captures captures' : Captures} {verdict : Value} {ok : Bool} :
    Verdict.Means captures verdict ok captures' ↔
      Verdict.read captures verdict = .ok (ok, captures') := by
  constructor
  · intro h
    cases h with
    | plain h =>
      cases verdict with
      | tuple items => exact absurd rfl h
      | _ => rfl
    | replaced h => rw [Verdict.read, h]; rfl
  · intro h
    unfold Verdict.read at h
    split at h
    · obtain ⟨entries, hentries, heq⟩ := map_eq_ok h
      obtain ⟨rfl, rfl⟩ := Prod.mk.inj heq
      exact .replaced hentries
    · exact absurd h (by simp)
    · exact absurd h (by simp)
    · next hnot hlong htuple =>
      obtain ⟨rfl, rfl⟩ := Prod.mk.inj (Except.ok.inj h)
      refine .plain fun hkind => ?_
      obtain ⟨items, rfl⟩ := Value.kind_eq_tuple_iff.mp hkind
      exact htuple items rfl

section Conditions

variable (r : Route) (path : String) (a : Attributes) (config : Config)

/-- How a route judges captures.  Without a predicate everything is in favour. -/
def Route.Judges (captures : Captures) (ok : Bool) (captures' : Captures) : Prop :=
  match r.definition.predicate with
  | none => ok = true ∧ captures' = captures
  | some predicate =>
    ∃ verdict, predicate a captures = .ok verdict ∧ Verdict.Means captures verdict ok captures'

theorem Route.judges_iff {captures captures' : Captures} {ok : Bool} :
    r.Judges a captures ok captures' ↔ judgement r a captures = .ok (ok, captures') := by
  rw [Route.Judges, judgement]
  cases r.definition.predicate with
  | none => simp [eq_comm]
  | some predicate =>
    simp only [Verdict.means_iff]
    cases predicate a captures <;> simp

/-- What the predicate is asked about: what the named groups captured, and over it what all
constraints captured. -/
def Route.AsksAbout (captures : Captures) : Prop :=
  ∃ m, r.pattern.matchAll? path = some m ∧ Tries a m.groupValues r.constraints captures none

/-! ### Conditions -/

namespace Condition

/-- A condition is met. -/
def Met : Condition → Prop
  | .routable => r.definition.routable = true
  | .secure => ∀ wanted, r.definition.secure = some wanted → a.isSecure = .ok wanted
  | .path => config.Admits path.length ∧ ∃ m, r.pattern.matchAll? path = some m
  | .method => r.definition.methods = [] ∨ ∃ m ∈ r.definition.methods, a.method = .text m
  | .accept =>
    r.definition.accept = [] ∨ a.accept = .none ∨
      ∃ header, a.accept = .text header ∧
        Negotiation.accepts (r.definition.accept.map String.toList) (some header.toList) = true
  | .server => ∀ constraint ∈ r.constraints, ∃ value, a.Finds constraint value
  | .predicate =>
    ∃ captures captures', r.AsksAbout path a captures ∧ r.Judges a captures true captures'

/-- It can be told whether a condition is met. -/
def IsDefined : Condition → Prop
  | .routable | .path => True
  | .secure => r.definition.secure = none ∨ ∃ secure, a.isSecure = .ok secure
  | .method => r.definition.methods = [] ∨ a.method.unhashable? = none
  | .accept =>
    r.definition.accept = [] ∨ a.accept = .none ∨ ∃ header, a.accept = .text header
  | .server => ∃ captures missing, Tries a [] r.constraints captures missing
  | .predicate =>
    ∀ captures, r.AsksAbout path a captures → ∃ ok captures', r.Judges a captures ok captures'

/-- What has been captured where an evaluation stops at a condition. -/
def LeavesBehind : Condition → Captures → Prop
  | .routable, captures | .secure, captures | .path, captures => captures = []
  | .method, captures | .accept, captures =>
    ∃ m, r.pattern.matchAll? path = some m ∧ captures = m.groupValues
  | .server, captures =>
    ∃ m missing, r.pattern.matchAll? path = some m ∧
      Tries a m.groupValues r.constraints captures missing
  | .predicate, captures =>
    ∃ before ok, r.AsksAbout path a before ∧ r.Judges a before ok captures

/-- The reason that is given if a condition is not met. -/
def Explains : Condition → String → Prop
  | .routable, reason => reason = "not routable."
  | .secure, reason => reason = "not a secure match."
  | .path, reason => reason = "not a regex match."
  | .method, reason => reason = "not a method match."
  | .accept, reason => reason = "not an accept match."
  | .server, reason =>
    ∃ captures name, Tries a [] r.constraints captures (some name) ∧
      reason = "not a server match (" ++ name ++ ")."
  | .predicate, reason => reason = "not a custom match."

end Condition

end Conditions

/-! ### The conditions and their answers -/

section Answers

variable {r : Route} {path : String} {a : Attributes} {config : Config}

namespace Condition

/-- A condition before the predicate is met exactly if it holds. -/
theorem met_iff {c : Condition} (hc : c ≠ .predicate) :
    c.Met r path a config ↔ c.holds r path a config = true := by
  rw [holds_iff]
  cases c with
  | routable => exact ⟨congrArg Except.ok, Except.ok.inj⟩
  | secure =>
    rw [Met, answer]
    cases r.definition.secure with
    | none => simp
    | some wanted =>
      cases a.isSecure with
      | error failure => simp [Except.map]
      | ok secure =>
        simp only [Option.some.injEq, forall_eq', Except.map, Except.ok.injEq, beq_iff_eq]
        exact eq_comm
  | path =>
    rw [Met, Config.admits_iff, answer, pathMatch?]
    cases exceeds config.maxPathLength path.length with
    | some limit => simp
    | none => cases r.pattern.matchAll? path <;> simp
  | method =>
    rw [Met, answer]
    by_cases hnone : r.definition.methods = []
    · simp [hnone]
    · rw [or_iff_right hnone, if_neg hnone]
      constructor
      · rintro ⟨m, hm, heq⟩
        have hany : (r.definition.methods.any fun m => a.method == .text m) = true :=
          List.any_eq_true.mpr ⟨m, hm, Value.beq_text_iff.mpr heq⟩
        rw [hany, heq]
        rfl
      · intro h
        obtain ⟨-, -, hany⟩ := map_eq_ok h
        obtain ⟨m, hm, hequal⟩ := List.any_eq_true.mp hany
        exact ⟨m, hm, Value.beq_text_iff.mp hequal⟩
  | accept =>
    rw [Met, answer]
    by_cases hnone : r.definition.accept = []
    · simp [hnone]
    · rw [or_iff_right hnone, if_neg hnone]
      cases a.accept <;> simp
  | server =>
    rw [Met, ← holds_iff, holds_server_iff]
    simp only [Attributes.finds_iff, Option.isSome_iff_exists]
  | predicate => exact absurd rfl hc

/-- All conditions before one are met exactly if it is reached. -/
theorem forall_met_iff {c : Condition} :
    (∀ c' ∈ c.earlier, c'.Met r path a config) ↔ c.Reached r path a config := by
  have hne : ∀ c' ∈ c.earlier, c' ≠ .predicate := by
    rintro c' hmem rfl
    exact c.predicate_notMem_earlier hmem
  exact forall₂_congr fun c' hc' => met_iff (hne c' hc')

/-- Trying the constraints comes to an end if the variable of the first that is not found has a
text. -/
theorem exists_tries {b : Bool} (h : server.answer r path a config = .ok b) (captures : Captures) :
    Tries a captures r.constraints
      ((r.constraints.takeWhile fun c => (constraintCapture? a c).isSome).foldl
        (fun captures c => captures.insert (.text c.1) ((constraintCapture? a c).getD .none))
        captures)
      ((missingConstraint? r a).map Prod.fst) := by
  rw [tries_iff]
  refine ⟨rfl, ?_⟩
  rw [answer] at h
  rw [missingConstraint?] at h ⊢
  cases hmissing : r.constraints.find? fun c => (constraintCapture? a c).isNone with
  | none => rfl
  | some c =>
    rw [hmissing] at h
    obtain ⟨text, htext, -⟩ := map_eq_ok h
    exact ⟨rfl, text, htext⟩

variable (hnodup : (r.pattern.names.map Prod.fst).Nodup)

include hnodup

/-- Where the path matches, what it captures is what the named groups captured. -/
theorem exists_groupCaptures (h : Condition.path.holds r path a config = true) :
    ∃ m, r.pattern.matchAll? path = some m ∧ groupCaptures r path config = m.groupValues := by
  have hmatch : (pathMatch? r path config).isSome = true := h
  obtain ⟨m, hm⟩ := Option.isSome_iff_exists.mp hmatch
  have hfull : r.pattern.matchAll? path = some m := by
    rw [pathMatch?, exceeds_of_holds h] at hm
    exact hm
  have hpattern : m.pattern = r.pattern := by
    obtain ⟨t, -, rfl⟩ := Option.map_eq_some_iff.mp hfull
    rfl
  refine ⟨m, hfull, ?_⟩
  rw [groupCaptures, hm, Option.elim_some, Match.update_pathCaptures (hpattern ▸ hnodup)]

/-- Where the predicate is reached, it is asked about what has been captured. -/
theorem asksAbout_iff (hreached : Condition.predicate.Reached r path a config)
    (captures : Captures) :
    r.AsksAbout path a captures ↔ captures = serverCaptures r path a config := by
  have hpath : Condition.path.holds r path a config = true := hreached .path (by decide)
  have hserver : Condition.server.holds r path a config = true := hreached .server (by decide)
  obtain ⟨m, hm, hgroups⟩ := exists_groupCaptures hnodup hpath
  have hnone : (r.constraints.find? fun c => (constraintCapture? a c).isNone) = none := by
    rw [List.find?_eq_none]
    intro c hc
    rw [← Option.not_isSome, holds_server_iff.mp hserver c hc]
    decide
  have htries : Tries a m.groupValues r.constraints captures none ↔
      captures = serverCaptures r path a config := by
    rw [tries_iff, hnone, serverCaptures, hgroups]
    exact and_iff_left rfl
  rw [Route.AsksAbout, ← htries]
  constructor
  · rintro ⟨m', hm', h⟩
    obtain rfl := Option.some.inj (hm.symm.trans hm')
    exact h
  · intro h
    exact ⟨m, hm, h⟩

/-- A condition that is reached is met exactly if it holds. -/
theorem met_iff_of_reached {c : Condition} (hreached : c.Reached r path a config) :
    c.Met r path a config ↔ c.holds r path a config = true := by
  by_cases hc : c = .predicate
  · subst hc
    rw [holds_iff, answer, Met]
    simp only [asksAbout_iff hnodup hreached, exists_and_left, exists_eq_left, Route.judges_iff]
    cases judgement r a (serverCaptures r path a config) with
    | error failure => simp [Except.map]
    | ok outcome =>
      obtain ⟨ok, captures⟩ := outcome
      simp [Except.map]
  · exact met_iff hc

/-- All conditions are met exactly if all hold. -/
theorem forall_met_iff_forall_holds :
    (∀ c : Condition, c.Met r path a config) ↔
      ∀ c : Condition, c.holds r path a config = true := by
  constructor
  · intro h c
    exact (met_iff_of_reached hnodup (forall_met_iff.mp fun c' _ => h c')).mp (h c)
  · intro h c
    exact (met_iff_of_reached hnodup fun c' _ => h c').mpr (h c)

/-- It can be told whether a condition is met exactly if it has an answer, where it is reached. -/
theorem isDefined_iff {c : Condition} (hreached : c.Reached r path a config) :
    c.IsDefined r path a ↔ ∃ b, c.answer r path a config = .ok b := by
  cases c with
  | routable => exact iff_of_true trivial ⟨_, rfl⟩
  | path => exact iff_of_true trivial ⟨_, rfl⟩
  | secure =>
    rw [IsDefined, answer]
    cases r.definition.secure with
    | none => simp
    | some wanted => cases a.isSecure <;> simp [Except.map]
  | method =>
    rw [IsDefined, answer, Value.checkHashable]
    by_cases hnone : r.definition.methods = []
    · simp [hnone]
    · rw [or_iff_right hnone, if_neg hnone]
      cases a.method.unhashable? <;> simp [Except.map]
  | accept =>
    rw [IsDefined, answer]
    by_cases hnone : r.definition.accept = []
    · simp [hnone]
    · rw [or_iff_right hnone, if_neg hnone]
      cases a.accept <;> simp
  | server =>
    constructor
    · rintro ⟨captures, missing, h⟩
      obtain ⟨-, hmissing⟩ := tries_iff.mp h
      rw [answer, missingConstraint?]
      cases hfind : r.constraints.find? fun c => (constraintCapture? a c).isNone with
      | none => exact ⟨true, rfl⟩
      | some c =>
        rw [hfind] at hmissing
        obtain ⟨-, text, htext⟩ := hmissing
        exact ⟨false, by simp only [htext, Except.map]⟩
    · rintro ⟨b, h⟩
      exact ⟨_, _, exists_tries h []⟩
  | predicate =>
    rw [IsDefined, answer]
    simp only [asksAbout_iff hnodup hreached, forall_eq, Route.judges_iff]
    cases judgement r a (serverCaptures r path a config) with
    | error failure => simp [Except.map]
    | ok outcome => exact iff_of_true ⟨outcome.1, outcome.2, rfl⟩ ⟨outcome.1, rfl⟩

/-- If every condition has an answer, it can be told of each whether it is met. -/
theorem forall_isDefined
    (h : (Condition.all.all fun c => (c.answer r path a config).toBool) = true) (c : Condition)
    (hbefore : ∀ c' ∈ c.earlier, c'.Met r path a config) : c.IsDefined r path a :=
  (isDefined_iff hnodup (forall_met_iff.mp hbefore)).mpr
    (exists_of_toBool (List.all_eq_true.mp h c c.mem_all))

/-- What has been captured where an evaluation stops: at the first condition that is not met, or
at the predicate. -/
theorem leavesBehind_left {c : Condition} {b : Bool} (hreached : c.Reached r path a config)
    (hb : c.answer r path a config = .ok b) (hstops : c = .predicate ∨ b = false) :
    c.LeavesBehind r path a (c.left r path a config) := by
  cases c with
  | routable => rfl
  | secure => rfl
  | path =>
    obtain rfl := hstops.resolve_left (by decide)
    have hnone : pathMatch? r path config = none := by
      rw [answer] at hb
      simpa using hb
    rw [LeavesBehind, left, groupCaptures, hnone]
    rfl
  | method => exact exists_groupCaptures hnodup (hreached .path (by decide))
  | accept => exact exists_groupCaptures hnodup (hreached .path (by decide))
  | server =>
    obtain ⟨m, hm, hgroups⟩ := exists_groupCaptures hnodup (hreached .path (by decide))
    refine ⟨m, (missingConstraint? r a).map Prod.fst, hm, ?_⟩
    rw [left, serverCaptures, hgroups]
    exact exists_tries hb m.groupValues
  | predicate =>
    rw [answer] at hb
    obtain ⟨⟨ok, captures⟩, hjudgement, rfl⟩ := map_eq_ok hb
    refine ⟨_, ok, (asksAbout_iff hnodup hreached _).mpr rfl, ?_⟩
    rw [left, hjudgement]
    exact (Route.judges_iff r a).mpr hjudgement

omit hnodup in
theorem reason_server {constraint : String × Pattern}
    (h : missingConstraint? r a = some constraint) :
    server.reason r a = "not a server match (" ++ constraint.1 ++ ")." := by
  unfold reason
  rw [h, Option.elim_some]

omit hnodup in
/-- The reason for a condition that does not hold. -/
theorem explains_reason {c : Condition} (h : c.answer r path a config = .ok false) :
    c.Explains r a (c.reason r a) := by
  cases c with
  | server =>
    have htries := exists_tries h []
    obtain ⟨constraint, hmissing⟩ : ∃ constraint, missingConstraint? r a = some constraint := by
      rw [← Option.isSome_iff_exists]
      cases hmissing : missingConstraint? r a with
      | none => simp [answer, hmissing] at h
      | some constraint => rfl
    rw [hmissing] at htries
    rw [reason_server hmissing]
    exact ⟨_, constraint.1, htries, rfl⟩
  | _ => rfl

omit hnodup in
/-- What is left behind is determined. -/
theorem LeavesBehind.unique {c : Condition} {captures captures' : Captures}
    (h : c.LeavesBehind r path a captures) (h' : c.LeavesBehind r path a captures') :
    captures = captures' := by
  have hgroups : ∀ {m m' : Match}, r.pattern.matchAll? path = some m →
      r.pattern.matchAll? path = some m' → m = m' := fun hm hm' =>
    Option.some.inj (hm.symm.trans hm')
  cases c with
  | routable => exact h.trans h'.symm
  | secure => exact h.trans h'.symm
  | path => exact h.trans h'.symm
  | method =>
    obtain ⟨m, hm, rfl⟩ := h
    obtain ⟨m', hm', rfl⟩ := h'
    rw [hgroups hm hm']
  | accept =>
    obtain ⟨m, hm, rfl⟩ := h
    obtain ⟨m', hm', rfl⟩ := h'
    rw [hgroups hm hm']
  | server =>
    obtain ⟨m, missing, hm, htries⟩ := h
    obtain ⟨m', missing', hm', htries'⟩ := h'
    obtain rfl := hgroups hm hm'
    rw [(tries_iff.mp htries).1, (tries_iff.mp htries').1]
  | predicate =>
    obtain ⟨before, ok, ⟨m, hm, htries⟩, hjudges⟩ := h
    obtain ⟨before', ok', ⟨m', hm', htries'⟩, hjudges'⟩ := h'
    obtain rfl := hgroups hm hm'
    obtain rfl := (tries_iff.mp htries).1.trans (tries_iff.mp htries').1.symm
    rw [Route.judges_iff] at hjudges hjudges'
    exact (Prod.mk.inj (Except.ok.inj (hjudges.symm.trans hjudges'))).2

end Condition

/-- The predicate is asked once, about the captures before it, where it is reached, and otherwise
never. -/
theorem questions_evaluation (hnodup : (r.pattern.names.map Prod.fst).Nodup) :
    ((r.definition.predicate.isSome = true ∧
        ∀ c ∈ Condition.predicate.earlier, c.Met r path a config) →
      ∃ captures, r.AsksAbout path a captures ∧
        (evaluation r path a config).questions = [captures]) ∧
    (¬(r.definition.predicate.isSome = true ∧
        ∀ c ∈ Condition.predicate.earlier, c.Met r path a config) →
      (evaluation r path a config).questions = []) := by
  rw [Condition.forall_met_iff, evaluation_eq]
  simp only [Condition.questions]
  constructor
  · rintro ⟨hsome, hreached⟩
    refine ⟨_, (Condition.asksAbout_iff hnodup hreached _).mpr rfl, ?_⟩
    rw [if_pos hreached, if_pos hsome]
  · intro h
    split
    · next hreached => exact if_neg fun hsome => h ⟨hsome, hreached⟩
    · rfl

end Answers

/-! ### The outcome -/

section First

variable {r : Route} {path : String} {a : Attributes} {config : Config}

/-- If not all conditions hold, there is a first that does not. -/
theorem exists_first_not_holds (h : ¬∀ c : Condition, c.holds r path a config = true) :
    ∃ c : Condition, c.Reached r path a config ∧ c.holds r path a config = false := by
  rcases predicate_reached_or_exists r path a config with hreached | ⟨c, -, hreached, hc⟩
  · refine ⟨.predicate, hreached, Bool.eq_false_iff.mpr fun hholds => h ?_⟩
    exact forall_holds_of_reached hreached hholds
  · exact ⟨c, hreached, hc⟩

/-- Only one condition is the first that does not hold. -/
theorem eq_of_reached {c c' : Condition} (hreached : c.Reached r path a config)
    (hc : c.holds r path a config = false) (hreached' : c'.Reached r path a config)
    (hc' : c'.holds r path a config = false) : c = c' :=
  Option.some.inj ((find?_not_holds_eq_some_iff.mpr ⟨hreached, hc⟩).symm.trans
    (find?_not_holds_eq_some_iff.mpr ⟨hreached', hc'⟩))

end First

/-- **The outcome of an evaluation.**  Take a route that was built.  If it can be told of each
condition whether it is met, as far as all conditions before it are, and if parameters can be
made of the captures where all are met, then an evaluation gives an attempt.  It matches exactly
if all conditions are met; then no reason is given, and its parameters are made of its captures.
Otherwise the first condition that is not met gives the only reason, and there are no parameters.
The captures are those that are left behind where the evaluation stops.  The predicate is asked
once, about the captures before it, if all other conditions are met, and otherwise never. -/
theorem evaluate_verdict {d : RouteDefinition} {r : Route} (hbuild : Route.build d = .ok r)
    (path : String) (a : Attributes) (config : Config)
    (hdefined : ∀ c : Condition, (∀ c' ∈ c.earlier, c'.Met r path a config) →
      c.IsDefined r path a)
    (hparams : (∀ c : Condition, c.Met r path a config) →
      ∀ captures, Condition.predicate.LeavesBehind r path a captures →
        ∃ params, extractParams r captures = .ok params) :
    ∃ attempt, evaluate r path a config = .ok attempt ∧
      (attempt.matched = true ↔ ∀ c : Condition, c.Met r path a config) ∧
      (attempt.matched = true →
        attempt.debug = [] ∧ Condition.predicate.LeavesBehind r path a attempt.captures ∧
          extractParams r attempt.captures = .ok attempt.params) ∧
      (∀ c : Condition, (∀ c' ∈ c.earlier, c'.Met r path a config) → ¬c.Met r path a config →
        attempt.params = [] ∧ (∃ reason, c.Explains r a reason ∧ attempt.debug = [reason]) ∧
          c.LeavesBehind r path a attempt.captures) ∧
      (r.definition.predicate.isSome = true ∧
          (∀ c' ∈ Condition.predicate.earlier, c'.Met r path a config) →
        ∃ captures, r.AsksAbout path a captures ∧
          (evaluation r path a config).questions = [captures]) ∧
      (¬(r.definition.predicate.isSome = true ∧
          ∀ c' ∈ Condition.predicate.earlier, c'.Met r path a config) →
        (evaluation r path a config).questions = []) := by
  have hnodup : (r.pattern.names.map Prod.fst).Nodup := Route.nodup_names_of_build hbuild
  have hanswer : ∀ c : Condition, c.Reached r path a config →
      ∃ b, c.answer r path a config = .ok b := fun c hreached =>
    (Condition.isDefined_iff hnodup hreached).mp
      (hdefined c (Condition.forall_met_iff.mpr hreached))
  obtain ⟨hasked, hunasked⟩ := questions_evaluation hnodup
  by_cases hall : ∀ c : Condition, c.holds r path a config = true
  · have hmet := (Condition.forall_met_iff_forall_holds hnodup).mpr hall
    -- The evaluation comes to the predicate, and stops behind it.
    obtain ⟨b, hb⟩ := hanswer .predicate fun c _ => hall c
    have hleft := Condition.leavesBehind_left hnodup (fun c _ => hall c) hb (Or.inl rfl)
    obtain ⟨params, hextract⟩ := hparams hmet _ hleft
    refine ⟨⟨params, Condition.predicate.left r path a config, none⟩, ?_, ?_, ?_, ?_, hasked,
      hunasked⟩
    · rw [evaluate_of_holds hall, hextract]
      rfl
    · exact iff_of_true rfl hmet
    · exact fun _ => ⟨rfl, hleft, hextract⟩
    · exact fun c _ hc => absurd (hmet c) hc
  · obtain ⟨c, hreached, hc⟩ := exists_first_not_holds hall
    obtain ⟨b, hb⟩ := hanswer c hreached
    obtain rfl : b = false := by
      rw [Condition.holds, hb] at hc
      exact hc
    refine ⟨⟨[], c.left r path a config, some (c.rejection r path a config)⟩, ?_, ?_, ?_, ?_,
      hasked, hunasked⟩
    · rw [evaluate_of_not_holds hreached hc, hb]
      rfl
    · refine iff_of_false (by simp [Attempt.matched]) fun hmet => hall ?_
      exact (Condition.forall_met_iff_forall_holds hnodup).mp hmet
    · exact fun hmatched => absurd hmatched (by simp [Attempt.matched])
    · intro c' hbefore hnot
      -- Only one condition is reached and not met.
      have hreached' := Condition.forall_met_iff.mp hbefore
      rw [Condition.met_iff_of_reached hnodup hreached', Bool.not_eq_true] at hnot
      obtain rfl := eq_of_reached hreached hc hreached' hnot
      refine ⟨rfl, ⟨_, Condition.explains_reason hb, ?_⟩,
        Condition.leavesBehind_left hnodup hreached hb (Or.inr rfl)⟩
      rw [Attempt.debug, Option.map_some, text_rejection]
      rfl

/-- The definition of a route with a token, a constraint, and a predicate that is in favour of one
page only and puts other captures in the place of those that it was asked about. -/
def pageDefinition : RouteDefinition :=
  { path := "/page/{id}"
    server := [("HOST", "[a-z]+")]
    predicate := some fun _ captures =>
      .ok (.tuple [.bool (captures.get? (.text "id") == some (.text "7")),
        .dict [(.text "site", (captures.get? (.text "HOST")).getD .none)]]) }

/-- Attributes with the server variable. -/
def pageAttributes : Attributes :=
  { server := [(.text "HOST", .text "www:80")] }

/-- A configuration with a limit of eight characters. -/
def pageConfig : Config :=
  { maxPathLength := some (.int 8) }

/-- Where the predicate is asked with a host captured, it puts the host in the place of all
captures. -/
theorem leavesBehind_pageDefinition {r : Route} (hbuild : Route.build pageDefinition = .ok r)
    {path : String} (hreached : Condition.predicate.Reached r path pageAttributes pageConfig)
    (hhost : (serverCaptures r path pageAttributes pageConfig).get? (.text "HOST")
      = some (.text "www")) {captures : Captures}
    (h : Condition.predicate.LeavesBehind r path pageAttributes captures) :
    captures = [(.text "site", .text "www")] := by
  obtain ⟨before, ok, hasks, hjudges⟩ := h
  obtain rfl :=
    (Condition.asksAbout_iff (Route.nodup_names_of_build hbuild) hreached before).mp hasks
  rw [Route.Judges, Route.definition_of_build hbuild] at hjudges
  obtain ⟨verdict, hverdict, hmeans⟩ := hjudges
  obtain rfl := Except.ok.inj hverdict
  rw [hhost] at hmeans
  cases hmeans with
  | plain hkind => exact absurd rfl hkind
  | replaced hentries => exact (Except.ok.inj hentries).symm

/-- A page is found, another one is refused by the predicate, and the path of a third is too long
to be looked at.  Where the predicate is asked, what it puts in the place of the captures is left
behind. -/
theorem evaluate_verdict_pageDefinition :
    ∃ r, Route.build pageDefinition = .ok r ∧
      (∃ attempt, evaluate r "/page/7" pageAttributes pageConfig = .ok attempt ∧
        attempt.matched = true ∧ attempt.captures = [(.text "site", .text "www")] ∧
        (evaluation r "/page/7" pageAttributes pageConfig).questions.length = 1) ∧
      (∃ attempt, evaluate r "/page/8" pageAttributes pageConfig = .ok attempt ∧
        attempt.matched = false ∧ attempt.debug = ["not a custom match."] ∧
        attempt.captures = [(.text "site", .text "www")] ∧
        (evaluation r "/page/8" pageAttributes pageConfig).questions.length = 1) ∧
      ∃ attempt, evaluate r "/page/1234" pageAttributes pageConfig = .ok attempt ∧
        attempt.matched = false ∧ attempt.debug = ["not a regex match."] ∧
        attempt.captures = [] ∧
        (evaluation r "/page/1234" pageAttributes pageConfig).questions = [] := by
  obtain ⟨r, hbuild, hchecked⟩ : ∃ r, Route.build pageDefinition = .ok r ∧
      ((["/page/7", "/page/8", "/page/1234"].all fun path =>
          Condition.all.all fun c => (c.answer r path pageAttributes pageConfig).toBool) &&
        (["/page/7", "/page/8"].all fun path =>
          Condition.predicate.Reached r path pageAttributes pageConfig &&
            ((serverCaptures r path pageAttributes pageConfig).get? (.text "HOST")).any
              (· == .text "www")) &&
        Condition.predicate.holds r "/page/7" pageAttributes pageConfig &&
        !Condition.predicate.holds r "/page/8" pageAttributes pageConfig &&
        !Condition.path.holds r "/page/1234" pageAttributes pageConfig &&
        Condition.path.Reached r "/page/1234" pageAttributes pageConfig) = true :=
    exists_of_any_toOption (by decide +kernel)
  simp only [Bool.and_eq_true, List.all_cons, List.all_nil, Bool.not_eq_true',
    decide_eq_true_eq, and_true] at hchecked
  obtain ⟨⟨⟨⟨⟨⟨hanswer7, hanswer8, hanswerLong⟩, ⟨hreached7, hhost7⟩, hreached8, hhost8⟩, hholds7⟩,
    hholds8⟩, hholdsLong⟩, hreachedLong⟩ := hchecked
  have hnodup := Route.nodup_names_of_build hbuild
  have hparams : ∀ captures, ∃ params, extractParams r captures = .ok params := by
    intro captures
    rw [extractParams, Route.definition_of_build hbuild]
    exact ⟨_, rfl⟩
  have hasked : r.definition.predicate.isSome = true := by
    rw [Route.definition_of_build hbuild]
    rfl
  have hwww : ∀ {captures : Captures},
      (captures.get? (.text "HOST")).any (· == .text "www") = true →
        captures.get? (.text "HOST") = some (.text "www") := by
    intro captures h
    cases hget : captures.get? (.text "HOST") with
    | none =>
      rw [hget] at h
      exact absurd h (by decide)
    | some v =>
      rw [hget] at h
      rw [Value.beq_text_iff.mp h]
  refine ⟨r, hbuild, ?_, ?_, ?_⟩
  · obtain ⟨attempt, heval, hmatched, hleaves, -, hquestions, -⟩ :=
      evaluate_verdict hbuild "/page/7" pageAttributes pageConfig
        (Condition.forall_isDefined hnodup hanswer7) fun _ captures _ => hparams captures
    have hall := forall_holds_of_reached hreached7 hholds7
    have hmet : attempt.matched = true :=
      hmatched.mpr ((Condition.forall_met_iff_forall_holds hnodup).mpr hall)
    obtain ⟨-, hleft, -⟩ := hleaves hmet
    obtain ⟨captures, -, honce⟩ := hquestions ⟨hasked, Condition.forall_met_iff.mpr hreached7⟩
    refine ⟨attempt, heval, hmet, ?_, by rw [honce]; rfl⟩
    exact leavesBehind_pageDefinition hbuild hreached7 (hwww hhost7) hleft
  · obtain ⟨attempt, heval, hmatched, -, hfirst, hquestions, -⟩ :=
      evaluate_verdict hbuild "/page/8" pageAttributes pageConfig
        (Condition.forall_isDefined hnodup hanswer8) fun _ captures _ => hparams captures
    have hnot : ¬Condition.predicate.Met r "/page/8" pageAttributes pageConfig := by
      rw [Condition.met_iff_of_reached hnodup hreached8, hholds8]
      exact Bool.false_ne_true
    have hbefore := Condition.forall_met_iff.mpr hreached8
    obtain ⟨-, ⟨reason, rfl, hdebug⟩, hleft⟩ := hfirst .predicate hbefore hnot
    obtain ⟨captures, -, honce⟩ := hquestions ⟨hasked, hbefore⟩
    refine ⟨attempt, heval, ?_, hdebug, ?_, by rw [honce]; rfl⟩
    · exact Bool.eq_false_iff.mpr fun h => hnot (hmatched.mp h .predicate)
    · exact leavesBehind_pageDefinition hbuild hreached8 (hwww hhost8) hleft
  · obtain ⟨attempt, heval, hmatched, -, hfirst, -, hquestions⟩ :=
      evaluate_verdict hbuild "/page/1234" pageAttributes pageConfig
        (Condition.forall_isDefined hnodup hanswerLong) fun _ captures _ => hparams captures
    have hnot : ¬Condition.path.Met r "/page/1234" pageAttributes pageConfig := by
      rw [Condition.met_iff (by decide), hholdsLong]
      exact Bool.false_ne_true
    obtain ⟨-, ⟨reason, rfl, hdebug⟩, hleft⟩ :=
      hfirst .path (Condition.forall_met_iff.mpr hreachedLong) hnot
    refine ⟨attempt, heval, ?_, hdebug, hleft, hquestions fun h => hnot (h.2 .path (by decide))⟩
    exact Bool.eq_false_iff.mpr fun h => hnot (hmatched.mp h .path)

end RouteMatch
