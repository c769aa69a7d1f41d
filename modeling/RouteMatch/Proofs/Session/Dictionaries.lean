import Mathlib.Data.List.Forall2
import RouteMatch.Proofs.Session.Addresses

/-!
# Working on dictionaries that are held

An evaluation works on dictionaries in a memory: it draws captures into one, hands out copies,
clears and refills.  Here it is shown to give what the evaluation gives that knows no dictionaries
but as values, and to write to new dictionaries only: those that were there before stand as they
did.  The same is shown of making a route and of making attributes, with the copies that they
take.

An action follows a result if both fail for the same reason or give related values.  Actions one
after the other follow results one after the other.

## Main definitions

* `Follows` — an action that follows a result and keeps the dictionaries that were there.
* `Implements` — an action on captures that follows a check.

## Main results

* `Follows.bind` — actions one after the other.
* `implements_check`, `implements_checkPredicate`, `implements_firstRejection` — the checks.
* `follows_evaluate` — **the evaluation on dictionaries follows the evaluation.**
-/

namespace RouteMatch

open RouteMatch.Action

/-! ### Actions that follow results -/

section Follows

variable {α β α' β' : Type}

/-- An action follows a result, from a memory on whose dictionaries it keeps: both fail for the
same reason, or the values are related in the memory after it. -/
inductive Follows (base : Memory) (related : α → β → Memory → Prop) :
    EStateM.Result Failure Memory α → Except Failure β → Prop
  | value {v : α} {w : β} {m : Memory} (hextends : base.Extends m) (h : related v w m) :
      Follows base related (.ok v m) (.ok w)
  | failure {why : Failure} {m : Memory} (hextends : base.Extends m) :
      Follows base related (.error why m) (.error why)

variable {base m m' : Memory} {related : α → β → Memory → Prop}
  {related' : α' → β' → Memory → Prop} {x : Action α} {f : α → Action α'}

theorem bind_apply_of_ok {v : α} (h : x m = .ok v m') : (x >>= f) m = f v m' := by
  show EStateM.bind x f m = _
  rw [EStateM.bind, h]

theorem bind_apply_of_error {why : Failure} (h : x m = .error why m') :
    (x >>= f) m = .error why m' := by
  show EStateM.bind x f m = _
  rw [EStateM.bind, h]

/-- Actions one after the other follow results one after the other. -/
theorem Follows.bind {y : Except Failure β} {g : β → Except Failure β'}
    (h : Follows base related (x m) y)
    (hnext : ∀ v w m', base.Extends m' → related v w m' → Follows base related' (f v m') (g w)) :
    Follows base related' ((x >>= f) m) (y.bind g) := by
  cases hx : x m with
  | ok v m' =>
    rw [hx] at h
    rw [bind_apply_of_ok hx]
    cases h with
    | value hextends h => exact hnext _ _ _ hextends h
  | error why m' =>
    rw [hx] at h
    rw [bind_apply_of_error hx]
    cases h with
    | failure hextends => exact .failure hextends

/-- An action after another one, where the value of a result is made into another one. -/
theorem Follows.bind_map {y : Except Failure β} {g : β → β'}
    (h : Follows base related (x m) y)
    (hnext : ∀ v w m', base.Extends m' → related v w m' →
      Follows base related' (f v m') (.ok (g w))) :
    Follows base related' ((x >>= f) m) (y.map g) := by
  have hbind := h.bind hnext
  cases y with
  | ok w => exact hbind
  | error why => exact hbind

/-- An action after another one that gives what is related to the same value. -/
theorem Follows.bind_ok {y : Except Failure β} {related' : α' → β → Memory → Prop}
    (h : Follows base related (x m) y)
    (hnext : ∀ v w m', base.Extends m' → related v w m' →
      Follows base related' (f v m') (.ok w)) :
    Follows base related' ((x >>= f) m) y := by
  have hbind := h.bind hnext
  cases y with
  | ok w => exact hbind
  | error why => exact hbind

/-- A result as an action follows itself. -/
theorem follows_ofResult (hextends : base.Extends m) (y : Except Failure β) :
    Follows base (fun v w m' => v = w ∧ m' = m) (ofResult y m) y := by
  cases y with
  | ok w => exact .value hextends ⟨rfl, rfl⟩
  | error why => exact .failure hextends

end Follows

/-! ### Actions on one dictionary -/

section

variable {α : Type} {m : Memory} {address : Address} {entries : Entries Value Value}

theorem read_apply (h : m.read? address = some entries) :
    Action.read address m = .ok entries m := by
  simp only [Action.read, h]

theorem copy_apply (h : m.read? address = some entries) :
    copy address m = .ok m.size (m.add entries) :=
  bind_apply_of_ok (read_apply h)

theorem insert_apply (h : m.read? address = some entries) (key value : Value) :
    Action.insert address key value m = .ok () (m.write address (entries.insert key value)) :=
  bind_apply_of_ok (read_apply h)

theorem look_apply {see? : Memory → Option α} {v : α} (h : see? m = some v) :
    Action.look see? m = .ok v m := by
  simp only [Action.look, h]

theorem useUp_apply (v : Value) :
    ∃ m', useUp v m = .ok () m' ∧ m'.dictionaries = m.dictionaries := by
  cases v with
  | other about items =>
    refine ⟨_, rfl, ?_⟩
    split <;> rfl
  | _ => exact ⟨m, rfl, rfl⟩

end

/-! ### Checks -/

theorem Asked.result_bind {α β : Type} (x : Asked α) (next : α → Asked β) :
    (x.bind next).result = x.result.bind fun v => (next v).result := by
  unfold Asked.bind
  split
  · next h => rw [h]; rfl
  · next h => rw [h]; rfl

/-- An action on captures that stand in a dictionary follows a check of them. -/
def Implements (base : Memory) (captures : Address) (action : Action (Option Rejection))
    (inquiry : Inquiry) : Prop :=
  ∀ m drawn, base.Extends m → m.read? captures = some drawn →
    Follows base (fun why outcome m' => m'.read? captures = some outcome.1 ∧ why = outcome.2)
      (action m) (inquiry drawn).result

section Checks

variable {base : Memory} {captures : Address}

theorem implements_check (hnew : base.size ≤ captures) (check : Check) :
    Implements base captures (check.on captures) check.silent := by
  intro m drawn hextends hread
  rw [Check.on, bind_apply_of_ok (read_apply hread)]
  show Follows base _ _ (check drawn)
  cases hcheck : check drawn with
  | error why => exact .failure hextends
  | ok outcome =>
    obtain ⟨after, why⟩ := outcome
    exact .value (hextends.write hnew after) ⟨Memory.read?_write_self hread, rfl⟩

/-- Captures are replaced by what is left of another dictionary. -/
theorem replaceCaptures_apply {m : Memory} {drawn entries : Captures} {updated : Address}
    (hread : m.read? captures = some drawn) (hupdated : m.read? updated = some entries)
    (hne : captures ≠ updated) (usedUp : List Nat) :
    replaceCaptures captures updated usedUp m
      = .ok () ((m.write captures []).write captures (Entries.ofList (entries.left usedUp))) := by
  have hother : (m.write captures []).read? updated = some entries := by
    rw [Memory.read?_write_of_ne hne, hupdated]
  have hcleared : (m.write captures []).read? captures = some [] := Memory.read?_write_self hread
  show ((Action.read updated) >>= _) (m.write captures []) = _
  rw [bind_apply_of_ok (read_apply hother), bind_apply_of_ok (read_apply hcleared)]
  rfl

theorem read_ofList (captures entries : Captures) (ok : Value) :
    Verdict.read captures (.tuple [ok, .dict entries])
      = .ok (ok.isTrue, Entries.ofList entries) := rfl

/-- Asking a predicate follows its verdict, whatever dictionary stands for new captures. -/
theorem implements_predicate (hnew : base.size ≤ captures) {p : HeldPredicate}
    {predicate : Predicate} {usedUp : List Nat} (hview : p.view? base usedUp = some predicate)
    (a : Attributes) :
    Implements base captures (p.check a usedUp captures) fun drawn =>
      (predicate.ask a drawn).bind fun verdict =>
        .silent <| (Verdict.read drawn verdict).map fun (ok, captures) =>
          (captures, if ok then none else some .predicate) := by
  intro m drawn hextends hread
  obtain ⟨kept, hkept, rfl⟩ := Option.map_eq_some_iff.mp hview
  have hsnapshot : (m.add drawn).read? m.size = some drawn := Memory.read?_add_size
  have hlt := Memory.lt_size_of_read? hread
  have hread' : (m.add drawn).read? captures = some drawn := by
    rw [Memory.read?_add_of_lt hlt, hread]
  have hextends' := hextends.add drawn
  have hkept' := hextends'.read?_eq_some hkept
  have hne : captures ≠ p.kept :=
    Nat.ne_of_gt (Nat.lt_of_lt_of_le (Memory.lt_size_of_read? hkept) hnew)
  rw [HeldPredicate.check, bind_apply_of_ok (copy_apply hread),
    bind_apply_of_ok (read_apply hsnapshot)]
  simp only [Predicate.ask, Asked.bind, KeepingPredicate.toPredicate]
  cases hanswer : p.answer a drawn with
  | error why => exact .failure hextends'
  | ok answer =>
    rw [bind_apply_of_ok (show ofResult (.ok answer) (m.add drawn) = .ok answer _ from rfl)]
    simp only [Except.map]
    cases answer with
    | verdict v =>
      simp only [Answer.toVerdict, Asked.result_silent]
      rw [bind_apply_of_ok (read_apply hread')]
      cases hverdict : Verdict.read drawn v with
      | error why => exact .failure hextends'
      | ok meaning =>
        obtain ⟨ok, after⟩ := meaning
        exact .value (hextends'.write hnew after) ⟨Memory.read?_write_self hread', rfl⟩
    | snapshot ok =>
      simp only [Answer.toVerdict, Asked.result_silent, read_ofList]
      rw [bind_apply_of_ok
        (replaceCaptures_apply hread' hsnapshot (Nat.ne_of_lt hlt) []), Entries.left_nil]
      exact .value ((hextends'.write hnew _).write hnew _)
        ⟨Memory.read?_write_self (Memory.read?_write_self hread'), rfl⟩
    | kept ok =>
      simp only [Answer.toVerdict, Asked.result_silent, read_ofList]
      rw [bind_apply_of_ok (replaceCaptures_apply hread' hkept' hne usedUp)]
      exact .value ((hextends'.write hnew _).write hnew _)
        ⟨Memory.read?_write_self (Memory.read?_write_self hread'), rfl⟩

/-- Checks in order follow checks in order. -/
theorem implements_firstRejection {actions : List (Action (Option Rejection))}
    {inquiries : List Inquiry} (h : List.Forall₂ (Implements base captures) actions inquiries) :
    Implements base captures (Action.firstRejection actions)
      (RouteMatch.firstRejection inquiries) := by
  induction h with
  | nil =>
    intro m drawn hextends hread
    exact .value hextends ⟨hread, rfl⟩
  | cons hfirst _ ih =>
    intro m drawn hextends hread
    rw [RouteMatch.firstRejection, Asked.result_bind]
    refine (hfirst m drawn hextends hread).bind ?_
    rintro why ⟨after, why'⟩ m' hextends' ⟨hread', rfl⟩
    cases why with
    | some why => exact .value hextends' ⟨hread', rfl⟩
    | none => exact ih m' after hextends' hread'

end Checks

/-! ### Dictionaries whose keys are names -/

theorem Given.names?_named {β : Type} {toValue : β → Value} {ofValue : Value → Option β}
    (h : ∀ b, ofValue (toValue b) = some b) (entries : Entries String β) :
    Given.names? ofValue (Given.named toValue entries) = some entries := by
  induction entries with
  | nil => rfl
  | cons entry rest ih =>
    show Given.names? ofValue ((.text entry.1, toValue entry.2) :: Given.named toValue rest) = _
    rw [Given.names?, h, ih]

theorem Given.eq_named_of_names? {entries : Entries Value Value} {named : Entries String Value}
    (h : Given.names? some entries = some named) : entries = Given.named id named := by
  induction entries generalizing named with
  | nil =>
    obtain rfl := Option.some.inj h
    rfl
  | cons entry rest ih =>
    obtain ⟨key, v⟩ := entry
    cases key with
    | text name =>
      rw [Given.names?] at h
      split at h
      · next b entries hb hentries =>
        obtain rfl := Option.some.inj h
        obtain rfl := Option.some.inj hb
        rw [ih hentries]
        rfl
      · cases h
    | _ => cases h

/-- A write under a name. -/
theorem Given.named_insert (entries : Params) (name : String) (v : Value) :
    Given.named id (entries.insert name v) = (Given.named id entries).insert (.text name) v := by
  induction entries with
  | nil => rfl
  | cons entry rest ih =>
    obtain ⟨k, w⟩ := entry
    have hkey : (Value.text k == Value.text name) = (k == name) := rfl
    show Given.named id (if k == name then _ else _)
      = if Value.text k == Value.text name then _ else _
    rw [hkey]
    split
    · rfl
    · show Given.named id ((k, w) :: Entries.insert name v rest)
        = (.text k, w) :: (Given.named id rest).insert (.text name) v
      rw [← ih]
      rfl

theorem Given.get?_named (entries : Params) (name : String) :
    (Given.named id entries).get? (.text name) = entries.get? name := by
  induction entries with
  | nil => rfl
  | cons entry rest ih =>
    obtain ⟨k, w⟩ := entry
    have hkey : (Value.text k == Value.text name) = (k == name) := rfl
    show (if Value.text k == Value.text name then _ else _) = if k == name then _ else _
    rw [hkey, ← ih]
    rfl

/-! ### Parameters -/

section Parameters

variable {base m : Memory} {params : Address}

/-- Captures are put over parameters one by one. -/
theorem overlayAll_apply {ps : Params} (hread : m.read? params = some (Given.named id ps))
    (captures : Captures) :
    ∃ m', overlayAll params captures m = .ok () m' ∧ m.DiffersAt params m' ∧
      m'.read? params = some (Given.named id (captures.foldl overlay ps)) := by
  -- The induction is on the captures: the dictionary holds the parameters that there are so far.
  induction captures generalizing m ps with
  | nil => exact ⟨m, rfl, .refl _ _, hread⟩
  | cons capture rest ih =>
    obtain ⟨key, value⟩ := capture
    rw [List.foldl_cons]
    cases key with
    | text name =>
      rw [overlayAll, overlay]
      by_cases hmissing : isMissing value = true
      · simp only [if_pos hmissing]
        exact ih hread
      · simp only [if_neg hmissing]
        have hwritten : (m.write params ((Given.named id ps).insert (.text name)
            (decodeCapture value))).read? params
              = some (Given.named id (ps.insert name (decodeCapture value))) := by
          rw [Given.named_insert]
          exact Memory.read?_write_self hread
        obtain ⟨m', hrun, hdiffers, hafter⟩ := ih hwritten
        refine ⟨m', ?_, (Memory.differsAt_write m params _).trans hdiffers, hafter⟩
        rw [bind_apply_of_ok (insert_apply hread _ _), hrun]
    | _ => exact ih hread

/-- The pieces of a wildcard value. -/
theorem split_apply (value : Value) :
    ∃ m', m'.dictionaries = m.dictionaries ∧ split value m = ofResult (splitWildcard value) m' := by
  unfold split
  by_cases htrue : value.isTrue = true
  · obtain ⟨m', hused, hsame⟩ := useUp_apply (m := m) value
    refine ⟨m', hsame, ?_⟩
    simp only [if_pos htrue]
    exact bind_apply_of_ok hused
  · refine ⟨m, rfl, ?_⟩
    simp only [if_neg htrue]

/-- Making parameters in a dictionary follows making them. -/
theorem follows_extractParams {h : HeldRoute} {r : Route} {values captures : Address}
    {defaults : Entries Value Value} {drawn : Captures} {usedUp : List Nat}
    (hextends : base.Extends m) (hvalues : m.read? values = some defaults)
    (hdefaults : defaults.left usedUp = Given.named id r.values)
    (hcaptures : m.read? captures = some drawn)
    (hwildcard : Route.wildcardOf h.plain = Route.wildcardOf r.definition) :
    Follows base
      (fun address ps m' => address = m.size ∧ m'.read? address = some (Given.named id ps) ∧
        m'.read? captures = some drawn)
      (h.extractParams values captures usedUp m) (RouteMatch.extractParams r drawn) := by
  -- The captures stand in a dictionary that is older than the one for the parameters.
  have hlt := Memory.lt_size_of_read? hcaptures
  have hne : m.size ≠ captures := Nat.ne_of_gt hlt
  have hread : (m.add (defaults.left usedUp)).read? m.size = some (Given.named id r.values) := by
    rw [← hdefaults]
    exact Memory.read?_add_size
  have hcaptures' : (m.add (defaults.left usedUp)).read? captures = some drawn := by
    rw [Memory.read?_add_of_lt hlt, hcaptures]
  obtain ⟨m', hrun, hdiffers, hafter⟩ := overlayAll_apply hread drawn
  have hextends' := (hextends.add (defaults.left usedUp)).of_differsAt hextends.size_le hdiffers
  have hkept : m'.read? captures = some drawn := by
    rw [hdiffers.read?_eq hne, hcaptures']
  rw [HeldRoute.extractParams, bind_apply_of_ok (read_apply hvalues)]
  rw [bind_apply_of_ok (show new (defaults.left usedUp) m = .ok m.size _ from rfl),
    bind_apply_of_ok (read_apply hcaptures'), bind_apply_of_ok hrun, hwildcard,
    RouteMatch.extractParams]
  cases Route.wildcardOf r.definition with
  | none => exact .value hextends' ⟨rfl, hafter, hkept⟩
  | some w =>
    simp only []
    rw [bind_apply_of_ok (read_apply hafter), Given.get?_named]
    -- An iterator for the wildcard is used up, and no dictionary shows it.
    obtain ⟨m'', hsame, hsplit⟩ :=
      split_apply (m := m') (((drawn.foldl overlay r.values).get? w).getD .none)
    have hdiffers' : m'.DiffersAt m.size m'' := Memory.differsAt_of_dictionaries hsame
    have hextends'' := hextends'.of_differsAt hextends.size_le hdiffers'
    cases hpieces : splitWildcard (((drawn.foldl overlay r.values).get? w).getD .none) with
    | error why =>
      rw [hpieces] at hsplit
      rw [bind_apply_of_error hsplit]
      exact .failure hextends''
    | ok pieces =>
      rw [hpieces] at hsplit
      have hafter' : m''.read? m.size = some (Given.named id (drawn.foldl overlay r.values)) := by
        rw [Memory.read?, hsame]
        exact hafter
      rw [bind_apply_of_ok hsplit, bind_apply_of_ok (insert_apply hafter' _ _)]
      refine .value (hextends''.write hextends.size_le _) ⟨rfl, ?_, ?_⟩
      · rw [Given.named_insert]
        exact Memory.read?_write_self hafter'
      · rw [Memory.read?_write_of_ne hne, hdiffers'.read?_eq hne, hkept]

end Parameters

/-! ### Evaluations -/

section Evaluations

variable {m : Memory} {h : HeldRoute} {r : Route} {usedUp : List Nat}

/-- A predicate that a route has follows the check with it. -/
theorem implements_checkPredicate {base : Memory} {captures : Address}
    (hnew : base.size ≤ captures) (hview : h.view? base usedUp = some r) (a : Attributes) :
    Implements base captures (h.checkPredicate a usedUp captures)
      (RouteMatch.checkPredicate r a) := by
  obtain ⟨c, d, -, hdefinition, -, hr⟩ := HeldRoute.exists_of_view? hview
  obtain ⟨-, -, -, hpredicate, -⟩ := HeldRoute.exists_of_definition? hdefinition
  have hd : r.definition = d := by rw [hr]
  intro m drawn hextends hread
  unfold HeldRoute.checkPredicate RouteMatch.checkPredicate
  rw [hd]
  unfold HeldRoute.predicate? at hpredicate
  cases hp : h.predicate with
  | none =>
    rw [hp] at hpredicate
    rw [← Option.some.inj hpredicate]
    exact .value hextends ⟨hread, rfl⟩
  | some p =>
    rw [hp] at hpredicate
    obtain ⟨predicate, hview, heq⟩ := Option.map_eq_some_iff.mp hpredicate
    rw [← heq]
    exact implements_predicate hnew hview a m drawn hextends hread

/-- All checks follow the checks. -/
theorem implements_checks {base : Memory} {captures : Address} (hnew : base.size ≤ captures)
    (hview : h.view? base usedUp = some r) (path : String) (a : Attributes) (config : Config) :
    Implements base captures
      (Action.firstRejection ((plainChecks r path a config).map (Check.on · captures)
        ++ [h.checkPredicate a usedUp captures]))
      (RouteMatch.firstRejection (checks r path a config)) := by
  apply implements_firstRejection
  apply List.rel_append
  · rw [List.forall₂_map_left_iff, List.forall₂_map_right_iff, List.forall₂_same]
    intro check _
    exact implements_check hnew check
  · exact .cons (implements_checkPredicate hnew hview a) .nil

/-- A route that has been compiled is not compiled again. -/
theorem HeldRoute.compile_apply {c : Compiled} (hcompiled : h.compiled = some c) :
    h.compile m = .ok (h, c) m := by
  simp only [HeldRoute.compile, hcompiled]
  rfl

/-- How the outcome of an evaluation stands in the memory: with dictionaries of its own. -/
structure HeldAttempt.Holds (base : Memory) (h : HeldRoute) (held : HeldAttempt)
    (attempt : Attempt) (m : Memory) : Prop where
  route : held.route = h
  rejection : held.rejection = attempt.rejection
  params_new : base.size ≤ held.params
  captures_new : base.size ≤ held.captures
  ne : held.params ≠ held.captures
  params : m.read? held.params = some (Given.named id attempt.params)
  captures : m.read? held.captures = some attempt.captures

/-- **The evaluation on dictionaries follows the evaluation**, in dictionaries of its own. -/
theorem follows_evaluate (hview : h.view? m m.usedUp = some r) (path : String) (a : Attributes)
    (config : Config) :
    Follows m (HeldAttempt.Holds m h) (h.evaluate path a config m)
      (RouteMatch.evaluate r path a config) := by
  obtain ⟨c, d, hcompiled, hdefinition, hvalues, hr⟩ := HeldRoute.exists_of_view? hview
  obtain ⟨-, -, -, -, hd⟩ := HeldRoute.exists_of_definition? hdefinition
  obtain ⟨defaults, hdefaults, hnames⟩ := Option.bind_eq_some_iff.mp hvalues
  have hwildcard : Route.wildcardOf h.plain = Route.wildcardOf r.definition := by
    rw [hr, hd]
    rfl
  have hextends : m.Extends (m.add []) := (Memory.Extends.refl m).add []
  have hread : (m.add []).read? m.size = some [] := Memory.read?_add_size
  rw [HeldRoute.evaluate, bind_apply_of_ok (show (get : Action Memory) m = .ok m m from rfl)]
  simp only []
  rw [bind_apply_of_ok (HeldRoute.compile_apply hcompiled), bind_apply_of_ok (look_apply hview),
    bind_apply_of_ok (show new [] m = .ok m.size _ from rfl), RouteMatch.evaluate, evaluation,
    Asked.result_bind]
  refine ((implements_checks (Nat.le_refl _) hview path a config) _ _ hextends hread).bind ?_
  rintro why ⟨drawn, why'⟩ m' hextends' ⟨hread', rfl⟩
  have hlt := Memory.lt_size_of_read? hread'
  cases why with
  | some why =>
    refine .value (hextends'.add []) ?_
    exact
      { route := rfl
        rejection := rfl
        params_new := hextends'.size_le
        captures_new := Nat.le_refl _
        ne := Nat.ne_of_gt hlt
        params := Memory.read?_add_size
        captures := by rw [Memory.read?_add_of_lt hlt, hread'] }
  | none =>
    have hparams := follows_extractParams hextends' (hextends'.read?_eq_some hdefaults)
      (Given.eq_named_of_names? hnames) hread' hwildcard
    show Follows m (HeldAttempt.Holds m h) ((h.extractParams c.values m.size m.usedUp >>= _) m')
      ((RouteMatch.extractParams r drawn).map fun params => (⟨params, drawn, none⟩ : Attempt))
    refine hparams.bind_map ?_
    rintro address params m'' hextends'' ⟨rfl, hafter, hkept⟩
    refine .value hextends'' ?_
    exact
      { route := rfl
        rejection := rfl
        params_new := hextends'.size_le
        captures_new := Nat.le_refl _
        ne := Nat.ne_of_gt hlt
        params := hafter
        captures := hkept }

end Evaluations

end RouteMatch
