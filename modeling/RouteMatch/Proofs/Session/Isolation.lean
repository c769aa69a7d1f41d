import RouteMatch.Proofs.Session.Persistence

/-!
# The objects of a session keep to themselves

An object that is kept in a session shows what it showed when it was made, whatever is done to
other objects and to the dictionaries that it was made from.  Only an outcome can be written to:
the assignments made to it are all that ever changes it.  A list or a dictionary that stands in a
field of attributes can be written to as well.

So a route keeps its pattern, and an evaluation with the same objects gives the same outcome
again, as often as it is made, unless an object that the route holds has been used up in between.
A step that fails leaves every object as it was.

## Main definitions

* `Session.Spares` — nothing that a route holds has been used up in between.
* `Session.isLasting` — nothing that a route holds can be used up.

## Main results

* `Session.object_step_of_made` — what is made is kept as it is.
* `Session.setup_run`, `Session.reply_evaluate` — what an evaluation starts from after a run, and
  that its reply depends on nothing else.
* `Session.object_step_of_error` — a step that fails leaves every object as it was.
* `Session.run_isolated` — **objects keep to themselves, along every run.**
* `Session.run_not_isolated` — where they do not: a dictionary in a field, and an iterator that is
  used up.
-/

namespace RouteMatch

open RouteMatch.Action

/-! ### Objects that are used up -/

/-- A value that has not been used up in between. -/
def Value.IsSpared (before after : List Nat) (v : Value) : Prop :=
  ∀ about items, v = .other about items → about.isUsedUp = true →
    (about.number ∈ after ↔ about.number ∈ before)

theorem Value.left_of_isSpared {before after : List Nat} {v : Value} (h : v.IsSpared before after) :
    v.left after = v.left before := by
  cases v with
  | other about items =>
    cases hused : about.isUsedUp with
    | false => simp [left, hused]
    | true =>
      have hsame : after.contains about.number = before.contains about.number := by
        rw [Bool.eq_iff_iff, List.contains_iff_mem, List.contains_iff_mem]
        exact h about items rfl hused
      simp only [left, hused, hsame]
  | _ => rfl

theorem Entries.left_of_isSpared {κ : Type} {before after : List Nat} {entries : Entries κ Value}
    (h : ∀ entry ∈ entries, entry.2.IsSpared before after) :
    entries.left after = entries.left before :=
  List.map_congr_left fun entry hentry => by rw [Value.left_of_isSpared (h entry hentry)]

namespace Session

variable {s : Session} {name : String} {o : Object}

/-! ### Objects that are made -/

/-- A step that makes an object keeps one that shows it. -/
theorem object_make_of_made {β : Type} {action : Action Held} {y : Except Failure β}
    {related : Held → β → Memory → Prop} {shown : β → Object} {records : Object → List LogRecord}
    (hcases : (∃ why m, y = .error why ∧ s.memory.Extends m ∧
        s.make name action records = ⟨.error why, ⟨s.objects, m⟩, []⟩) ∨
      ∃ h w m, y = .ok w ∧ s.memory.Extends m ∧ related h w m ∧
        s.make name action records
          = ⟨.ok (.object (shown w)), ⟨s.objects.insert name h, m⟩, records (shown w)⟩)
    (hview : ∀ {h w m}, related h w m → h.view? m = some (shown w))
    (hmade : (s.make name action records).reply = .ok (.object o)) :
    (s.make name action records).session.object name = .ok o := by
  rcases hcases with ⟨why, m, -, -, heq⟩ | ⟨held, w, m, -, -, hrelated, heq⟩
  · rw [heq] at hmade
    cases hmade
  · rw [heq] at hmade ⊢
    obtain rfl := Reply.object.inj (Except.ok.inj hmade)
    exact object_insert_self (hview hrelated)

theorem object_evaluate_of_made {route path : String} {attributes config : Option String}
    (hmade : (s.evaluate route path attributes config (some name)).reply = .ok (.object o)) :
    (s.evaluate route path attributes config (some name)).session.object name = .ok o := by
  cases hsetup : s.setup route attributes config with
  | error why =>
    rw [evaluate_of_setup_error hsetup] at hmade
    cases hmade
  | ok setup =>
    rcases evaluate_cases hsetup path (some name) with
      ⟨why, m, -, -, heq⟩ | ⟨held, attempt, m, r, given, -, -, -, hview, -, heq⟩
    · rw [heq] at hmade
      cases hmade
    · rw [heq] at hmade ⊢
      obtain rfl := Reply.object.inj (Except.ok.inj hmade)
      exact object_insert_self hview

/-- What a step makes stands under its name. -/
theorem object_step_of_made {making : Step} (hkeeps : making.keepsUnder = some name)
    (hmade : (s.step making).reply = .ok (.object o)) :
    (s.step making).session.object name = .ok o := by
  cases making with
  | buildRoute target d p =>
    obtain rfl : target = name := Option.some.inj hkeeps
    exact object_make_of_made (buildRoute_cases s target d p) (fun h => h.1) hmade
  | makeAttributes target source =>
    obtain rfl : target = name := Option.some.inj hkeeps
    exact object_make_of_made (makeAttributes_cases s target source) (fun h => h.1) hmade
  | makeConfig target source =>
    obtain rfl : target = name := Option.some.inj hkeeps
    exact object_make_of_made (makeConfig_cases s target source) (fun h => h.1) hmade
  | evaluate route path attributes config keep =>
    obtain rfl : keep = some name := hkeeps
    exact object_evaluate_of_made hmade
  | _ => cases hkeeps

/-- Compiling a route once more gives the pattern that it holds. -/
theorem reply_recompile {r : Route} {given : Given} (h : s.object name = .ok (.route r given)) :
    (s.step (.recompile name)).reply = .ok (.recompiled true r.pattern) := by
  obtain ⟨held, own, hget, hview, -⟩ := exists_of_route (route_eq_ok_iff.mpr h)
  obtain ⟨c, d, hcompiled, -, -, hr⟩ := HeldRoute.exists_of_view? hview
  show (s.recompile name).reply = _
  rw [recompile_cases s hget hcompiled, hr]

/-! ### Evaluations after a run -/

/-- No value in a dictionary of the route under a name has been used up between two sessions. -/
def Spares (s s' : Session) (name : String) : Prop :=
  ∀ h given address entries, s.objects.get? name = some (.route h given) → address ∈ h.addresses →
    s.memory.read? address = some entries →
      ∀ entry ∈ entries, entry.2.IsSpared s.memory.usedUp s'.memory.usedUp

/-- Whether no value in a dictionary of the route under a name can be used up. -/
def isLasting (s : Session) (name : String) : Bool :=
  match s.objects.get? name with
  | some (.route h _) =>
    h.addresses.all fun address =>
      (s.memory.read? address).all fun entries => entries.all fun entry => entry.2.isLasting
  | _ => true

/-- Values that cannot be used up have not been used up. -/
theorem spares_of_isLasting (h : s.isLasting name = true) (s' : Session) : s.Spares s' name := by
  intro held given address entries hget hmem hread entry hentry about items hother hused
  rw [isLasting, hget] at h
  have hall := List.all_eq_true.mp h address hmem
  rw [hread] at hall
  have hlasting : entry.2.isLasting = true := List.all_eq_true.mp hall entry hentry
  rw [hother, Value.isLasting, hused] at hlasting
  cases hlasting

section Evaluations

variable {route path : String} {attributes config : Option String} {steps : List Step}

/-- Assignments to a configuration concern the log alone. -/
theorem config_foldl_after (name : String) (c : Config) (steps : List Step) :
    ∃ v, steps.foldl (Config.after name) c = { c with logRejections := v } := by
  induction steps generalizing c with
  | nil => exact ⟨c.logRejections, rfl⟩
  | cons st rest ih =>
    have hfirst : ∃ v, c.after name st = { c with logRejections := v } := by
      cases st with
      | setItem target field key value =>
        rw [Config.after]
        split
        · unfold Config.setItem
          split
          · cases c.logRejections.setItem key value with
            | error why => exact ⟨c.logRejections, rfl⟩
            | ok v => exact ⟨v, rfl⟩
          · exact ⟨c.logRejections, rfl⟩
        · exact ⟨c.logRejections, rfl⟩
      | _ => exact ⟨c.logRejections, rfl⟩
    obtain ⟨v, hv⟩ := hfirst
    obtain ⟨w, hw⟩ := ih (c.after name st)
    refine ⟨w, ?_⟩
    rw [List.foldl_cons, hw, hv]

theorem attributes_run (hs : s.IsSeparate) {a : Attributes} (h : s.attributes attributes = .ok a)
    (hretains : ∀ name, attributes = some name → Retains name s steps)
    (hsame : ∀ name, attributes = some name → steps.foldl (Attributes.after name) a = a) :
    (s.run steps).session.attributes attributes = .ok a := by
  cases attributes with
  | none => exact h
  | some name =>
    have hlater := object_run hs (attributes_eq_ok_iff.mp h) (hretains name rfl)
    rw [Object.later, hsame name rfl] at hlater
    exact attributes_eq_ok_iff.mpr hlater

theorem config_run (hs : s.IsSeparate) {c : Config} (h : s.config config = .ok c)
    (hretains : ∀ name, config = some name → Retains name s steps) :
    ∃ v, (s.run steps).session.config config = .ok { c with logRejections := v } := by
  cases config with
  | none =>
    obtain rfl := Except.ok.inj h
    exact ⟨_, rfl⟩
  | some name =>
    obtain ⟨v, hv⟩ := config_foldl_after name c steps
    have hlater := object_run hs (config_eq_ok_iff.mp h) (hretains name rfl)
    rw [Object.later, hv] at hlater
    exact ⟨v, config_eq_ok_iff.mpr hlater⟩

/-- A route is evaluated with the same values after a run that uses up none of them. -/
theorem ready_run (hs : s.IsSeparate) {r : Route} (h : s.ready route = .ok r)
    (hretains : Retains route s steps) (hspares : s.Spares (s.run steps).session route) :
    (s.run steps).session.ready route = .ok r := by
  obtain ⟨held, given, ⟨full, shown⟩, hget, hroute, hview⟩ := ready_eq_ok_iff.mp h
  have hholds := holdsRoute_run hs hget hretains
  have hlater := object_run hs (route_eq_ok_iff.mp hroute) hretains
  refine ready_eq_ok_iff.mpr ⟨held, given, _, hholds.get?_eq, route_eq_ok_iff.mpr hlater, ?_⟩
  rw [← hview]
  -- The dictionaries are the same, and as much of their values is left.
  apply HeldRoute.view?_congr_left
  intro address hmem
  rw [Memory.left?, Memory.left?, hholds.read?_eq address hmem]
  cases hread : s.memory.read? address with
  | none => rfl
  | some entries =>
    exact congrArg some
      (Entries.left_of_isSpared (hspares held given address entries hget hmem hread))

/-- **An evaluation starts from the same after a run**, but for what concerns the log. -/
theorem setup_run (hs : s.IsSeparate) {setup : Trial.Setup}
    (h : s.setup route attributes config = .ok setup)
    (hretains : ∀ name, name = route ∨ attributes = some name ∨ config = some name →
      Retains name s steps)
    (hspares : s.Spares (s.run steps).session route)
    (hsame : ∀ name, attributes = some name →
      steps.foldl (Attributes.after name) setup.attributes = setup.attributes) :
    ∃ v, (s.run steps).session.setup route attributes config
      = .ok { setup with config := { setup.config with logRejections := v } } := by
  obtain ⟨hready, hattributes, hconfig⟩ := setup_eq_ok_iff.mp h
  obtain ⟨v, hconfig'⟩ :=
    config_run hs hconfig fun name hname => hretains name (Or.inr (Or.inr hname))
  refine ⟨v, setup_eq_ok_iff.mpr ⟨?_, ?_, hconfig'⟩⟩
  · exact ready_run hs hready (hretains route (Or.inl rfl)) hspares
  · exact attributes_run hs hattributes (fun name hname => hretains name (Or.inr (Or.inl hname)))
      hsame

/-- The reply to an evaluation depends on what it starts from, and shows the route. -/
theorem reply_evaluate {setup : Trial.Setup} (h : s.setup route attributes config = .ok setup)
    {r : Route} {given : Given} (hroute : s.route route = .ok (r, given)) (keep : Option String) :
    (s.step (.evaluate route path attributes config keep)).reply
      = (RouteMatch.evaluate setup.route path setup.attributes setup.config).map fun attempt =>
        .object (.attempt (.ofAttempt r attempt)) := by
  show (s.evaluate route path attributes config keep).reply = _
  rcases evaluate_cases h path keep with
    ⟨why, m, heval, -, heq⟩ | ⟨held, attempt, m, r', given', heval, -, hroute', -, -, heq⟩
  · rw [heq, heval]
    rfl
  · obtain ⟨rfl, rfl⟩ := Prod.mk.inj (Except.ok.inj (hroute.symm.trans hroute'))
    rw [heq, heval]
    rfl

/-- An evaluation replies with an outcome. -/
theorem exists_attempt_of_reply {keep : Option String} {reply : Reply}
    (h : (s.step (.evaluate route path attributes config keep)).reply = .ok reply) :
    ∃ attempt, reply = .object (.attempt attempt) := by
  have h : (s.evaluate route path attributes config keep).reply = .ok reply := h
  cases hsetup : s.setup route attributes config with
  | error why =>
    rw [evaluate_of_setup_error hsetup] at h
    cases h
  | ok setup =>
    rcases evaluate_cases hsetup path keep with
      ⟨why, m, -, -, heq⟩ | ⟨held, attempt, m, r, given, -, -, -, -, -, heq⟩
    · rw [heq] at h
      cases h
    · rw [heq] at h
      exact ⟨_, (Except.ok.inj h).symm⟩

/-- The reply to an evaluation that is made again. -/
theorem reply_evaluate_run (hs : s.IsSeparate) {setup : Trial.Setup}
    (h : s.setup route attributes config = .ok setup)
    (hretains : ∀ name, name = route ∨ attributes = some name ∨ config = some name →
      Retains name s steps)
    (hspares : s.Spares (s.run steps).session route)
    (hsame : ∀ name, attributes = some name →
      steps.foldl (Attributes.after name) setup.attributes = setup.attributes)
    (keep again : Option String) :
    ((s.run steps).session.step (.evaluate route path attributes config again)).reply
      = (s.step (.evaluate route path attributes config keep)).reply := by
  obtain ⟨v, hsetup⟩ := setup_run hs h hretains hspares hsame
  obtain ⟨-, -, ⟨r, given⟩, -, hroute, -⟩ := ready_eq_ok_iff.mp (setup_eq_ok_iff.mp h).1
  have hlater := object_run hs (route_eq_ok_iff.mp hroute) (hretains route (Or.inl rfl))
  -- The configurations differ in what concerns the log, on which no outcome depends.
  rw [reply_evaluate hsetup (route_eq_ok_iff.mpr hlater), reply_evaluate h hroute]
  rfl

end Evaluations

/-! ### Steps that fail -/

/-- A step that fails replaces nothing. -/
theorem replaces_of_error {st : Step} {why : Failure} (hfails : (s.step st).reply = .error why) :
    s.replaces name st = false := by
  rw [replaces, hfails]
  exact Bool.and_false _

/-- A change of a caller's dictionary that fails has changed nothing. -/
theorem later_changeGiven_of_error (hs : s.IsSeparate) (h : s.object name = .ok o)
    {target : String} {field : GivenField} {key value : Value} {why : Failure}
    (hfails : (s.changeGiven target field key value).reply = .error why) :
    o.later name [.changeGiven target field key value] = o := by
  by_cases hboth : target = name ∧ key.unhashable? = none
  · obtain ⟨rfl, hkey⟩ := hboth
    cases o with
    | route r given =>
      -- The route is there after the change, so that the step replies.
      obtain ⟨held, own, hget, -, hgiven⟩ := exists_of_route (route_eq_ok_iff.mpr h)
      obtain ⟨entries, hread⟩ := hs.exists_read? hget (Or.inr (own.address_mem field))
      have hafter := object_changeGiven hs h target field key value
      rw [changeGiven_of_ok hget (route_eq_ok_iff.mpr h) hread hkey value] at hfails hafter
      simp only at hfails hafter
      rw [route_eq_ok_iff.mpr hafter] at hfails
      cases hfails
    | _ => rfl
  · exact Object.later_changeGiven_of_not hboth field value

/-- An assignment that fails has changed nothing. -/
theorem later_setItem_of_error (hs : s.IsSeparate) (h : s.object name = .ok o)
    {target field : String} {key value : Value} {why : Failure}
    (hfails : (s.setItem target field key value).reply = .error why) :
    o.later name [.setItem target field key value] = o := by
  by_cases htarget : target = name
  · subst htarget
    obtain ⟨held, hget, hview⟩ := object_eq_ok_iff.mp h
    have hassigns := Held.assigns_setItem (hs.isApart hget)
      (fun address hmem => hs.exists_read? hget hmem) target field key value
    generalize hset : held.setItem field key value s.memory = result at hassigns
    cases hassigns with
    | fails hsame => exact hsame o hview
    | writes =>
      rw [setItem_of_ok hget hset] at hfails
      cases hfails
    | changes =>
      rw [setItem_of_ok hget hset] at hfails
      cases hfails
  · exact Object.later_setItem_of_ne htarget field key value

/-- **A step that fails leaves every object as it was.** -/
theorem object_step_of_error (hs : s.IsSeparate) (h : s.object name = .ok o) {st : Step}
    {why : Failure} (hfails : (s.step st).reply = .error why) :
    (s.step st).session.object name = .ok o := by
  rw [object_step hs h (replaces_of_error hfails)]
  congr 1
  cases st with
  | changeGiven target field key value => exact later_changeGiven_of_error hs h hfails
  | setItem target field key value => exact later_setItem_of_error hs h hfails
  | _ => exact Object.later_of_not_isAssignment rfl

/-! ### Runs -/

/-- **Objects keep to themselves, along every run.**  Take a session that any steps have led to,
and any steps to be made in it.

What a step makes stays under its name, until another object takes the name, and is what it was
when it was made: a route is the same, whatever becomes of the dictionaries that it was made from
and of those that its predicate answers with; an outcome is changed by the assignments to its own
dictionaries alone; attributes are changed by assignments to an item of a list or of a dictionary
that stands in one of their fields, and stay as they are if there is none.  Compiling a route once
more gives the pattern that it holds.

An evaluation with the same objects gives the same outcome, or fails in the same way, as it did
before the steps, if the attributes are what they were and nothing that the route holds has been
used up in between.

And a step that fails leaves every object as it is. -/
theorem run_isolated {s : Session} {before : List Step} (hs : (run {} before).session = s)
    (steps : List Step) :
    (∀ making name o, making.keepsUnder = some name → (s.step making).reply = .ok (.object o) →
      Retains name (s.step making).session steps →
        (s.run (making :: steps)).session.object name = .ok (o.later name steps) ∧
          (∀ a, o = .attributes a → a.IsPlain → o.later name steps = o) ∧
          ∀ r given, o = .route r given →
            ((s.run (making :: steps)).session.step (.recompile name)).reply
              = .ok (.recompiled true r.pattern)) ∧
    (∀ route path attributes config keep again setup,
      s.setup route attributes config = .ok setup →
      (∀ name, name = route ∨ attributes = some name ∨ config = some name →
        Retains name s (.evaluate route path attributes config keep :: steps)) →
      (∀ name, attributes = some name →
        steps.foldl (Attributes.after name) setup.attributes = setup.attributes) →
      s.Spares (s.run (.evaluate route path attributes config keep :: steps)).session route →
        ((s.run (.evaluate route path attributes config keep :: steps)).session.step
            (.evaluate route path attributes config again)).reply
          = (s.step (.evaluate route path attributes config keep)).reply) ∧
    ∀ st failure, (s.step st).reply = .error failure →
      ∀ name o, s.object name = .ok o → (s.step st).session.object name = .ok o := by
  have hseparate : s.IsSeparate := hs ▸ isSeparate_run isSeparate_empty before
  refine ⟨?_, ?_, ?_⟩
  · intro making name o hkeeps hmade hretains
    have hlater := object_run (isSeparate_step hseparate making)
      (object_step_of_made hkeeps hmade) hretains
    refine ⟨hlater, ?_, ?_⟩
    · rintro a rfl hplain
      rw [Object.later, Attributes.foldl_after_of_isPlain hplain]
    · rintro r given rfl
      exact reply_recompile hlater
  · intro route path attributes config keep again setup hsetup hretains hsame hspares
    exact reply_evaluate_run hseparate hsetup hretains hspares hsame keep again
  · intro st failure hfails name o hobject
    exact object_step_of_error hseparate hobject hfails

/-- A predicate that answers with the same dictionary at every call. -/
def draftPredicate : KeepingPredicate where
  answer := fun _ _ => .ok (.kept (.bool true))
  kept := [(.text "id", .text "x")]

/-- The definition of its route. -/
def draftDefinition : RouteDefinition :=
  { path := "/d/{id}"
    values := [("lang", .text "en")] }

/-- A session with that route and with attributes. -/
def draftSession : Session :=
  (run {} [.buildRoute "r" draftDefinition (some draftPredicate),
    .makeAttributes "a" (.fields (.text "GET") .none .none .none
      (.dict [(.text "HOST", .text "www")]))]).session

/-- The evaluation of a path, kept under a name. -/
def draftEvaluation : Step :=
  .evaluate "r" "/d/7" (some "a") none (some "m")

/-- Changes of what the objects were made from, and assignments to them. -/
def draftSteps : List Step :=
  [.changeGiven "r" .values (.text "lang") (.text "de"),
    .changeServer "a" (.text "HOST") (.text "other"),
    .setItem "m" "params" (.text "lang") (.text "fr"),
    .setItem "m" "captures" (.text "id") (.text "z"),
    .setItem "r" "values" (.text "lang") (.text "fr"),
    .recompile "r"]

/-- Assignments to an attempt show in the attempt; neither they nor the other changes show when
the path is evaluated once more, although its captures come from one dictionary. -/
theorem run_isolated_draftSession :
    let after := (draftSession.run (draftEvaluation :: draftSteps)).session
    ∃ attempt : KeptAttempt,
      (draftSession.step draftEvaluation).reply = .ok (.object (.attempt attempt)) ∧
      after.object "m"
        = .ok (.attempt
          { attempt with
            params := attempt.params.insert (.text "lang") (.text "fr")
            captures := attempt.captures.insert (.text "id") (.text "z") }) ∧
      (after.step (.evaluate "r" "/d/7" (some "a") none none)).reply
        = .ok (.object (.attempt attempt)) ∧
      ∀ o, draftSession.object "r" = .ok o →
        (draftSession.step (.setField "r" "path" (.text "/"))).session.object "r" = .ok o := by
  intro after
  obtain ⟨setup, hsetup, hplain⟩ : ∃ setup, draftSession.setup "r" (some "a") none = .ok setup ∧
      ([setup.attributes.method, setup.attributes.https, setup.attributes.port,
        setup.attributes.accept].all fun v => !v.isWritable) = true :=
    exists_of_any_toOption (by decide +kernel)
  have hplain : setup.attributes.IsPlain := fun v hv =>
    Bool.not_eq_true' _ ▸ List.all_eq_true.mp hplain v hv
  obtain ⟨reply, hreply⟩ : ∃ reply, (draftSession.step draftEvaluation).reply = .ok reply :=
    exists_of_toBool (by decide +kernel)
  obtain ⟨attempt, rfl⟩ := exists_attempt_of_reply hreply
  obtain ⟨failure, hfails⟩ : ∃ failure,
      (draftSession.step (.setField "r" "path" (.text "/"))).reply = .error failure := by
    have hfails : (draftSession.step (.setField "r" "path" (.text "/"))).reply.toBool = false := by
      decide +kernel
    cases h : (draftSession.step (.setField "r" "path" (.text "/"))).reply with
    | error failure => exact ⟨failure, rfl⟩
    | ok reply =>
      rw [h] at hfails
      cases hfails
  have hlasting : draftSession.isLasting "r" = true := by decide +kernel
  obtain ⟨hobjects, hevaluations, hfailures⟩ := run_isolated (s := draftSession) rfl draftSteps
  have hkept : Retains "m" (draftSession.step draftEvaluation).session draftSteps := by
    apply retains_of_forall
    decide
  have hretained : ∀ name, name = "r" ∨ some "a" = some name ∨ none = some name →
      Retains name draftSession (draftEvaluation :: draftSteps) := by
    intro name hname
    apply retains_of_forall
    rcases hname with rfl | hname | hname
    · decide
    · obtain rfl := Option.some.inj hname
      decide
    · cases hname
  refine ⟨attempt, hreply, ?_, ?_, fun o ho => hfailures _ failure hfails "r" o ho⟩
  · exact (hobjects draftEvaluation "m" _ rfl hreply hkept).1
  · have hagain := hevaluations "r" "/d/7" (some "a") none (some "m") none setup hsetup hretained
      (fun name _ => Attributes.foldl_after_of_isPlain hplain name draftSteps)
      (spares_of_isLasting hlasting _)
    exact hagain.trans hreply

/-- An environment with a dictionary where the method belongs. -/
def drawerSource : AttributesSource :=
  .environment (.dict [(.text "REQUEST_METHOD", .dict [(.text "x", .int 0)])])

/-- The definition of a route with an iterator for the default of its wildcard. -/
def drawerDefinition : RouteDefinition :=
  { path := "/drawer"
    values :=
      [("rest", .other
        { number := 0, kind := "list_iterator", text := "<list_iterator>", isUsedUp := true }
        (some [.int 1, .int 2]))]
    wildcard := some "rest" }

/-- The method that attributes show. -/
def shownMethod (found : Except Failure Object) : Option String :=
  match found with
  | .ok (.attributes a) => some a.method.display
  | _ => none

/-- A parameter that an outcome shows. -/
def shownParam (name : String) (reply : Except Failure Reply) : Option String :=
  match reply with
  | .ok (.object (.attempt a)) => (a.params.get? (.text name)).map Value.display
  | _ => none

/-- An assignment to a dictionary in a field of attributes shows in the attributes, and a route
whose wildcard has an iterator for its default gives another outcome when the same path is
evaluated again. -/
theorem run_not_isolated :
    shownMethod ((run {} [.makeAttributes "a" drawerSource]).session.object "a")
        = some "\x7b'x': 0\x7d" ∧
      shownMethod ((run {} [.makeAttributes "a" drawerSource,
          .setItem "a" "method" (.text "x") (.int 1)]).session.object "a")
        = some "\x7b'x': 1\x7d" ∧
      (run {} [.buildRoute "r" drawerDefinition, .evaluate "r" "/drawer" none none none,
          .evaluate "r" "/drawer" none none none]).replies.map (shownParam "rest")
        = [none, some "[1, 2]", some "[]"] := by
  decide +kernel

end Session

end RouteMatch
