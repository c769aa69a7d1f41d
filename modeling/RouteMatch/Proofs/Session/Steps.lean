import RouteMatch.Proofs.Session.Separation

/-!
# What the steps of a session do

A step that makes an object does to the memory what its actions do, and keeps the object if they
succeed.  Each such step is described once: it fails as making the object from values fails, or
the object that is kept shows what is made from values.  The other steps write to a dictionary or
change a field, or they only look.

## Main results

* `Session.make_cases`, `Session.evaluate_cases` — the steps that make an object.
* `Session.recompile_cases` — a route that has been compiled stays as it is.
* `Session.moves_step` — every step does what a step can do.
* `Session.isSeparate_run` — **the objects of a session are separate, along every run.**
-/

namespace RouteMatch

open RouteMatch.Action

/-! ### Results of actions -/

section

variable {α β : Type} {base m m' : Memory} {related : α → β → Memory → Prop} {x : Action α}
  {y : Except Failure β}

theorem Follows.of_ok {v : α} (h : Follows base related (x m) y) (hx : x m = .ok v m') :
    ∃ w, y = .ok w ∧ base.Extends m' ∧ related v w m' := by
  rw [hx] at h
  cases h with
  | value hextends h => exact ⟨_, rfl, hextends, h⟩

theorem Follows.of_error {why : Failure} (h : Follows base related (x m) y)
    (hx : x m = .error why m') : y = .error why ∧ base.Extends m' := by
  rw [hx] at h
  cases h with
  | failure hextends => exact ⟨rfl, hextends⟩

/-- An action that is followed by a look at the object that comes of it. -/
theorem showing_apply {toHeld : α → Held} {v : α} {o : Object} (hx : x m = .ok v m')
    (hview : (toHeld v).view? m' = some o) : Held.showing toHeld x m = .ok (v, o) m' := by
  rw [Held.showing, bind_apply_of_ok hx]
  exact bind_apply_of_ok (look_apply hview)

theorem showing_apply_of_error {toHeld : α → Held} {why : Failure} (hx : x m = .error why m') :
    Held.showing toHeld x m = .error why m' :=
  bind_apply_of_error hx

end

/-- Making a route with the dictionaries of its caller. -/
theorem follows_buildRoute (m : Memory) (d : RouteDefinition) (p : Option KeepingPredicate) :
    Follows m
      (fun h r m' => h.view? m' = some (.route r (Given.ofDefinition d)) ∧ h.IsNew m m' ∧
        h.IsCompiled)
      ((do let (h, given) ← HeldRoute.build d p; return Held.route h given : Action Held) m)
      (Route.build (d.keeping p)) := by
  refine (follows_build m d p).bind_ok ?_
  rintro ⟨h, given⟩ r m' hextends ⟨hview, hnew⟩
  refine .value hextends ⟨hview, hnew, ?_⟩
  obtain ⟨r, shown, hroute, -, -⟩ := Held.view?_route_eq_some_iff.mp hview
  obtain ⟨c, d, hcompiled, -⟩ := HeldRoute.exists_of_view? hroute
  show h.compiled.isSome = true
  rw [hcompiled]
  rfl

/-- Making attributes as an object. -/
theorem follows_makeAttributes (m : Memory) (source : AttributesSource) :
    Follows m
      (fun h a m' => h.view? m' = some (.attributes a) ∧ h.IsNew m m' ∧ h.IsCompiled)
      ((do return Held.attributes (← HeldAttributes.make source) : Action Held) m)
      (Attributes.ofSource (source.left m.usedUp)) := by
  refine (follows_make m source).bind_ok ?_
  rintro h a m' hextends ⟨hview, hnew⟩
  exact .value hextends ⟨congrArg (Option.map Object.attributes) hview, hnew, trivial⟩

/-- Making a configuration. -/
theorem follows_makeConfig (m : Memory) (source : ConfigSource) :
    Follows m
      (fun h c m' => h.view? m' = some (.config c) ∧ h.IsNew m m' ∧ h.IsCompiled)
      ((do return Held.config (← ofResult (Config.ofSource source)) : Action Held) m)
      (Config.ofSource source) := by
  refine (follows_ofResult (.refl m) _).bind_ok ?_
  rintro c _ _ hextends ⟨rfl, rfl⟩
  refine .value hextends ⟨rfl, ?_, trivial⟩
  exact
    { nodup := List.nodup_nil
      apart := fun _ hmem => absurd hmem List.not_mem_nil
      new := fun _ hmem => by rcases hmem with hmem | hmem <;> exact absurd hmem List.not_mem_nil }

namespace Session

variable {s : Session}

/-! ### Steps that make an object -/

/-- A step that makes an object fails as making it from values does, or keeps an object that
shows what is made from values. -/
theorem make_cases {β : Type} {action : Action Held} {y : Except Failure β} {shown : β → Object}
    {related : Held → β → Memory → Prop} (h : Follows s.memory related (action s.memory) y)
    (hview : ∀ {h w m}, related h w m → h.view? m = some (shown w)) (name : String)
    (records : Object → List LogRecord) :
    (∃ why m, y = .error why ∧ s.memory.Extends m ∧
        s.make name action records = ⟨.error why, ⟨s.objects, m⟩, []⟩) ∨
      ∃ h w m, y = .ok w ∧ s.memory.Extends m ∧ related h w m ∧
        s.make name action records
          = ⟨.ok (.object (shown w)), ⟨s.objects.insert name h, m⟩, records (shown w)⟩ := by
  cases haction : action s.memory with
  | error why m =>
    obtain ⟨hy, hextends⟩ := h.of_error haction
    refine Or.inl ⟨why, m, hy, hextends, ?_⟩
    rw [make, perform, showing_apply_of_error haction]
  | ok held m =>
    obtain ⟨w, hy, hextends, hrelated⟩ := h.of_ok haction
    refine Or.inr ⟨held, w, m, hy, hextends, hrelated, ?_⟩
    rw [make, perform, showing_apply haction (hview hrelated)]
    rfl

/-- A new object is one that a step can make. -/
theorem makes_of_isNew {m : Memory} {h : Held} (hnew : h.IsNew s.memory m)
    (hcompiled : h.IsCompiled) : s.Makes m h where
  toIsApart := hnew.toIsApart
  compiled := hcompiled
  writable_new := fun address hmem => hnew.new address (Or.inr hmem)
  fixed_known := fun address hmem => Or.inl (hnew.new address (Or.inl hmem))

theorem buildRoute_cases (s : Session) (name : String) (d : RouteDefinition)
    (p : Option KeepingPredicate) :
    (∃ why m, Route.build (d.keeping p) = .error why ∧ s.memory.Extends m ∧
        s.buildRoute name d p = ⟨.error why, ⟨s.objects, m⟩, []⟩) ∨
      ∃ h r m, Route.build (d.keeping p) = .ok r ∧ s.memory.Extends m ∧
        (h.view? m = some (.route r (Given.ofDefinition d)) ∧ h.IsNew s.memory m ∧ h.IsCompiled) ∧
        s.buildRoute name d p = ⟨.ok (.object (.route r (Given.ofDefinition d))),
          ⟨s.objects.insert name h, m⟩, buildLog (.ok r)⟩ :=
  make_cases (follows_buildRoute s.memory d p) (fun h => h.1) name builtRecords

theorem makeAttributes_cases (s : Session) (name : String) (source : AttributesSource) :
    (∃ why m, Attributes.ofSource (source.left s.memory.usedUp) = .error why ∧
        s.memory.Extends m ∧ s.makeAttributes name source = ⟨.error why, ⟨s.objects, m⟩, []⟩) ∨
      ∃ h a m, Attributes.ofSource (source.left s.memory.usedUp) = .ok a ∧ s.memory.Extends m ∧
        (h.view? m = some (.attributes a) ∧ h.IsNew s.memory m ∧ h.IsCompiled) ∧
        s.makeAttributes name source
          = ⟨.ok (.object (.attributes a)), ⟨s.objects.insert name h, m⟩, []⟩ :=
  make_cases (follows_makeAttributes s.memory source) (fun h => h.1) name fun _ => []

theorem makeConfig_cases (s : Session) (name : String) (source : ConfigSource) :
    (∃ why m, Config.ofSource source = .error why ∧ s.memory.Extends m ∧
        s.makeConfig name source = ⟨.error why, ⟨s.objects, m⟩, []⟩) ∨
      ∃ h c m, Config.ofSource source = .ok c ∧ s.memory.Extends m ∧
        (h.view? m = some (.config c) ∧ h.IsNew s.memory m ∧ h.IsCompiled) ∧
        s.makeConfig name source
          = ⟨.ok (.object (.config c)), ⟨s.objects.insert name h, m⟩, []⟩ :=
  make_cases (follows_makeConfig s.memory source) (fun h => h.1) name fun _ => []

/-! ### Evaluations -/

theorem heldRoute_eq_ok_iff {name : String} {h : HeldRoute} {given : HeldGiven} :
    s.heldRoute name = .ok (h, given) ↔ s.objects.get? name = some (.route h given) := by
  cases hget : s.objects.get? name with
  | none => simp [heldRoute, hget]
  | some o => cases o <;> simp [heldRoute, hget]

/-- What an object shows. -/
theorem object_eq_ok_iff {name : String} {o : Object} :
    s.object name = .ok o ↔ ∃ h, s.objects.get? name = some h ∧ h.view? s.memory = some o := by
  rw [object]
  cases hget : s.objects.get? name with
  | none => simp
  | some h => cases hview : h.view? s.memory <;> simp [hview]

theorem route_eq_ok_iff {name : String} {r : Route} {given : Given} :
    s.route name = .ok (r, given) ↔ s.object name = .ok (.route r given) := by
  cases hobject : s.object name with
  | error failure => simp [route, hobject]
  | ok o => cases o <;> simp [route, hobject]

theorem attributes_eq_ok_iff {name : String} {a : Attributes} :
    s.attributes (some name) = .ok a ↔ s.object name = .ok (.attributes a) := by
  cases hobject : s.object name with
  | error failure => simp [attributes, hobject]
  | ok o => cases o <;> simp [attributes, hobject]

theorem config_eq_ok_iff {name : String} {c : Config} :
    s.config (some name) = .ok c ↔ s.object name = .ok (.config c) := by
  cases hobject : s.object name with
  | error failure => simp [config, hobject]
  | ok o => cases o <;> simp [config, hobject]

/-- What is held where there is a route. -/
theorem exists_of_route {name : String} {r : Route} {shown : Given}
    (h : s.route name = .ok (r, shown)) :
    ∃ held given, s.objects.get? name = some (.route held given) ∧
      held.view? s.memory [] = some r ∧ given.view? s.memory = some shown := by
  obtain ⟨o, hget, hview⟩ := object_eq_ok_iff.mp (route_eq_ok_iff.mp h)
  cases o with
  | route held given =>
    obtain ⟨_, _, hroute, hgiven, heq⟩ := Held.view?_route_eq_some_iff.mp hview
    obtain ⟨rfl, rfl⟩ := Object.route.inj heq
    exact ⟨held, given, hget, hroute, hgiven⟩
  | attributes a =>
    obtain ⟨_, -, heq⟩ := Held.view?_attributes_eq_some_iff.mp hview
    cases heq
  | config c => cases hview
  | attempt a =>
    obtain ⟨_, _, _, -, -, -, heq⟩ := Held.view?_attempt_eq_some_iff.mp hview
    cases heq

/-- The route that an evaluation starts from. -/
theorem ready_eq_ok_iff {name : String} {r : Route} :
    s.ready name = .ok r ↔ ∃ h given shown, s.objects.get? name = some (.route h given) ∧
      s.route name = .ok shown ∧ h.view? s.memory s.memory.usedUp = some r := by
  rw [ready]
  cases hroute : s.route name with
  | error failure => simp
  | ok shown =>
    cases hheld : s.heldRoute name with
    | error failure =>
      have hnone : ∀ h given, s.objects.get? name ≠ some (.route h given) := by
        intro h given hget
        rw [heldRoute_eq_ok_iff.mpr hget] at hheld
        cases hheld
      simp [hnone]
    | ok found =>
      obtain ⟨h, given⟩ := found
      have hget := heldRoute_eq_ok_iff.mp hheld
      cases hview : h.view? s.memory s.memory.usedUp <;> simp [hget, hview]

theorem setup_eq_ok_iff {route : String} {attributes config : Option String}
    {setup : Trial.Setup} :
    s.setup route attributes config = .ok setup ↔
      s.ready route = .ok setup.route ∧ s.attributes attributes = .ok setup.attributes ∧
        s.config config = .ok setup.config := by
  unfold Session.setup
  cases s.ready route with
  | error failure => simp
  | ok r =>
    cases s.attributes attributes with
    | error failure => simp
    | ok a =>
      cases s.config config with
      | error failure => simp
      | ok c =>
        obtain ⟨r', a', c'⟩ := setup
        simp

/-- What the outcome of an evaluation shows. -/
theorem view?_of_holds {base m : Memory} {h : HeldRoute} {held : HeldAttempt} {attempt : Attempt}
    {r : Route} (hholds : held.Holds base h attempt m) (hview : h.view? m [] = some r) :
    (Held.attempt held).view? m = some (.attempt (.ofAttempt r attempt)) := by
  refine Held.view?_attempt_eq_some_iff.mpr
    ⟨r, _, _, ?_, hholds.params, hholds.captures, ?_⟩
  · rw [hholds.route, hview]
  · rw [hholds.rejection]
    rfl

/-- An outcome has dictionaries of its own, and those of its route. -/
theorem makes_of_holds {m : Memory} {name : String} {h : HeldRoute} {given : HeldGiven}
    {held : HeldAttempt} {attempt : Attempt}
    (hget : s.objects.get? name = some (.route h given))
    (hlt : ∀ address ∈ h.addresses, address < s.memory.size)
    (hholds : held.Holds s.memory h attempt m) : s.Makes m (.attempt held) where
  nodup := by
    have hne : held.params ≠ held.captures := hholds.ne
    show [held.params, held.captures].Nodup
    simp [hne]
  apart := by
    intro address hmem hfixed
    have hmem : address ∈ [held.params, held.captures] := hmem
    have hfixed : address ∈ held.route.addresses := hfixed
    rw [hholds.route] at hfixed
    have hold := hlt address hfixed
    simp only [List.mem_cons, List.not_mem_nil, or_false] at hmem
    rcases hmem with rfl | rfl
    · exact Nat.not_le_of_lt hold hholds.params_new
    · exact Nat.not_le_of_lt hold hholds.captures_new
  compiled := trivial
  writable_new := by
    intro address hmem
    have hmem : address ∈ [held.params, held.captures] := hmem
    simp only [List.mem_cons, List.not_mem_nil, or_false] at hmem
    rcases hmem with rfl | rfl
    · exact ⟨hholds.params_new, Memory.lt_size_of_read? hholds.params⟩
    · exact ⟨hholds.captures_new, Memory.lt_size_of_read? hholds.captures⟩
  fixed_known := by
    intro address hmem
    have hmem : address ∈ held.route.addresses := hmem
    rw [hholds.route] at hmem
    exact Or.inr ⟨name, _, hget, hmem⟩

/-- The log of an evaluation depends on the rejection alone. -/
theorem evaluationLog_congr (r : Route) (path : String) (config : Config) {a b : Attempt}
    (h : a.rejection = b.rejection) :
    evaluationLog r path config (.ok a) = evaluationLog r path config (.ok b) := by
  rw [evaluationLog, evaluationLog, h]

/-- An evaluation fails as the evaluation of values does, or gives an outcome that shows what
that gives. -/
theorem evaluate_cases {route : String} {attributes config : Option String} {setup : Trial.Setup}
    (hsetup : s.setup route attributes config = .ok setup) (path : String) (keep : Option String) :
    (∃ why m, RouteMatch.evaluate setup.route path setup.attributes setup.config = .error why ∧
        s.memory.Extends m ∧
        s.evaluate route path attributes config keep = ⟨.error why, ⟨s.objects, m⟩, []⟩) ∨
      ∃ held attempt m r given,
        RouteMatch.evaluate setup.route path setup.attributes setup.config = .ok attempt ∧
        s.memory.Extends m ∧ s.route route = .ok (r, given) ∧
        (Held.attempt held).view? m = some (.attempt (.ofAttempt r attempt)) ∧
        s.Makes m (.attempt held) ∧
        s.evaluate route path attributes config keep
          = ⟨.ok (.object (.attempt (.ofAttempt r attempt))),
            (⟨s.objects, m⟩ : Session).putUnder keep (.attempt held),
            evaluationLog setup.route path setup.config (.ok attempt)⟩ := by
  obtain ⟨hready, -, -⟩ := setup_eq_ok_iff.mp hsetup
  obtain ⟨h, given, ⟨r, shown⟩, hget, hroute, hview⟩ := ready_eq_ok_iff.mp hready
  have hheld := heldRoute_eq_ok_iff.mpr hget
  -- The route is evaluated with what is left of its values, and shown with all of them.
  obtain ⟨_, _, hget', hnow, -⟩ := exists_of_route hroute
  obtain ⟨rfl, rfl⟩ := Held.route.inj (Option.some.inj (hget.symm.trans hget'))
  have hfollows := follows_evaluate hview path setup.attributes setup.config
  simp only [evaluate, hsetup, hheld, perform]
  cases hrun : h.evaluate path setup.attributes setup.config s.memory with
  | error why m =>
    obtain ⟨hfails, hextends⟩ := hfollows.of_error hrun
    refine Or.inl ⟨why, m, hfails, hextends, ?_⟩
    rw [showing_apply_of_error hrun]
  | ok held m =>
    obtain ⟨attempt, heval, hextends, hholds⟩ := hfollows.of_ok hrun
    have hshown := view?_of_holds hholds (HeldRoute.view?_of_extends hnow hextends)
    refine Or.inr ⟨held, attempt, m, _, _, heval, hextends, hroute, hshown,
      makes_of_holds hget (HeldRoute.lt_size_of_view? hnow) hholds, ?_⟩
    rw [showing_apply hrun hshown]
    simp only []
    rw [evaluationLog_congr _ _ _ (b := attempt) hholds.rejection]

/-- Without what it starts from, an evaluation fails and does nothing. -/
theorem evaluate_of_setup_error {route : String} {attributes config : Option String} {why : Failure}
    (hsetup : s.setup route attributes config = .error why) (path : String) (keep : Option String) :
    s.evaluate route path attributes config keep = ⟨.error why, s, []⟩ := by
  rw [evaluate, hsetup]

/-! ### The other steps -/

/-- A route that has been compiled stays as it is. -/
theorem recompile_cases (s : Session) {name : String} {h : HeldRoute} {given : HeldGiven}
    {c : Compiled} (hget : s.objects.get? name = some (.route h given))
    (hcompiled : h.compiled = some c) :
    s.recompile name = ⟨.ok (.recompiled true c.pattern), s, []⟩ := by
  have hheld := heldRoute_eq_ok_iff.mpr hget
  have hrun : h.compile s.memory = .ok (h, c) s.memory := HeldRoute.compile_apply hcompiled
  have hsame : s.objects.insert name (.route h given) = s.objects := Entries.insert_of_get? hget
  simp [recompile, hheld, perform, hrun, hcompiled, put, hsame]

/-- Compiling a route once more changes nothing. -/
theorem session_recompile (hs : s.IsSeparate) (name : String) : (s.recompile name).session = s := by
  cases hheld : s.heldRoute name with
  | error why => rw [recompile, hheld]
  | ok found =>
    obtain ⟨h, given⟩ := found
    have hget := heldRoute_eq_ok_iff.mp hheld
    obtain ⟨c, hcompiled⟩ := Option.isSome_iff_exists.mp (hs.compiled hget)
    rw [recompile_cases s hget hcompiled]

/-- The dictionary of a caller is changed, if there is a route and the key can be one. -/
theorem changeGiven_of_ok {name : String} {h : HeldRoute} {given : HeldGiven}
    {shown : Route × Given} {entries : Entries Value Value}
    (hget : s.objects.get? name = some (.route h given)) (hroute : s.route name = .ok shown)
    {field : GivenField}
    (hread : s.memory.read? (given.address field) = some entries) {key : Value}
    (hkey : key.unhashable? = none) (value : Value) :
    s.changeGiven name field key value =
      let after : Session :=
        ⟨s.objects, s.memory.write (given.address field) (entries.insert key value)⟩
      ⟨(after.route name).map fun shown => .state shown.1, after, []⟩ := by
  have hheld := heldRoute_eq_ok_iff.mpr hget
  simp only [changeGiven, hroute, hheld, perform, assign_apply hread hkey value]

/-- Otherwise nothing is changed. -/
theorem changeGiven_of_not (name : String) (field : GivenField) (key value : Value)
    (h : (∃ why, s.route name = .error why) ∨ ∃ kind, key.unhashable? = some kind) :
    ∃ why, s.changeGiven name field key value = ⟨.error why, s, []⟩ := by
  unfold changeGiven
  split
  · exact ⟨_, rfl⟩
  · exact ⟨_, rfl⟩
  · next hroute hheld =>
    rcases h with ⟨why, herror⟩ | ⟨kind, hkey⟩
    · rw [herror] at hroute
      cases hroute
    · rw [perform, assign_apply_of_unhashable _ _ hkey]
      exact ⟨_, rfl⟩

/-- The dictionary of a caller is changed, if there are attributes and the key can be one. -/
theorem changeServer_of_ok {name : String} {h : HeldAttributes} {entries : Entries Value Value}
    (hget : s.objects.get? name = some (.attributes h))
    (hread : s.memory.read? h.given = some entries) {key : Value} (hkey : key.unhashable? = none)
    (value : Value) :
    s.changeServer name key value =
      let after : Session := ⟨s.objects, s.memory.write h.given (entries.insert key value)⟩
      ⟨(after.object name).map .object, after, []⟩ := by
  simp only [changeServer, hget, perform, assign_apply hread hkey value]

/-- Otherwise nothing is changed. -/
theorem changeServer_of_not {name : String} {key : Value} (value : Value)
    (h : (∀ h, s.objects.get? name ≠ some (.attributes h)) ∨ ∃ kind, key.unhashable? = some kind) :
    ∃ why, s.changeServer name key value = ⟨.error why, s, []⟩ := by
  unfold changeServer
  split
  · next held hget =>
    rcases h with hnone | ⟨kind, hkey⟩
    · exact absurd hget (hnone held)
    · rw [perform, assign_apply_of_unhashable _ _ hkey]
      exact ⟨_, rfl⟩
  · exact ⟨_, rfl⟩

end Session

namespace Session

variable {s : Session}

/-- Where there is no object, nothing is assigned to. -/
theorem setItem_of_none {name : String} (hget : s.objects.get? name = none) (field : String)
    (key value : Value) : ∃ why, s.setItem name field key value = ⟨.error why, s, []⟩ := by
  rw [setItem, hget]
  exact ⟨_, rfl⟩

/-- An assignment that fails changes nothing. -/
theorem setItem_of_error {name field : String} {key value : Value} {h : Held} {why : Failure}
    (hget : s.objects.get? name = some h)
    (hset : h.setItem field key value s.memory = .error why s.memory) :
    s.setItem name field key value = ⟨.error why, s, []⟩ := by
  simp only [setItem, hget, perform, hset]

/-- An assignment that succeeds keeps the object that comes of it. -/
theorem setItem_of_ok {name field : String} {key value now : Value} {h after : Held} {m : Memory}
    (hget : s.objects.get? name = some h)
    (hset : h.setItem field key value s.memory = .ok (after, now) m) :
    s.setItem name field key value
      = ⟨.ok (.now now), ⟨s.objects.insert name after, m⟩, []⟩ := by
  simp only [setItem, hget, perform, hset]
  rfl

/-! ### Moves -/

/-- A dictionary that an object may write to is in the memory. -/
theorem IsSeparate.exists_read? (hs : s.IsSeparate) {name : String} {h : Held}
    (hget : s.objects.get? name = some h) {address : Address}
    (hmem : address ∈ h.fixed ∨ address ∈ h.writable) :
    ∃ entries, s.memory.read? address = some entries :=
  Memory.exists_read? (hs.bounded hget address hmem)

theorem moves_make {β : Type} {action : Action Held} {y : Except Failure β}
    {related : Held → β → Memory → Prop} {shown : β → Object} {name : String}
    {records : Object → List LogRecord}
    (hcases : (∃ why m, y = .error why ∧ s.memory.Extends m ∧
        s.make name action records = ⟨.error why, ⟨s.objects, m⟩, []⟩) ∨
      ∃ h w m, y = .ok w ∧ s.memory.Extends m ∧
        (related h w m ∧ h.IsNew s.memory m ∧ h.IsCompiled) ∧
        s.make name action records
          = ⟨.ok (.object (shown w)), ⟨s.objects.insert name h, m⟩, records (shown w)⟩) :
    s.Moves (s.make name action records).session := by
  rcases hcases with ⟨why, m, -, hextends, heq⟩ | ⟨h, w, m, -, hextends, ⟨-, hnew, hc⟩, heq⟩
  · rw [heq]
    exact .grows hextends
  · rw [heq]
    exact .keeps hextends (makes_of_isNew hnew hc)

theorem moves_evaluate (s : Session) (route path : String)
    (attributes config keep : Option String) :
    s.Moves (s.evaluate route path attributes config keep).session := by
  cases hsetup : s.setup route attributes config with
  | error why =>
    rw [evaluate_of_setup_error hsetup]
    exact .refl s
  | ok setup =>
    rcases evaluate_cases hsetup path keep with
      ⟨why, m, -, hextends, heq⟩ | ⟨held, attempt, m, r, given, -, hextends, -, -, hmakes, heq⟩
    · rw [heq]
      exact .grows hextends
    · rw [heq]
      cases keep with
      | none => exact .grows hextends
      | some name => exact .keeps hextends hmakes

theorem moves_changeGiven (hs : s.IsSeparate) (name : String) (field : GivenField)
    (key value : Value) : s.Moves (s.changeGiven name field key value).session := by
  cases hroute : s.route name with
  | error why =>
    obtain ⟨why, heq⟩ := changeGiven_of_not name field key value (Or.inl ⟨_, hroute⟩)
    rw [heq]
    exact .refl s
  | ok shown =>
    cases hkey : key.unhashable? with
    | some kind =>
      obtain ⟨why, heq⟩ := changeGiven_of_not (s := s) name field key value (Or.inr ⟨kind, hkey⟩)
      rw [heq]
      exact .refl s
    | none =>
      obtain ⟨r, given'⟩ := shown
      obtain ⟨h, given, hget, -, hgiven⟩ := exists_of_route hroute
      obtain ⟨entries, hread⟩ := hs.exists_read? hget (Or.inr (given.address_mem field))
      rw [changeGiven_of_ok hget hroute hread hkey value]
      exact .writes hget (given.address_mem field) (Memory.differsAt_write _ _ _)

theorem moves_changeServer (hs : s.IsSeparate) (name : String) (key value : Value) :
    s.Moves (s.changeServer name key value).session := by
  by_cases hnot : (∀ h, s.objects.get? name ≠ some (.attributes h)) ∨
      ∃ kind, key.unhashable? = some kind
  · obtain ⟨why, heq⟩ := changeServer_of_not value hnot
    rw [heq]
    exact .refl s
  · rw [not_or] at hnot
    obtain ⟨hsome, hhashable⟩ := hnot
    obtain ⟨h, hget⟩ := not_forall_not.mp hsome
    have hkey : key.unhashable? = none := by
      rw [Option.eq_none_iff_forall_ne_some]
      exact fun kind hkind => hhashable ⟨kind, hkind⟩
    have hmem : h.given ∈ (Held.attributes h).writable := List.mem_singleton.mpr rfl
    obtain ⟨entries, hread⟩ := hs.exists_read? hget (Or.inr hmem)
    rw [changeServer_of_ok hget hread hkey value]
    exact .writes hget hmem (Memory.differsAt_write _ _ _)

theorem moves_setItem (hs : s.IsSeparate) (name field : String) (key value : Value) :
    s.Moves (s.setItem name field key value).session := by
  cases hget : s.objects.get? name with
  | none =>
    obtain ⟨why, heq⟩ := setItem_of_none hget field key value
    rw [heq]
    exact .refl s
  | some h =>
    have hassigns := Held.assigns_setItem (hs.isApart hget)
      (fun address hmem => hs.exists_read? hget hmem) name field key value
    generalize hset : h.setItem field key value s.memory = result at hassigns
    cases hassigns with
    | fails =>
      rw [setItem_of_error hget hset]
      exact .refl s
    | writes hmem hdiffers =>
      rw [setItem_of_ok hget hset, Entries.insert_of_get? hget]
      exact .writes hget hmem hdiffers
    | changes hcompiled hfixed hwritable =>
      rw [setItem_of_ok hget hset]
      exact .changes hget hcompiled hfixed hwritable

/-- **Every step does what a step can do.** -/
theorem moves_step (hs : s.IsSeparate) (st : Step) : s.Moves (s.step st).session := by
  cases st with
  | buildRoute name d p => exact moves_make (buildRoute_cases s name d p)
  | makeAttributes name source => exact moves_make (makeAttributes_cases s name source)
  | makeConfig name source => exact moves_make (makeConfig_cases s name source)
  | evaluate route path attributes config keep =>
    exact moves_evaluate s route path attributes config keep
  | recompile name =>
    show s.Moves (s.recompile name).session
    rw [session_recompile hs]
    exact .refl s
  | changeGiven name field key value => exact moves_changeGiven hs name field key value
  | changeServer name key value => exact moves_changeServer hs name key value
  | setItem name field key value => exact moves_setItem hs name field key value
  | _ => exact .refl s

/-- Objects stay separate in a step. -/
theorem isSeparate_step (hs : s.IsSeparate) (st : Step) : (s.step st).session.IsSeparate :=
  hs.moves (moves_step hs st)

/-- **Objects stay separate along a run.** -/
theorem isSeparate_run (hs : s.IsSeparate) (steps : List Step) :
    (s.run steps).session.IsSeparate := by
  induction steps generalizing s with
  | nil => exact hs
  | cons st rest ih =>
    rw [run_cons]
    exact ih (isSeparate_step hs st)

end Session

end RouteMatch
