import RouteMatch.Proofs.Session.Steps

/-!
# What an object of a session shows later

A name stands for an object until a step that succeeds puts another object in its place.  Most
steps leave what stands under a name alone: they add dictionaries and objects.  A write is seen by
the object that it is made to and by no other, since no two objects share a dictionary that may be
written to.  What a step does to an object is found out once, for each step, and carried along a
run by induction.

A route is held as it was made, and the dictionaries that it holds are never written to.

## Main definitions

* `Session.Retains` — steps that leave a name to the object it stands for.
* `Session.Preserves` — a session in which the same stands under a name.

## Main results

* `Session.object_of_differsAt` — a write to one object is not seen by another one.
* `Session.object_step`, `Session.object_run` — **an object after a step and after a run.**
* `Session.holdsRoute_run` — a route is held as it was, along every run.
-/

namespace RouteMatch

open RouteMatch.Action

/-! ### The place of a name -/

namespace Session

/-- Whether a step puts a new object under a name. -/
def replaces (s : Session) (name : String) (st : Step) : Bool :=
  st.keepsUnder == some name && (s.step st).reply.toBool

/-- Steps that leave a name to the object it stands for. -/
def Retains (name : String) : Session → List Step → Prop
  | _, [] => True
  | s, st :: rest => s.replaces name st = false ∧ Retains name (s.step st).session rest

variable {s : Session} {name : String} {o : Object}

/-- Steps that keep nothing under a name retain what is there. -/
theorem retains_of_forall {steps : List Step} (h : ∀ st ∈ steps, st.keepsUnder ≠ some name) :
    Retains name s steps := by
  induction steps generalizing s with
  | nil => trivial
  | cons st rest ih =>
    have hst : (st.keepsUnder == some name) = false :=
      beq_eq_false_iff_ne.mpr (h st List.mem_cons_self)
    refine ⟨?_, ih fun other hother => h other (List.mem_cons_of_mem _ hother)⟩
    rw [replaces, hst, Bool.false_and]

/-- A session in which the same stands under a name, with all dictionaries that it holds. -/
structure Preserves (name : String) (s s' : Session) : Prop where
  get?_eq : s'.objects.get? name = s.objects.get? name
  memory_extends : s.memory.Extends s'.memory

/-- What the object under a name shows stays. -/
theorem Preserves.object_eq_ok {s' : Session} (h : Preserves name s s')
    (hobject : s.object name = .ok o) :
    s'.object name = .ok o := by
  obtain ⟨held, hget, hview⟩ := object_eq_ok_iff.mp hobject
  refine object_eq_ok_iff.mpr ⟨held, ?_, Held.view?_of_extends hview h.memory_extends⟩
  rw [h.get?_eq, hget]

theorem get?_insert_of_ne {target : String} (h : target ≠ name) (held : Held) :
    (s.objects.insert target held).get? name = s.objects.get? name := by
  rw [Entries.get?_insert, if_neg (mt beq_iff_eq.mp h)]

theorem get?_insert_self (held : Held) :
    (s.objects.insert name held).get? name = some held := by
  rw [Entries.get?_insert, if_pos (beq_self_eq_true name)]

/-- What an object shows does not depend on what is kept under other names. -/
theorem object_insert_of_ne {target : String} (h : target ≠ name) (held : Held) (m : Memory) :
    object ⟨s.objects.insert target held, m⟩ name = object ⟨s.objects, m⟩ name := by
  rw [object, object, get?_insert_of_ne h]

theorem object_insert_self {held : Held} {m : Memory} (hview : held.view? m = some o) :
    object ⟨s.objects.insert name held, m⟩ name = .ok o :=
  object_eq_ok_iff.mpr ⟨held, get?_insert_self held, hview⟩

/-- **A write to a dictionary of one object is not seen by another object.** -/
theorem object_of_differsAt (hs : s.IsSeparate) (h : s.object name = .ok o) {target : String}
    {held : Held} {address : Address} (hget : s.objects.get? target = some held)
    (hmem : address ∈ held.writable) (hne : target ≠ name) {m : Memory}
    (hdiffers : s.memory.DiffersAt address m) : object ⟨s.objects, m⟩ name = .ok o := by
  obtain ⟨other, hother, hview⟩ := object_eq_ok_iff.mp h
  obtain ⟨hfixed, hwritable⟩ := hs.others hget hother hne address hmem
  refine object_eq_ok_iff.mpr ⟨other, hother, ?_⟩
  rw [← hview]
  apply Held.view?_congr
  rintro a (ha | ha)
  · exact hdiffers.read?_eq fun heq => hfixed (heq ▸ ha)
  · exact hdiffers.read?_eq fun heq => hwritable (heq ▸ ha)

/-- A step that keeps what it makes under another name, or fails. -/
theorem preserves_insert {target : String} {reply : Except Failure Reply} {m : Memory} {held : Held}
    (hextends : s.memory.Extends m)
    (hretains : (some target == some name && reply.toBool) = false) (hreply : reply.toBool = true) :
    Preserves name s ⟨s.objects.insert target held, m⟩ := by
  have hne : target ≠ name := by
    rintro rfl
    rw [hreply, Bool.and_true, beq_self_eq_true] at hretains
    cases hretains
  exact ⟨get?_insert_of_ne hne held, hextends⟩

/-- A step that makes an object in another place, or none, leaves what is there. -/
theorem preserves_make {β : Type} {action : Action Held} {y : Except Failure β}
    {related : Held → β → Memory → Prop} {shown : β → Object} {target : String}
    {records : Object → List LogRecord}
    (hcases : (∃ why m, y = .error why ∧ s.memory.Extends m ∧
        s.make target action records = ⟨.error why, ⟨s.objects, m⟩, []⟩) ∨
      ∃ h w m, y = .ok w ∧ s.memory.Extends m ∧ related h w m ∧
        s.make target action records
          = ⟨.ok (.object (shown w)), ⟨s.objects.insert target h, m⟩, records (shown w)⟩)
    (hretains : (some target == some name && (s.make target action records).reply.toBool) = false) :
    Preserves name s (s.make target action records).session := by
  rcases hcases with ⟨why, m, -, hextends, heq⟩ | ⟨held, w, m, -, hextends, -, heq⟩
  · rw [heq]
    exact ⟨rfl, hextends⟩
  · rw [heq] at hretains ⊢
    exact preserves_insert hextends hretains rfl

theorem preserves_evaluate {route path : String} {attributes config keep : Option String}
    (hretains : (keep == some name
      && (s.evaluate route path attributes config keep).reply.toBool) = false) :
    Preserves name s (s.evaluate route path attributes config keep).session := by
  cases hsetup : s.setup route attributes config with
  | error why =>
    rw [evaluate_of_setup_error hsetup]
    exact ⟨rfl, .refl _⟩
  | ok setup =>
    rcases evaluate_cases hsetup path keep with
      ⟨why, m, -, hextends, heq⟩ | ⟨held, attempt, m, r, given, -, hextends, -, -, -, heq⟩
    · rw [heq]
      exact ⟨rfl, hextends⟩
    · rw [heq] at hretains ⊢
      cases keep with
      | none => exact ⟨rfl, hextends⟩
      | some target => exact preserves_insert hextends hretains rfl

/-- The dictionaries of a caller after a write to one of them. -/
theorem view?_write_given {m : Memory} {given : HeldGiven} {shown : Given}
    (hnodup : given.addresses.Nodup) (hview : given.view? m = some shown) (field : GivenField)
    {entries : Entries Value Value} (hread : m.read? (given.address field) = some entries)
    (key value : Value) :
    given.view? (m.write (given.address field) (entries.insert key value))
      = some (shown.insert field key value) := by
  obtain ⟨htokens, hvalues, hserver⟩ := HeldGiven.exists_of_view? hview
  have hne : given.tokens ≠ given.values ∧ given.tokens ≠ given.server
      ∧ given.values ≠ given.server := by
    simpa [HeldGiven.addresses, and_assoc] using hnodup
  obtain ⟨h₁, h₂, h₃⟩ := hne
  cases field with
  | tokens =>
    obtain rfl := Option.some.inj (htokens.symm.trans hread)
    rw [HeldGiven.address, HeldGiven.view?, Memory.read?_write_self htokens,
      Memory.read?_write_of_ne h₁, Memory.read?_write_of_ne h₂, hvalues, hserver]
    rfl
  | values =>
    obtain rfl := Option.some.inj (hvalues.symm.trans hread)
    rw [HeldGiven.address, HeldGiven.view?, Memory.read?_write_self hvalues,
      Memory.read?_write_of_ne h₁.symm, Memory.read?_write_of_ne h₃, htokens, hserver]
    rfl
  | server =>
    obtain rfl := Option.some.inj (hserver.symm.trans hread)
    rw [HeldGiven.address, HeldGiven.view?, Memory.read?_write_self hserver,
      Memory.read?_write_of_ne h₂.symm, Memory.read?_write_of_ne h₃.symm, htokens, hvalues]
    rfl

/-- An object after a dictionary is changed that a route was built from. -/
theorem object_changeGiven (hs : s.IsSeparate) (h : s.object name = .ok o) (target : String)
    (field : GivenField) (key value : Value) :
    (s.changeGiven target field key value).session.object name
      = .ok (o.later name [.changeGiven target field key value]) := by
  cases hroute : s.route target with
  | error why =>
    obtain ⟨why', heq⟩ := changeGiven_of_not target field key value (Or.inl ⟨_, hroute⟩)
    rw [heq, h]
    cases o with
    | route r given =>
      have hne : target ≠ name := by
        rintro rfl
        rw [route_eq_ok_iff.mpr h] at hroute
        cases hroute
      rw [Object.later_changeGiven_of_not fun hboth => hne hboth.1]
    | _ => rfl
  | ok shown =>
    obtain ⟨r, shown⟩ := shown
    cases hkey : key.unhashable? with
    | some kind =>
      obtain ⟨why, heq⟩ := changeGiven_of_not (s := s) target field key value
        (Or.inr ⟨kind, hkey⟩)
      rw [heq, h, Object.later_changeGiven_of_not fun hboth => by simp [hkey] at hboth]
    | none =>
      obtain ⟨held, given, hget, hview, hgiven⟩ := exists_of_route hroute
      obtain ⟨entries, hread⟩ := hs.exists_read? hget (Or.inr (given.address_mem field))
      rw [changeGiven_of_ok hget hroute hread hkey value]
      show object ⟨s.objects, _⟩ name = _
      -- The route has copies: only what the caller's dictionaries show is another.
      by_cases htarget : target = name
      · subst htarget
        obtain rfl := Except.ok.inj (h.symm.trans (route_eq_ok_iff.mp hroute))
        refine object_eq_ok_iff.mpr ⟨_, hget,
          Held.view?_route_eq_some_iff.mpr ⟨r, shown.insert field key value, ?_, ?_, ?_⟩⟩
        · rw [← hview]
          refine HeldRoute.view?_congr fun address hmem => Memory.read?_write_of_ne ?_
          rintro rfl
          exact (hs.isApart hget).apart _ (given.address_mem field) hmem
        · exact view?_write_given (hs.isApart hget).nodup hgiven field hread key value
        · simp [Object.later, Given.after, hkey]
      · rw [Object.later_changeGiven_of_not fun hboth => htarget hboth.1]
        exact object_of_differsAt hs h hget (given.address_mem field) htarget
          (Memory.differsAt_write _ _ _)

/-- An object after a dictionary is changed that attributes were made from. -/
theorem object_changeServer (hs : s.IsSeparate) (h : s.object name = .ok o) (target : String)
    (key value : Value) : (s.changeServer target key value).session.object name = .ok o := by
  by_cases hnot : (∀ h, s.objects.get? target ≠ some (.attributes h)) ∨
      ∃ kind, key.unhashable? = some kind
  · obtain ⟨why, heq⟩ := changeServer_of_not value hnot
    rw [heq, h]
  · rw [not_or] at hnot
    obtain ⟨hsome, hhashable⟩ := hnot
    obtain ⟨held, hget⟩ := not_forall_not.mp hsome
    have hkey : key.unhashable? = none := by
      rw [Option.eq_none_iff_forall_ne_some]
      exact fun kind hkind => hhashable ⟨kind, hkind⟩
    have hmem : held.given ∈ (Held.attributes held).writable := List.mem_singleton.mpr rfl
    obtain ⟨entries, hread⟩ := hs.exists_read? hget (Or.inr hmem)
    rw [changeServer_of_ok hget hread hkey value]
    show object ⟨s.objects, _⟩ name = _
    by_cases htarget : target = name
    · subst htarget
      obtain ⟨_, hget', hview⟩ := object_eq_ok_iff.mp h
      obtain rfl := Option.some.inj (hget.symm.trans hget')
      refine object_eq_ok_iff.mpr ⟨_, hget, ?_⟩
      -- The attributes show their own dictionary.
      obtain ⟨server, hserver, rfl⟩ := Held.view?_attributes_eq_some_iff.mp hview
      refine Held.view?_attributes_eq_some_iff.mpr ⟨server, ?_, rfl⟩
      rw [Memory.read?_write_of_ne, hserver]
      intro heq
      exact (hs.isApart hget).apart _ hmem (heq ▸ List.mem_singleton.mpr rfl)
    · exact object_of_differsAt hs h hget hmem htarget (Memory.differsAt_write _ _ _)

/-- An object after something is assigned. -/
theorem object_setItem (hs : s.IsSeparate) (h : s.object name = .ok o) (target field : String)
    (key value : Value) :
    (s.setItem target field key value).session.object name
      = .ok (o.later name [.setItem target field key value]) := by
  obtain ⟨other, hother, hview⟩ := object_eq_ok_iff.mp h
  cases hget : s.objects.get? target with
  | none =>
    obtain ⟨why, heq⟩ := setItem_of_none hget field key value
    have hne : target ≠ name := by
      rintro rfl
      rw [hget] at hother
      cases hother
    rw [heq, h, Object.later_setItem_of_ne hne]
  | some held =>
    have hassigns := Held.assigns_setItem (hs.isApart hget)
      (fun address hmem => hs.exists_read? hget hmem) target field key value
    generalize hset : held.setItem field key value s.memory = result at hassigns
    by_cases htarget : target = name
    · subst htarget
      obtain rfl := Option.some.inj (hget.symm.trans hother)
      cases hassigns with
      | fails hsame =>
        rw [setItem_of_error hget hset, h, hsame o hview]
      | writes hmem hdiffers hlater =>
        rw [setItem_of_ok hget hset]
        exact object_insert_self (hlater o hview)
      | changes hcompiled hfixed hwritable hlater =>
        rw [setItem_of_ok hget hset]
        exact object_insert_self (hlater o hview)
    · rw [Object.later_setItem_of_ne htarget]
      cases hassigns with
      | fails => rw [setItem_of_error hget hset, h]
      | writes hmem hdiffers =>
        rw [setItem_of_ok hget hset]
        show object ⟨s.objects.insert target held, _⟩ name = _
        rw [object_insert_of_ne htarget]
        exact object_of_differsAt hs h hget hmem htarget hdiffers
      | changes =>
        rw [setItem_of_ok hget hset]
        show object ⟨s.objects.insert target _, s.memory⟩ name = _
        rw [object_insert_of_ne htarget]
        exact h

/-! ### Steps and runs -/

/-- **What the object under a name shows after a step** that does not replace it. -/
theorem object_step (hs : s.IsSeparate) (h : s.object name = .ok o) {st : Step}
    (hretains : s.replaces name st = false) :
    (s.step st).session.object name = .ok (o.later name [st]) := by
  cases st with
  | changeGiven target field key value => exact object_changeGiven hs h target field key value
  | setItem target field key value => exact object_setItem hs h target field key value
  | buildRoute target d p =>
    rw [Object.later_of_not_isAssignment rfl]
    exact (preserves_make (buildRoute_cases s target d p) hretains).object_eq_ok h
  | makeAttributes target source =>
    rw [Object.later_of_not_isAssignment rfl]
    exact (preserves_make (makeAttributes_cases s target source) hretains).object_eq_ok h
  | makeConfig target source =>
    rw [Object.later_of_not_isAssignment rfl]
    exact (preserves_make (makeConfig_cases s target source) hretains).object_eq_ok h
  | evaluate route path attributes config keep =>
    rw [Object.later_of_not_isAssignment rfl]
    exact (preserves_evaluate hretains).object_eq_ok h
  | recompile target =>
    rw [Object.later_of_not_isAssignment rfl]
    show (s.recompile target).session.object name = _
    rw [session_recompile hs, h]
  | changeServer target key value =>
    rw [Object.later_of_not_isAssignment rfl]
    exact object_changeServer hs h target key value
  | _ =>
    -- A step that only looks.
    rw [Object.later_of_not_isAssignment rfl]
    exact h

/-- **What the object under a name shows after a run** that does not replace it. -/
theorem object_run (hs : s.IsSeparate) (h : s.object name = .ok o) {steps : List Step}
    (hretains : Retains name s steps) :
    (s.run steps).session.object name = .ok (o.later name steps) := by
  -- What carries the induction is that objects stay separate.
  induction steps generalizing s o with
  | nil =>
    rw [Object.later_nil]
    exact h
  | cons st rest ih =>
    rw [run_cons, Object.later_cons]
    exact ih (isSeparate_step hs st) (object_step hs h hretains.1) hretains.2

/-! ### Routes are held as they are -/

/-- A session holds a route as another one does, with all that it reads from its dictionaries. -/
structure HoldsRoute (s s' : Session) (name : String) (h : HeldRoute) (given : HeldGiven) :
    Prop where
  get?_eq : s'.objects.get? name = some (.route h given)
  read?_eq : ∀ address ∈ h.addresses, s'.memory.read? address = s.memory.read? address

/-- A dictionary that is to stay as it is stays, whatever a step does. -/
theorem IsSeparate.read?_of_moves {s' : Session} (hs : s.IsSeparate) (hmoves : s.Moves s')
    {held : Held} (hget : s.objects.get? name = some held) {address : Address}
    (hmem : address ∈ held.fixed) : s'.memory.read? address = s.memory.read? address := by
  have hlt := hs.bounded hget address (Or.inl hmem)
  -- Only a write could change it, and what may be written to is fixed in no object.
  cases hmoves with
  | grows hextends => exact hextends.read?_eq hlt
  | keeps hextends hmakes => exact hextends.read?_eq hlt
  | changes => rfl
  | @writes m target h other htarget hother hdiffers =>
    refine hdiffers.read?_eq ?_
    rintro rfl
    by_cases hname : target = name
    · subst hname
      obtain rfl := Option.some.inj (hget.symm.trans htarget)
      exact (hs.isApart hget).apart _ hother hmem
    · exact (hs.others htarget hget hname _ hother).1 hmem

theorem objects_perform {α : Type} (s : Session) (action : Action α) :
    (s.perform action).2.objects = s.objects := by
  rw [perform]
  split <;> rfl

/-- A change of a caller's dictionary concerns the memory alone. -/
theorem objects_changeGiven (s : Session) (target : String) (field : GivenField)
    (key value : Value) : (s.changeGiven target field key value).session.objects = s.objects := by
  unfold changeGiven
  split
  · rfl
  · rfl
  · next h given _ _ =>
    rw [← objects_perform s (Held.assign (given.address field) key value)]
    split <;> (next heq => rw [heq])

theorem objects_changeServer (s : Session) (target : String) (key value : Value) :
    (s.changeServer target key value).session.objects = s.objects := by
  unfold changeServer
  split
  · next h _ =>
    rw [← objects_perform s (Held.assign h.given key value)]
    split <;> (next heq => rw [heq])
  · rfl

/-- An assignment concerns the object that it is made to. -/
theorem get?_setItem_of_ne {target : String} (hne : target ≠ name) (field : String)
    (key value : Value) :
    (s.setItem target field key value).session.objects.get? name = s.objects.get? name := by
  unfold setItem
  split
  · rfl
  · next h _ =>
    have hobjects := objects_perform s (h.setItem field key value)
    split
    · next heq =>
      rw [heq] at hobjects
      rw [hobjects]
    · next made _ after heq =>
      rw [heq] at hobjects
      rw [← hobjects]
      exact get?_insert_of_ne hne made

/-- A step that does not replace a route leaves it as it is held. -/
theorem get?_route_step (hs : s.IsSeparate) {h : HeldRoute} {given : HeldGiven}
    (hget : s.objects.get? name = some (.route h given)) {st : Step}
    (hretains : s.replaces name st = false) :
    (s.step st).session.objects.get? name = some (.route h given) := by
  rw [← hget]
  cases st with
  | buildRoute target d p => exact (preserves_make (buildRoute_cases s target d p) hretains).get?_eq
  | makeAttributes target source =>
    exact (preserves_make (makeAttributes_cases s target source) hretains).get?_eq
  | makeConfig target source =>
    exact (preserves_make (makeConfig_cases s target source) hretains).get?_eq
  | evaluate route path attributes config keep => exact (preserves_evaluate hretains).get?_eq
  | recompile target =>
    show (s.recompile target).session.objects.get? name = _
    rw [session_recompile hs]
  | changeGiven target field key value => rw [step, objects_changeGiven]
  | changeServer target key value => rw [step, objects_changeServer]
  | setItem target field key value =>
    by_cases htarget : target = name
    · -- Nothing is assigned to a route.
      subst htarget
      obtain ⟨why, hset⟩ := Held.exists_refused s.memory (.route h given) field
      show (s.setItem target field key value).session.objects.get? target = _
      rw [setItem_of_error hget hset]
    · exact get?_setItem_of_ne htarget field key value
  | _ => rfl

/-- **A route is held as it was, along every run** that does not replace it. -/
theorem holdsRoute_run (hs : s.IsSeparate) {h : HeldRoute} {given : HeldGiven}
    (hget : s.objects.get? name = some (.route h given)) {steps : List Step}
    (hretains : Retains name s steps) : HoldsRoute s (s.run steps).session name h given := by
  induction steps generalizing s with
  | nil => exact ⟨hget, fun _ _ => rfl⟩
  | cons st rest ih =>
    have hfirst := get?_route_step hs hget hretains.1
    obtain ⟨hlast, hsame⟩ := ih (isSeparate_step hs st) hfirst hretains.2
    refine ⟨hlast, fun address hmem => ?_⟩
    rw [run_cons]
    show (run (s.step st).session rest).session.memory.read? address = _
    rw [hsame address hmem]
    exact hs.read?_of_moves (moves_step hs st) hget hmem

end Session

end RouteMatch
