import RouteMatch.Proofs.Session.Making

/-!
# What steps make of an object

Steps of a session change what an object shows in one way only: by an assignment to it, or, for
the dictionaries that a route was built from, by a change that their caller makes.  What an object
shows afterwards is said here step by step; and an assignment to an object that is held is shown to
have that effect.

## Main definitions

* `Given.after`, `Attributes.after`, `Config.after`, `KeptAttempt.after` — the effect of one step.
* `Object.later` — what steps make of an object.
* `Attributes.IsPlain` — attributes without a list or a dictionary in a field.
* `Held.Assigns` — what an assignment does to an object.

## Main results

* `Attributes.foldl_after_of_isPlain` — such attributes stay as they are.
* `Held.assigns_setItem` — **an assignment fails, or it makes the later object.**
-/

namespace RouteMatch

open RouteMatch.Action

/-! ### What steps make of an object -/

/-- The name under which a step keeps what it makes. -/
def Step.keepsUnder : Step → Option String
  | .buildRoute name .. | .makeAttributes name _ | .makeConfig name _ => some name
  | .evaluate _ _ _ _ keep => keep
  | _ => none

/-- The steps that write to a dictionary or to a field. -/
def Step.isAssignment : Step → Bool
  | .changeGiven .. | .setItem .. => true
  | _ => false

/-- The dictionaries that the route under a name was built from, after a step. -/
def Given.after (name : String) (g : Given) : Step → Given
  | .changeGiven target field key value =>
    if target = name ∧ key.unhashable? = none then g.insert field key value else g
  | _ => g

/-- The attributes under a name, after a step. -/
def Attributes.after (name : String) (a : Attributes) : Step → Attributes
  | .setItem target field key value =>
    if target = name then ((a.setItem field key value).toOption.map Prod.fst).getD a else a
  | _ => a

/-- The configuration under a name, after a step. -/
def Config.after (name : String) (c : Config) : Step → Config
  | .setItem target field key value =>
    if target = name then ((c.setItem field key value).toOption.map Prod.fst).getD c else c
  | _ => c

/-- The outcome under a name, after a step. -/
def KeptAttempt.after (name : String) (a : KeptAttempt) : Step → KeptAttempt
  | .setItem target field key value =>
    if target = name ∧ key.unhashable? = none then
      if field = "params" then { a with params := a.params.insert key value }
      else if field = "captures" then { a with captures := a.captures.insert key value }
      else a
    else a
  | _ => a

/-- What steps make of the object under a name.  A route stays what it is; the dictionaries that
it was built from are the caller's. -/
def Object.later (name : String) (steps : List Step) : Object → Object
  | .route r given => .route r (steps.foldl (Given.after name) given)
  | .attributes a => .attributes (steps.foldl (Attributes.after name) a)
  | .config c => .config (steps.foldl (Config.after name) c)
  | .attempt a => .attempt (steps.foldl (KeptAttempt.after name) a)

/-- A value with items that can be assigned to. -/
def Value.isWritable (v : Value) : Bool :=
  v.kind == .list || v.kind == .dict

/-- No field of attributes holds a value with items that can be assigned to. -/
def Attributes.IsPlain (a : Attributes) : Prop :=
  ∀ v ∈ [a.method, a.https, a.port, a.accept], v.isWritable = false

namespace Object

variable {name : String} {o : Object}

@[simp] theorem later_nil : o.later name [] = o := by
  cases o <;> rfl

theorem later_cons (st : Step) (rest : List Step) :
    o.later name (st :: rest) = (o.later name [st]).later name rest := by
  cases o <;> rfl

/-- Steps that assign nothing leave every object alone. -/
theorem later_of_not_isAssignment {st : Step} (h : st.isAssignment = false) :
    o.later name [st] = o := by
  cases st with
  | changeGiven target field key value => cases h
  | setItem target field key value => cases h
  | _ => cases o <;> rfl

/-- An assignment to another object leaves an object alone. -/
theorem later_setItem_of_ne {target : String} (h : target ≠ name) (field : String)
    (key value : Value) : o.later name [.setItem target field key value] = o := by
  cases o with
  | route r given => rfl
  | attributes a => simp [later, Attributes.after, h]
  | config c => simp [later, Config.after, h]
  | attempt a => simp [later, KeptAttempt.after, h]

/-- A change of the dictionaries of another caller leaves an object alone. -/
theorem later_changeGiven_of_not {target : String} {key : Value}
    (h : ¬(target = name ∧ key.unhashable? = none)) (field : GivenField) (value : Value) :
    o.later name [.changeGiven target field key value] = o := by
  cases o with
  | route r given => simp [later, Given.after, h]
  | _ => rfl

end Object

/-- A value that is no list and no dictionary cannot be assigned to. -/
theorem Value.setItem_of_not_isWritable {v : Value} (h : v.isWritable = false) (key value : Value) :
    v.setItem key value = .error (.readOnly v.kind) := by
  cases v with
  | list items => cases h
  | dict entries => cases h
  | _ => rfl

/-- An assignment to an item of a field is made in the value of one field, and leaves the variables
alone. -/
theorem Attributes.setItem_eq_ok {a after : Attributes} {field : String} {key value now : Value}
    (h : a.setItem field key value = .ok (after, now)) :
    after.server = a.server ∧
      ∃ v ∈ [a.method, a.https, a.port, a.accept], v.setItem key value = .ok now := by
  have hfield : ∀ {v : Value} {put : Value → Attributes},
      (v.setItem key value).map (fun w => (put w, w)) = .ok (after, now) →
      (put now).server = a.server → v ∈ [a.method, a.https, a.port, a.accept] →
        after.server = a.server ∧
          ∃ v ∈ [a.method, a.https, a.port, a.accept], v.setItem key value = .ok now := by
    intro v put hmap hserver hmem
    obtain ⟨w, hset, heq⟩ := map_eq_ok hmap
    obtain ⟨rfl, rfl⟩ := Prod.mk.inj heq
    exact ⟨hserver, v, hmem, hset⟩
  unfold Attributes.setItem at h
  split at h
  · exact hfield h rfl (by simp)
  · exact hfield h rfl (by simp)
  · exact hfield h rfl (by simp)
  · exact hfield h rfl (by simp)
  · cases h

/-- Attributes without a list or a dictionary in a field stay as they are. -/
theorem Attributes.after_of_isPlain {a : Attributes} (h : a.IsPlain) (name : String) (st : Step) :
    a.after name st = a := by
  cases st with
  | setItem target field key value =>
    cases hset : a.setItem field key value with
    | error why => simp [Attributes.after, hset, Except.toOption]
    | ok result =>
      obtain ⟨-, v, hmem, hv⟩ := Attributes.setItem_eq_ok hset
      rw [Value.setItem_of_not_isWritable (h v hmem)] at hv
      cases hv
  | _ => rfl

theorem Attributes.foldl_after_of_isPlain {a : Attributes} (h : a.IsPlain) (name : String)
    (steps : List Step) : steps.foldl (Attributes.after name) a = a := by
  induction steps with
  | nil => rfl
  | cons st rest ih => rw [List.foldl_cons, after_of_isPlain h, ih]

/-! ### Assignments -/

/-- A route that is kept has been compiled. -/
def Held.IsCompiled : Held → Prop
  | .route h _ => h.compiled.isSome
  | _ => True

/-- An assignment to a dictionary in the memory. -/
theorem assign_apply {m : Memory} {address : Address} {entries : Entries Value Value}
    (hread : m.read? address = some entries) {key : Value} (hkey : key.unhashable? = none)
    (value : Value) :
    Held.assign address key value m
      = .ok (.dict (entries.insert key value)) (m.write address (entries.insert key value)) := by
  have hcheck : ofResult key.checkHashable m = .ok () m := by
    rw [Value.checkHashable, hkey]
    rfl
  rw [Held.assign, bind_apply_of_ok hcheck, bind_apply_of_ok (insert_apply hread key value),
    bind_apply_of_ok (read_apply (Memory.read?_write_self hread))]
  rfl

theorem assign_apply_of_unhashable (m : Memory) (address : Address) {key : Value} {kind : Kind}
    (hkey : key.unhashable? = some kind) (value : Value) :
    Held.assign address key value m = .error (.unhashable kind) m := by
  have hcheck : ofResult key.checkHashable m = .error (.unhashable kind) m := by
    rw [Value.checkHashable, hkey]
    rfl
  exact bind_apply_of_error hcheck

namespace Held

variable {m : Memory} {field : String} {key value : Value}

/-- An assignment that is refused fails. -/
theorem exists_refused (m : Memory) (h : Held) (field : String) :
    ∃ why, h.refuse field m = .error why m := by
  cases hview : h.view? m with
  | none =>
    have hlook : h.look m = .error (.missingKey .none) m := by
      simp only [look, Action.look, hview]
    exact ⟨_, bind_apply_of_error hlook⟩
  | some o => exact ⟨_, bind_apply_of_ok (look_apply hview)⟩

/-- An assignment to an entry of a field of attributes. -/
theorem setItem_attributes {h : HeldAttributes} {a : Attributes} (hview : h.view? m = some a) :
    (attributes h).setItem field key value m =
      match a.setItem field key value with
      | .error why => .error why m
      | .ok (after, now) =>
        .ok (.attributes { h with plain := { after with server := [] } }, now) m := by
  show (Action.look h.view? >>= _) m = _
  rw [bind_apply_of_ok (look_apply hview)]
  cases a.setItem field key value with
  | error why => rfl
  | ok after => rfl

/-- An assignment to an entry of a field of a configuration. -/
theorem setItem_config (m : Memory) (c : Config) :
    (config c).setItem field key value m =
      match c.setItem field key value with
      | .error why => .error why m
      | .ok (after, now) => .ok (.config after, now) m := by
  show (ofResult (c.setItem field key value) >>= _) m = _
  cases c.setItem field key value with
  | error why => rfl
  | ok after => rfl

/-- An assignment to an entry of a field of an outcome: it is made in one of its dictionaries, or
it fails. -/
theorem setItem_attempt_cases {h : HeldAttempt} {params captures : Entries Value Value}
    (hparams : m.read? h.params = some params) (hcaptures : m.read? h.captures = some captures)
    (field : String) (key value : Value) :
    (¬(key.unhashable? = none ∧ (field = "params" ∨ field = "captures")) ∧
        ∃ why, (attempt h).setItem field key value m = .error why m) ∨
      key.unhashable? = none ∧
        ((field = "params" ∧ ∃ now, (attempt h).setItem field key value m
            = .ok (.attempt h, now) (m.write h.params (params.insert key value))) ∨
          (field = "captures" ∧ ∃ now, (attempt h).setItem field key value m
            = .ok (.attempt h, now) (m.write h.captures (captures.insert key value)))) := by
  by_cases hfirst : field = "params"
  · subst hfirst
    cases hkey : key.unhashable? with
    | none =>
      have hassign := assign_apply hparams hkey value
      exact Or.inr ⟨rfl, Or.inl ⟨rfl, _, bind_apply_of_ok hassign⟩⟩
    | some kind =>
      have hassign := assign_apply_of_unhashable m h.params hkey value
      exact Or.inl ⟨by simp, _, bind_apply_of_error hassign⟩
  · by_cases hsecond : field = "captures"
    · subst hsecond
      cases hkey : key.unhashable? with
      | none =>
        have hassign := assign_apply hcaptures hkey value
        exact Or.inr ⟨rfl, Or.inr ⟨rfl, _, bind_apply_of_ok hassign⟩⟩
      | some kind =>
        have hassign := assign_apply_of_unhashable m h.captures hkey value
        exact Or.inl ⟨by simp, _, bind_apply_of_error hassign⟩
    · refine Or.inl ⟨by simp [hfirst, hsecond], ?_⟩
      rw [setItem, if_neg hfirst, if_neg hsecond]
      exact exists_refused m (attempt h) field

/-- What an assignment does to the object under a name: it fails, or it makes the later object, by
a write to one of its dictionaries or by a change of a field that holds no dictionary by
reference. -/
inductive Assigns (m : Memory) (name : String) (st : Step) (h : Held) :
    EStateM.Result Failure Memory (Held × Value) → Prop
  | fails {why : Failure} (hsame : ∀ o, h.view? m = some o → o.later name [st] = o) :
      Assigns m name st h (.error why m)
  | writes {now : Value} {m' : Memory} {address : Address} (hmem : address ∈ h.writable)
      (hdiffers : m.DiffersAt address m')
      (hview : ∀ o, h.view? m = some o → h.view? m' = some (o.later name [st])) :
      Assigns m name st h (.ok (h, now) m')
  | changes {now : Value} {h' : Held} (hcompiled : h.IsCompiled → h'.IsCompiled)
      (hfixed : h'.fixed = h.fixed) (hwritable : h'.writable = h.writable)
      (hview : ∀ o, h.view? m = some o → h'.view? m = some (o.later name [st])) :
      Assigns m name st h (.ok (h', now) m)

theorem assigns_attributes {held : HeldAttributes} {server : Entries Value Value}
    (hserver : m.read? held.server = some server) (name : String) :
    (attributes held).Assigns m name (.setItem name field key value)
      ((attributes held).setItem field key value m) := by
  let a : Attributes := { held.plain with server := server }
  have hview : held.view? m = some a := by
    rw [HeldAttributes.view?, hserver]
    rfl
  have hshows : ∀ o, (attributes held).view? m = some o → o = .attributes a := by
    intro o ho
    rw [view?, hview] at ho
    exact (Option.some.inj ho).symm
  rw [setItem_attributes hview]
  cases hresult : a.setItem field key value with
  | error why =>
    refine .fails fun o ho => ?_
    rw [hshows o ho]
    simp [Object.later, Attributes.after, hresult, Except.toOption]
  | ok result =>
    obtain ⟨after, now⟩ := result
    refine .changes id rfl rfl fun o ho => ?_
    have hkept : after.server = server := (Attributes.setItem_eq_ok hresult).1
    have hafter : ({ after with server := server } : Attributes) = after := by rw [← hkept]
    rw [hshows o ho]
    refine view?_attributes_eq_some_iff.mpr ⟨server, hserver, ?_⟩
    simp [Object.later, Attributes.after, hresult, Except.toOption, hafter]

theorem assigns_config (m : Memory) (c : Config) (name : String) :
    (config c).Assigns m name (.setItem name field key value)
      ((config c).setItem field key value m) := by
  rw [setItem_config]
  cases hresult : c.setItem field key value with
  | error why =>
    refine .fails fun o ho => ?_
    obtain rfl := Option.some.inj ho
    simp [Object.later, Config.after, hresult, Except.toOption]
  | ok result =>
    refine .changes id rfl rfl fun o ho => ?_
    obtain rfl := Option.some.inj ho
    simp [Object.later, Config.after, hresult, Except.toOption, view?]

theorem assigns_attempt {held : HeldAttempt} {params captures : Entries Value Value}
    (hapart : (attempt held).IsApart) (hparams : m.read? held.params = some params)
    (hcaptures : m.read? held.captures = some captures) (name : String) :
    (attempt held).Assigns m name (.setItem name field key value)
      ((attempt held).setItem field key value m) := by
  have hne : held.params ≠ held.captures := by
    have hnodup : [held.params, held.captures].Nodup := hapart.nodup
    simpa using hnodup
  have hparams_mem : held.params ∈ (attempt held).writable := List.mem_cons_self
  have hcaptures_mem : held.captures ∈ (attempt held).writable :=
    List.mem_cons_of_mem _ List.mem_cons_self
  -- The dictionaries of the route are not among those that are written to.
  have hroute : ∀ {address : Address} (entries : Entries Value Value),
      address ∈ (attempt held).writable →
        held.route.view? (m.write address entries) [] = held.route.view? m [] := by
    intro address entries hmem
    refine HeldRoute.view?_congr fun other hother => Memory.read?_write_of_ne ?_
    rintro rfl
    exact hapart.apart _ hmem hother
  rcases setItem_attempt_cases hparams hcaptures field key value
    with ⟨hnot, why, hset⟩ | ⟨hkey, ⟨hfield, now, hset⟩ | ⟨hfield, now, hset⟩⟩
  · rw [hset]
    refine .fails fun o ho => ?_
    obtain ⟨r, ps, cs, -, -, -, rfl⟩ := view?_attempt_eq_some_iff.mp ho
    by_cases hkey : key.unhashable? = none
    · obtain ⟨hfirst, hsecond⟩ := not_or.mp fun hfield => hnot ⟨hkey, hfield⟩
      simp [Object.later, KeptAttempt.after, hfirst, hsecond]
    · simp [Object.later, KeptAttempt.after, hkey]
  · rw [hset]
    refine .writes hparams_mem (Memory.differsAt_write _ _ _) fun o ho => ?_
    obtain ⟨r, ps, cs, hr, hps, hcs, rfl⟩ := view?_attempt_eq_some_iff.mp ho
    obtain rfl := Option.some.inj (hparams.symm.trans hps)
    refine view?_attempt_eq_some_iff.mpr ⟨r, params.insert key value, cs, ?_, ?_, ?_, ?_⟩
    · rw [hroute _ hparams_mem, hr]
    · exact Memory.read?_write_self hparams
    · rw [Memory.read?_write_of_ne hne, hcs]
    · simp [Object.later, KeptAttempt.after, hkey, hfield]
  · rw [hset]
    refine .writes hcaptures_mem (Memory.differsAt_write _ _ _) fun o ho => ?_
    obtain ⟨r, ps, cs, hr, hps, hcs, rfl⟩ := view?_attempt_eq_some_iff.mp ho
    obtain rfl := Option.some.inj (hcaptures.symm.trans hcs)
    refine view?_attempt_eq_some_iff.mpr ⟨r, ps, captures.insert key value, ?_, ?_, ?_, ?_⟩
    · rw [hroute _ hcaptures_mem, hr]
    · rw [Memory.read?_write_of_ne hne.symm, hps]
    · exact Memory.read?_write_self hcaptures
    · simp [Object.later, KeptAttempt.after, hkey, hfield]

/-- **An assignment fails, or it makes the later object.** -/
theorem assigns_setItem {h : Held} (hapart : h.IsApart)
    (hread : ∀ address, address ∈ h.fixed ∨ address ∈ h.writable →
      ∃ entries, m.read? address = some entries) (name field : String) (key value : Value) :
    h.Assigns m name (.setItem name field key value) (h.setItem field key value m) := by
  cases h with
  | route held given =>
    obtain ⟨why, hset⟩ := exists_refused m (route held given) field
    rw [setItem, hset]
    refine .fails fun o ho => ?_
    obtain ⟨r, shown, -, -, rfl⟩ := view?_route_eq_some_iff.mp ho
    rfl
  | attributes held =>
    obtain ⟨server, hserver⟩ := hread _ (Or.inl (List.mem_singleton.mpr rfl))
    exact assigns_attributes hserver name
  | config c => exact assigns_config m c name
  | attempt held =>
    obtain ⟨params, hparams⟩ := hread _ (Or.inr List.mem_cons_self)
    obtain ⟨captures, hcaptures⟩ := hread _ (Or.inr (List.mem_cons_of_mem _ List.mem_cons_self))
    exact assigns_attempt hapart hparams hcaptures name

end Held

end RouteMatch
