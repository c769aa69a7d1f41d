import RouteMatch.Proofs.Session.Later

/-!
# Objects that share nothing that is written to

Objects of a session can share dictionaries: an outcome holds the route that it is of.  But what
may be written to, the dictionaries of a caller and those of an outcome, belongs to one object
only.  This holds in every session that steps lead to, since a step makes new dictionaries,
writes to one that may be written to, or does nothing to them.

## Main definitions

* `Session.IsSeparate` — no object shares a dictionary that may be written to.
* `Session.Moves` — what a step can do to a session.

## Main results

* `Session.isSeparate_empty` — a session starts with nothing shared.
* `Session.IsSeparate.moves` — **objects stay separate**, whatever a step does of these things.
-/

namespace RouteMatch

open RouteMatch.Action

/-- A dictionary with a value that it has anyway. -/
theorem Entries.insert_of_get? {κ β : Type} [BEq κ] {entries : Entries κ β} {key : κ} {value : β}
    (h : entries.get? key = some value) : entries.insert key value = entries := by
  induction entries with
  | nil => cases h
  | cons entry rest ih =>
    obtain ⟨k, v⟩ := entry
    rw [get?_cons] at h
    rw [Entries.insert]
    by_cases hk : (k == key) = true
    · rw [if_pos hk] at h ⊢
      rw [Option.some.inj h]
    · rw [if_neg hk] at h ⊢
      rw [ih h]

namespace Session

/-! ### Separate objects -/

/-- No object shares a dictionary that may be written to. -/
structure IsSeparate (s : Session) : Prop where
  compiled : ∀ {name h}, s.objects.get? name = some h → h.IsCompiled
  bounded : ∀ {name h}, s.objects.get? name = some h →
    ∀ address : Nat, address ∈ h.fixed ∨ address ∈ h.writable → address < s.memory.size
  isApart : ∀ {name h}, s.objects.get? name = some h → h.IsApart
  others : ∀ {name other h o}, s.objects.get? name = some h → s.objects.get? other = some o →
    name ≠ other → ∀ address ∈ h.writable, address ∉ o.fixed ∧ address ∉ o.writable

theorem isSeparate_empty : IsSeparate {} where
  compiled := fun hget => nomatch hget
  bounded := fun hget => nomatch hget
  isApart := fun hget => nomatch hget
  others := fun hget => nomatch hget

/-- An object that a step makes.  What may be written to is new; the rest may be that of another
object. -/
structure Makes (s : Session) (m : Memory) (h : Held) : Prop extends h.IsApart where
  compiled : h.IsCompiled
  writable_new : ∀ address : Nat, address ∈ h.writable →
    s.memory.size ≤ address ∧ address < m.size
  fixed_known : ∀ address : Nat, address ∈ h.fixed →
    (s.memory.size ≤ address ∧ address < m.size) ∨
      ∃ name o, s.objects.get? name = some o ∧ address ∈ o.fixed

/-- What a step can do to a session. -/
inductive Moves (s : Session) : Session → Prop
  /-- Dictionaries are made, and no object is kept. -/
  | grows {m : Memory} (hextends : s.memory.Extends m) : Moves s ⟨s.objects, m⟩
  /-- Dictionaries are made, and an object is kept. -/
  | keeps {m : Memory} {name : String} {h : Held} (hextends : s.memory.Extends m)
      (hmakes : s.Makes m h) : Moves s ⟨s.objects.insert name h, m⟩
  /-- A dictionary is written to that may be written to. -/
  | writes {m : Memory} {name : String} {h : Held} {address : Address}
      (hget : s.objects.get? name = some h) (hmem : address ∈ h.writable)
      (hdiffers : s.memory.DiffersAt address m) : Moves s ⟨s.objects, m⟩
  /-- A field of an object is changed that holds no dictionary by reference. -/
  | changes {name : String} {h h' : Held} (hget : s.objects.get? name = some h)
      (hcompiled : h.IsCompiled → h'.IsCompiled) (hfixed : h'.fixed = h.fixed)
      (hwritable : h'.writable = h.writable) : Moves s ⟨s.objects.insert name h', s.memory⟩

theorem Moves.refl (s : Session) : s.Moves s := .grows (.refl s.memory)

variable {s s' : Session}

theorem get?_insert_cases {objects : Entries String Held} {target name : String} {h made : Held}
    (hget : (objects.insert target made).get? name = some h) :
    (target = name ∧ h = made) ∨ (target ≠ name ∧ objects.get? name = some h) := by
  rw [Entries.get?_insert] at hget
  by_cases htarget : target = name
  · rw [if_pos (beq_iff_eq.mpr htarget)] at hget
    exact Or.inl ⟨htarget, (Option.some.inj hget).symm⟩
  · rw [if_neg (mt beq_iff_eq.mp htarget)] at hget
    exact Or.inr ⟨htarget, hget⟩

/-- Dictionaries that are made leave objects separate. -/
theorem IsSeparate.grows {m : Memory} (hs : s.IsSeparate) (hle : s.memory.size ≤ m.size) :
    IsSeparate ⟨s.objects, m⟩ where
  compiled := hs.compiled
  bounded := fun hget address hmem => Nat.lt_of_lt_of_le (hs.bounded hget address hmem) hle
  isApart := hs.isApart
  others := hs.others

/-- An object that is made and kept is separate from the others. -/
theorem IsSeparate.keeps {m : Memory} {target : String} {made : Held} (hs : s.IsSeparate)
    (hextends : s.memory.Extends m) (hmakes : s.Makes m made) :
    IsSeparate ⟨s.objects.insert target made, m⟩ where
  compiled := by
    intro name h hget
    rcases get?_insert_cases hget with ⟨-, rfl⟩ | ⟨-, hget⟩
    · exact hmakes.compiled
    · exact hs.compiled hget
  bounded := by
    intro name h hget address hmem
    rcases get?_insert_cases hget with ⟨-, rfl⟩ | ⟨-, hget⟩
    · rcases hmem with hmem | hmem
      · rcases hmakes.fixed_known address hmem with ⟨-, hlt⟩ | ⟨other, o, hother, hmem⟩
        · exact hlt
        · exact Nat.lt_of_lt_of_le (hs.bounded hother address (Or.inl hmem)) hextends.size_le
      · exact (hmakes.writable_new address hmem).2
    · exact Nat.lt_of_lt_of_le (hs.bounded hget address hmem) hextends.size_le
  isApart := by
    intro name h hget
    rcases get?_insert_cases hget with ⟨-, rfl⟩ | ⟨-, hget⟩
    · exact hmakes.toIsApart
    · exact hs.isApart hget
  others := by
    intro name other h o hget hother hne address hmem
    rcases get?_insert_cases hget with ⟨rfl, rfl⟩ | ⟨-, hname⟩
    · rcases get?_insert_cases hother with ⟨rfl, -⟩ | ⟨-, hold⟩
      · exact absurd rfl hne
      · -- What is new cannot be where something old stands.
        have hge := (hmakes.writable_new address hmem).1
        exact ⟨fun hin => Nat.not_le_of_lt (hs.bounded hold address (Or.inl hin)) hge,
          fun hin => Nat.not_le_of_lt (hs.bounded hold address (Or.inr hin)) hge⟩
    · have hlt := hs.bounded hname address (Or.inr hmem)
      rcases get?_insert_cases hother with ⟨rfl, rfl⟩ | ⟨-, hold⟩
      · refine ⟨fun hfixed => ?_, fun hwritable => ?_⟩
        · rcases hmakes.fixed_known address hfixed with ⟨hge, -⟩ | ⟨third, o', hthird, hfixed'⟩
          · exact Nat.not_le_of_lt hlt hge
          · by_cases hsame : name = third
            · subst hsame
              obtain rfl := Option.some.inj (hname.symm.trans hthird)
              exact (hs.isApart hname).apart address hmem hfixed'
            · exact (hs.others hname hthird hsame address hmem).1 hfixed'
        · exact Nat.not_le_of_lt hlt (hmakes.writable_new address hwritable).1
      · exact hs.others hname hold hne address hmem

/-- An object that keeps its dictionaries stays separate from the others. -/
theorem IsSeparate.changes {target : String} {old made : Held} (hs : s.IsSeparate)
    (hold : s.objects.get? target = some old) (hcompiled : old.IsCompiled → made.IsCompiled)
    (hfixed : made.fixed = old.fixed) (hwritable : made.writable = old.writable) :
    IsSeparate ⟨s.objects.insert target made, s.memory⟩ := by
  -- Under each name there is an object with the same dictionaries as before.
  have hbefore : ∀ {name h}, (s.objects.insert target made).get? name = some h →
      ∃ o, s.objects.get? name = some o ∧ (o.IsCompiled → h.IsCompiled) ∧ h.fixed = o.fixed ∧
        h.writable = o.writable := by
    intro name h hget
    rcases get?_insert_cases hget with ⟨rfl, rfl⟩ | ⟨-, hget⟩
    · exact ⟨old, hold, hcompiled, hfixed, hwritable⟩
    · exact ⟨h, hget, id, rfl, rfl⟩
  refine { compiled := ?_, bounded := ?_, isApart := ?_, others := ?_ }
  · intro name h hget
    obtain ⟨o, ho, hc, -, -⟩ := hbefore hget
    exact hc (hs.compiled ho)
  · intro name h hget address hmem
    obtain ⟨o, ho, -, hf, hw⟩ := hbefore hget
    rw [hf, hw] at hmem
    exact hs.bounded ho address hmem
  · intro name h hget
    obtain ⟨o, ho, -, hf, hw⟩ := hbefore hget
    obtain ⟨hnodup, hapart⟩ := hs.isApart ho
    exact { nodup := hw ▸ hnodup, apart := by rw [hf, hw]; exact hapart }
  · intro name other h p hget hother hne address hmem
    obtain ⟨o, ho, -, hf, hw⟩ := hbefore hget
    obtain ⟨q, hq, -, hf', hw'⟩ := hbefore hother
    rw [hw] at hmem
    rw [hf', hw']
    exact hs.others ho hq hne address hmem

/-- Whatever a step does leaves objects separate. -/
theorem IsSeparate.moves (hs : s.IsSeparate) (hmoves : s.Moves s') : s'.IsSeparate := by
  cases hmoves with
  | grows hextends => exact hs.grows hextends.size_le
  | keeps hextends hmakes => exact hs.keeps hextends hmakes
  | writes hget hmem hdiffers => exact hs.grows (Nat.le_of_eq hdiffers.size_eq.symm)
  | changes hget hcompiled hfixed hwritable => exact hs.changes hget hcompiled hfixed hwritable

end Session

end RouteMatch
