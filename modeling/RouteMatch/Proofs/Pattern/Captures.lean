import RouteMatch.Proofs.Pattern.Steps
import RouteMatch.Proofs.Pattern.Traversal

/-!
# What a search leaves alone

A search for a match of a tree makes captures for the groups of that tree and for no
others, whichever of the ways to match it lets the rest match.  So what a part of a
pattern has captured is there when the whole pattern has matched, if the other parts have
groups of their own.

## Main definitions

* `Agree` — two threads with the same captures of some groups.
* `Keeps` — a search that leaves the captures of some groups alone.

## Main results

* `keeps_run` — **a search keeps the captures of all groups but those of its tree.**
* `exists_of_run_items` — the search for the items of a sequence.
-/

namespace RouteMatch.Pattern

variable {kept : Nat → Prop}

/-- Two threads with the same captures of some groups. -/
def Agree (kept : Nat → Prop) (t u : Thread) : Prop :=
  ∀ i, kept i → u.captured? i = t.captured? i

namespace Agree

theorem refl (t : Thread) : Agree kept t t :=
  fun _ _ => rfl

theorem trans {t u v : Thread} (h : Agree kept t u) (h' : Agree kept u v) : Agree kept t v :=
  fun i hi => (h' i hi).trans (h i hi)

theorem mono {kept' : Nat → Prop} {t u : Thread} (h : Agree kept t u)
    (hle : ∀ i, kept' i → kept i) : Agree kept' t u :=
  fun i hi => h i (hle i hi)

end Agree

/-- A way to match something that leaves the captures of some groups alone: if the rest
is matched after it, then from a thread with the same captures of these. -/
def Keeps (kept : Nat → Prop) (body : Step) : Prop :=
  ∀ t next v, body t next = some v → ∃ u, next u = some v ∧ Agree kept t u

namespace Keeps

variable {body : Step}

theorem mono {kept' : Nat → Prop} (h : Keeps kept body) (hle : ∀ i, kept' i → kept i) :
    Keeps kept' body := by
  intro t next v hrun
  obtain ⟨u, hu, hagree⟩ := h t next v hrun
  exact ⟨u, hu, hagree.mono hle⟩

/-- The first way to match something, whatever comes next. -/
theorem once (h : Keeps kept body) {t u : Thread} (hrun : body t some = some u) :
    Agree kept t u := by
  obtain ⟨w, hw, hagree⟩ := h t some u hrun
  obtain rfl := Option.some.inj hw
  exact hagree

/-! ### Repetitions -/

theorem times (h : Keeps kept body) (n : Nat) : Keeps kept (times body n) := by
  induction n with
  | zero => exact fun t next v hrun => ⟨t, hrun, .refl t⟩
  | succ n ih =>
    intro t next v hrun
    obtain ⟨u, hu, hagree⟩ := h t _ v hrun
    obtain ⟨w, hw, hagree'⟩ := ih u next v hu
    exact ⟨w, hw, hagree.trans hagree'⟩

theorem upTo (h : Keeps kept body) (n : Nat) : Keeps kept (upTo body n) := by
  induction n with
  | zero => exact fun t next v hrun => ⟨t, hrun, .refl t⟩
  | succ n ih =>
    intro t next v hrun
    rcases Option.or_eq_some_iff.mp hrun with hrun | ⟨-, hrun⟩
    · obtain ⟨u, hu, hagree⟩ := h t _ v hrun
      split at hu
      · exact ⟨u, hu, hagree⟩
      · obtain ⟨w, hw, hagree'⟩ := ih u next v hu
        exact ⟨w, hw, hagree.trans hagree'⟩
    · exact ⟨t, hrun, .refl t⟩

theorem upToLazily (h : Keeps kept body) (n : Nat) : Keeps kept (upToLazily body n) := by
  induction n with
  | zero => exact fun t next v hrun => ⟨t, hrun, .refl t⟩
  | succ n ih =>
    intro t next v hrun
    rcases Option.or_eq_some_iff.mp hrun with hrun | ⟨-, hrun⟩
    · exact ⟨t, hrun, .refl t⟩
    · obtain ⟨u, hu, hagree⟩ := h t _ v hrun
      split at hu
      · exact ⟨u, hu, hagree⟩
      · obtain ⟨w, hw, hagree'⟩ := ih u next v hu
        exact ⟨w, hw, hagree.trans hagree'⟩

theorem timesOnce (h : Keeps kept body) {n : Nat} {t u : Thread}
    (hrun : timesOnce body n t = some u) : Agree kept t u := by
  induction n generalizing t with
  | zero =>
    obtain rfl := Option.some.inj hrun
    exact .refl t
  | succ n ih =>
    rw [Pattern.timesOnce] at hrun
    split at hrun
    · exact absurd hrun (by simp)
    · next w hw => exact (h.once hw).trans (ih hrun)

theorem upToOnce (h : Keeps kept body) (n : Nat) (t : Thread) :
    Agree kept t (upToOnce body n t) := by
  induction n generalizing t with
  | zero => exact .refl t
  | succ n ih =>
    rw [Pattern.upToOnce]
    split
    · exact .refl t
    · next u hu =>
      split
      · exact h.once hu
      · exact (h.once hu).trans (ih u)

theorem repeatStep (h : Keeps kept body) (mode : Mode) (least : Nat) (most : Option Nat) :
    Keeps kept (repeatStep mode least most body) := by
  intro t next v hrun
  cases mode with
  | greedy =>
    obtain ⟨u, hu, hagree⟩ := h.times least t _ v hrun
    obtain ⟨w, hw, hagree'⟩ := h.upTo _ u next v hu
    exact ⟨w, hw, hagree.trans hagree'⟩
  | lazy =>
    obtain ⟨u, hu, hagree⟩ := h.times least t _ v hrun
    obtain ⟨w, hw, hagree'⟩ := h.upToLazily _ u next v hu
    exact ⟨w, hw, hagree.trans hagree'⟩
  | possessive =>
    simp only [Pattern.repeatStep] at hrun
    split at hrun
    · exact absurd hrun (by simp)
    · next u hu => exact ⟨_, hrun, (h.timesOnce hu).trans (h.upToOnce _ u)⟩

end Keeps

/-- A thread that moves keeps all captures. -/
theorem keeps_charsStep (mode : Mode) (least : Nat) (most : Option Nat) (accepts : Char → Bool) :
    Keeps kept (charsStep mode least most accepts) := by
  have hmoved : ∀ {t : Thread} {next : Next} {v : Thread} {places : List Cursor},
      (places.findSome? fun c => next { t with cursor := c }) = some v →
      ∃ u, next u = some v ∧ Agree kept t u := by
    intro t next v places hfind
    obtain ⟨c, -, hc⟩ := List.exists_of_findSome?_eq_some hfind
    exact ⟨{ t with cursor := c }, hc, fun i _ => rfl⟩
  intro t next v hrun
  cases mode with
  | greedy => exact hmoved hrun
  | lazy => exact hmoved hrun
  | possessive =>
    simp only [charsStep] at hrun
    split at hrun
    · exact absurd hrun (by simp)
    · next c hc => exact ⟨_, hrun, fun i _ => rfl⟩

/-! ### Trees -/

/-- **A search keeps the captures of all groups but those of its tree.** -/
theorem keeps_run (r : Regex) : Keeps (fun i => i ∉ r.groups) (run r) := by
  induction r with
  | empty => exact fun t next v hrun => ⟨t, hrun, .refl t⟩
  | fail => exact fun t next v hrun => absurd hrun (by simp [run])
  | char test fold =>
    intro t next v hrun
    rw [run] at hrun
    split at hrun
    · exact absurd hrun (by simp)
    · exact ⟨_, hrun, fun i _ => rfl⟩
  | anchor a =>
    intro t next v hrun
    rw [run] at hrun
    split at hrun
    · exact ⟨t, hrun, .refl t⟩
    · exact absurd hrun (by simp)
  | seq a b iha ihb =>
    intro t next v hrun
    obtain ⟨u, hu, hagree⟩ := iha t _ v hrun
    obtain ⟨w, hw, hagree'⟩ := ihb u next v hu
    refine ⟨w, hw, (hagree.mono fun i hi => ?_).trans (hagree'.mono fun i hi => ?_)⟩
    · exact fun h => hi (List.mem_append_left _ h)
    · exact fun h => hi (List.mem_append_right _ h)
  | alt a b iha ihb =>
    intro t next v hrun
    rcases Option.or_eq_some_iff.mp hrun with hrun | ⟨-, hrun⟩
    · exact iha.mono (fun i hi h => hi (List.mem_append_left _ h)) t next v hrun
    · exact ihb.mono (fun i hi h => hi (List.mem_append_right _ h)) t next v hrun
  | chars mode least most test fold => exact keeps_charsStep _ _ _ _
  | rep mode least most body ih => exact ih.repeatStep mode least most
  | group index body ih =>
    intro t next v hrun
    -- The group itself is captured, and no other but those in it.
    obtain ⟨u, hu, hagree⟩ := ih _ _ v hrun
    refine ⟨u.closeGroup index, hu, fun i hi => ?_⟩
    have hne : i ≠ index := fun heq => hi (heq ▸ List.mem_cons_self)
    rw [Thread.captured?_closeGroup hne, hagree i fun h => hi (List.mem_cons_of_mem _ h),
      Thread.captured?_openGroup hne]
  | atomic body ih =>
    intro t next v hrun
    rw [run] at hrun
    split at hrun
    · exact absurd hrun (by simp)
    · next u hu => exact ⟨u, hrun, ih.once hu⟩
  | look back positive body ih =>
    intro t next v hrun
    rw [run] at hrun
    split at hrun
    · split at hrun
      · exact absurd hrun (by simp)
      · exact ⟨t, hrun, .refl t⟩
    · next c hc =>
      -- What was captured in a look-around that holds is kept.
      split at hrun
      · next u hu => exact ⟨_, hrun, fun i hi => ih.once hu i hi⟩
      · exact ⟨t, hrun, .refl t⟩
      · exact absurd hrun (by simp)
  | backref index fold =>
    intro t next v hrun
    rw [run] at hrun
    split at hrun
    · exact absurd hrun (by simp)
    · split at hrun
      · exact absurd hrun (by simp)
      · exact ⟨_, hrun, fun i _ => rfl⟩
  | cond index yes no ihyes ihno =>
    intro t next v hrun
    rw [run] at hrun
    split at hrun
    · exact ihyes.mono (fun i hi h => hi (List.mem_append_left _ h)) t next v hrun
    · exact ihno.mono (fun i hi h => hi (List.mem_append_right _ h)) t next v hrun

/-- The search for the items of a sequence, the last one first, and then for a tree. -/
theorem exists_of_run_items {items : List Item} {tail : Regex} {t v : Thread} {next : Next}
    (h : run (items.foldl (fun rest item => .seq item.node rest) tail) t next = some v) :
    ∃ u, run tail u next = some v ∧ (items = [] → u = t) ∧
      Agree (fun i => ∀ item ∈ items, i ∉ item.node.groups) t u := by
  induction items generalizing tail with
  | nil => exact ⟨t, h, fun _ => rfl, .refl t⟩
  | cons item items ih =>
    obtain ⟨u, hu, -, hagree⟩ := ih h
    obtain ⟨w, hw, hagree'⟩ := keeps_run item.node u _ v hu
    refine ⟨w, hw, fun hnil => absurd hnil (List.cons_ne_nil _ _),
      (hagree.mono fun i hi => ?_).trans (hagree'.mono fun i hi => ?_)⟩
    · exact fun other hother => hi other (List.mem_cons_of_mem _ hother)
    · exact hi item List.mem_cons_self

end RouteMatch.Pattern
