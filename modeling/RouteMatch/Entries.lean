/-!
# Dictionaries in order of insertion

A dictionary is the list of its entries, oldest first.  An entry keeps its place
when its value is replaced, and the key that came first stays.

## Main definitions

* `Entries` — a dictionary.
* `Entries.get?`, `Entries.contains` — look-up.
* `Entries.insert`, `Entries.insertNew`, `Entries.update` — writing.
* `Entries.IsDictionary` — no two entries are under equal keys.

## Main results

* `Entries.get?_insert` — what is found after a write.
* `Entries.get?_insertNew` — what is found after a default was supplied.
* `Entries.update_of_pairwise` — new entries keep their order.
* `Entries.IsDictionary.update` — what is written stays a dictionary.
* `Entries.get?_of_perm` — the order of entries under different keys does not matter.
* `Entries.get?_update`, `Entries.update_perm` — what is found after several writes, and
  that their order does not matter.
-/

namespace RouteMatch

/-- A dictionary: its entries in order of insertion. -/
abbrev Entries (κ : Type) (β : Type) := List (κ × β)

namespace Entries

variable {κ β : Type} [BEq κ]

/-- The value under a key. -/
def get? (key : κ) : Entries κ β → Option β
  | [] => none
  | (k, v) :: rest => if k == key then some v else get? key rest

/-- Whether there is an entry under a key. -/
def contains (entries : Entries κ β) (key : κ) : Bool :=
  (entries.get? key).isSome

/-- Puts a value under a key, in the key's old place or at the end. -/
def insert (key : κ) (value : β) : Entries κ β → Entries κ β
  | [] => [(key, value)]
  | (k, v) :: rest => if k == key then (k, value) :: rest else (k, v) :: insert key value rest

/-- Puts a value under a key that has none yet. -/
def insertNew (key : κ) (value : β) (entries : Entries κ β) : Entries κ β :=
  if entries.contains key then entries else entries ++ [(key, value)]

/-- Puts all entries of a second dictionary into a first one. -/
def update (entries more : Entries κ β) : Entries κ β :=
  more.foldl (fun acc entry => acc.insert entry.1 entry.2) entries

/-- A list of entries as a dictionary: a repeated key keeps its first place and
takes its last value. -/
def ofList (entries : List (κ × β)) : Entries κ β :=
  update [] entries

@[simp] theorem get?_nil (key : κ) : Entries.get? key ([] : Entries κ β) = none := rfl

theorem get?_cons (key k : κ) (v : β) (rest : Entries κ β) :
    Entries.get? key ((k, v) :: rest) = if k == key then some v else Entries.get? key rest := rfl

theorem get?_eq_none_iff [LawfulBEq κ] {entries : Entries κ β} {key : κ} :
    entries.get? key = none ↔ key ∉ entries.map Prod.fst := by
  induction entries with
  | nil => simp
  | cons entry rest ih =>
    obtain ⟨k, v⟩ := entry
    rw [get?_cons, List.map_cons, List.mem_cons, not_or, ← ih]
    by_cases hk : k = key
    · simp [hk]
    · simp [hk, Ne.symm hk]

/-- An entry that is found stands in the dictionary. -/
theorem exists_of_get?_eq_some [LawfulBEq κ] {entries : Entries κ β} {key : κ} {value : β}
    (h : entries.get? key = some value) :
    ∃ front back, entries = front ++ (key, value) :: back := by
  induction entries with
  | nil => exact absurd h (by simp)
  | cons entry rest ih =>
    obtain ⟨k, v⟩ := entry
    rw [get?_cons] at h
    split at h
    · next hk =>
      obtain rfl := eq_of_beq hk
      obtain rfl := Option.some.inj h
      exact ⟨[], rest, rfl⟩
    · obtain ⟨front, back, rfl⟩ := ih h
      exact ⟨(k, v) :: front, back, rfl⟩

theorem get?_insert [LawfulBEq κ] (entries : Entries κ β) (key other : κ) (value : β) :
    (entries.insert key value).get? other
      = if key == other then some value else entries.get? other := by
  induction entries with
  | nil => simp [insert, get?]
  | cons entry rest ih =>
    obtain ⟨k, v⟩ := entry
    by_cases hk : k = key
    · subst hk
      by_cases ho : k = other <;> simp [insert, get?, ho]
    · by_cases ho : k = other
      · subst ho
        simp [insert, get?, hk, Ne.symm hk]
      · simp [insert, get?, hk, ho, ih]

/-- A write under a key that is there keeps the keys; a new key comes last. -/
theorem map_fst_insert [LawfulBEq κ] (entries : Entries κ β) (key : κ) (value : β) :
    (entries.insert key value).map Prod.fst
      = entries.map Prod.fst ++ if key ∈ entries.map Prod.fst then [] else [key] := by
  induction entries with
  | nil => rfl
  | cons entry rest ih =>
    obtain ⟨k, v⟩ := entry
    by_cases hk : k = key
    · simp [insert, hk]
    · by_cases hmem : key ∈ rest.map Prod.fst
      · simp [insert, hk, ih, if_pos hmem, List.mem_cons_of_mem _ hmem]
      · have hnotin : key ∉ ((k, v) :: rest).map Prod.fst := by
          rw [List.map_cons, List.mem_cons, not_or]
          exact ⟨Ne.symm hk, hmem⟩
        rw [if_neg hnotin]
        simp [insert, hk, ih, if_neg hmem]

theorem get?_append [LawfulBEq κ] (front back : Entries κ β) (key : κ) :
    Entries.get? key (front ++ back) = (front.get? key).or (back.get? key) := by
  induction front with
  | nil => simp [get?]
  | cons entry rest ih =>
    obtain ⟨k, v⟩ := entry
    by_cases hk : k = key <;> simp [get?, hk, ih]

theorem get?_insertNew [LawfulBEq κ] (entries : Entries κ β) (key other : κ) (value : β) :
    (entries.insertNew key value).get? other
      = (entries.get? other).or (if key == other then some value else none) := by
  unfold insertNew contains
  split
  · by_cases ho : key = other
    · subst ho
      cases h : entries.get? key <;> simp_all
    · cases entries.get? other <;> simp [ho]
  · rw [get?_append]
    cases entries.get? other <;> simp [get?]

/-- A write keeps what holds of all values, if it holds of the new one. -/
theorem forall_mem_insert {P : β → Prop} {entries : Entries κ β}
    (h : ∀ entry ∈ entries, P entry.2) (key : κ) {value : β} (hvalue : P value) :
    ∀ entry ∈ entries.insert key value, P entry.2 := by
  induction entries with
  | nil =>
    intro entry hentry
    rw [List.mem_singleton.mp hentry]
    exact hvalue
  | cons first rest ih =>
    have hrest := ih fun entry hentry => h entry (List.mem_cons_of_mem _ hentry)
    obtain ⟨k, v⟩ := first
    intro entry hentry
    rw [insert] at hentry
    split at hentry
    · rcases List.mem_cons.mp hentry with rfl | hentry
      · exact hvalue
      · exact h entry (List.mem_cons_of_mem _ hentry)
    · rcases List.mem_cons.mp hentry with rfl | hentry
      · exact h _ List.mem_cons_self
      · exact hrest entry hentry

/-- Several writes keep what holds of all values, if it holds of the new ones. -/
theorem forall_mem_update {P : β → Prop} {entries more : Entries κ β}
    (h : ∀ entry ∈ entries, P entry.2) (hmore : ∀ entry ∈ more, P entry.2) :
    ∀ entry ∈ entries.update more, P entry.2 := by
  induction more generalizing entries with
  | nil => exact h
  | cons first more ih =>
    have hfirst := hmore first List.mem_cons_self
    exact ih (forall_mem_insert h first.1 hfirst)
      fun entry hentry => hmore entry (List.mem_cons_of_mem _ hentry)

/-- A new key is put at the end. -/
theorem insert_of_new {entries : Entries κ β} {key : κ}
    (h : ∀ entry ∈ entries, (entry.1 == key) = false) (value : β) :
    entries.insert key value = entries ++ [(key, value)] := by
  induction entries with
  | nil => rfl
  | cons entry rest ih =>
    have hentry := h entry List.mem_cons_self
    have ih := ih fun other hother => h other (List.mem_cons_of_mem _ hother)
    simp [insert, hentry, ih]

/-- Entries under different new keys are put at the end. -/
theorem update_of_pairwise {entries more : Entries κ β}
    (h : (entries ++ more).Pairwise fun a b => (a.1 == b.1) = false) :
    entries.update more = entries ++ more := by
  induction more generalizing entries with
  | nil => simp [update]
  | cons entry more ih =>
    have hnew : ∀ other ∈ entries, (other.1 == entry.1) = false := fun other hother =>
      (List.pairwise_append.mp h).2.2 other hother entry List.mem_cons_self
    have hrest := insert_of_new hnew entry.2
    rw [update, List.foldl_cons, hrest, ← update, ih]
    · simp
    · simpa using h

/-! ### Dictionaries -/

/-- No two entries are under equal keys. -/
def IsDictionary (entries : Entries κ β) : Prop :=
  entries.Pairwise fun a b => (a.1 == b.1) = false

/-- An entry after a write has the key that was written or one that was there before. -/
theorem key_of_mem_insert {entries : Entries κ β} {key : κ} {value : β} {entry : κ × β}
    (h : entry ∈ entries.insert key value) :
    entry.1 = key ∨ ∃ old ∈ entries, old.1 = entry.1 := by
  induction entries with
  | nil => exact Or.inl (by rw [List.mem_singleton.mp h])
  | cons first rest ih =>
    obtain ⟨k, v⟩ := first
    rw [insert] at h
    split at h
    · rcases List.mem_cons.mp h with rfl | h
      · exact Or.inr ⟨(k, v), List.mem_cons_self, rfl⟩
      · exact Or.inr ⟨entry, List.mem_cons_of_mem _ h, rfl⟩
    · rcases List.mem_cons.mp h with rfl | h
      · exact Or.inr ⟨(k, v), List.mem_cons_self, rfl⟩
      · rcases ih h with hkey | ⟨old, hold, hkey⟩
        · exact Or.inl hkey
        · exact Or.inr ⟨old, List.mem_cons_of_mem _ hold, hkey⟩

theorem IsDictionary.insert {entries : Entries κ β} (h : entries.IsDictionary) (key : κ)
    (value : β) : IsDictionary (entries.insert key value) := by
  induction entries with
  | nil => exact List.pairwise_singleton _ _
  | cons first rest ih =>
    obtain ⟨k, v⟩ := first
    obtain ⟨hfirst, hrest⟩ := List.pairwise_cons.mp h
    rw [Entries.insert]
    by_cases hk : (k == key) = true
    · rw [if_pos hk]
      exact List.pairwise_cons.mpr ⟨hfirst, hrest⟩
    · rw [if_neg hk]
      refine List.pairwise_cons.mpr ⟨?_, ih hrest⟩
      intro entry hentry
      rcases key_of_mem_insert hentry with hkey | ⟨old, hold, hkey⟩
      · rw [hkey]
        exact Bool.eq_false_iff.mpr hk
      · rw [← hkey]
        exact hfirst old hold

/-- What is written stays a dictionary. -/
theorem IsDictionary.update {entries : Entries κ β} (h : entries.IsDictionary)
    (more : Entries κ β) : IsDictionary (entries.update more) := by
  induction more generalizing entries with
  | nil => exact h
  | cons entry more ih => exact ih (h.insert entry.1 entry.2)

theorem isDictionary_ofList (entries : List (κ × β)) : IsDictionary (ofList entries) :=
  IsDictionary.update List.Pairwise.nil entries

/-- A dictionary is a dictionary as it stands. -/
theorem IsDictionary.ofList_eq {entries : Entries κ β} (h : entries.IsDictionary) :
    ofList entries = entries := by
  have hpairwise : (([] : List (κ × β)) ++ entries).Pairwise fun a b => (a.1 == b.1) = false := h
  rw [ofList, update_of_pairwise hpairwise, List.nil_append]

/-! ### Entries under different keys -/

section

variable [LawfulBEq κ] {entries more : Entries κ β}

theorem nodup_insert (h : (entries.map Prod.fst).Nodup) (key : κ) (value : β) :
    ((entries.insert key value).map Prod.fst).Nodup := by
  rw [map_fst_insert]
  split
  · rw [List.append_nil]
    exact h
  · next hkey =>
    refine List.nodup_append.mpr ⟨h, by simp, ?_⟩
    intro other hother k hk
    rw [List.mem_singleton.mp hk]
    rintro rfl
    exact hkey hother

theorem nodup_insertNew (h : (entries.map Prod.fst).Nodup) (key : κ) (value : β) :
    ((entries.insertNew key value).map Prod.fst).Nodup := by
  unfold insertNew contains
  cases hget : entries.get? key with
  | some old => exact h
  | none =>
    have hinsert : entries.insert key value = entries ++ [(key, value)] := by
      apply insert_of_new
      intro entry hentry
      apply beq_eq_false_iff_ne.mpr
      rintro rfl
      exact get?_eq_none_iff.mp hget (List.mem_map_of_mem hentry)
    have hnodup := nodup_insert h key value
    rw [hinsert] at hnodup
    exact hnodup

/-- Under different keys every entry is found. -/
theorem get?_eq_some_iff_mem (h : (entries.map Prod.fst).Nodup) {key : κ} {value : β} :
    entries.get? key = some value ↔ (key, value) ∈ entries := by
  constructor
  · intro hget
    obtain ⟨front, back, rfl⟩ := exists_of_get?_eq_some hget
    exact List.mem_append_right _ List.mem_cons_self
  · intro hmem
    induction entries with
    | nil => exact absurd hmem List.not_mem_nil
    | cons entry rest ih =>
      obtain ⟨k, v⟩ := entry
      rw [List.map_cons, List.nodup_cons] at h
      rw [get?_cons]
      rcases List.mem_cons.mp hmem with heq | hmem
      · obtain ⟨rfl, rfl⟩ := Prod.mk.inj heq
        rw [if_pos (beq_self_eq_true key)]
      · have hne : (k == key) = false := by
          apply beq_eq_false_iff_ne.mpr
          rintro rfl
          exact h.1 (List.mem_map.mpr ⟨_, hmem, rfl⟩)
        rw [hne]
        exact ih h.2 hmem

/-- The order of entries under different keys does not matter. -/
theorem get?_of_perm (hperm : entries.Perm more) (h : (entries.map Prod.fst).Nodup) (key : κ) :
    entries.get? key = more.get? key := by
  have hmore : (more.map Prod.fst).Nodup := (hperm.map Prod.fst).nodup_iff.mp h
  apply Option.ext
  intro value
  rw [get?_eq_some_iff_mem h, get?_eq_some_iff_mem hmore]
  exact hperm.mem_iff

theorem isDictionary_iff_nodup : entries.IsDictionary ↔ (entries.map Prod.fst).Nodup := by
  rw [List.Nodup, List.pairwise_map]
  constructor
  · intro h
    exact h.imp fun hne => beq_eq_false_iff_ne.mp hne
  · intro h
    exact h.imp fun hne => beq_eq_false_iff_ne.mpr hne

/-- A list of entries under different keys is a dictionary as it stands. -/
theorem ofList_of_nodup (h : (entries.map Prod.fst).Nodup) : ofList entries = entries :=
  (isDictionary_iff_nodup.mpr h).ofList_eq

/-- What is found after several writes under different keys. -/
theorem get?_update (h : (more.map Prod.fst).Nodup) (key : κ) :
    (entries.update more).get? key = (more.get? key).or (entries.get? key) := by
  induction more generalizing entries with
  | nil => rfl
  | cons entry more ih =>
    obtain ⟨k, v⟩ := entry
    obtain ⟨hnew, hmore⟩ := List.nodup_cons.mp h
    have hwrite : (entries.update ((k, v) :: more)).get? key
        = (Entries.get? key more).or ((entries.insert k v).get? key) := ih hmore
    rw [hwrite, get?_insert, get?_cons]
    by_cases hk : k = key
    · -- No later write is under the same key.
      subst hk
      rw [get?_eq_none_iff.mpr hnew]
      simp
    · simp [hk]

/-- Dictionaries in which the same is found differ in the order of their entries. -/
theorem perm_of_get? (h : (entries.map Prod.fst).Nodup) (hmore : (more.map Prod.fst).Nodup)
    (hget : ∀ key, entries.get? key = more.get? key) : entries.Perm more := by
  have hapart : ∀ a b : κ × β, a.1 ≠ b.1 → a ≠ b := fun a b hne heq => hne (congrArg Prod.fst heq)
  have hentries : entries.Nodup := List.Pairwise.of_map Prod.fst hapart h
  have hothers : more.Nodup := List.Pairwise.of_map Prod.fst hapart hmore
  refine (List.perm_ext_iff_of_nodup hentries hothers).mpr ?_
  intro entry
  rw [← get?_eq_some_iff_mem h, ← get?_eq_some_iff_mem hmore, hget]

/-- The order of a dictionary and of several writes under different keys does not matter. -/
theorem update_perm {entries' more' : Entries κ β} (hentries : entries.Perm entries')
    (hmore : more.Perm more') (h : (entries.map Prod.fst).Nodup)
    (hnew : (more.map Prod.fst).Nodup) : (entries.update more).Perm (entries'.update more') := by
  have h' : (entries'.map Prod.fst).Nodup := (hentries.map Prod.fst).nodup_iff.mp h
  have hnew' : (more'.map Prod.fst).Nodup := (hmore.map Prod.fst).nodup_iff.mp hnew
  have hdictionary := (isDictionary_iff_nodup.mpr h).update more
  have hdictionary' := (isDictionary_iff_nodup.mpr h').update more'
  refine perm_of_get? (isDictionary_iff_nodup.mp hdictionary)
    (isDictionary_iff_nodup.mp hdictionary') ?_
  intro key
  rw [get?_update hnew, get?_update hnew', get?_of_perm hmore hnew, get?_of_perm hentries h]

end

end Entries

end RouteMatch
