/-!
# Cutting texts

## Main definitions

* `split` — the pieces between the occurrences of a separator.
* `join` — pieces with a separator between them.
* `cut?` — a text before and after the first separator.
* `occursIn` — whether a text is found in another one.

## Main results

* `join_eq_intercalate` — joining is putting the separator between the pieces.
* `join_split` — the pieces of a text joined give the text.
* `split_join` — pieces without the separator, joined and split, are the pieces.
* `cut?_eq_some_iff` — what a cut says.
* `occursIn_iff`, `exists_mem_split_of_occurs` — what stands in a text, and in its pieces.
-/

namespace RouteMatch.Text

/-- The pieces of a text between the occurrences of a separator; there is always
one more than there are separators. -/
def split (separator : Char) : List Char → List (List Char)
  | [] => [[]]
  | c :: rest =>
    if c = separator then [] :: split separator rest
    else
      match split separator rest with
      | [] => [[c]]
      | piece :: pieces => (c :: piece) :: pieces

/-- Pieces with a separator between them. -/
def join (separator : Char) : List (List Char) → List Char
  | [] => []
  | [piece] => piece
  | piece :: pieces => piece ++ separator :: join separator pieces

/-- The text before the first separator and the text after it. -/
def cut? (separator : Char) : List Char → Option (List Char × List Char)
  | [] => none
  | c :: rest =>
    if c = separator then some ([], rest)
    else (cut? separator rest).map fun (front, back) => (c :: front, back)

/-- Whether a text is found in another one. -/
def occursIn (needle : List Char) : List Char → Bool
  | [] => needle.isEmpty
  | c :: rest => needle.isPrefixOf (c :: rest) || occursIn needle rest

theorem split_ne_nil (separator : Char) (text : List Char) : split separator text ≠ [] := by
  cases text with
  | nil => simp [split]
  | cons c rest =>
    unfold split
    split
    · simp
    · split <;> simp

theorem length_split (separator : Char) (text : List Char) :
    (split separator text).length = text.count separator + 1 := by
  induction text with
  | nil => rfl
  | cons c rest ih =>
    unfold split
    by_cases h : c = separator
    · simp [h, ih]
    · rw [if_neg h]
      split
      · next h' => exact absurd h' (split_ne_nil separator rest)
      · next h' =>
        rw [h'] at ih
        simpa [List.count_cons, h] using ih

theorem join_split (separator : Char) (text : List Char) :
    join separator (split separator text) = text := by
  induction text with
  | nil => rfl
  | cons c rest ih =>
    unfold split
    by_cases h : c = separator
    · rw [if_pos h]
      cases h' : split separator rest with
      | nil => exact absurd h' (split_ne_nil separator rest)
      | cons piece pieces =>
        rw [← h', join, ih, h]
        · rfl
        · exact split_ne_nil separator rest
    · rw [if_neg h]
      cases h' : split separator rest with
      | nil => exact absurd h' (split_ne_nil separator rest)
      | cons piece pieces =>
        rw [h'] at ih
        cases pieces with
        | nil => simpa [join] using ih
        | cons _ _ => simpa [join] using ih

theorem join_eq_intercalate (separator : Char) (pieces : List (List Char)) :
    join separator pieces = [separator].intercalate pieces := by
  induction pieces with
  | nil => rfl
  | cons piece pieces ih =>
    cases pieces with
    | nil => simp [join]
    | cons next pieces => rw [join, ih] <;> simp [List.intercalate]

theorem join_concat {separator : Char} {xs : List (List Char)} (hne : xs ≠ [])
    (x : List Char) : join separator (xs ++ [x]) = join separator xs ++ separator :: x := by
  induction xs with
  | nil => exact absurd rfl hne
  | cons y ys ih =>
    cases ys with
    | nil => simp [join]
    | cons z zs =>
      calc join separator (y :: z :: zs ++ [x])
          = y ++ separator :: join separator (z :: zs ++ [x]) := rfl
        _ = y ++ separator :: (join separator (z :: zs) ++ separator :: x) := by
            rw [ih (List.cons_ne_nil z zs)]
        _ = join separator (y :: z :: zs) ++ separator :: x :=
            (List.append_assoc y (separator :: join separator (z :: zs)) _).symm

/-- Pieces joined are empty if there are none, or only one that is empty. -/
theorem join_eq_nil_iff {separator : Char} {xs : List (List Char)} :
    join separator xs = [] ↔ xs = [] ∨ xs = [[]] := by
  cases xs with
  | nil => simp [join]
  | cons x xs =>
    cases xs with
    | nil => simp [join]
    | cons y ys => simp [join]

theorem mem_join {separator c : Char} {xs : List (List Char)} (h : c ∈ join separator xs) :
    c = separator ∨ ∃ x ∈ xs, c ∈ x := by
  induction xs with
  | nil => simp [join] at h
  | cons x xs ih =>
    cases xs with
    | nil => exact Or.inr ⟨x, List.mem_cons_self, by simpa [join] using h⟩
    | cons y ys =>
      rw [join, List.mem_append, List.mem_cons] at h
      · rcases h with h | rfl | h
        · exact Or.inr ⟨x, List.mem_cons_self, h⟩
        · exact Or.inl rfl
        · rcases ih h with h | ⟨z, hz, h⟩
          · exact Or.inl h
          · exact Or.inr ⟨z, List.mem_cons_of_mem _ hz, h⟩
      · exact List.cons_ne_nil y ys

/-- No piece holds the separator. -/
theorem notMem_of_mem_split {separator : Char} {text x : List Char}
    (h : x ∈ split separator text) : separator ∉ x := by
  induction text generalizing x with
  | nil =>
    obtain rfl := List.mem_singleton.mp h
    exact List.not_mem_nil
  | cons c rest ih =>
    unfold split at h
    by_cases hc : c = separator
    · rw [if_pos hc] at h
      rcases List.mem_cons.mp h with rfl | h
      · exact List.not_mem_nil
      · exact ih h
    · rw [if_neg hc] at h
      cases hsplit : split separator rest with
      | nil => exact absurd hsplit (split_ne_nil separator rest)
      | cons piece pieces =>
        rw [hsplit] at h ih
        rcases List.mem_cons.mp h with rfl | h
        · rw [List.mem_cons, not_or]
          exact ⟨Ne.symm hc, ih List.mem_cons_self⟩
        · exact ih (List.mem_cons_of_mem _ h)

theorem split_of_notMem {separator : Char} {x : List Char} (h : separator ∉ x) :
    split separator x = [x] := by
  induction x with
  | nil => rfl
  | cons c rest ih =>
    rw [List.mem_cons, not_or] at h
    rw [split, if_neg (Ne.symm h.1), ih h.2]

theorem split_append_cons {separator : Char} {x : List Char} (h : separator ∉ x)
    (rest : List Char) : split separator (x ++ separator :: rest) = x :: split separator rest := by
  induction x with
  | nil => simp [split]
  | cons c x ih =>
    rw [List.mem_cons, not_or] at h
    rw [List.cons_append, split, if_neg (Ne.symm h.1), ih h.2]

theorem split_join {separator : Char} {xs : List (List Char)} (hne : xs ≠ [])
    (h : ∀ x ∈ xs, separator ∉ x) : split separator (join separator xs) = xs := by
  induction xs with
  | nil => exact absurd rfl hne
  | cons x xs ih =>
    have hx := h x List.mem_cons_self
    cases xs with
    | nil => rw [join, split_of_notMem hx]
    | cons y ys =>
      rw [join, split_append_cons hx, ih (List.cons_ne_nil y ys)]
      · exact fun z hz => h z (List.mem_cons_of_mem _ hz)
      · exact List.cons_ne_nil y ys

theorem cut?_eq_some_iff {separator : Char} {text front back : List Char} :
    cut? separator text = some (front, back)
      ↔ text = front ++ separator :: back ∧ separator ∉ front := by
  induction text generalizing front with
  | nil => simp [cut?]
  | cons c rest ih =>
    unfold cut?
    by_cases h : c = separator
    · subst h
      cases front <;> simp
      intro h₁ _ h₂
      exact absurd h₁ h₂
    · rw [if_neg h]
      cases front with
      | nil => simp [h]
      | cons d front =>
        simp only [Option.map_eq_some_iff, Prod.exists, Prod.mk.injEq, List.cons.injEq,
          List.cons_append, List.mem_cons, not_or]
        constructor
        · rintro ⟨_, _, h', ⟨rfl, rfl⟩, rfl⟩
          obtain ⟨h₁, h₂⟩ := ih.1 h'
          exact ⟨⟨rfl, h₁⟩, fun h₃ => h h₃.symm, h₂⟩
        · rintro ⟨⟨rfl, h₁⟩, _, h₂⟩
          exact ⟨_, _, ih.2 ⟨h₁, h₂⟩, ⟨rfl, rfl⟩, rfl⟩

/-! ### Texts in texts -/

theorem occursIn_iff {needle text : List Char} : occursIn needle text = true ↔ needle <:+: text := by
  induction text with
  | nil => rw [occursIn, List.isEmpty_iff, List.infix_nil]
  | cons c rest ih =>
    rw [occursIn, Bool.or_eq_true, List.isPrefixOf_iff_prefix, ih, List.infix_cons_iff]

/-- A text in which a mark does not occur stands in front of it, if it stands at the front. -/
theorem prefix_append_cons_iff {α : Type} {w a b : List α} {x : α} (hx : x ∉ w) :
    w <+: a ++ x :: b ↔ w <+: a := by
  constructor
  · intro h
    rcases Nat.lt_or_ge a.length w.length with hlt | hge
    · -- The mark would be one of the characters of the text.
      have hfront : a ++ [x] <+: a ++ x :: b := ⟨b, by simp⟩
      have hmark : a ++ [x] <+: w := by
        apply List.prefix_of_prefix_length_le hfront h
        rw [List.length_append, List.length_singleton]
        omega
      exact absurd (hmark.subset (List.mem_append_right a (List.mem_singleton_self x))) hx
    · exact List.prefix_of_prefix_length_le h (List.prefix_append a (x :: b)) hge
  · intro h
    exact h.trans (List.prefix_append a (x :: b))

/-- A text in which a mark does not occur stands on one side of it. -/
theorem infix_append_cons {α : Type} {w a b : List α} {x : α} (hx : x ∉ w)
    (h : w <:+: a ++ x :: b) : w <:+: a ∨ w <:+: b := by
  obtain ⟨before, after, heq⟩ := h
  rw [List.append_assoc, List.append_eq_append_iff] at heq
  rcases heq with ⟨more, rfl, heq⟩ | ⟨more, rfl, heq⟩
  · -- The text begins in front of the mark, and must end there.
    rcases List.append_eq_append_iff.mp heq with ⟨more', rfl, heq'⟩ | ⟨more', rfl, heq'⟩
    · exact Or.inl ⟨before, more', by rw [List.append_assoc]⟩
    · cases more' with
      | nil => exact Or.inl ⟨before, [], by simp⟩
      | cons y more' =>
        obtain rfl := (List.cons.inj heq').1
        exact absurd (List.mem_append_right _ List.mem_cons_self) hx
  · -- The text begins behind the mark or at it.
    cases more with
    | nil =>
      cases w with
      | nil => exact Or.inl List.nil_infix
      | cons y w =>
        obtain rfl := (List.cons.inj heq).1
        exact absurd List.mem_cons_self hx
    | cons y more =>
      obtain ⟨rfl, rfl⟩ := List.cons.inj heq
      exact Or.inr ⟨more, after, List.append_assoc _ _ _⟩

/-- A text without the separator that stands in pieces joined stands in one of them. -/
theorem exists_mem_of_occurs_join {separator : Char} {w : List Char} (hw : separator ∉ w)
    {xs : List (List Char)} (hne : xs ≠ []) (h : w <:+: join separator xs) :
    ∃ x ∈ xs, w <:+: x := by
  induction xs with
  | nil => exact absurd rfl hne
  | cons x xs ih =>
    cases xs with
    | nil => exact ⟨x, List.mem_cons_self, h⟩
    | cons y ys =>
      rcases infix_append_cons hw h with h | h
      · exact ⟨x, List.mem_cons_self, h⟩
      · obtain ⟨z, hz, h⟩ := ih (List.cons_ne_nil y ys) h
        exact ⟨z, List.mem_cons_of_mem _ hz, h⟩

/-- A text without the separator that stands in another one stands in one of its pieces. -/
theorem exists_mem_split_of_occurs {separator : Char} {w text : List Char} (hw : separator ∉ w)
    (h : w <:+: text) : ∃ x ∈ split separator text, w <:+: x :=
  exists_mem_of_occurs_join hw (split_ne_nil separator text) (by rwa [join_split])

end RouteMatch.Text
