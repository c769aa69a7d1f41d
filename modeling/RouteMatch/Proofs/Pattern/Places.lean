import RouteMatch.Proofs.Pattern.Confined
import RouteMatch.Proofs.Pattern.Sketch

/-!
# Where lexemes begin

The machine reads a pattern lexeme by lexeme, and not every character begins one: what follows a
backslash belongs to an escape, and a character set, a comment or the name of a group goes on up
to its end.  The opening of a group with a name opens this group only where a lexeme begins.

The names of groups are kept from there on, and no name is taken twice.  So if a pattern is
accepted, no two such openings have the same name.

## Main definitions

* `State.places`, `lexemePlaces` — the places at which lexemes begin.
* `OpensAt` — the opening of a group with a name stands at a place.

## Main results

* `State.scan_grows` — the names of groups are kept.
* `State.lookup_of_mem_places` — an opening takes a new name.
* `ne_of_mem_lexemePlaces` — **no two openings have the same name.**
-/

namespace RouteMatch.Pattern

open Template

/-! ### Places -/

/-- The places in a text, from a place on, at which a lexeme begins; the first `skip` characters
belong to the lexeme read last. -/
def State.places : (position : Nat) → List Char → (skip : Nat) → State → List Nat
  | _, [], _, _ => []
  | position, _ :: rest, skip + 1, st => places (position + 1) rest skip st
  | position, c :: rest, 0, st =>
    position ::
      match Lexeme.read st.level.flags position c rest with
      | .error _ => []
      | .ok (lexeme, used) =>
        match st.step position (position + 1 + used) lexeme with
        | .error _ => []
        | .ok st => places (position + 1) rest used st

/-- The places in a pattern at which a lexeme begins, as far as the pattern can be read. -/
def lexemePlaces (source : List Char) : List Nat :=
  State.initial.places 0 source 0

/-- The opening of a group with a name stands at a place in a text. -/
def OpensAt (text : List Char) (place : Nat) (name : List Char) : Prop :=
  ∃ front rest, text = front ++ '(' :: ("?P<".toList ++ name ++ '>' :: rest) ∧ front.length = place

/-! ### Names are kept -/

theorem Stepped.grows {st st' : State} {lexeme : Lexeme} (h : Stepped st lexeme st') :
    st.groups.Grows st'.groups := by
  cases h with
  | kept => exact .refl _
  | flagged => exact .refl _
  | opened nest opens => exact opens.grows
  | closed => exact (Groups.Grows.refl _).widths _

/-- A name that has not been taken had not been taken before. -/
theorem lookup_of_grows {g g' : Groups} (h : g.Grows g') {name : List Char}
    (hname : g'.names.lookup name = none) : g.names.lookup name = none := by
  obtain ⟨more, hmore⟩ := h.names
  rw [lookup_eq_none_iff] at hname ⊢
  intro hmem
  apply hname
  rw [hmore, List.map_append]
  exact List.mem_append_left _ hmem

/-- What the opening of a group is read as depends on no flags. -/
theorem Lexeme.read_parenthesis (flags : Flags) (position : Nat) (rest : List Char) :
    Lexeme.read flags position '(' rest = Lexeme.read {} position '(' rest := by
  have hblank : isIgnorable '(' = false := by decide
  have hcomment : ¬ '(' = '#' := by decide
  simp only [Lexeme.read, hblank, hcomment, Bool.and_false, decide_false]

/-! ### One character after the other -/

/-- The machine goes past a character, which belongs to the lexeme read last or begins another
one, of which `used` characters follow. -/
inductive Advances (st : State) (position : Nat) (c : Char) (rest : List Char) :
    (skip used : Nat) → State → Prop
  | within {used : Nat} : Advances st position c rest (used + 1) used st
  | lexeme {lexeme : Lexeme} {used : Nat} {st' : State}
    (read : Lexeme.read st.level.flags position c rest = .ok (lexeme, used))
    (step : st.step position (position + 1 + used) lexeme = .ok st') :
    Advances st position c rest 0 used st'

theorem Advances.grows {st st' : State} {position skip used : Nat} {c : Char} {rest : List Char}
    (h : Advances st position c rest skip used st') : st.groups.Grows st'.groups := by
  cases h with
  | within => exact .refl _
  | lexeme read step => exact (State.step_cases step).grows

/-- All lexemes but the one that the character may begin are behind it. -/
theorem Advances.mem_places {st st' : State} {position skip used : Nat} {c : Char}
    {rest : List Char} (h : Advances st position c rest skip used st') {place : Nat}
    (hplace : place ∈ st.places position (c :: rest) skip) :
    place = position ∧ skip = 0 ∨ place ∈ st'.places (position + 1) rest used := by
  cases h with
  | within => exact Or.inr hplace
  | lexeme read step =>
    rw [State.places, read] at hplace
    simp only [step] at hplace
    rcases List.mem_cons.mp hplace with rfl | hplace
    · exact Or.inl ⟨rfl, rfl⟩
    · exact Or.inr hplace

namespace State

variable {st st' : State} {position skip : Nat} {text : List Char}

/-- What a text does to the machine begins with its first character. -/
theorem exists_advances {c : Char} {rest : List Char}
    (h : st.scan position (c :: rest) skip = .ok st') :
    ∃ used st₁, Advances st position c rest skip used st₁ ∧
      st₁.scan (position + 1) rest used = .ok st' := by
  cases skip with
  | succ used => exact ⟨used, st, .within, h⟩
  | zero =>
    rw [scan] at h
    split at h
    · exact absurd h (by simp)
    · next lexeme used hread =>
      split at h
      · exact absurd h (by simp)
      · next st₁ hstep => exact ⟨used, st₁, .lexeme hread hstep, h⟩

/-- The names of groups are kept. -/
theorem scan_grows (h : st.scan position text skip = .ok st') : st.groups.Grows st'.groups := by
  induction text generalizing position skip st with
  | nil =>
    obtain rfl := Except.ok.inj h
    exact .refl _
  | cons c rest ih =>
    obtain ⟨used, st₁, hadvances, hscan⟩ := exists_advances h
    exact hadvances.grows.trans (ih hscan)

theorem le_of_mem_places {place : Nat} (h : place ∈ st.places position text skip) :
    position ≤ place := by
  induction text generalizing position skip st with
  | nil => exact absurd h List.not_mem_nil
  | cons c rest ih =>
    cases skip with
    | succ skip => exact Nat.le_of_succ_le (ih h)
    | zero =>
      rw [places] at h
      rcases List.mem_cons.mp h with rfl | h
      · exact Nat.le_refl _
      · split at h
        · exact absurd h List.not_mem_nil
        · split at h
          · exact absurd h List.not_mem_nil
          · exact Nat.le_of_succ_le (ih h)

/-- A place behind the first character. -/
theorem mem_places_behind {c : Char} {rest front : List Char} {d : Char} {used : Nat} {st₁ : State}
    (h : Advances st position c rest skip used st₁)
    (hplace : position + (d :: front).length ∈ st.places position (c :: rest) skip) :
    position + 1 + front.length ∈ st₁.places (position + 1) rest used := by
  rw [List.length_cons] at hplace
  rcases h.mem_places hplace with ⟨heq, -⟩ | hbehind
  · omega
  · rwa [← Nat.add_assoc, Nat.add_right_comm] at hbehind

/-- An opening with which a lexeme begins takes a new name. -/
theorem lookup_of_advances {name rest : List Char} (hname : isName name = true) {used : Nat}
    {st₁ : State} (h : Advances st position '(' ("?P<".toList ++ name ++ '>' :: rest) 0 used st₁) :
    st.groups.names.lookup name = none ∧ st₁.groups.names.lookup name ≠ none := by
  cases h with
  | lexeme read step =>
    have htext : "?P<".toList ++ name ++ '>' :: rest = "?P<".toList ++ name ++ ['>'] ++ rest := by
      simp
    rw [Lexeme.read_parenthesis, htext, read_namedGroup hname] at read
    obtain ⟨rfl, -⟩ := Prod.mk.inj (Except.ok.inj read)
    simp only [State.step, openCapture] at step
    split at step
    · exact absurd step (by simp)
    · next hlookup =>
      obtain rfl := Except.ok.inj step
      refine ⟨hlookup, ?_⟩
      rw [Ne, lookup_eq_none_iff]
      simp [push, Groups.openNext]

/-- A lexeme that begins with a text leaves none of its characters to one before it. -/
theorem skip_eq_zero {c : Char} {rest : List Char}
    (h : position ∈ st.places position (c :: rest) skip) : skip = 0 := by
  cases skip with
  | zero => rfl
  | succ skip =>
    have hbehind : position ∈ st.places (position + 1) rest skip := h
    exact absurd (le_of_mem_places hbehind) (by omega)

/-- An opening takes a new name, and the name is kept. -/
theorem lookup_of_mem_places {name front rest : List Char} (hname : isName name = true)
    (htext : text = front ++ '(' :: ("?P<".toList ++ name ++ '>' :: rest))
    (hplace : position + front.length ∈ st.places position text skip)
    (h : st.scan position text skip = .ok st') :
    st.groups.names.lookup name = none ∧ st'.groups.names.lookup name ≠ none := by
  induction text generalizing position skip st front with
  | nil => exact absurd hplace List.not_mem_nil
  | cons c text ih =>
    obtain ⟨used, st₁, hadvances, hscan⟩ := exists_advances h
    cases front with
    | nil =>
      obtain rfl := skip_eq_zero hplace
      obtain ⟨rfl, rfl⟩ := List.cons.inj htext
      obtain ⟨hnew, htaken⟩ := lookup_of_advances hname hadvances
      exact ⟨hnew, fun hnone => htaken (lookup_of_grows (scan_grows hscan) hnone)⟩
    | cons d front =>
      obtain ⟨hnew, htaken⟩ :=
        ih (List.cons.inj htext).2 (mem_places_behind hadvances hplace) hscan
      exact ⟨lookup_of_grows hadvances.grows hnew, htaken⟩

/-- Of two openings in an accepted text the second one has another name. -/
theorem ne_of_mem_places {name other front back rest rest' : List Char}
    (hname : isName name = true) (hother : isName other = true)
    (htext : text = front ++ '(' :: ("?P<".toList ++ name ++ '>' :: rest))
    (htext' : text = back ++ '(' :: ("?P<".toList ++ other ++ '>' :: rest'))
    (hlt : front.length < back.length)
    (hplace : position + front.length ∈ st.places position text skip)
    (hplace' : position + back.length ∈ st.places position text skip)
    (h : st.scan position text skip = .ok st') : name ≠ other := by
  induction text generalizing position skip st front back with
  | nil => exact absurd hplace List.not_mem_nil
  | cons c text ih =>
    obtain ⟨d, back, rfl⟩ := List.exists_cons_of_length_pos (Nat.lt_of_le_of_lt (Nat.zero_le _) hlt)
    obtain ⟨used, st₁, hadvances, hscan⟩ := exists_advances h
    have htail' := (List.cons.inj htext').2
    have hbehind' := mem_places_behind hadvances hplace'
    cases front with
    | nil =>
      -- The first name is taken before the second group is opened.
      obtain rfl := skip_eq_zero hplace
      obtain ⟨rfl, htail⟩ := List.cons.inj htext
      rw [htail] at hadvances
      rintro rfl
      exact (lookup_of_advances hname hadvances).2
        (lookup_of_mem_places hother htail' hbehind' hscan).1
    | cons e front =>
      exact ih (List.cons.inj htext).2 htail' (Nat.lt_of_succ_lt_succ hlt)
        (mem_places_behind hadvances hplace) hbehind' hscan

end State

/-- **No two openings have the same name** in an accepted pattern, if both stand where a lexeme
begins. -/
theorem ne_of_mem_lexemePlaces {source : List Char} {parsed : Parsed}
    (h : parse source = .ok parsed) {name other : List Char} (hname : isName name = true)
    (hother : isName other = true) {place place' : Nat} (hopens : OpensAt source place name)
    (hopens' : OpensAt source place' other) (hlt : place < place')
    (hplace : place ∈ lexemePlaces source) (hplace' : place' ∈ lexemePlaces source) :
    name ≠ other := by
  obtain ⟨front, rest, htext, rfl⟩ := hopens
  obtain ⟨back, rest', htext', rfl⟩ := hopens'
  unfold parse at h
  split at h
  · exact absurd h (by simp)
  · next st hscan =>
    rw [← Nat.zero_add front.length] at hplace
    rw [← Nat.zero_add back.length] at hplace'
    exact State.ne_of_mem_places hname hother htext htext' hlt hplace hplace' hscan

end RouteMatch.Pattern
