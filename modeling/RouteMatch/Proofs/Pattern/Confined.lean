import RouteMatch.Proofs.Pattern.Reading
import RouteMatch.Proofs.Pattern.Steps

/-!
# Texts that stay within their group

The text of a token is written between two parentheses and read as a part of the whole
pattern.  It is *confined* if its lexemes, read on their own, close every group that they
open and no other.  Inside a group a confined text is read as the same lexemes; the
levels around the group stay as they are, and so do the groups opened before.

A text that is not confined can end the group it stands in and begin another, or take
the closing parenthesis into a character set.

## Main definitions

* `lexemes?`, `Confined` — the lexemes of a text on its own, and whether there are any.
* `State.steps` — the effect of lexemes.
* `Enclosed` — levels above a base, with groups numbered in a range.

## Main results

* `State.scan_lexemes` — **a confined text is read as its own lexemes.**
* `State.steps_encloses` — its effect is confined to the level it stands in.
-/

namespace RouteMatch.Pattern

/-! ### The lexemes of a text -/

/-- The lexemes of a text on its own, each with the number of characters after its first
one, where some groups are open and the first `skip` characters belong to the lexeme read
last.  There are none if a lexeme is faulty, closes a group that is not open, or a group
stays open. -/
def lexemesFrom : (opened : List Flags) → List Char → (skip : Nat) → Option (List (Lexeme × Nat))
  | [], [], _ => some []
  | _ :: _, [], _ => none
  | opened, _ :: rest, skip + 1 => lexemesFrom opened rest skip
  | opened, c :: rest, 0 =>
    match Lexeme.read (innermost opened) 0 c rest with
    | .error _ => none
    | .ok (lexeme, used) =>
      match lexeme.nest opened with
      | none => none
      | some opened => (lexemesFrom opened rest used).map ((lexeme, used) :: ·)

/-- The lexemes of a text that stays within the group it stands in. -/
def lexemes? (text : List Char) : Option (List (Lexeme × Nat)) :=
  lexemesFrom [] text 0

/-- A text whose lexemes close every group that they open and no other. -/
def Confined (text : List Char) : Prop :=
  (lexemes? text).isSome = true

instance (text : List Char) : Decidable (Confined text) :=
  inferInstanceAs (Decidable (_ = true))

/-- From some open groups on, lexemes close every group and none that is not open. -/
def Nested : (opened : List Flags) → List (Lexeme × Nat) → Prop
  | opened, [] => opened = []
  | opened, (lexeme, _) :: rest =>
    ∃ opened', lexeme.nest opened = some opened' ∧ Nested opened' rest

theorem nested_of_lexemesFrom {opened : List Flags} {text : List Char} {skip : Nat}
    {lexemes : List (Lexeme × Nat)} (h : lexemesFrom opened text skip = some lexemes) :
    Nested opened lexemes := by
  induction text generalizing opened skip lexemes with
  | nil =>
    cases opened with
    | nil =>
      obtain rfl := Option.some.inj h
      rfl
    | cons flags opened => exact absurd h (by simp [lexemesFrom])
  | cons c rest ih =>
    cases skip with
    | succ skip =>
      rw [lexemesFrom] at h
      exact ih h
    | zero =>
      rw [lexemesFrom] at h
      split at h
      · exact absurd h (by simp)
      · split at h
        · exact absurd h (by simp)
        · next opened' hnest =>
          obtain ⟨more, hmore, rfl⟩ := Option.map_eq_some_iff.mp h
          exact ⟨opened', hnest, ih hmore⟩

/-! ### Groups that are added -/

/-- What opening groups does to the groups met so far. -/
structure Groups.Grows (g g' : Groups) : Prop where
  count : g.count ≤ g'.count
  names : ∃ more, g'.names = g.names ++ more
  nodup : (g.names.map Prod.fst).Nodup → (g'.names.map Prod.fst).Nodup

namespace Groups.Grows

variable {g g' g'' : Groups}

theorem refl (g : Groups) : g.Grows g :=
  ⟨Nat.le_refl _, ⟨[], (List.append_nil _).symm⟩, id⟩

theorem trans (h : g.Grows g') (h' : g'.Grows g'') : g.Grows g'' := by
  obtain ⟨more, hmore⟩ := h.names
  obtain ⟨more', hmore'⟩ := h'.names
  exact ⟨Nat.le_trans h.count h'.count,
    ⟨more ++ more', by rw [hmore', hmore, List.append_assoc]⟩, h'.nodup ∘ h.nodup⟩

theorem widths (h : g.Grows g') (widths : List (Nat × Width)) :
    g.Grows { g' with widths := widths } :=
  ⟨h.count, h.names, h.nodup⟩

end Groups.Grows

/-- A name is looked up in vain if the groups do not have it. -/
theorem lookup_eq_none_iff {names : List (List Char × Nat)} {name : List Char} :
    names.lookup name = none ↔ name ∉ names.map Prod.fst := by
  simp only [List.lookup_eq_none_iff, bne_iff_ne, ne_eq, List.mem_map, not_exists, not_and]
  exact ⟨fun h entry hentry heq => h entry hentry heq.symm,
    fun h entry hentry heq => h entry hentry heq.symm⟩

theorem Opens.grows {g g' : Groups} {opening : Opening} (h : Opens g opening g') : g.Grows g' := by
  cases h with
  | other h => exact .refl g
  | capture name h =>
    cases name with
    | none => exact ⟨Nat.le_succ _, ⟨[], (List.append_nil _).symm⟩, id⟩
    | some n =>
      refine ⟨Nat.le_succ _, ⟨[(n, g.count + 1)], rfl⟩, fun hnodup => ?_⟩
      have hnew := lookup_eq_none_iff.mp (h n rfl)
      simp only [Groups.openNext, List.map_append, List.map_cons, List.map_nil]
      refine List.nodup_append.mpr ⟨hnodup, by simp, fun a ha b hb => ?_⟩
      rintro rfl
      exact hnew (List.mem_singleton.mp hb ▸ ha)

/-! ### Levels above a base -/

/-- The groups in a level, and the group that it is, are numbered from above `low` up to
`high`. -/
structure Level.Within (low high : Nat) (l : Level) : Prop where
  groups : ∀ i ∈ l.groups, low < i ∧ i ≤ high
  opening : ∀ i, l.opening = .capture i → low < i ∧ i ≤ high

/-- Levels that begin with one for each open group of a text and one that the text stands
in, and go on with a base. -/
inductive Enclosed (low high : Nat) (base : List Level) : List Flags → List Level → Prop
  | ground {l : Level} (flags : l.flags = {}) (within : l.Within low high) :
    Enclosed low high base [] (l :: base)
  | inside {l : Level} {opened : List Flags} {around : List Level} (within : l.Within low high)
    (enclosed : Enclosed low high base opened around) :
    Enclosed low high base (l.flags :: opened) (l :: around)

namespace Enclosed

variable {low high : Nat} {base around : List Level} {opened : List Flags} {l : Level}

theorem innermost_eq (h : Enclosed low high base opened (l :: around)) :
    innermost opened = l.flags := by
  cases h with
  | ground flags within => exact flags.symm
  | inside within enclosed => rfl

theorem within (h : Enclosed low high base opened (l :: around)) : l.Within low high := by
  cases h with
  | ground flags within => exact within
  | inside within enclosed => exact within

theorem around_eq (h : Enclosed low high base [] (l :: around)) : around = base ∧ l.flags = {} := by
  cases h with
  | ground flags within => exact ⟨rfl, flags⟩

theorem mono {high' : Nat} {levels : List Level} (h : Enclosed low high base opened levels)
    (hle : high ≤ high') : Enclosed low high' base opened levels := by
  have hwithin : ∀ {l : Level}, l.Within low high → l.Within low high' := fun hl =>
    ⟨fun i hi => ⟨(hl.groups i hi).1, Nat.le_trans (hl.groups i hi).2 hle⟩,
      fun i hi => ⟨(hl.opening i hi).1, Nat.le_trans (hl.opening i hi).2 hle⟩⟩
  induction h with
  | ground flags within => exact .ground flags (hwithin within)
  | inside within enclosed ih => exact .inside (hwithin within) ih

/-- The innermost level may be replaced by one that is open in the same way. -/
theorem replace {l' : Level} (h : Enclosed low high base opened (l :: around))
    (hflags : l'.flags = l.flags) (hwithin : l'.Within low high) :
    Enclosed low high base opened (l' :: around) := by
  cases h with
  | ground flags within => exact .ground (hflags.trans flags) hwithin
  | inside within enclosed =>
    rw [← hflags]
    exact .inside hwithin enclosed

end Enclosed

/-- The state of the machine inside a text that stands above a base. -/
structure State.Encloses (low : Nat) (base : List Level) (opened : List Flags) (st : State) :
    Prop where
  low_le : low ≤ st.groups.count
  levels : Enclosed low st.groups.count base opened (st.level :: st.outer)

theorem State.Encloses.outer_ne_nil {low : Nat} {base : List Level} {opened : List Flags}
    {st : State} (h : st.Encloses low base opened) (hbase : base ≠ []) : st.outer ≠ [] := by
  intro heq
  have hlevels := h.levels
  rw [heq] at hlevels
  cases hlevels with
  | ground => exact hbase rfl
  | inside within enclosed => cases enclosed

/-- A lexeme that closes no group but those opened in a text leaves the base alone. -/
theorem Stepped.encloses {st st' : State} {lexeme : Lexeme} (h : Stepped st lexeme st')
    {low : Nat} {base : List Level} {opened opened' : List Flags}
    (hst : st.Encloses low base opened) (hnest : lexeme.nest opened = some opened')
    (hbase : base ≠ [] ∨ ∀ on, lexeme ≠ .globalFlags on) :
    st'.Encloses low base opened' ∧ st.groups.Grows st'.groups := by
  obtain ⟨hlow, hlevels⟩ := id hst
  cases h with
  | kept nest flags opening groups =>
    obtain rfl := Option.some.inj ((nest opened).symm.trans hnest)
    have hwithin := hlevels.within
    refine ⟨⟨hlow, hlevels.replace flags ⟨fun i hi => hwithin.groups i (groups i hi), ?_⟩⟩,
      .refl _⟩
    intro i hi
    exact hwithin.opening i (opening ▸ hi)
  | flagged on flags outer =>
    exact absurd outer (hst.outer_ne_nil (hbase.resolve_right fun h => h on rfl))
  | @opened _ opening position flags groups _ _ nest opens =>
    obtain rfl := Option.some.inj ((nest opened hlevels.innermost_eq).symm.trans hnest)
    have hgrows := opens.grows
    have hwithin : Level.Within low groups.count ⟨opening, position, flags, [], []⟩ := by
      refine ⟨fun i hi => absurd hi (by simp [Level.groups]), fun i hi => ?_⟩
      cases opens with
      | capture name =>
        obtain rfl := Opening.capture.inj hi
        exact ⟨Nat.lt_succ_of_le hlow, Nat.le_refl _⟩
      | other h => exact absurd hi (h i)
    exact ⟨⟨Nat.le_trans hlow hgrows.count, .inside hwithin (hlevels.mono hgrows.count)⟩, hgrows⟩
  | closed around groups =>
    cases hlevels with
    | ground => exact absurd hnest (by simp [Lexeme.nest])
    | inside within enclosed =>
      -- The level becomes an item of the one around it, which has the groups of both.
      obtain rfl := Option.some.inj hnest
      rw [around] at enclosed
      have hnext := enclosed.within
      refine ⟨⟨hlow, enclosed.replace rfl ⟨fun i hi => ?_, hnext.opening⟩⟩,
        (Groups.Grows.refl _).widths _⟩
      simp only [Level.groups, Level.add, List.flatMap_cons, List.mem_append, Item.node] at hi
      rcases hi with hi | hi | hi
      · exact hnext.groups i (List.mem_append_left _ hi)
      · exact (groups i hi).elim (within.groups i) (within.opening i)
      · exact hnext.groups i (List.mem_append_right _ hi)

/-! ### The machine on lexemes -/

namespace State

/-- The effect of lexemes that follow one another from a place on. -/
def steps : (position : Nat) → List (Lexeme × Nat) → State → Except PatternFailure State
  | _, [], st => .ok st
  | position, (lexeme, used) :: rest, st =>
    match st.step position (position + 1 + used) lexeme with
    | .error failure => .error failure
    | .ok st => steps (position + 1 + used) rest st

/-- Flags for the whole pattern are among some lexemes. -/
def SetsFlags (lexemes : List (Lexeme × Nat)) : Prop :=
  ∃ on used, (Lexeme.globalFlags on, used) ∈ lexemes

theorem SetsFlags.cons {first : Lexeme × Nat} {rest : List (Lexeme × Nat)} (h : SetsFlags rest) :
    SetsFlags (first :: rest) := by
  obtain ⟨on, used, hmem⟩ := h
  exact ⟨on, used, List.mem_cons_of_mem _ hmem⟩

variable {low : Nat} {base : List Level}

/-- **The effect of a confined text is confined to the level it stands in.** -/
theorem steps_encloses {lexemes : List (Lexeme × Nat)} {position : Nat} {st st' : State}
    {opened : List Flags} (h : steps position lexemes st = .ok st')
    (hnested : Nested opened lexemes) (hst : st.Encloses low base opened)
    (hbase : base ≠ [] ∨ ¬SetsFlags lexemes) :
    st'.Encloses low base [] ∧ st.groups.Grows st'.groups := by
  induction lexemes generalizing position st opened with
  | nil =>
    obtain rfl := Except.ok.inj h
    obtain rfl : opened = [] := hnested
    exact ⟨hst, .refl _⟩
  | cons first rest ih =>
    obtain ⟨lexeme, used⟩ := first
    obtain ⟨opened', hnest, hrest⟩ := hnested
    rw [steps] at h
    split at h
    · exact absurd h (by simp)
    · next st₁ hstep =>
      obtain ⟨hst₁, hgrows⟩ := (step_cases hstep).encloses hst hnest
        (hbase.imp_right fun hset on heq => hset ⟨on, used, heq ▸ List.mem_cons_self⟩)
      obtain ⟨hst', hgrows'⟩ := ih h hrest hst₁
        (hbase.imp_right fun hset hrest => hset hrest.cons)
      exact ⟨hst', hgrows.trans hgrows'⟩

/-- Above a base no flags are set for the whole pattern. -/
theorem not_setsFlags {lexemes : List (Lexeme × Nat)} {position : Nat} {st st' : State}
    {opened : List Flags} (h : steps position lexemes st = .ok st')
    (hnested : Nested opened lexemes) (hst : st.Encloses low base opened)
    (hbase : base ≠ []) : ¬SetsFlags lexemes := by
  induction lexemes generalizing position st opened with
  | nil =>
    rintro ⟨on, used, hmem⟩
    exact absurd hmem List.not_mem_nil
  | cons first rest ih =>
    obtain ⟨lexeme, used⟩ := first
    obtain ⟨opened', hnest, hrest⟩ := hnested
    rw [steps] at h
    split at h
    · exact absurd h (by simp)
    · next st₁ hstep =>
      obtain ⟨hst₁, -⟩ := (step_cases hstep).encloses hst hnest (Or.inl hbase)
      rintro ⟨on, used', hmem⟩
      rcases List.mem_cons.mp hmem with heq | hmem
      · obtain ⟨rfl, rfl⟩ := Prod.mk.inj heq
        exact hst.outer_ne_nil hbase (outer_eq_nil hstep)
      · exact ih h hrest hst₁ ⟨on, used', hmem⟩

/-- A text that a lexeme reaches to the end of leaves no group open. -/
theorem opened_eq_nil {text : List Char} {opened : List Flags} {lexemes : List (Lexeme × Nat)}
    (h : lexemesFrom opened text text.length = some lexemes) : opened = [] := by
  induction text with
  | nil =>
    cases opened with
    | nil => rfl
    | cons flags opened => exact absurd h (by simp [lexemesFrom])
  | cons c rest ih =>
    rw [List.length_cons, lexemesFrom] at h
    exact ih h

/-- A comment that a line feed ends does not reach to the end of a confined text, since
only flags of a group that is open bring such comments. -/
theorem used_lt_length {c : Char} {rest : List Char} {opened opened' : List Flags}
    {lexeme : Lexeme} {used : Nat} {lexemes : List (Lexeme × Nat)}
    (hread : Lexeme.read (innermost opened) 0 c rest = .ok (lexeme, used))
    (hnest : lexeme.nest opened = some opened')
    (h : lexemesFrom opened' rest used = some lexemes)
    (hverbose : (innermost opened).verbose = true) (hc : c = '#') : used < rest.length := by
  refine Nat.lt_of_le_of_ne (settles_read hread).1 fun hused => ?_
  subst hc hused
  have hlexeme : lexeme = .ignored := by
    have hblank : isIgnorable '#' = false := by decide
    simp only [Lexeme.read, hverbose, hblank, Bool.and_false, Bool.false_eq_true, if_false,
      decide_true, Bool.and_true, if_true, Except.ok.injEq, Prod.mk.injEq] at hread
    exact hread.1.symm
  subst hlexeme
  obtain rfl := Option.some.inj hnest
  rw [opened_eq_nil h] at hverbose
  exact absurd hverbose (by decide)

/-- **A confined text is read as its own lexemes**, whatever it stands in, if nothing
behind it lets a lexeme go on. -/
theorem scan_lexemes {text tail : List Char} {skip position : Nat} {st : State}
    {opened : List Flags} {lexemes : List (Lexeme × Nat)} (htail : Closing tail)
    (h : lexemesFrom opened text skip = some lexemes) (hskip : skip ≤ text.length)
    (hst : st.Encloses low base opened) (hbase : base ≠ [] ∨ ¬SetsFlags lexemes) :
    st.scan position (text ++ tail) skip
      = (st.steps (position + skip) lexemes).bind fun st' =>
          st'.scan (position + text.length) tail 0 := by
  -- Each step keeps the state enclosed, so that the flags in force are those of `opened`.
  induction text generalizing skip position st opened lexemes with
  | nil =>
    obtain rfl := Nat.le_zero.mp hskip
    cases opened with
    | nil =>
      obtain rfl := Option.some.inj h
      rfl
    | cons flags opened => exact absurd h (by simp [lexemesFrom])
  | cons c rest ih =>
    have hlength : position + (c :: rest).length = position + 1 + rest.length := by
      rw [List.length_cons]
      omega
    cases skip with
    | succ skip =>
      rw [lexemesFrom] at h
      have hposition : position + (skip + 1) = position + 1 + skip := by omega
      rw [List.cons_append, scan, ih h (Nat.le_of_succ_le_succ hskip) hst hbase, hlength,
        hposition]
    | zero =>
      rw [lexemesFrom] at h
      split at h
      · exact absurd h (by simp)
      · next lexeme used hread =>
        split at h
        · exact absurd h (by simp)
        · next opened' hnest =>
          obtain ⟨more, hmore, rfl⟩ := Option.map_eq_some_iff.mp h
          -- What follows the text does not change the lexeme that begins here.
          obtain ⟨hused, hsame⟩ := settles_read hread
          have hread' := hsame (used_lt_length hread hnest hmore) position tail htail.inert
          rw [hst.levels.innermost_eq] at hread'
          rw [List.cons_append, scan, hread', hlength, Nat.add_zero, steps]
          simp only []
          cases hstep : st.step position (position + 1 + used) lexeme with
          | error failure => rfl
          | ok st₁ =>
            obtain ⟨hst₁, -⟩ := (step_cases hstep).encloses hst hnest
              (hbase.imp_right fun hset on heq => hset ⟨on, used, heq ▸ List.mem_cons_self⟩)
            exact ih hmore hused hst₁ (hbase.imp_right fun hset hmore' => hset hmore'.cons)

end State

end RouteMatch.Pattern
