import Mathlib.Data.List.Forall2
import RouteMatch.Proofs.Pattern.Confined
import RouteMatch.Proofs.Pattern.Sketch

/-!
# A confined text on its own

The machine reads a confined text inside a group step by step as it reads it on its own:
the levels above the group mirror those of the other run, with the same flags, the same
kinds of items and the same widths.  Only the numbers of groups differ, and the names
that earlier groups have taken.  So a confined text that refers to no group is a pattern
in its own right if it is accepted inside a group.

## Main definitions

* `SameWidth`, `SameContent`, `Mirrored` — what the two runs have in common.
* `Lexeme.refers` — whether a lexeme refers to a group.

## Main results

* `State.mirror_step`, `State.mirror_steps` — one run follows the other.
* `exists_parse_of_scan` — **what is accepted inside a group is accepted alone.**
-/

namespace RouteMatch.Pattern

/-! ### Levels that look the same -/

/-- Two trees match texts of the same lengths, whatever groups they refer to. -/
def SameWidth (r r' : Regex) : Prop :=
  ∀ groups groups', r.width groups = r'.width groups'

/-- Two items of one kind. -/
inductive SameItem : Item → Item → Prop
  | anchor (a : Anchor) : SameItem (.anchor a) (.anchor a)
  | repeated {r r' : Regex} (h : SameWidth r r') : SameItem (.repeated r) (.repeated r')
  | single {r r' : Regex} (h : SameWidth r r') : SameItem (.single r) (.single r')

theorem SameItem.node {item item' : Item} (h : SameItem item item') :
    SameWidth item.node item'.node := by
  cases h with
  | anchor a => exact fun _ _ => rfl
  | repeated h => exact h
  | single h => exact h

theorem SameWidth.repeated {r r' : Regex} (h : SameWidth r r') (mode : Mode) (least : Nat)
    (most : Option Nat) :
    SameWidth (.repeated mode least most r) (.repeated mode least most r') := by
  have hwidth : ∀ (r : Regex) groups, (Regex.repeated mode least most r).width groups
      = ((r.width groups).times least most).bounded := by
    intro r groups
    cases r <;> rfl
  intro groups groups'
  rw [hwidth, hwidth, h groups groups']

/-- Trees that are made of others of the same widths. -/
theorem SameWidth.foldl {α : Type} {same : α → α → Prop} {f : Regex → α → Regex}
    (hf : ∀ {r r' a a'}, SameWidth r r' → same a a' → SameWidth (f r a) (f r' a'))
    {l l' : List α} (hl : List.Forall₂ same l l') {r r' : Regex} (hr : SameWidth r r') :
    SameWidth (l.foldl f r) (l'.foldl f r') := by
  induction hl generalizing r r' with
  | nil => exact hr
  | cons ha _ ih => exact ih (hf hr ha)

/-- What has been read of two levels is of one kind. -/
structure SameContent (l l' : Level) : Prop where
  flags : l.flags = l'.flags
  branches : List.Forall₂ SameWidth l.branches l'.branches
  items : List.Forall₂ SameItem l.items l'.items

namespace SameContent

variable {l l' : Level}

theorem branch (h : SameContent l l') : SameWidth l.branch l'.branch := by
  refine SameWidth.foldl (fun hr hitem => ?_) h.items fun _ _ => rfl
  intro groups groups'
  simp only [Regex.width, hitem.node groups groups', hr groups groups']

theorem body (h : SameContent l l') : SameWidth l.body l'.body := by
  refine SameWidth.foldl (fun hr hbranch => ?_) h.branches h.branch
  intro groups groups'
  simp only [Regex.width, hbranch groups groups', hr groups groups']

theorem add (h : SameContent l l') {item item' : Item} (hitem : SameItem item item') :
    SameContent (l.add item) (l'.add item') :=
  ⟨h.flags, h.branches, .cons hitem h.items⟩

end SameContent

/-- Two levels of one kind, of which neither is a conditional group. -/
inductive SameOpening : Opening → Opening → Prop
  | capture (index index' : Nat) : SameOpening (.capture index) (.capture index')
  | scope : SameOpening .scope .scope
  | atomic : SameOpening .atomic .atomic
  | look (behind positive : Bool) (limit limit' : Option Nat) :
    SameOpening (.look behind positive limit) (.look behind positive limit')

/-- The levels of a run on a text alone and of a run on the same text above a base. -/
inductive Mirrored (base : List Level) : List Flags → List Level → List Level → Prop
  | ground {l l' : Level} (content : SameContent l l') (opening : l.opening = .whole) :
    Mirrored base [] [l] (l' :: base)
  | inside {l l' : Level} {flags : Flags} {opened : List Flags} {around around' : List Level}
    (content : SameContent l l') (opening : SameOpening l.opening l'.opening)
    (mirrored : Mirrored base opened around around') :
    Mirrored base (flags :: opened) (l :: around) (l' :: around')

namespace Mirrored

variable {base around around' : List Level} {opened : List Flags} {l l' : Level}

theorem content (h : Mirrored base opened (l :: around) (l' :: around')) : SameContent l l' := by
  cases h with
  | ground content => exact content
  | inside content => exact content

/-- The innermost levels may be replaced by others of one kind. -/
theorem replace {m m' : Level} (h : Mirrored base opened (l :: around) (l' :: around'))
    (hcontent : SameContent m m') (hopening : m.opening = l.opening)
    (hopening' : m'.opening = l'.opening) : Mirrored base opened (m :: around) (m' :: around') := by
  cases h with
  | ground _ opening => exact .ground hcontent (hopening.trans opening)
  | inside _ opening mirrored =>
    refine .inside hcontent ?_ mirrored
    rwa [hopening, hopening']

theorem not_conditional (h : Mirrored base opened (l :: around) (l' :: around')) (index : Nat) :
    l.opening ≠ .conditional index := by
  intro heq
  cases h with
  | ground _ opening => exact absurd (opening.symm.trans heq) (by simp)
  | inside _ opening =>
    rw [heq] at opening
    cases opening

theorem around_ne_nil (h : Mirrored base opened (l :: around) (l' :: around')) (hbase : base ≠ []) :
    around' ≠ [] := by
  rintro rfl
  cases h with
  | ground => exact hbase rfl
  | inside _ _ mirrored => cases mirrored

theorem around_eq_nil (h : Mirrored base [] (l :: around) (l' :: around')) : around = [] := by
  cases h with
  | ground => rfl

/-- Inside an open group there are levels around the innermost ones. -/
theorem exists_around {flags : Flags}
    (h : Mirrored base (flags :: opened) (l :: around) (l' :: around')) :
    SameOpening l.opening l'.opening ∧
      ∃ next outer next' outer', around = next :: outer ∧ around' = next' :: outer' ∧
        Mirrored base opened (next :: outer) (next' :: outer') := by
  cases h with
  | inside _ opening mirrored =>
    refine ⟨opening, ?_⟩
    cases mirrored with
    | ground content whole => exact ⟨_, _, _, _, rfl, rfl, .ground content whole⟩
    | inside content same mirrored => exact ⟨_, _, _, _, rfl, rfl, .inside content same mirrored⟩

end Mirrored

/-! ### References -/

/-- Whether a lexeme refers to a group. -/
def Lexeme.refers : Lexeme → Bool
  | .backref _ | .namedBackref _ | .conditional _ => true
  | _ => false

/-- A text that refers to no group. -/
def RefersToNone (text : List Char) : Prop :=
  ∀ lexemes ∈ lexemes? text, ∀ entry ∈ lexemes, entry.1.refers = false

instance (text : List Char) : Decidable (RefersToNone text) :=
  inferInstanceAs (Decidable (∀ lexemes ∈ lexemes? text, ∀ entry ∈ lexemes, entry.1.refers = false))

/-! ### Two runs -/

/-- A state of a run on a text alone, and one of a run above a base. -/
structure Mirrors (base : List Level) (opened : List Flags) (st st' : State) : Prop where
  levels : Mirrored base opened (st.level :: st.outer) (st'.level :: st'.outer)
  names : ∀ n ∈ st.groups.names.map Prod.fst, n ∈ st'.groups.names.map Prod.fst
  awaited : st.awaited = []
  fixed : st'.fixedLookbehinds = true → st.fixedLookbehinds = true

namespace Mirrors

variable {base : List Level} {opened : List Flags} {st st' : State}

theorem content (h : Mirrors base opened st st') : SameContent st.level st'.level :=
  h.levels.content

/-- The innermost levels of both runs change. -/
theorem replace (h : Mirrors base opened st st') {l l' : Level} (hcontent : SameContent l l')
    (hopening : l.opening = st.level.opening) (hopening' : l'.opening = st'.level.opening) :
    Mirrors base opened { st with level := l } { st' with level := l' } :=
  ⟨h.levels.replace hcontent hopening hopening', h.names, h.awaited, h.fixed⟩

theorem add (h : Mirrors base opened st st') {item item' : Item} (hitem : SameItem item item') :
    Mirrors base opened (st.add item) (st'.add item') :=
  h.replace (h.content.add hitem) rfl rfl

/-- A level is added in both runs. -/
theorem push (h : Mirrors base opened st st') {opening opening' : Opening}
    (hopening : SameOpening opening opening') (position position' : Nat) {flags flags' : Flags}
    (hflags : flags = flags') (inside : Flags) (groups groups' : Groups)
    (hnames : ∀ n ∈ groups.names.map Prod.fst, n ∈ groups'.names.map Prod.fst)
    (limit limit' : Option Nat) :
    Mirrors base (inside :: opened)
      ({ st with groups := groups, limit := limit }.push opening position flags)
      ({ st' with groups := groups', limit := limit' }.push opening' position' flags') :=
  ⟨.inside ⟨hflags, .nil, .nil⟩ hopening h.levels, hnames, h.awaited, h.fixed⟩

end Mirrors

namespace State

variable {base : List Level} {opened opened' : List Flags} {st st' st₁' : State}
  {position position' : Nat}

theorem mirror_repeatLast (h : Mirrors base opened st st') {mode : Mode} {least : Nat}
    {most : Option Nat} (hstep : st'.repeatLast position' mode least most = .ok st₁') :
    ∃ st₁, st.repeatLast position mode least most = .ok st₁ ∧ Mirrors base opened st₁ st₁' := by
  have hitems := h.content.items
  unfold repeatLast at hstep
  split at hstep
  · next node' rest' heq' =>
    rw [heq'] at hitems
    obtain rfl := Except.ok.inj hstep
    cases hst : st.level.items with
    | nil => exact absurd (hst ▸ hitems) (by simp)
    | cons item rest =>
      rw [hst] at hitems
      cases hitems with
      | cons hitem hrest =>
        cases hitem with
        | @single r r' hnode =>
          let item := Item.repeated (.repeated mode least most r)
          refine ⟨{ st with level := { st.level with items := item :: rest } },
            by rw [repeatLast, hst], h.replace ⟨h.content.flags, h.content.branches, ?_⟩ rfl rfl⟩
          exact .cons (.repeated (hnode.repeated mode least most)) hrest
  · exact absurd hstep (by simp)
  · exact absurd hstep (by simp)
  · exact absurd hstep (by simp)

theorem mirror_openCapture (h : Mirrors base opened st st') {name : Option (List Char)}
    (hstep : st'.openCapture position' name = .ok st₁') (inside : Flags) :
    ∃ st₁, st.openCapture position name = .ok st₁ ∧ Mirrors base (inside :: opened) st₁ st₁' := by
  unfold openCapture at hstep
  simp only [] at hstep
  split at hstep
  · obtain rfl := Except.ok.inj hstep
    exact ⟨_, rfl, h.push (.capture _ _) position position' h.content.flags inside
      (st.groups.openNext none) (st'.groups.openNext none) h.names st.limit st'.limit⟩
  · next n =>
    split at hstep
    · exact absurd hstep (by simp)
    · next hlookup' =>
      obtain rfl := Except.ok.inj hstep
      -- The run on the text alone has met no more names.
      have hlookup : st.groups.names.lookup n = none :=
        lookup_eq_none_iff.mpr (mt (h.names n) (lookup_eq_none_iff.mp hlookup'))
      refine ⟨_, by simp only [openCapture, hlookup]; rfl,
        h.push (.capture _ _) _ _ h.content.flags inside _ _ (fun m hm => ?_) _ _⟩
      simp only [Groups.openNext, List.map_append, List.mem_append] at hm ⊢
      exact hm.imp_left (h.names m)

theorem mirror_endBranch (h : Mirrors base opened st st')
    (hstep : st'.endBranch position' = .ok st₁') :
    ∃ st₁, st.endBranch position = .ok st₁ ∧ Mirrors base opened st₁ st₁' := by
  unfold endBranch at hstep
  split at hstep
  · exact absurd hstep (by simp)
  · obtain rfl := Except.ok.inj hstep
    let level := { st.level with branches := st.level.branch :: st.level.branches, items := [] }
    refine ⟨{ st with level := level }, ?_, h.replace ⟨h.content.flags,
      .cons h.content.branch h.content.branches, .nil⟩ rfl rfl⟩
    unfold endBranch
    split
    · next index _ _ heq _ => exact absurd heq (h.levels.not_conditional index)
    · rfl

theorem mirror_closeLevel {inside : Flags} (h : Mirrors base (inside :: opened) st st')
    (hstep : st'.closeLevel position' = .ok st₁') :
    ∃ st₁, st.closeLevel position = .ok st₁ ∧ Mirrors base opened st₁ st₁' := by
  obtain ⟨hlevels, hnames, hawaited, hfixed⟩ := h
  have hbody := hlevels.content.body
  obtain ⟨opening, next, outer, next', outer', hout, hout', mirrored⟩ := hlevels.exists_around
  have hadd : ∀ {r r' : Regex}, SameWidth r r' →
      Mirrored base opened (next.add (.single r) :: outer) (next'.add (.single r') :: outer') :=
    fun hr => mirrored.replace (mirrored.content.add (.single hr)) rfl rfl
  unfold closeLevel at hstep ⊢
  simp only [hout, hout'] at hstep ⊢
  generalize st.level.opening = o at opening ⊢
  generalize st'.level.opening = o' at opening hstep
  cases opening with
  | capture index index' =>
    obtain rfl := Except.ok.inj hstep
    exact ⟨_, rfl, hadd hbody, hnames, hawaited, hfixed⟩
  | scope =>
    obtain rfl := Except.ok.inj hstep
    exact ⟨_, rfl, hadd hbody, hnames, hawaited, hfixed⟩
  | atomic =>
    obtain rfl := Except.ok.inj hstep
    exact ⟨_, rfl, hadd hbody, hnames, hawaited, hfixed⟩
  | look behind positive limit limit' =>
    obtain rfl := Except.ok.inj hstep
    refine ⟨_, rfl, hadd fun _ _ => rfl, hnames, hawaited, fun h => ?_⟩
    simp only [State.add, Bool.and_eq_true] at h ⊢
    rw [hbody st.groups.widths st'.groups.widths]
    exact ⟨hfixed h.1, h.2⟩

/-- The run on a text alone follows the run above a base. -/
theorem mirror_step {lexeme : Lexeme} {stop' : Nat} (h : Mirrors base opened st st')
    (hbase : base ≠ []) (position stop : Nat) (hnest : lexeme.nest opened = some opened')
    (hrefers : lexeme.refers = false) (hstep : st'.step position' stop' lexeme = .ok st₁') :
    ∃ st₁, st.step position stop lexeme = .ok st₁ ∧ Mirrors base opened' st₁ st₁' := by
  have hflags := h.content.flags
  cases lexeme with
  | ignored =>
    obtain rfl := Option.some.inj hnest
    obtain rfl := Except.ok.inj hstep
    exact ⟨st, rfl, h⟩
  | test test =>
    obtain rfl := Option.some.inj hnest
    obtain rfl := Except.ok.inj hstep
    exact ⟨_, rfl, h.add (.single fun _ _ => rfl)⟩
  | anchor a =>
    obtain rfl := Option.some.inj hnest
    obtain rfl := Except.ok.inj hstep
    exact ⟨_, rfl, h.add (.anchor a)⟩
  | backref index => exact absurd hrefers (by simp [Lexeme.refers])
  | namedBackref name => exact absurd hrefers (by simp [Lexeme.refers])
  | conditional reference => exact absurd hrefers (by simp [Lexeme.refers])
  | quantifier mode least most =>
    obtain rfl := Option.some.inj hnest
    exact mirror_repeatLast h hstep
  | capture name =>
    obtain rfl := Option.some.inj hnest
    exact mirror_openCapture h hstep _
  | scope on off =>
    obtain rfl := Option.some.inj hnest
    obtain rfl := Except.ok.inj hstep
    exact ⟨_, rfl, h.push .scope _ _ (by rw [hflags]) _ _ _ h.names _ _⟩
  | atomic =>
    obtain rfl := Option.some.inj hnest
    obtain rfl := Except.ok.inj hstep
    exact ⟨_, rfl, h.push .atomic _ _ hflags _ _ _ h.names _ _⟩
  | look behind positive =>
    obtain rfl := Option.some.inj hnest
    obtain rfl := Except.ok.inj hstep
    exact ⟨_, rfl, h.push (.look _ _ _ _) _ _ hflags _ _ _ h.names _ _⟩
  | globalFlags on =>
    -- Above a base no flags can be set for the whole pattern.
    have houter := h.levels.around_ne_nil hbase
    simp only [step, setGlobalFlags, List.isEmpty_eq_false_iff.mpr houter, Bool.false_and,
      Bool.false_eq_true, if_false] at hstep
    exact absurd hstep (by simp)
  | bar =>
    obtain rfl := Option.some.inj hnest
    exact mirror_endBranch h hstep
  | close =>
    cases opened with
    | nil => exact absurd hnest (by simp [Lexeme.nest])
    | cons inside opened =>
      obtain rfl := Option.some.inj hnest
      exact mirror_closeLevel h hstep

theorem mirror_steps {lexemes : List (Lexeme × Nat)} (h : Mirrors base opened st st')
    (hbase : base ≠ []) (position : Nat) (hnested : Nested opened lexemes)
    (hrefers : ∀ entry ∈ lexemes, entry.1.refers = false)
    (hsteps : steps position' lexemes st' = .ok st₁') :
    ∃ st₁, steps position lexemes st = .ok st₁ ∧ Mirrors base [] st₁ st₁' := by
  induction lexemes generalizing position position' st st' opened with
  | nil =>
    obtain rfl := Except.ok.inj hsteps
    obtain rfl : opened = [] := hnested
    exact ⟨st, rfl, h⟩
  | cons first rest ih =>
    obtain ⟨lexeme, used⟩ := first
    obtain ⟨opened', hnest, hrest⟩ := hnested
    rw [steps] at hsteps
    split at hsteps
    · exact absurd hsteps (by simp)
    · next st₂' hstep =>
      obtain ⟨st₂, hstep₂, h₂⟩ := mirror_step h hbase position (position + 1 + used)
        hnest (hrefers _ List.mem_cons_self) hstep
      obtain ⟨st₁, hsteps₁, h₁⟩ := ih h₂ (position + 1 + used) hrest
        (fun entry hentry => hrefers entry (List.mem_cons_of_mem _ hentry)) hsteps
      exact ⟨st₁, by rw [steps, hstep₂]; exact hsteps₁, h₁⟩

end State

/-! ### Texts on their own -/

/-- The state at the beginning of a text that stands in a group. -/
theorem State.encloses_inside (st : State) (name : Option (List Char)) (position : Nat) :
    (st.inside position (st.groups.count + 1) [] (st.groups.openNext name)).Encloses
      st.groups.count (st.level :: st.outer) [] := by
  refine ⟨Nat.le_succ _, .ground rfl ⟨fun i hi => absurd hi (by simp [Level.groups, inside]), ?_⟩⟩
  intro i hi
  obtain rfl := Opening.capture.inj hi
  exact ⟨Nat.lt_succ_self _, Nat.le_refl _⟩

theorem State.encloses_initial : State.initial.Encloses 0 [] [] :=
  ⟨Nat.zero_le _, .ground rfl ⟨fun i hi => absurd hi (by simp [Level.groups, initial]),
    fun i hi => absurd hi (by simp [initial])⟩⟩

/-- **A text that is accepted inside a group is accepted alone**, if it is confined and
refers to no group. -/
theorem exists_parse_of_scan {text rest : List Char} (hconfined : Confined text)
    (hrefers : RefersToNone text) {st final : State} {name : Option (List Char)}
    {start position : Nat}
    (h : (st.inside start (st.groups.count + 1) [] (st.groups.openNext name)).scan position
      (text ++ ')' :: rest) 0 = .ok final)
    (hfinal : final.fixedLookbehinds = true) : ∃ parsed, parse text = .ok parsed := by
  obtain ⟨lexemes, hlexemes⟩ := Option.isSome_iff_exists.mp hconfined
  have hnested := nested_of_lexemesFrom hlexemes
  have hbase : st.level :: st.outer ≠ [] := List.cons_ne_nil _ _
  have hinside := st.encloses_inside name start
  -- In the group the text is read as its own lexemes.
  rw [State.scan_lexemes (closing_cons rest) hlexemes (Nat.zero_le _) hinside (Or.inl hbase)] at h
  obtain ⟨last, hsteps, hscan⟩ := bind_eq_ok h
  have hfixed : last.fixedLookbehinds = true := State.scan_fixedLookbehinds hscan hfinal
  have hmirrors : Mirrors (st.level :: st.outer) [] State.initial
      (st.inside start (st.groups.count + 1) [] (st.groups.openNext name)) :=
    ⟨.ground ⟨rfl, .nil, .nil⟩ rfl, fun n hn => absurd hn (by simp [State.initial, Groups.none]),
      rfl, fun _ => rfl⟩
  obtain ⟨alone, halone, hlast⟩ := State.mirror_steps hmirrors hbase 0 hnested
    (hrefers lexemes hlexemes) hsteps
  have hflags := State.not_setsFlags hsteps hnested hinside hbase
  have hparse : State.initial.scan 0 (text ++ []) 0 = .ok alone := by
    rw [State.scan_lexemes closing_nil hlexemes (Nat.zero_le _) State.encloses_initial
      (Or.inr hflags), halone]
    rfl
  have houter : alone.outer = [] := hlast.levels.around_eq_nil
  rw [List.append_nil] at hparse
  refine ⟨⟨alone.level.body, alone.groups.count, alone.groups.names⟩, ?_⟩
  rw [parse, hparse]
  simp [State.finish, houter, hlast.awaited, hlast.fixed hfixed]

end RouteMatch.Pattern
