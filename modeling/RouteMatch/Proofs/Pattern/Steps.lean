import RouteMatch.Pattern.Parser

/-!
# What a lexeme does to the machine

A lexeme leaves the levels around the innermost one alone, unless it opens a group,
which adds a level, or closes one, which makes a level an item of the next.  `Stepped`
lists these cases with what is true of each, so that an invariant of the machine is
proved by going through them and not by opening the definition of a step.

## Main definitions

* `Regex.groups`, `Level.groups` — the capturing groups in a tree and in a level.
* `Lexeme.nest` — the open groups after a lexeme, by the flags in them.
* `Stepped` — the effect of a lexeme.

## Main results

* `State.step_cases` — a step has one of these effects.
* `State.scan_fixedLookbehinds` — a look-behind of several lengths is not forgotten.
-/

namespace RouteMatch.Pattern

/-! ### The groups in a tree -/

/-- The numbers of the capturing groups in a tree. -/
def Regex.groups : Regex → List Nat
  | .empty | .fail | .char .. | .anchor _ | .chars .. | .backref .. => []
  | .seq a b | .alt a b | .cond _ a b => a.groups ++ b.groups
  | .rep _ _ _ body | .atomic body | .look _ _ body => body.groups
  | .group index body => index :: body.groups

@[simp] theorem Regex.groups_repeated (mode : Mode) (least : Nat) (most : Option Nat) (r : Regex) :
    (Regex.repeated mode least most r).groups = r.groups := by
  cases r <;> rfl

/-- The numbers of the capturing groups in what has been read of a level. -/
def Level.groups (l : Level) : List Nat :=
  l.branches.flatMap Regex.groups ++ l.items.flatMap fun item => item.node.groups

/-- The groups of a tree that is made of several others. -/
theorem mem_groups_foldl {α : Type} {f : Regex → α → Regex} {groups : α → List Nat} {i : Nat}
    (hf : ∀ r a, i ∈ (f r a).groups ↔ i ∈ groups a ∨ i ∈ r.groups) (l : List α) (tail : Regex) :
    i ∈ (l.foldl f tail).groups ↔ i ∈ l.flatMap groups ∨ i ∈ tail.groups := by
  induction l generalizing tail with
  | nil => simp
  | cons a l ih =>
    rw [List.foldl_cons, ih, hf, List.flatMap_cons, List.mem_append, or_left_comm, or_assoc]

theorem mem_groups_foldl_seq {i : Nat} {items : List Item} {tail : Regex} :
    i ∈ (items.foldl (fun rest item => Regex.seq item.node rest) tail).groups ↔
      (i ∈ items.flatMap fun item => item.node.groups) ∨ i ∈ tail.groups :=
  mem_groups_foldl (fun _ _ => by rw [Regex.groups, List.mem_append]) items tail

theorem mem_groups_foldl_alt {i : Nat} {branches : List Regex} {tail : Regex} :
    i ∈ (branches.foldl (fun rest b => Regex.alt b rest) tail).groups ↔
      i ∈ branches.flatMap Regex.groups ∨ i ∈ tail.groups :=
  mem_groups_foldl (fun _ _ => by rw [Regex.groups, List.mem_append]) branches tail

theorem Level.mem_groups_branch {i : Nat} {l : Level} :
    i ∈ l.branch.groups ↔ i ∈ l.items.flatMap fun item => item.node.groups := by
  rw [branch, mem_groups_foldl_seq]
  simp [Regex.groups]

theorem Level.mem_groups_body {i : Nat} {l : Level} : i ∈ l.body.groups ↔ i ∈ l.groups := by
  rw [body, mem_groups_foldl_alt, mem_groups_branch, groups, List.mem_append]

/-! ### Open groups -/

/-- The flags in force inside the innermost of several open groups. -/
def innermost (opened : List Flags) : Flags :=
  opened.headD {}

/-- The groups that are open after a lexeme, given by the flags in them, the innermost
one first; none if the lexeme closes a group that is not among those open before. -/
def Lexeme.nest (opened : List Flags) : Lexeme → Option (List Flags)
  | .capture _ | .atomic | .look .. | .conditional _ => some (innermost opened :: opened)
  | .scope on off => some ((innermost opened).change on off :: opened)
  | .close =>
    match opened with
    | [] => none
    | _ :: outer => some outer
  | _ => some opened

/-! ### The cases of a step -/

/-- The groups after a group has been opened that may be a capturing one. -/
inductive Opens (g : Groups) : Opening → Groups → Prop
  /-- A capturing group gets the next number and a new name, if any. -/
  | capture (name : Option (List Char)) (h : ∀ n ∈ name, g.names.lookup n = none) :
    Opens g (.capture (g.count + 1)) (g.openNext name)
  | other {opening : Opening} (h : ∀ index, opening ≠ .capture index) : Opens g opening g

/-- The effect of a lexeme on a state. -/
inductive Stepped (st : State) : Lexeme → State → Prop
  /-- Only what has been read of the innermost level changes. -/
  | kept {lexeme : Lexeme} {level : Level} (nest : ∀ opened, lexeme.nest opened = some opened)
    (flags : level.flags = st.level.flags) (opening : level.opening = st.level.opening)
    (groups : ∀ i ∈ level.groups, i ∈ st.level.groups) :
    Stepped st lexeme { st with level := level }
  /-- The flags for the whole pattern change. -/
  | flagged (on : List Char) (flags : Flags) (outer : st.outer = []) :
    Stepped st (.globalFlags on) { st with level := { st.level with flags := flags } }
  /-- A level is added. -/
  | opened {lexeme : Lexeme} {opening : Opening} {position : Nat} {flags : Flags}
    {groups : Groups} {limit : Option Nat} {awaited : List (Nat × Nat)}
    (nest : ∀ opened, innermost opened = st.level.flags →
      lexeme.nest opened = some (flags :: opened))
    (opens : Opens st.groups opening groups) :
    Stepped st lexeme
      { st with
        level := ⟨opening, position, flags, [], []⟩
        outer := st.level :: st.outer
        groups := groups
        limit := limit
        awaited := awaited }
  /-- The innermost level becomes an item of the next. -/
  | closed {next : Level} {outer : List Level} {node : Regex} {widths : List (Nat × Width)}
    {limit : Option Nat} {fixed : Bool} (around : st.outer = next :: outer)
    (groups : ∀ i ∈ node.groups, i ∈ st.level.groups ∨ st.level.opening = .capture i)
    (fixed_imp : fixed = true → st.fixedLookbehinds = true) :
    Stepped st .close
      { st with
        level := next.add (.single node)
        outer := outer
        groups := { st.groups with widths := widths }
        limit := limit
        fixedLookbehinds := fixed }

namespace State

variable {st st' : State} {position stop : Nat}

theorem stepped_add {lexeme : Lexeme} {item : Item}
    (hnest : ∀ opened, lexeme.nest opened = some opened) (hitem : item.node.groups = []) :
    Stepped st lexeme (st.add item) := by
  refine .kept hnest rfl rfl fun i hi => ?_
  simpa [Level.groups, Level.add, hitem] using hi

theorem stepped_addBackref {lexeme : Lexeme} {index : Nat}
    (hnest : ∀ opened, lexeme.nest opened = some opened)
    (h : st.addBackref position stop index = .ok st') : Stepped st lexeme st' := by
  unfold addBackref at h
  split at h
  · exact absurd h (by simp)
  · cases hlimit : st.checkLimit stop index with
    | error failure => exact absurd h (by simp [hlimit, Except.map])
    | ok u =>
      rw [hlimit] at h
      obtain rfl := Except.ok.inj h
      exact stepped_add hnest rfl

theorem stepped_repeatLast {mode : Mode} {least : Nat} {most : Option Nat}
    (h : st.repeatLast position mode least most = .ok st') :
    Stepped st (.quantifier mode least most) st' := by
  unfold repeatLast at h
  split at h
  · next node rest hitems =>
    obtain rfl := Except.ok.inj h
    refine .kept (fun _ => rfl) rfl rfl fun i hi => ?_
    simpa [Level.groups, Item.node, hitems] using hi
  · exact absurd h (by simp)
  · exact absurd h (by simp)
  · exact absurd h (by simp)

theorem stepped_openCapture {name : Option (List Char)}
    (h : st.openCapture position name = .ok st') : Stepped st (.capture name) st' := by
  have hnest : ∀ opened, innermost opened = st.level.flags →
      (Lexeme.capture name).nest opened = some (st.level.flags :: opened) :=
    fun opened hopened => by rw [Lexeme.nest, hopened]
  unfold openCapture at h
  simp only [] at h
  split at h
  · obtain rfl := Except.ok.inj h
    exact .opened hnest (.capture none fun n hn => absurd hn (by simp))
  · next n =>
    split at h
    · exact absurd h (by simp)
    · next hlookup =>
      obtain rfl := Except.ok.inj h
      exact .opened hnest (.capture (some n) fun m hm => (Option.some.inj hm) ▸ hlookup)

theorem stepped_openConditional {reference : GroupReference}
    (h : st.openConditional position stop reference = .ok st') :
    Stepped st (.conditional reference) st' := by
  have hnest : ∀ opened, innermost opened = st.level.flags →
      (Lexeme.conditional reference).nest opened = some (st.level.flags :: opened) :=
    fun opened hopened => by rw [Lexeme.nest, hopened]
  have hopens : ∀ index, Opens st.groups (.conditional index) st.groups :=
    fun index => .other fun _ => by simp
  unfold openConditional at h
  split at h
  · split at h
    · exact absurd h (by simp)
    · next index hindex =>
      cases hlimit : st.checkLimit stop index with
      | error failure => exact absurd h (by simp [hlimit, Except.map])
      | ok u =>
        rw [hlimit] at h
        obtain rfl := Except.ok.inj h
        exact .opened hnest (hopens index)
  · next index =>
    simp only [] at h
    cases hlimit : checkLimit { st with awaited := (index, position + 3) :: st.awaited } stop
      index with
    | error failure => exact absurd h (by simp [hlimit, Except.map])
    | ok u =>
      rw [hlimit] at h
      obtain rfl := Except.ok.inj h
      exact .opened hnest (hopens index)

theorem stepped_endBranch (h : st.endBranch position = .ok st') : Stepped st .bar st' := by
  unfold endBranch at h
  split at h
  · exact absurd h (by simp)
  · obtain rfl := Except.ok.inj h
    refine .kept (fun _ => rfl) rfl rfl fun i hi => ?_
    simp only [Level.groups, List.flatMap_cons, List.mem_append, Level.mem_groups_branch,
      List.flatMap_nil, List.not_mem_nil, or_false] at hi ⊢
    exact hi.symm

theorem stepped_closeLevel (h : st.closeLevel position = .ok st') : Stepped st .close st' := by
  have hbody : ∀ i ∈ st.level.body.groups, i ∈ st.level.groups ∨ st.level.opening = .capture i :=
    fun i hi => Or.inl (Level.mem_groups_body.mp hi)
  unfold closeLevel at h
  split at h
  · exact absurd h (by simp)
  · next next outer hout =>
    simp only [] at h
    split at h
    · exact absurd h (by simp)
    · next index hopening =>
      obtain rfl := Except.ok.inj h
      refine .closed hout (fun i hi => ?_) id
      rcases List.mem_cons.mp hi with rfl | hi
      · exact Or.inr hopening
      · exact hbody i hi
    · obtain rfl := Except.ok.inj h
      exact .closed hout hbody id
    · obtain rfl := Except.ok.inj h
      exact .closed hout hbody id
    · obtain rfl := Except.ok.inj h
      refine .closed hout (fun i hi => Or.inl ?_) id
      -- Both branches of a conditional group belong to the level.
      rw [Level.groups, List.mem_append]
      split at hi
      · simp only [Regex.groups, List.append_nil, Level.mem_groups_branch] at hi
        exact Or.inr hi
      · next yes others hbranches =>
        simp only [Regex.groups, List.mem_append, Level.mem_groups_branch] at hi
        rw [hbranches, List.flatMap_cons, List.mem_append]
        exact hi.imp_left Or.inl
    · obtain rfl := Except.ok.inj h
      refine .closed hout hbody fun hfixed => ?_
      exact (Bool.and_eq_true_iff.mp hfixed).1

/-- Flags for the whole pattern are set outside of all groups. -/
theorem outer_eq_nil {on : List Char} (h : st.setGlobalFlags position on = .ok st') :
    st.outer = [] := by
  unfold setGlobalFlags at h
  split at h
  · next hfirst =>
    simp only [Bool.and_eq_true, List.isEmpty_iff] at hfirst
    exact hfirst.1.1
  · exact absurd h (by simp)

/-- A step has one of the effects listed. -/
theorem step_cases {lexeme : Lexeme} (h : st.step position stop lexeme = .ok st') :
    Stepped st lexeme st' := by
  cases lexeme with
  | ignored =>
    obtain rfl := Except.ok.inj h
    exact .kept (fun _ => rfl) rfl rfl fun i hi => hi
  | test test =>
    obtain rfl := Except.ok.inj h
    exact stepped_add (fun _ => rfl) rfl
  | anchor a =>
    obtain rfl := Except.ok.inj h
    exact stepped_add (fun _ => rfl) rfl
  | backref index =>
    simp only [step] at h
    split at h
    · exact absurd h (by simp)
    · exact stepped_addBackref (fun _ => rfl) h
  | namedBackref name =>
    simp only [step] at h
    split at h
    · exact absurd h (by simp)
    · exact stepped_addBackref (fun _ => rfl) h
  | quantifier mode least most => exact stepped_repeatLast h
  | capture name => exact stepped_openCapture h
  | scope on off =>
    obtain rfl := Except.ok.inj h
    exact .opened (fun opened hopened => by rw [Lexeme.nest, hopened]) (.other fun _ => by simp)
  | atomic =>
    obtain rfl := Except.ok.inj h
    exact .opened (fun opened hopened => by rw [Lexeme.nest, hopened]) (.other fun _ => by simp)
  | look behind positive =>
    obtain rfl := Except.ok.inj h
    exact .opened (fun opened hopened => by rw [Lexeme.nest, hopened]) (.other fun _ => by simp)
  | conditional reference => exact stepped_openConditional h
  | globalFlags on =>
    have houter := outer_eq_nil h
    simp only [step, setGlobalFlags] at h
    split at h
    · obtain rfl := Except.ok.inj h
      exact .flagged on _ houter
    · exact absurd h (by simp)
  | bar => exact stepped_endBranch h
  | close => exact stepped_closeLevel h

end State

theorem Stepped.fixedLookbehinds {st st' : State} {lexeme : Lexeme} (h : Stepped st lexeme st')
    (hfixed : st'.fixedLookbehinds = true) : st.fixedLookbehinds = true := by
  cases h with
  | kept | flagged | opened => exact hfixed
  | closed around groups fixed_imp => exact fixed_imp hfixed

/-- A look-behind of several lengths is not forgotten. -/
theorem State.scan_fixedLookbehinds {st st' : State} {position skip : Nat} {text : List Char}
    (h : st.scan position text skip = .ok st') (hfixed : st'.fixedLookbehinds = true) :
    st.fixedLookbehinds = true := by
  induction text generalizing position skip st with
  | nil =>
    obtain rfl := Except.ok.inj h
    exact hfixed
  | cons c rest ih =>
    cases skip with
    | succ skip => exact ih h
    | zero =>
      rw [State.scan] at h
      split at h
      · exact absurd h (by simp)
      · split at h
        · exact absurd h (by simp)
        · next hstep => exact (State.step_cases hstep).fixedLookbehinds (ih h)

end RouteMatch.Pattern
