import RouteMatch.Proofs.Pattern.Sketch

/-!
# Matching the patterns of templates

The search for a match of a sketch goes from thread to thread.  What a sketch does
with a thread is told by what comes next: a span may end at any of several places,
an optional group may be entered or not, and the first choice that lets the rest
match is taken.

What a sketch captures concerns its own groups only.  `Fills` says so, and gives
the texts of the named ones in their order; facts about the parts of a pattern are
put together by `Fills.append`.

## Main definitions

* `Cursor.forward`, `Thread.forward` — a place further on, and a thread there.
* `Thread.capture` — a thread with a group that ends there.
* `Sketch.append`, `Sketch.step` — one sketch after another, and the search.
* `Fills` — what a sketch did to a thread.

## Main results

* `Sketch.step_append` — the search of one sketch after another.
* `Sketch.step_span_of_unique` — a span that can end in one place only.
* `Sketch.fullMatch?_anchored` — the match of a whole text.
-/

namespace RouteMatch.Pattern

/-! ### Places further on -/

/-- The place a number of characters further on. -/
def Cursor.forward (n : Nat) (c : Cursor) : Cursor :=
  ⟨(c.after.take n).reverse ++ c.before, c.after.drop n, c.position + n⟩

@[simp] theorem Cursor.after_forward (n : Nat) (c : Cursor) :
    (c.forward n).after = c.after.drop n := rfl

@[simp] theorem Cursor.position_forward (n : Nat) (c : Cursor) :
    (c.forward n).position = c.position + n := rfl

theorem Cursor.forward_forward (m n : Nat) (c : Cursor) :
    (c.forward m).forward n = c.forward (m + n) := by
  simp [forward, List.take_add, Nat.add_assoc]

/-- A thread a number of characters further on. -/
def Thread.forward (n : Nat) (t : Thread) : Thread :=
  { t with cursor := t.cursor.forward n }

@[simp] theorem Thread.cursor_forward (n : Nat) (t : Thread) :
    (t.forward n).cursor = t.cursor.forward n := rfl

@[simp] theorem Thread.captured?_forward (n : Nat) (t : Thread) (index : Nat) :
    (t.forward n).captured? index = t.captured? index := rfl

theorem Thread.forward_forward (m n : Nat) (t : Thread) :
    (t.forward m).forward n = t.forward (m + n) := by
  simp [forward, Cursor.forward_forward]

/-- The places that characters which meet a condition lead to. -/
theorem Cursor.reach_eq (accepts : Char → Bool) (c : Cursor) :
    c.reach accepts none
      = (List.range ((c.after.takeWhile accepts).length + 1)).map fun n => c.forward n := by
  obtain ⟨before, after, position⟩ := c
  rw [reach]
  induction after generalizing before position with
  | nil => simp [reach.go, forward]
  | cons d rest ih =>
    by_cases hd : accepts d = true
    · -- Past the first character the places are those of the rest.
      have hrest := ih (d :: before) (position + 1)
      rw [List.takeWhile_cons_of_pos hd, List.length_cons, List.range_succ_eq_map, List.map_cons,
        List.map_map, reach.go]
      simp only [hd, Bool.true_and, Option.map_none]
      rw [if_pos (by decide), hrest]
      congr 1
      refine List.map_congr_left fun n _ => ?_
      simp only [Function.comp, forward, List.take_succ_cons, List.drop_succ_cons,
        List.reverse_cons, List.append_assoc, List.singleton_append]
      congr 1
      omega
    · rw [List.takeWhile_cons_of_neg hd]
      simp [reach.go, hd, forward]

/-- A search that can succeed at one item only. -/
theorem findSome?_of_unique {α β : Type} {f : α → Option β} {items : List α} {a : α}
    (h : ∀ x ∈ items, x ≠ a → f x = none) (ha : a ∈ items) : items.findSome? f = f a := by
  induction items with
  | nil => exact absurd ha List.not_mem_nil
  | cons x items ih =>
    rw [List.findSome?_cons]
    by_cases hx : x = a
    · subst hx
      cases hfx : f x with
      | some b => rfl
      | none =>
        -- The item may come again, but to no better end.
        refine List.findSome?_eq_none_iff.mpr fun y hy => ?_
        by_cases hy' : y = x
        · rw [hy', hfx]
        · exact h y (List.mem_cons_of_mem _ hy) hy'
    · rw [h x List.mem_cons_self hx]
      exact ih (fun y hy => h y (List.mem_cons_of_mem _ hy))
        ((List.mem_cons.mp ha).resolve_left (Ne.symm hx))

/-! ### Captures -/

namespace Thread

/-- A thread whose group has taken the next characters. -/
def capture (index n : Nat) (t : Thread) : Thread :=
  { t.openGroup index with cursor := t.cursor.forward n }.closeGroup index

@[simp] theorem cursor_openGroup (index : Nat) (t : Thread) :
    (t.openGroup index).cursor = t.cursor := rfl

@[simp] theorem cursor_closeGroup (index : Nat) (t : Thread) :
    (t.closeGroup index).cursor = t.cursor := rfl

@[simp] theorem cursor_capture (index n : Nat) (t : Thread) :
    (t.capture index n).cursor = t.cursor.forward n := rfl

@[simp] theorem captured?_moved (t : Thread) (c : Cursor) (index : Nat) :
    { t with cursor := c }.captured? index = t.captured? index := rfl

theorem captured?_openGroup {index other : Nat} (h : other ≠ index) (t : Thread) :
    (t.openGroup index).captured? other = t.captured? other := by
  have hlookup : ((index, t.cursor) :: t.starts).lookup other = t.starts.lookup other := by
    rw [List.lookup_cons, beq_false_of_ne h]
  simp only [captured?, openGroup, hlookup]

theorem captured?_closeGroup {index other : Nat} (h : other ≠ index) (t : Thread) :
    (t.closeGroup index).captured? other = t.captured? other := by
  have hlookup : ((index, t.cursor) :: t.stops).lookup other = t.stops.lookup other := by
    rw [List.lookup_cons, beq_false_of_ne h]
  simp only [captured?, closeGroup, hlookup]

theorem captured?_capture_self (index n : Nat) (t : Thread) :
    (t.capture index n).captured? index = some (t.cursor.after.take n) := by
  simp [captured?, capture, closeGroup, openGroup]

theorem captured?_capture {index other : Nat} (h : other ≠ index) (n : Nat) (t : Thread) :
    (t.capture index n).captured? other = t.captured? other := by
  rw [capture, captured?_closeGroup h, captured?_moved, captured?_openGroup h]

end Thread

/-! ### The search -/

namespace Sketch

/-- One sketch after another. -/
def append : Sketch → Sketch → Sketch
  | .done, after => after
  | .char c next, after => .char c (next.append after)
  | .span name kind next, after => .span name kind (next.append after)
  | .optional body next, after => .optional body (next.append after)

@[simp] theorem text_append (sk after : Sketch) :
    (sk.append after).text = sk.text ++ after.text := by
  induction sk with
  | done => rfl
  | char c next ih => simp [append, text, ih]
  | span name kind next ih => simp [append, text, ih]
  | optional body next _ ih => simp [append, text, ih]

@[simp] theorem names_append (sk after : Sketch) :
    (sk.append after).names = sk.names ++ after.names := by
  induction sk with
  | done => rfl
  | char c next ih => exact ih
  | span name kind next ih => simp [append, names, ih]
  | optional body next _ ih => simp [append, names, ih]

@[simp] theorem groupCount_append (sk after : Sketch) :
    (sk.append after).groupCount = sk.groupCount + after.groupCount := by
  induction sk with
  | done => simp [append, groupCount]
  | char c next ih => exact ih
  | span name kind next ih => simp only [append, groupCount, ih]; omega
  | optional body next _ ih => simp only [append, groupCount, ih]; omega

theorem named_append (sk after : Sketch) (count : Nat) :
    (sk.append after).named count = sk.named count ++ after.named (count + sk.groupCount) := by
  induction sk generalizing count with
  | done => rfl
  | char c next ih => exact ih count
  | span name kind next ih =>
    have hcount : count + 1 + next.groupCount = count + (next.groupCount + 1) := by omega
    simp [append, named, ih, groupCount, hcount]
  | optional body next _ ih =>
    have hcount : count + 1 + body.groupCount + next.groupCount
        = count + (body.groupCount + next.groupCount + 1) := by omega
    simp [append, named, ih, groupCount, hcount]

theorem isPlain_append {sk after : Sketch} :
    (sk.append after).IsPlain ↔ sk.IsPlain ∧ after.IsPlain := by
  induction sk with
  | done => simp [append, IsPlain]
  | char c next ih => simp [append, IsPlain, ih, and_assoc]
  | span name kind next ih => simp [append, IsPlain, ih, and_assoc]
  | optional body next _ ih => simp [append, IsPlain, ih, and_assoc]

/-- The numbers of the named groups of a sketch are numbers of its groups. -/
theorem mem_named {sk : Sketch} {count : Nat} {entry : List Char × Nat}
    (h : entry ∈ sk.named count) : count < entry.2 ∧ entry.2 ≤ count + sk.groupCount := by
  induction sk generalizing count with
  | done => exact absurd h List.not_mem_nil
  | char c next ih => exact ih h
  | span name kind next ih =>
    rcases List.mem_cons.mp h with rfl | h
    · simp [groupCount]
    · have := ih h
      simp only [groupCount]
      omega
  | optional body next ihb ihn =>
    rcases List.mem_append.mp h with h | h
    · have := ihb h
      simp only [groupCount]
      omega
    · have := ihn h
      simp only [groupCount]
      omega

/-- The search for a match of a sketch, after `count` groups. -/
def step (sk : Sketch) (count : Nat) : Step :=
  run (sk.tree count .empty)

/-- The tail of a tree is matched after the sketch. -/
theorem run_tree (sk : Sketch) (count : Nat) (tail : Regex) (t : Thread) (next : Next) :
    run (sk.tree count tail) t next = sk.step count t fun u => run tail u next := by
  unfold step
  induction sk generalizing count t with
  | done => rfl
  | char c after ih => simp only [tree, run, ih]
  | span name kind after ih => simp only [tree, run, ih]
  | optional body after _ ih => simp only [tree, run, ih]

@[simp] theorem step_done (count : Nat) (t : Thread) (next : Next) :
    Sketch.done.step count t next = next t := rfl

theorem step_char (c : Char) (after : Sketch) (count : Nat) (t : Thread) (next : Next) :
    (Sketch.char c after).step count t next
      = match t.cursor.advance? ((CharTest.code c.toNat).accepts .exact) with
        | none => none
        | some cursor => after.step count { t with cursor := cursor } next := rfl

theorem step_span (name : List Char) (kind : Span) (after : Sketch) (count : Nat) (t : Thread)
    (next : Next) :
    (Sketch.span name kind after).step count t next
      = charsStep .greedy kind.least none (kind.test.accepts .exact) (t.openGroup (count + 1))
          fun u => after.step (count + 1) (u.closeGroup (count + 1)) next := rfl

/-- An optional group is entered if that lets the rest match. -/
theorem step_optional (body after : Sketch) (count : Nat) (t : Thread) (next : Next) :
    (Sketch.optional body after).step count t next
      = (body.step (count + 1) (t.openGroup (count + 1)) fun u =>
          after.step (count + 1 + body.groupCount) (u.closeGroup (count + 1)) next).or
        (after.step (count + 1 + body.groupCount) t next) := by
  simp only [step, tree, run, repeatStep, times, optionalCount, Nat.sub_zero, upTo, ite_self]

theorem step_append (sk after : Sketch) (count : Nat) (t : Thread) (next : Next) :
    (sk.append after).step count t next
      = sk.step count t fun u => after.step (count + sk.groupCount) u next := by
  induction sk generalizing count t with
  | done => rfl
  | char c rest ih => simp only [append, step_char, ih, groupCount]
  | span name kind rest ih =>
    have hcount : count + 1 + rest.groupCount = count + (rest.groupCount + 1) := by omega
    simp only [append, step_span, ih, groupCount, hcount]
  | optional body rest _ ih =>
    have hcount : count + 1 + body.groupCount + rest.groupCount
        = count + (body.groupCount + rest.groupCount + 1) := by omega
    simp only [append, step_optional, ih, groupCount, hcount]

/-- A character matches itself. -/
theorem step_char_cons {c d : Char} {rest : List Char} {after : Sketch} {count : Nat} {t : Thread}
    {next : Next} (h : t.cursor.after = d :: rest) :
    (Sketch.char c after).step count t next
      = if d = c then after.step count { t with cursor := t.cursor.forward 1 } next else none := by
  rw [step_char, Cursor.advance?, h]
  by_cases hd : d = c
  · simp [CharTest.accepts_code_exact, hd, Cursor.forward, h]
  · have hne : d.toNat ≠ c.toNat := fun heq => hd (Char.toNat_inj.mp heq)
    simp [CharTest.accepts_code_exact, hd, hne]

theorem step_char_nil {c : Char} {after : Sketch} {count : Nat} {t : Thread} {next : Next}
    (h : t.cursor.after = []) : (Sketch.char c after).step count t next = none := by
  rw [step_char, Cursor.advance?, h]

/-- The greatest number of characters that a span can take. -/
def reachOf (kind : Span) (text : List Char) : Nat :=
  (text.takeWhile (kind.test.accepts .exact)).length

/-- The numbers of characters that a span can take, the greatest first. -/
def lengths (kind : Span) (text : List Char) : List Nat :=
  ((List.range (reachOf kind text + 1)).drop kind.least).reverse

theorem mem_lengths {kind : Span} {text : List Char} {n : Nat} :
    n ∈ lengths kind text ↔ kind.least ≤ n ∧ n ≤ reachOf kind text := by
  simp only [lengths, List.mem_reverse, List.range_eq_range', List.drop_range', List.mem_range']
  constructor
  · rintro ⟨i, hi, rfl⟩
    omega
  · exact fun h => ⟨n - kind.least, by omega, by omega⟩

/-- A span is tried with one length after another. -/
theorem step_span_eq (name : List Char) (kind : Span) (after : Sketch) (count : Nat) (t : Thread)
    (next : Next) :
    (Sketch.span name kind after).step count t next
      = (lengths kind t.cursor.after).findSome? fun n =>
          after.step (count + 1) (t.capture (count + 1) n) next := by
  rw [step_span, charsStep]
  simp only [Thread.cursor_openGroup, Cursor.reach_eq, lengths, reachOf, ← List.map_drop,
    ← List.map_reverse, List.findSome?_map]
  rfl

/-- A span that can end in one place only.  The search need not try the others. -/
theorem step_span_of_unique {name : List Char} {kind : Span} {after : Sketch} {count n : Nat}
    {t : Thread} {next : Next}
    (h : ∀ m, m ≤ reachOf kind t.cursor.after → m ≠ n →
      after.step (count + 1) (t.capture (count + 1) m) next = none) :
    (Sketch.span name kind after).step count t next
      = if kind.least ≤ n ∧ n ≤ reachOf kind t.cursor.after then
          after.step (count + 1) (t.capture (count + 1) n) next
        else none := by
  rw [step_span_eq]
  by_cases hn : n ∈ lengths kind t.cursor.after
  · rw [if_pos (mem_lengths.mp hn)]
    exact findSome?_of_unique (fun m hm hne => h m (mem_lengths.mp hm).2 hne) hn
  · rw [if_neg (mt mem_lengths.mpr hn)]
    refine List.findSome?_eq_none_iff.mpr fun m hm => h m (mem_lengths.mp hm).2 ?_
    rintro rfl
    exact hn hm

end Sketch

/-! ### What a sketch captures -/

/-- Nothing has been captured by the groups after the first `count`. -/
def Fresh (count : Nat) (t : Thread) : Prop :=
  ∀ index, count < index → t.captured? index = none

theorem Fresh.openGroup {count : Nat} {t : Thread} (h : Fresh count t) :
    Fresh (count + 1) (t.openGroup (count + 1)) := by
  intro index hindex
  rw [Thread.captured?_openGroup (by omega)]
  exact h index (by omega)

/-- From the first thread to the second the groups of a sketch have captured the
given texts, those without a name aside, and no other group has. -/
structure Fills (sk : Sketch) (count : Nat) (found : List (Option (List Char))) (t u : Thread) :
    Prop where
  outside : ∀ index, index ≤ count ∨ count + sk.groupCount < index →
    u.captured? index = t.captured? index
  inside : (sk.named count).map (fun entry => u.captured? entry.2) = found

namespace Fills

theorem done (count : Nat) (t : Thread) : Fills .done count [] t t :=
  ⟨fun _ _ => rfl, rfl⟩

theorem append {sk after : Sketch} {count : Nat} {found more : List (Option (List Char))}
    {t u v : Thread} (h : Fills sk count found t u)
    (h' : Fills after (count + sk.groupCount) more u v) :
    Fills (sk.append after) count (found ++ more) t v := by
  constructor
  · intro index hindex
    rw [Sketch.groupCount_append] at hindex
    rw [h'.outside index (by omega), h.outside index (by omega)]
  · rw [Sketch.named_append, List.map_append, h'.inside, ← h.inside]
    congr 1
    -- The second sketch leaves the groups of the first one alone.
    refine List.map_congr_left fun entry hentry => h'.outside _ (Or.inl ?_)
    exact (Sketch.mem_named hentry).2

theorem char (c : Char) (count : Nat) (t : Thread) (cursor : Cursor) :
    Fills (.char c .done) count [] t { t with cursor := cursor } :=
  ⟨fun _ _ => rfl, rfl⟩

theorem span (name : List Char) (kind : Span) (count n : Nat) (t : Thread) :
    Fills (.span name kind .done) count [some (t.cursor.after.take n)] t
      (t.capture (count + 1) n) := by
  constructor
  · intro index hindex
    refine Thread.captured?_capture ?_ n t
    simp only [Sketch.groupCount] at hindex
    omega
  · simp [Sketch.named, Thread.captured?_capture_self]

/-- An optional group that was entered. -/
theorem entered {body : Sketch} {count : Nat} {found : List (Option (List Char))} {t u : Thread}
    (h : Fills body (count + 1) found (t.openGroup (count + 1)) u) :
    Fills (.optional body .done) count found t (u.closeGroup (count + 1)) := by
  constructor
  · intro index hindex
    simp only [Sketch.groupCount] at hindex
    have hne : index ≠ count + 1 := by omega
    rw [Thread.captured?_closeGroup hne, h.outside index (by omega),
      Thread.captured?_openGroup hne]
  · rw [← h.inside]
    simp only [Sketch.named, List.append_nil]
    refine List.map_congr_left fun entry hentry => Thread.captured?_closeGroup ?_ u
    have := (Sketch.mem_named hentry).1
    omega

/-- Nothing was captured. -/
theorem skipped {sk : Sketch} {count : Nat} {t : Thread} (h : Fresh count t) :
    Fills sk count (List.replicate sk.names.length none) t t := by
  refine ⟨fun _ _ => rfl, ?_⟩
  rw [List.eq_replicate_iff]
  constructor
  · rw [List.length_map, ← Sketch.map_fst_named sk count, List.length_map]
  · intro found hfound
    obtain ⟨entry, hentry, rfl⟩ := List.mem_map.mp hfound
    exact h _ (Sketch.mem_named hentry).1

/-- The groups after those of a sketch stay as they were. -/
theorem fresh {sk : Sketch} {count : Nat} {found : List (Option (List Char))} {t u : Thread}
    (h : Fills sk count found t u) (hfresh : Fresh count t) : Fresh (count + sk.groupCount) u := by
  intro index hindex
  rw [h.outside index (Or.inr hindex)]
  exact hfresh index (by omega)

end Fills

/-! ### Whole texts -/

/-- What is asked for at the end of a match: nothing of the text is left. -/
def atEnd : Next := fun t =>
  if t.cursor.after.isEmpty then some t else none

/-- The last anchor and the end of the text come to the same. -/
theorem Sketch.run_ended (sk : Sketch) (count : Nat) (t : Thread) :
    run (sk.tree count (.seq (.anchor .lastLineEnd) .empty)) t atEnd = sk.step count t atEnd := by
  rw [run_tree]
  congr 1
  funext u
  simp only [run, Anchor.holds, atEnd]
  by_cases h : u.cursor.after.isEmpty = true
  · simp [h]
  · simp [h]

/-- The match of a whole text. -/
theorem Sketch.fullMatch?_anchored (sk : Sketch) (text : List Char) :
    fullMatch? sk.anchored text = sk.step 0 (.atStart text) atEnd := by
  have hstart : Anchor.textStart.holds (Thread.atStart text).cursor = true := rfl
  unfold fullMatch? anchored
  rw [run, run, if_pos hstart]
  exact sk.run_ended 0 (.atStart text)

theorem fresh_atStart (text : List Char) : Fresh 0 (.atStart text) :=
  fun _ _ => rfl

end RouteMatch.Pattern
