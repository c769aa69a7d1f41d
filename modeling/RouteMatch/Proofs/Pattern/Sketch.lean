import RouteMatch.Pattern
import RouteMatch.Proofs.Template.Parts

/-!
# Reading the patterns of templates

The pattern of a template whose tokens have no pattern of their own is made of
few things: characters that stand for themselves, named groups that hold a class
of characters, and optional groups.  A `Sketch` is such a pattern before it is
written.  The machine that reads patterns, run over the text of a sketch, adds the
items of the sketch to the level it is in, whatever was read before and whatever
comes after.

## Main definitions

* `Span`, `Sketch`, `Sketch.text` — the patterns and their texts.
* `Sketch.tree`, `Sketch.named` — the tree and the named groups that the text is
  read as.
* `Sketch.IsPlain` — no character that means something else in a pattern.

## Main results

* `Sketch.scan_text` — the machine on the text of a sketch.
* `Sketch.compile_anchored` — the text of a sketch between two anchors compiles.
-/

namespace RouteMatch.Pattern

open Template

/-! ### Sketches -/

/-- What a named group holds. -/
inductive Span
  /-- One or more characters other than the slash. -/
  | segment
  /-- Any number of characters other than the line feed. -/
  | rest
  deriving DecidableEq, Repr

namespace Span

/-- The text of a span in a pattern. -/
def text : Span → List Char
  | .segment => defaultBody
  | .rest => ".*".toList

/-- The condition on the characters of a span. -/
def test : Span → CharTest
  | .segment => .oneOf true [.code 0x2F]
  | .rest => .notNewline

/-- The least number of characters of a span. -/
def least : Span → Nat
  | .segment => 1
  | .rest => 0

/-- What the text of a span is read as. -/
def regex (kind : Span) : Regex :=
  .chars .greedy kind.least none kind.test .exact

end Span

/-- A pattern of characters, named spans and optional groups. -/
inductive Sketch
  | done
  | char (c : Char) (next : Sketch)
  | span (name : List Char) (kind : Span) (next : Sketch)
  | optional (body next : Sketch)
  deriving DecidableEq, Repr

/-- Whether a character stands for itself in a pattern. -/
def isPlain (c : Char) : Bool :=
  !(['.', '^', '$', '*', '+', '?', '{', '}', '[', ']', '\\', '|', '(', ')'].contains c)

namespace Sketch

/-- The text of a sketch. -/
def text : Sketch → List Char
  | .done => []
  | .char c next => c :: next.text
  | .span name kind next => namedGroup name kind.text ++ next.text
  | .optional body next => '(' :: (body.text ++ ')' :: '?' :: next.text)

/-- The number of groups of a sketch, those without a name included. -/
def groupCount : Sketch → Nat
  | .done => 0
  | .char _ next => next.groupCount
  | .span _ _ next => next.groupCount + 1
  | .optional body next => body.groupCount + next.groupCount + 1

/-- The names of a sketch, in order. -/
def names : Sketch → List (List Char)
  | .done => []
  | .char _ next => next.names
  | .span name _ next => name :: next.names
  | .optional body next => body.names ++ next.names

/-- The named groups of a sketch with their numbers, after `count` groups. -/
def named : Sketch → (count : Nat) → List (List Char × Nat)
  | .done, _ => []
  | .char _ next, count => next.named count
  | .span name _ next, count => (name, count + 1) :: next.named (count + 1)
  | .optional body next, count =>
    body.named (count + 1) ++ next.named (count + 1 + body.groupCount)

/-- What a sketch is read as, after `count` groups and before `tail`. -/
def tree : Sketch → (count : Nat) → (tail : Regex) → Regex
  | .done, _, tail => tail
  | .char c next, count, tail => .seq (.char (.code c.toNat) .exact) (next.tree count tail)
  | .span _ kind next, count, tail =>
    .seq (.group (count + 1) (.seq kind.regex .empty)) (next.tree (count + 1) tail)
  | .optional body next, count, tail =>
    .seq (.rep .greedy 0 (some 1) (.group (count + 1) (body.tree (count + 1) .empty)))
      (next.tree (count + 1 + body.groupCount) tail)

/-- The items of a sketch read after others, the last one first. -/
def addTo : Sketch → (count : Nat) → List Item → List Item
  | .done, _, items => items
  | .char c next, count, items =>
    next.addTo count (.single (.char (.code c.toNat) .exact) :: items)
  | .span _ kind next, count, items =>
    next.addTo (count + 1) (.single (.group (count + 1) (.seq kind.regex .empty)) :: items)
  | .optional body next, count, items =>
    next.addTo (count + 1 + body.groupCount)
      (.repeated (.rep .greedy 0 (some 1) (.group (count + 1) (body.tree (count + 1) .empty)))
        :: items)

/-- Every character stands for itself, and names are names. -/
def IsPlain : Sketch → Prop
  | .done => True
  | .char c next => isPlain c = true ∧ next.IsPlain
  | .span name _ next => isName name = true ∧ next.IsPlain
  | .optional body next => body.IsPlain ∧ next.IsPlain

@[simp] theorem map_fst_named (sk : Sketch) (count : Nat) :
    (sk.named count).map Prod.fst = sk.names := by
  induction sk generalizing count with
  | done => rfl
  | char c next ih => exact ih count
  | span name kind next ih => simp [named, names, ih]
  | optional body next ihb ihn => simp [named, names, ihb, ihn]

/-- The branch that the items of a sketch make. -/
theorem foldl_addTo (sk : Sketch) (count : Nat) (items : List Item) (tail : Regex) :
    (sk.addTo count items).foldl (fun rest item => .seq item.node rest) tail
      = items.foldl (fun rest item => .seq item.node rest) (sk.tree count tail) := by
  induction sk generalizing count items with
  | done => rfl
  | char c next ih => rw [addTo, ih, tree, List.foldl_cons, Item.node]
  | span name kind next ih => rw [addTo, ih, tree, List.foldl_cons, Item.node]
  | optional body next _ ih => rw [addTo, ih, tree, List.foldl_cons, Item.node]

end Sketch

/-! ### Lexemes -/

/-- The characters of a lexeme after the first one are skipped. -/
theorem State.scan_skip (position : Nat) (used rest : List Char) (st : State) :
    State.scan position (used ++ rest) used.length st
      = State.scan (position + used.length) rest 0 st := by
  induction used generalizing position with
  | nil => rfl
  | cons c used ih =>
    rw [List.cons_append, List.length_cons, State.scan, ih]
    congr 1
    omega

/-- One lexeme is read. -/
theorem State.scan_lexeme {position : Nat} {c : Char} {used rest : List Char} {st : State}
    {lexeme : Lexeme} (st' : State) (hflags : st.level.flags = {})
    (hread : Lexeme.read {} position c (used ++ rest) = .ok (lexeme, used.length))
    (hstep : st.step position (position + 1 + used.length) lexeme = .ok st') :
    State.scan position (c :: used ++ rest) 0 st
      = State.scan (position + (c :: used).length) rest 0 st' := by
  rw [List.cons_append, State.scan, hflags, hread]
  simp only [hstep]
  rw [State.scan_skip]
  congr 1
  simp only [List.length_cons]
  omega

/-- A lexeme of one character is read. -/
theorem State.scan_one {position : Nat} {c : Char} {rest : List Char} {st : State}
    {lexeme : Lexeme} (st' : State) (hflags : st.level.flags = {})
    (hread : Lexeme.read {} position c rest = .ok (lexeme, 0))
    (hstep : st.step position (position + 1) lexeme = .ok st') :
    State.scan position (c :: rest) 0 st = State.scan (position + 1) rest 0 st' := by
  rw [State.scan, hflags, hread]
  simp only [Nat.add_zero, hstep]

/-- A character that stands for itself. -/
theorem read_of_isPlain {c : Char} (h : isPlain c = true) (position : Nat) (rest : List Char) :
    Lexeme.read {} position c rest = .ok (.test (.code c.toNat), 0) := by
  simp only [isPlain, Bool.not_eq_true', List.contains_eq_mem, List.mem_cons, List.not_mem_nil,
    or_false, decide_eq_false_iff_not, not_or] at h
  unfold Lexeme.read
  simp only [Bool.false_and, Bool.false_eq_true, if_false]
  grind

theorem textUntil_append {stop : Char} (hstop : stop ≠ '\\') {name : List Char} (h : stop ∉ name)
    (h' : '\\' ∉ name) (rest : List Char) :
    textUntil stop (name ++ stop :: rest) = (name, true) := by
  induction name with
  | nil =>
    rw [List.nil_append, textUntil, if_pos rfl]
    exact fun _ _ hc => absurd hc hstop
  | cons c name ih =>
    rw [List.mem_cons, not_or] at h h'
    rw [List.cons_append, textUntil, if_neg (Ne.symm h.1), ih h.2 h'.2]
    exact fun _ _ hc => absurd hc.symm h'.1

/-- A name is an identifier. -/
theorem isIdentifier_of_isName {name : List Char} (h : isName name = true) :
    Unicode.isIdentifier name = true := by
  obtain ⟨c, rest, rfl, hc, hrest⟩ := isName_iff.mp h
  have hlow : ∀ n, Unicode.isAsciiWord n = true → n < 0x80 := by
    intro n hn
    simp only [Unicode.isAsciiWord, Unicode.isAsciiLetter, Unicode.isAsciiDigit, Bool.or_eq_true,
      Bool.and_eq_true, decide_eq_true_eq, beq_iff_eq] at hn
    omega
  rw [Unicode.isIdentifier, Bool.and_eq_true, List.all_eq_true]
  refine ⟨?_, fun d hd => ?_⟩
  · simp [Unicode.isIdentifierStart, hlow _ (isAsciiWord_of_isAsciiLetter hc), hc]
  · simp [Unicode.isIdentifierContinue, hlow _ (hrest d hd), hrest d hd]

/-- The opening of a group with a name. -/
theorem read_namedGroup {name : List Char} (h : isName name = true) (position : Nat)
    (rest : List Char) :
    Lexeme.read {} position '(' ("?P<".toList ++ name ++ ['>'] ++ rest)
      = .ok (.capture (some name), ("?P<".toList ++ name ++ ['>']).length) := by
  have hname : readGroupName (position + 4) '>' (name ++ '>' :: rest)
      = .ok (name, name.length + 1) := by
    obtain ⟨c, name', rfl⟩ := List.exists_cons_of_ne_nil (name_ne_nil h)
    rw [readGroupName, readName,
      textUntil_append (by decide) (notMem_name h (by decide)) (notMem_name h (by decide))]
    simp [isIdentifier_of_isName h]
  have htext : "?P<".toList ++ name ++ ['>'] ++ rest
      = '?' :: 'P' :: '<' :: (name ++ '>' :: rest) := by
    simp
  rw [htext]
  simp only [Lexeme.read, Bool.false_and, Bool.false_eq_true, if_false, readExtension, readNamed,
    hname, Except.map]
  simp

/-- A repetition is greedy before a sketch. -/
theorem readMode_text {sk : Sketch} (h : sk.IsPlain) {rest : List Char}
    (hrest : readMode rest = (.greedy, 0)) : readMode (sk.text ++ rest) = (.greedy, 0) := by
  cases sk with
  | done => exact hrest
  | char c next =>
    have hc := h.1
    simp only [Sketch.text, List.cons_append]
    unfold readMode
    split
    · next heq => exact absurd ((List.cons.inj heq).1 ▸ hc) (by decide)
    · next heq => exact absurd ((List.cons.inj heq).1 ▸ hc) (by decide)
    · rfl
  | span name kind next => rfl
  | optional body next => rfl

/-! ### The machine on a sketch -/

namespace State

/-- The state in which the items of a sketch have been read. -/
def Reads (st : State) (sk : Sketch) (st' : State) : Prop :=
  ∃ widths, st' = { st with
    level := { st.level with items := sk.addTo st.groups.count st.level.items }
    groups := ⟨st.groups.count + sk.groupCount, st.groups.names ++ sk.named st.groups.count,
      widths⟩ }

/-- A quantifier repeats what was read last. -/
theorem scan_quantifier {c : Char} {least : Nat} {most : Option Nat} {position : Nat}
    {rest : List Char} (st : State) (node : Regex) (hflags : st.level.flags = {})
    (hread : Lexeme.read {} position c rest = .ok (.quantifier .greedy least most, 0)) :
    State.scan position (c :: rest) 0 (st.add (.single node))
      = State.scan (position + 1) rest 0
          (st.add (.repeated (.repeated .greedy least most node))) :=
  scan_one _ hflags hread rfl

/-- The class of characters of a named group. -/
theorem scan_span (kind : Span) {position : Nat} {rest : List Char} {st : State}
    (hflags : st.level.flags = {}) (hrest : readMode rest = (.greedy, 0)) :
    State.scan position (kind.text ++ rest) 0 st
      = State.scan (position + kind.text.length) rest 0 (st.add (.repeated kind.regex)) := by
  cases kind with
  | segment =>
    have hset : Lexeme.read {} position '[' (['^', '/', ']'] ++ '+' :: rest)
        = .ok (.test (.oneOf true [.code 0x2F]), 3) := by
      simp [Lexeme.read, readSet, readSetItems, readSetAtom, SetAtom.item, List.eraseDups_cons]
    have hstep := scan_lexeme (st.add (.single (.char (.oneOf true [.code 0x2F]) .exact))) hflags
      hset (by simp [State.step, Flags.fold, hflags])
    exact hstep.trans
      (scan_quantifier _ _ hflags (by simp [Lexeme.read, readQuantifier, Span.least, hrest]))
  | rest =>
    have hdot : Lexeme.read {} position '.' ('*' :: rest)
        = .ok (.test .notNewline, 0) := by
      simp [Lexeme.read]
    have hstep := scan_one (st.add (.single (.char .notNewline .exact))) hflags hdot
      (by simp [State.step, Flags.fold, hflags])
    exact hstep.trans
      (scan_quantifier _ _ hflags (by simp [Lexeme.read, readQuantifier, Span.least, hrest]))

/-- The state inside a group, where some items have been read. -/
def inside (st : State) (position index : Nat) (items : List Item) (groups : Groups) : State :=
  { st with
    level := ⟨.capture index, position, {}, [], items⟩
    outer := st.level :: st.outer
    groups := groups }

/-- The opening of a group with a name. -/
theorem scan_openNamed {name : List Char} (hname : isName name = true) {position : Nat}
    {rest : List Char} {st : State} (hflags : st.level.flags = {})
    (hnew : name ∉ st.groups.names.map Prod.fst) :
    State.scan position ("(?P<".toList ++ name ++ '>' :: rest) 0 st
      = State.scan (position + (name.length + 5)) rest 0
          (st.inside position (st.groups.count + 1) [] (st.groups.openNext (some name))) := by
  have hlookup : st.groups.names.lookup name = none := by
    rw [List.lookup_eq_none_iff]
    intro entry hentry
    simp only [bne_iff_ne, ne_eq]
    rintro rfl
    exact hnew (List.mem_map_of_mem hentry)
  have hstep := scan_lexeme
    (st.inside position (st.groups.count + 1) [] (st.groups.openNext (some name))) hflags
    (read_namedGroup hname position rest)
    (by simp [State.step, State.openCapture, hlookup, inside, State.push, hflags])
  simpa [Nat.add_assoc] using hstep

/-- The opening of a group without a name. -/
theorem scan_open {position : Nat} {rest : List Char} {st : State} (hflags : st.level.flags = {})
    (hrest : readMode rest = (.greedy, 0)) :
    State.scan position ('(' :: rest) 0 st
      = State.scan (position + 1) rest 0
          (st.inside position (st.groups.count + 1) [] (st.groups.openNext none)) := by
  have hread : Lexeme.read {} position '(' rest = .ok (.capture none, 0) := by
    cases rest with
    | nil => simp [Lexeme.read]
    | cons c rest =>
      have hc : c ≠ '?' := by
        rintro rfl
        exact absurd hrest (by simp [readMode])
      simp [Lexeme.read, hc]
  exact scan_one _ hflags hread
    (by simp [State.step, State.openCapture, inside, State.push, hflags])

/-- The end of a group. -/
theorem scan_close {position start index : Nat} {items : List Item} {groups : Groups}
    {body : Regex} {rest : List Char} {st : State}
    (hbody : items.foldl (fun rest item => .seq item.node rest) .empty = body) :
    State.scan position (')' :: rest) 0 (st.inside start index items groups)
      = State.scan (position + 1) rest 0
          ({ st with groups := groups.close index body }.add (.single (.group index body))) := by
  have hread : Lexeme.read {} position ')' rest = .ok (.close, 0) := by
    simp [Lexeme.read]
  refine scan_one _ rfl hread ?_
  simp [State.step, State.closeLevel, inside, Level.body, Level.branch, hbody, State.add]

/-- The state after a group has been closed and added as an item. -/
def afterGroup (st : State) (groups : Groups) (index : Nat) (body : Regex)
    (item : Regex → Item) : State :=
  { st with groups := groups.close index body }.add (item (.group index body))

/-- A named group of one class of characters. -/
theorem scan_namedGroup {name : List Char} (hname : isName name = true) (kind : Span)
    {position : Nat} {rest : List Char} {st : State} (hflags : st.level.flags = {})
    (hnew : name ∉ st.groups.names.map Prod.fst) :
    State.scan position (namedGroup name kind.text ++ rest) 0 st
      = State.scan (position + (namedGroup name kind.text).length) rest 0
          (st.afterGroup (st.groups.openNext (some name)) (st.groups.count + 1)
            (.seq kind.regex .empty) .single) :=
  let index := st.groups.count + 1
  let groups := st.groups.openNext (some name)
  let start := position + (name.length + 5)
  calc State.scan position (namedGroup name kind.text ++ rest) 0 st
    _ = State.scan position ("(?P<".toList ++ name ++ '>' :: (kind.text ++ ')' :: rest)) 0 st := by
        simp [namedGroup]
    _ = State.scan start (kind.text ++ ')' :: rest) 0 (st.inside position index [] groups) :=
        scan_openNamed hname hflags hnew
    _ = State.scan (start + kind.text.length) (')' :: rest) 0
          (st.inside position index [.repeated kind.regex] groups) := scan_span kind rfl rfl
    _ = State.scan (start + kind.text.length + 1) rest 0
          (st.afterGroup groups index (.seq kind.regex .empty) .single) := scan_close rfl
    _ = _ := by
        congr 1
        simp [start, namedGroup]
        omega

/-- An optional group, once what is in it has been read. -/
theorem scan_optionalGroup {body : Sketch} (hbody : body.IsPlain) {position stop : Nat}
    {rest : List Char} {st : State} {groups : Groups} (hflags : st.level.flags = {})
    (hrest : readMode rest = (.greedy, 0))
    (hinner : State.scan (position + 1) (body.text ++ ')' :: '?' :: rest) 0
        (st.inside position (st.groups.count + 1) [] (st.groups.openNext none))
      = State.scan stop (')' :: '?' :: rest) 0
          (st.inside position (st.groups.count + 1) (body.addTo (st.groups.count + 1) [])
            groups)) :
    State.scan position ('(' :: (body.text ++ ')' :: '?' :: rest)) 0 st
      = State.scan (stop + 1 + 1) rest 0
          (st.afterGroup groups (st.groups.count + 1) (body.tree (st.groups.count + 1) .empty)
            fun group => .repeated (.rep .greedy 0 (some 1) group)) := by
  let index := st.groups.count + 1
  let group : Regex := body.tree index .empty
  have hquantifier : Lexeme.read {} (stop + 1) '?' rest
      = .ok (.quantifier .greedy 0 (some 1), 0) := by
    simp [Lexeme.read, readQuantifier, hrest]
  calc State.scan position ('(' :: (body.text ++ ')' :: '?' :: rest)) 0 st
    _ = State.scan (position + 1) (body.text ++ ')' :: '?' :: rest) 0
          (st.inside position index [] (st.groups.openNext none)) :=
        scan_open hflags (readMode_text hbody rfl)
    _ = State.scan stop (')' :: '?' :: rest) 0
          (st.inside position index (body.addTo index []) groups) := hinner
    _ = State.scan (stop + 1) ('?' :: rest) 0 (st.afterGroup groups index group .single) :=
        scan_close (body.foldl_addTo index [] .empty)
    _ = State.scan (stop + 1 + 1) rest 0
          (st.afterGroup groups index group fun node =>
            .repeated (.rep .greedy 0 (some 1) node)) :=
        scan_quantifier { st with groups := groups.close index group } (.group index group)
          hflags hquantifier

/-- The machine on the text of a sketch. -/
theorem scan_text {sk : Sketch} (hplain : sk.IsPlain) (position : Nat) (rest : List Char)
    (st : State) (hflags : st.level.flags = {})
    (hnodup : (st.groups.names.map Prod.fst ++ sk.names).Nodup)
    (hrest : readMode rest = (.greedy, 0)) :
    ∃ st', st.Reads sk st' ∧
      State.scan position (sk.text ++ rest) 0 st
        = State.scan (position + sk.text.length) rest 0 st' := by
  induction sk generalizing position rest st with
  | done =>
    exact ⟨st, ⟨st.groups.widths, by simp [Sketch.addTo, Sketch.groupCount, Sketch.named]⟩, rfl⟩
  | char c next ih =>
    obtain ⟨hc, hnext⟩ := hplain
    let st₁ := st.add (.single (.char (.code c.toNat) .exact))
    have hstep : State.scan position (c :: (next.text ++ rest)) 0 st
        = State.scan (position + 1) (next.text ++ rest) 0 st₁ :=
      scan_one st₁ hflags (read_of_isPlain hc position (next.text ++ rest))
        (by simp [st₁, State.step, Flags.fold, hflags])
    obtain ⟨st', hst', heq⟩ := ih hnext (position + 1) rest st₁ hflags hnodup hrest
    refine ⟨st', hst', (hstep.trans heq).trans ?_⟩
    simp only [Sketch.text, List.length_cons]
    congr 1
    omega
  | span name kind next ih =>
    obtain ⟨hname, hnext⟩ := hplain
    have hnew : name ∉ st.groups.names.map Prod.fst := by
      intro hmem
      exact (List.nodup_append.mp hnodup).2.2 _ hmem _ List.mem_cons_self rfl
    let st₁ := st.afterGroup (st.groups.openNext (some name)) (st.groups.count + 1)
      (.seq kind.regex .empty) .single
    have hgroup : State.scan position (namedGroup name kind.text ++ (next.text ++ rest)) 0 st
        = State.scan (position + (namedGroup name kind.text).length) (next.text ++ rest) 0 st₁ :=
      scan_namedGroup hname kind hflags hnew
    obtain ⟨st', ⟨widths, hst'⟩, heq⟩ := ih hnext
      (position + (namedGroup name kind.text).length) rest st₁ hflags
      (by simpa [st₁, afterGroup, State.add, Groups.close, Groups.openNext, Sketch.names]
        using hnodup) hrest
    refine ⟨st', ⟨widths, ?_⟩, ?_⟩
    · rw [hst']
      simp [st₁, afterGroup, State.add, Level.add, Groups.close, Groups.openNext, Sketch.addTo,
        Sketch.groupCount, Sketch.named]
      omega
    · rw [Sketch.text, List.append_assoc, hgroup, heq, List.length_append, Nat.add_assoc]
  | optional body next ihb ihn =>
    obtain ⟨hbody, hnext⟩ := hplain
    let index := st.groups.count + 1
    rw [Sketch.names, ← List.append_assoc] at hnodup
    -- What is in the group is read one level down, and its names are kept.
    obtain ⟨_, ⟨widths, rfl⟩, hinner⟩ := ihb hbody (position + 1)
      (')' :: '?' :: (next.text ++ rest))
      (st.inside position index [] (st.groups.openNext none)) rfl
      (List.nodup_append.mp hnodup).1 rfl
    let groups : Groups :=
      ⟨index + body.groupCount, st.groups.names ++ body.named index, widths⟩
    let st₁ := st.afterGroup groups index (body.tree index .empty)
      fun group => .repeated (.rep .greedy 0 (some 1) group)
    let stop := position + 1 + body.text.length
    have hgroup : State.scan position ('(' :: (body.text ++ ')' :: '?' :: (next.text ++ rest))) 0 st
        = State.scan (stop + 1 + 1) (next.text ++ rest) 0 st₁ :=
      scan_optionalGroup hbody hflags (readMode_text hnext hrest) hinner
    obtain ⟨st', ⟨widths', hst'⟩, heq⟩ := ihn hnext (stop + 1 + 1) rest st₁ hflags
      (by simpa [st₁, groups, afterGroup, State.add, Groups.close] using hnodup) hrest
    refine ⟨st', ⟨widths', ?_⟩, ?_⟩
    · rw [hst']
      simp [st₁, groups, afterGroup, index, State.add, Level.add, Groups.close,
        Sketch.addTo, Sketch.groupCount, Sketch.named]
      omega
    · rw [Sketch.text, List.cons_append, List.append_assoc, List.cons_append, List.cons_append,
        hgroup, heq]
      congr 1
      simp [stop]
      omega

/-- The anchor at the beginning of a pattern. -/
theorem scan_caret (text : List Char) :
    State.initial.scan 0 ('^' :: text) 0
      = (State.initial.add (.anchor .textStart)).scan 1 text 0 := by
  have hcaret : Lexeme.read {} 0 '^' text = .ok (.anchor .textStart, 0) := by
    simp [Lexeme.read]
  exact scan_one _ rfl hcaret rfl

/-- The anchor at the end of a pattern. -/
theorem scan_dollar (position : Nat) {st : State} (hflags : st.level.flags = {}) :
    st.scan position ['$'] 0 = .ok (st.add (.anchor .lastLineEnd)) := by
  have hdollar : Lexeme.read {} position '$' [] = .ok (.anchor .lastLineEnd, 0) := by
    simp [Lexeme.read]
  exact (scan_one (st.add (.anchor .lastLineEnd)) hflags hdollar rfl).trans rfl

end State

/-! ### Whole patterns -/

/-- The tree of a sketch between two anchors. -/
def Sketch.anchored (sk : Sketch) : Regex :=
  .seq (.anchor .textStart) (sk.tree 0 (.seq (.anchor .lastLineEnd) .empty))

/-- The text of a sketch between two anchors is read as its tree. -/
theorem Sketch.parse_anchored {sk : Sketch} (hplain : sk.IsPlain) (hnodup : sk.names.Nodup) :
    parse ('^' :: sk.text ++ ['$']) = .ok ⟨sk.anchored, sk.groupCount, sk.named 0⟩ := by
  obtain ⟨st, ⟨widths, hst⟩, htext⟩ := State.scan_text hplain 1 ['$']
    (State.initial.add (.anchor .textStart)) rfl
    (by simpa [State.initial, State.add, Groups.none] using hnodup) rfl
  have hend := State.scan_dollar (1 + sk.text.length) (by rw [hst]; rfl : st.level.flags = {})
  have hbranch : (Item.anchor .lastLineEnd :: sk.addTo 0 [.anchor .textStart]).foldl
      (fun rest item => Regex.seq item.node rest) .empty = sk.anchored := by
    rw [List.foldl_cons, foldl_addTo]
    rfl
  rw [parse, List.cons_append, State.scan_caret, htext, hend, hst]
  simpa [State.finish, State.initial, State.add, Level.add, Level.body, Level.branch, Groups.none]
    using hbranch

/-- The text of a sketch between two anchors compiles. -/
theorem Sketch.compile_anchored {sk : Sketch} (hplain : sk.IsPlain) (hnodup : sk.names.Nodup) :
    Pattern.compile (String.ofList ('^' :: sk.text ++ ['$']))
      = .ok ⟨String.ofList ('^' :: sk.text ++ ['$']), sk.anchored, sk.groupCount,
          (sk.named 0).map fun (name, index) => (String.ofList name, index)⟩ := by
  rw [Pattern.compile, String.toList_ofList, parse_anchored hplain hnodup]
  rfl

end RouteMatch.Pattern
