import RouteMatch.Proofs.Template.Outline

/-!
# Walking along a path

The pattern of a template is matched by trying many ways.  If a slash stands
between any two tokens, only one of them can succeed: a token ends where what the
template has up to the next slash still fits, and an optional group goes as far as
there are segments for it.  `walk` goes this one way from left to right and never
turns back.

## Main definitions

* `nextSegment?`, `takeSegments` — the segments that an optional group takes.
* `walk`, `wildcardTail`, `walkWhole` — the one way that can succeed.
* `Expects`, `IsOnward` — what is known of what comes next in a match.

## Main results

* `step_token` — a token has one end only.
* `step_chainSketch` — an optional group takes all it can, for good.
* `follows_walk` — the search over the pattern of parts comes to what the walk
  comes to.
* `fullMatch?_wholeSketch` — **the search with all its ways is the walk**, for whole
  texts.
-/

namespace RouteMatch.Template

open Pattern

/-! ### The walk -/

/-- The text before the first slash. -/
def heading (text : List Char) : List Char :=
  text.takeWhile (· != '/')

/-- What parts have before their first slash, if no token comes before it. -/
def ending : List Part → List Char
  | .char c :: ps => if c = '/' then [] else c :: ending ps
  | _ => []

/-- The segment that a text begins with, if it is not empty, and the text after it. -/
def nextSegment? : List Char → Option (List Char × List Char)
  | '/' :: text =>
    if heading text = [] then none
    else some (heading text, text.drop (heading text).length)
  | _ => none

/-- At most a number of segments, none of them empty, and the text after them. -/
def takeSegments : (most : Nat) → List Char → List (List Char) × List Char
  | 0, text => ([], text)
  | most + 1, text =>
    match nextSegment? text with
    | none => ([], text)
    | some (segment, rest) =>
      (segment :: (takeSegments most rest).1, (takeSegments most rest).2)

/-- What several groups have captured of which the first ones took segments. -/
def padded (count : Nat) (segments : List (List Char)) : List (Option (List Char)) :=
  segments.map some ++ List.replicate (count - segments.length) none

/-- What the tokens of parts take of a text in order, and the text after the
parts.  A token leaves as much of the text before the next slash as the parts after
it need. -/
def walk : List Part → List Char → Option (List (Option (List Char)) × List Char)
  | [], text => some ([], text)
  | .char _ :: _, [] => none
  | .char c :: ps, d :: text => if d = c then walk ps text else none
  | .token _ :: ps, text =>
    let n := (heading text).length - (ending ps).length
    if n = 0 then none
    else (walk ps (text.drop n)).map fun (found, rest) => (some (text.take n) :: found, rest)
  | .group names :: ps, text =>
    let taken := takeSegments names.length text
    (walk ps taken.2).map fun (found, rest) => (padded names.length taken.1 ++ found, rest)

/-- What the wildcard takes of the text that is left: all after a slash, which must
be one line. -/
def wildcardTail : (wildcard : Option (List Char)) → List Char → Option (List (Option (List Char)))
  | none, [] => some []
  | some _, [] => some [none]
  | some _, '/' :: text => if '\n' ∈ text then none else some [some text]
  | _, _ => none

/-- What the tokens and the wildcard take of a whole text. -/
def walkWhole (ps : List Part) (wildcard : Option (List Char)) (text : List Char) :
    Option (List (Option (List Char))) :=
  match walk ps text with
  | none => none
  | some (found, rest) => (wildcardTail wildcard rest).map (found ++ ·)

section

variable (ps : List Part) (wildcard : Option (List Char))

@[simp] theorem walkWhole_nil (text : List Char) :
    walkWhole [] wildcard text = wildcardTail wildcard text := by
  simp [walkWhole, walk]

theorem walkWhole_char_cons (c d : Char) (text : List Char) :
    walkWhole (.char c :: ps) wildcard (d :: text)
      = if d = c then walkWhole ps wildcard text else none := by
  unfold walkWhole
  rw [walk]
  by_cases hd : d = c
  · rw [if_pos hd, if_pos hd]
  · rw [if_neg hd, if_neg hd]

theorem walkWhole_token (name text : List Char) {n : Nat}
    (hn : n = (heading text).length - (ending ps).length) :
    walkWhole (.token name :: ps) wildcard text
      = if n = 0 then none
        else (walkWhole ps wildcard (text.drop n)).map (some (text.take n) :: ·) := by
  unfold walkWhole
  rw [walk]
  simp only [← hn]
  by_cases hzero : n = 0
  · rw [if_pos hzero, if_pos hzero]
  · rw [if_neg hzero, if_neg hzero]
    cases walk ps (text.drop n) with
    | none => rfl
    | some outcome => simp [Function.comp_def]

theorem walkWhole_group (names : List (List Char)) (text : List Char) :
    walkWhole (.group names :: ps) wildcard text
      = (walkWhole ps wildcard (takeSegments names.length text).2).map
          (padded names.length (takeSegments names.length text).1 ++ ·) := by
  unfold walkWhole
  rw [walk]
  cases walk ps (takeSegments names.length text).2 with
  | none => rfl
  | some outcome => simp [Function.comp_def]

end

/-! ### What comes next -/

@[simp] theorem heading_nil : heading [] = [] := rfl

@[simp] theorem heading_slash (text : List Char) : heading ('/' :: text) = [] := rfl

theorem heading_cons {c : Char} (h : c ≠ '/') (text : List Char) :
    heading (c :: text) = c :: heading text := by
  simp [heading, h]

theorem heading_append {front : List Char} (h : '/' ∉ front) (rest : List Char) :
    heading (front ++ rest) = front ++ heading rest := by
  induction front with
  | nil => rfl
  | cons c front ih =>
    rw [List.mem_cons, not_or] at h
    rw [List.cons_append, heading_cons (Ne.symm h.1), ih h.2, List.cons_append]

/-- A text without a heading is empty or begins with a slash. -/
theorem heading_eq_nil_iff {text : List Char} :
    heading text = [] ↔ text = [] ∨ ∃ rest, text = '/' :: rest := by
  cases text with
  | nil => simp
  | cons c rest =>
    by_cases hc : c = '/'
    · simp [hc]
    · simp [heading_cons hc, hc]

theorem ne_slash_of_heading {d : Char} {rest : List Char} (h : heading (d :: rest) ≠ []) :
    d ≠ '/' := by
  rintro rfl
  exact h (heading_slash rest)

/-- A wildcard needs a slash. -/
theorem wildcardTail_of_heading {wildcard : Option (List Char)} {text : List Char}
    (h : heading text ≠ []) : wildcardTail wildcard text = none := by
  cases text with
  | nil => exact absurd heading_nil h
  | cons d rest =>
    have hd := ne_slash_of_heading h
    cases wildcard <;> simp [wildcardTail, hd]

@[simp] theorem take_heading (text : List Char) : text.take (heading text).length = heading text :=
  (List.prefix_iff_eq_take.mp (List.takeWhile_prefix _)).symm

theorem heading_drop {text : List Char} {n : Nat} (h : n ≤ (heading text).length) :
    heading (text.drop n) = (heading text).drop n := by
  induction text generalizing n with
  | nil => simp
  | cons c rest ih =>
    cases n with
    | zero => rfl
    | succ n =>
      by_cases hc : c = '/'
      · simp [hc] at h
      · rw [heading_cons hc, List.length_cons] at h
        rw [heading_cons hc, List.drop_succ_cons, List.drop_succ_cons, ih (by omega)]

/-- As far as a span of a segment can reach, the heading goes. -/
theorem reachOf_segment (text : List Char) :
    Sketch.reachOf .segment text = (heading text).length := by
  have haccepts : Span.segment.test.accepts .exact = fun c => c != '/' := by
    funext c
    have hslash : (c.toNat == 0x2F) = (c == '/') := by
      rw [Bool.eq_iff_iff, beq_iff_eq, beq_iff_eq]
      exact Char.toNat_inj (d := '/')
    rw [Span.test, CharTest.accepts_code_exact, hslash]
    simp [bne]
  rw [Sketch.reachOf, heading, haccepts]

/-- The rest of a match fails unless a text stands before the next slash. -/
def Expects (text : List Char) (next : Next) : Prop :=
  ∀ t, heading t.cursor.after ≠ text → next t = none

/-- If the rest of a match succeeds before a segment, it succeeds after it. -/
def IsOnward (next : Next) : Prop :=
  ∀ t u segment, nextSegment? t.cursor.after = some (segment, u.cursor.after) →
    (next t).isSome → (next u).isSome

theorem IsOnward.closeGroup {next : Next} (h : IsOnward next) (index : Nat) :
    IsOnward fun t => next (t.closeGroup index) :=
  fun t u segment hsegment hsome =>
    h (t.closeGroup index) (u.closeGroup index) segment hsegment hsome

theorem Expects.closeGroup {text : List Char} {next : Next} (h : Expects text next) (index : Nat) :
    Expects text fun t => next (t.closeGroup index) :=
  fun t ht => h (t.closeGroup index) ht

/-- A slash does not match where a heading stands. -/
theorem step_slash_of_heading {after : Sketch} {count : Nat} {t : Thread} {next : Next}
    (h : heading t.cursor.after ≠ []) : (Sketch.char '/' after).step count t next = none := by
  cases hafter : t.cursor.after with
  | nil =>
    rw [hafter] at h
    exact absurd heading_nil h
  | cons d rest =>
    rw [hafter] at h
    rw [Sketch.step_char_cons hafter, if_neg (ne_slash_of_heading h)]

theorem expects_chainSketch {next : Next} (h : Expects [] next) (names : List (List Char))
    (count : Nat) : Expects [] fun t => (chainSketch names).step count t next := by
  intro t ht
  cases names with
  | nil => exact h t ht
  | cons name rest =>
    have hbody : heading (t.openGroup (count + 1)).cursor.after ≠ [] := ht
    have hnone := h t ht
    simp only [chainSketch, Sketch.step_optional, step_slash_of_heading hbody, Option.none_or,
      Sketch.step_done, hnone]

/-- Parts without a token before their first slash expect what they have there. -/
theorem expects_sketch {next : Next} (h : Expects [] next) {ps : List Part} (hapart : IsApart ps)
    (hsep : IsSeparated ps) (count : Nat) :
    Expects (ending ps) fun t => (sketch ps).step count t next := by
  induction ps with
  | nil => exact h
  | cons p ps ih =>
    intro t ht
    cases p with
    | char c =>
      by_cases hc : c = '/'
      · subst hc
        exact step_slash_of_heading (by simpa [ending] using ht)
      · -- The character is the first one of what is expected.
        have hapart := hapart.resolve_left hc
        simp only [sketch]
        cases hafter : t.cursor.after with
        | nil => exact Sketch.step_char_nil hafter
        | cons d rest =>
          rw [Sketch.step_char_cons hafter]
          by_cases hd : d = c
          · rw [if_pos hd]
            refine ih hapart hsep { t with cursor := t.cursor.forward 1 } fun heq => ht ?_
            simp only [Cursor.after_forward, hafter, List.drop_succ_cons, List.drop_zero] at heq
            rw [ending, if_neg hc, hafter, hd, heading_cons hc, heq]
          · rw [if_neg hd]
    | token name => exact absurd hapart id
    | group names =>
      have hps : ps = [] := hsep
      subst hps
      simp only [sketch, Sketch.step_append, Sketch.step_done]
      exact expects_chainSketch h names count t ht

/-! ### Tokens -/

/-- A token ends where what comes next finds the text that it expects. -/
theorem step_token {name text : List Char} {after : Sketch} {count : Nat} {t : Thread}
    {next : Next} (h : Expects text fun u => after.step (count + 1) u next) {n : Nat}
    (hn : n = (heading t.cursor.after).length - text.length) :
    (Sketch.span name .segment after).step count t next
      = if n = 0 then none else after.step (count + 1) (t.capture (count + 1) n) next := by
  have hunique : ∀ m, m ≤ Sketch.reachOf .segment t.cursor.after → m ≠ n →
      after.step (count + 1) (t.capture (count + 1) m) next = none := by
    intro m hm hne
    rw [reachOf_segment] at hm
    refine h _ fun heq => hne ?_
    -- Two ends leave headings of two lengths.
    rw [Thread.cursor_capture, Cursor.after_forward, heading_drop hm] at heq
    have hlength := congrArg List.length heq
    rw [List.length_drop] at hlength
    omega
  rw [Sketch.step_span_of_unique hunique, reachOf_segment]
  by_cases hzero : n = 0
  · rw [if_pos hzero, if_neg]
    simp [Span.least, hzero]
  · rw [if_neg hzero, if_pos]
    simp only [Span.least]
    omega

/-- A slash and a token match the next segment, if text is not expected after it. -/
theorem step_nextSegment (name : List Char) {after : Sketch} {count : Nat} (t : Thread)
    {next : Next} (h : Expects [] fun u => after.step (count + 1) u next) :
    match nextSegment? t.cursor.after with
    | none => (Sketch.char '/' (.span name .segment after)).step count t next = none
    | some (segment, rest) =>
      ∃ u, (Sketch.char '/' (.span name .segment after)).step count t next
          = after.step (count + 1) u next ∧ u.cursor.after = rest ∧
        Fills (.char '/' (.span name .segment .done)) count [some segment] t u := by
  cases hafter : t.cursor.after with
  | nil => exact Sketch.step_char_nil hafter
  | cons d text =>
    by_cases hd : d = '/'
    · subst hd
      let u : Thread := { t with cursor := t.cursor.forward 1 }
      have hu : u.cursor.after = text := by simp [u, hafter]
      have hstep : (Sketch.char '/' (.span name .segment after)).step count t next
          = if (heading text).length = 0 then none
            else after.step (count + 1) (u.capture (count + 1) (heading text).length) next := by
        rw [Sketch.step_char_cons hafter, if_pos rfl, step_token h (by rw [hu])]
        rfl
      by_cases htext : heading text = []
      · simpa [nextSegment?, htext] using hstep
      · have hlength : (heading text).length ≠ 0 := mt List.length_eq_zero_iff.mp htext
        rw [if_neg hlength] at hstep
        have hfills := (Fills.char '/' count t (t.cursor.forward 1)).append
          (Fills.span name .segment count (heading text).length u)
        rw [hu, take_heading] at hfills
        simp only [nextSegment?, if_neg htext]
        refine ⟨_, hstep, ?_, hfills⟩
        rw [Thread.cursor_capture, Cursor.after_forward, hu]
    · have hnone : nextSegment? (d :: text) = none := by
        simp [nextSegment?, hd]
      rw [hnone]
      simp only [Sketch.step_char_cons hafter, if_neg hd]

/-! ### An optional group -/

/-- An optional group takes as many segments as there are, and the search never
comes back to fewer. -/
theorem step_chainSketch {names : List (List Char)} {next : Next} (hexpects : Expects [] next)
    (honward : IsOnward next) {count : Nat} {t : Thread} (hfresh : Fresh count t) :
    ∃ u, (chainSketch names).step count t next = next u ∧
      u.cursor.after = (takeSegments names.length t.cursor.after).2 ∧
      Fills (chainSketch names) count
        (padded names.length (takeSegments names.length t.cursor.after).1) t u ∧
      ((next t).isSome → (next u).isSome) := by
  induction names generalizing next count t with
  | nil =>
    refine ⟨t, rfl, rfl, ?_, id⟩
    simpa [takeSegments, padded, chainSketch] using Fills.done count t
  | cons name rest ih =>
    let next' : Next := fun u => next (u.closeGroup (count + 1))
    have hstep : (chainSketch (name :: rest)).step count t next
        = ((Sketch.char '/' (.span name .segment (chainSketch rest))).step (count + 1)
            (t.openGroup (count + 1)) next').or (next t) :=
      Sketch.step_optional _ _ count t next
    have hbody := step_nextSegment name (t.openGroup (count + 1))
      (expects_chainSketch (hexpects.closeGroup (count + 1)) rest (count + 2))
    rw [Thread.cursor_openGroup] at hbody
    cases hsegment : nextSegment? t.cursor.after with
    | none =>
      -- No segment stands here, so the group is not entered.
      rw [hsegment] at hbody
      have hskipped : Fills (chainSketch (name :: rest)) count
          (List.replicate (chainSketch (name :: rest)).names.length none) t t :=
        Fills.skipped hfresh
      rw [names_chainSketch] at hskipped
      refine ⟨t, by rw [hstep, hbody, Option.none_or], ?_, ?_, id⟩
      · simp [takeSegments, hsegment]
      · simpa [takeSegments, hsegment, padded] using hskipped
    | some found =>
      -- The first name takes the segment, and the groups inside go on from there.
      obtain ⟨segment, text⟩ := found
      rw [hsegment] at hbody
      obtain ⟨t', hentered, hafter, hfills⟩ := hbody
      obtain ⟨u, hu, hrest, hfills', hkeep⟩ := ih (hexpects.closeGroup (count + 1))
        (honward.closeGroup (count + 1)) (hfills.fresh hfresh.openGroup)
      have hkept : (next t).isSome → (next (u.closeGroup (count + 1))).isSome := fun h =>
        hkeep (honward t (t'.closeGroup (count + 1)) segment
          (by rw [hsegment, Thread.cursor_closeGroup, hafter]) h)
      refine ⟨u.closeGroup (count + 1), ?_, ?_, ?_, hkept⟩
      · rw [hstep, hentered.trans hu]
        -- The group is left again only if that is of no use either.
        cases hnext : next (u.closeGroup (count + 1)) with
        | some v => rfl
        | none =>
          rw [hnext, Option.isSome_none] at hkept
          cases hskip : next t with
          | none => rfl
          | some v => exact absurd (hkept (by rw [hskip]; rfl)) (by simp)
      · rw [Thread.cursor_closeGroup, hrest, hafter]
        simp [takeSegments, hsegment]
      · have hall := (hfills.append hfills').entered
        rw [hafter] at hall
        simpa [takeSegments, hsegment, padded, chainSketch, Sketch.append] using hall

/-! ### The search is the walk -/

/-- The search comes to what a walk came to: it fails, or asks what comes next about
one thread, which has captured what the walk found and has the text left that the
walk left. -/
def Follows (sk : Sketch) (count : Nat) (t : Thread) (next : Next) :
    Option (List (Option (List Char)) × List Char) → Prop
  | none => sk.step count t next = none
  | some (found, rest) =>
    ∃ u, sk.step count t next = next u ∧ u.cursor.after = rest ∧ Fills sk count found t u

/-- A search that goes on with a sketch after another one. -/
theorem Follows.append {sk after : Sketch} {count : Nat} {t u : Thread} {next : Next}
    {found : List (Option (List Char))} (hfills : Fills sk count found t u)
    (hstep : (sk.append after).step count t next = after.step (count + sk.groupCount) u next)
    {outcome : Option (List (Option (List Char)) × List Char)}
    (h : Follows after (count + sk.groupCount) u next outcome) :
    Follows (sk.append after) count t next
      (outcome.map fun (more, rest) => (found ++ more, rest)) := by
  cases outcome with
  | none => exact hstep.trans h
  | some outcome =>
    obtain ⟨v, hv, hrest, hfills'⟩ := h
    exact ⟨v, hstep.trans hv, hrest, hfills.append hfills'⟩

/-- The search over the pattern of parts comes to what the walk comes to. -/
theorem follows_walk {ps : List Part} (hsep : IsSeparated ps) {next : Next}
    (hexpects : Expects [] next) (honward : IsOnward next) {count : Nat} {t : Thread}
    (hfresh : Fresh count t) :
    Follows (sketch ps) count t next (walk ps t.cursor.after) := by
  induction ps generalizing count t with
  | nil => exact ⟨t, rfl, rfl, Fills.done count t⟩
  | cons p ps ih =>
    cases p with
    | char c =>
      cases hafter : t.cursor.after with
      | nil => exact Sketch.step_char_nil hafter
      | cons d text =>
        rw [walk]
        by_cases hd : d = c
        · let u : Thread := { t with cursor := t.cursor.forward 1 }
          have hu : u.cursor.after = text := by simp [u, hafter]
          have hstep : (sketch (.char c :: ps)).step count t next
              = (sketch ps).step count u next := by
            rw [sketch, Sketch.step_char_cons hafter, if_pos hd]
          have hrest := Follows.append (Fills.char c count t (t.cursor.forward 1)) hstep
            (ih (t := u) hsep hfresh)
          have hmap : (walk ps u.cursor.after).map (fun (more, rest) => ([] ++ more, rest))
              = walk ps text := by
            rw [hu]
            cases walk ps text <;> rfl
          rw [if_pos hd, ← hmap]
          exact hrest
        · rw [if_neg hd]
          exact (Sketch.step_char_cons hafter).trans (if_neg hd)
    | token name =>
      let n := (heading t.cursor.after).length - (ending ps).length
      have hstep : (sketch (.token name :: ps)).step count t next
          = if n = 0 then none else (sketch ps).step (count + 1) (t.capture (count + 1) n) next :=
        step_token (expects_sketch hexpects hsep.1 hsep.2 (count + 1)) rfl
      have hwalk : walk (.token name :: ps) t.cursor.after
          = if n = 0 then none
            else (walk ps (t.cursor.after.drop n)).map fun (found, rest) =>
              (some (t.cursor.after.take n) :: found, rest) := rfl
      rw [hwalk]
      by_cases hn : n = 0
      · rw [if_pos hn] at hstep ⊢
        exact hstep
      · rw [if_neg hn] at hstep ⊢
        have hfills := Fills.span name .segment count n t
        exact Follows.append hfills hstep (ih hsep.2 (hfills.fresh hfresh))
    | group names =>
      have hps : ps = [] := hsep
      subst hps
      obtain ⟨u, hstep, hrest, hfills, -⟩ := step_chainSketch hexpects honward hfresh
      have hdone := hfills.append (Fills.done _ u)
      refine ⟨u, ?_, hrest, hdone⟩
      rw [sketch, sketch, Sketch.step_append]
      exact hstep

/-! ### The rest of a path -/

/-- The rest of a path can reach the end of the text if that is one line. -/
theorem length_le_reachOf_rest {text : List Char} :
    text.length ≤ Sketch.reachOf .rest text ↔ '\n' ∉ text := by
  have hreach : Sketch.reachOf .rest text = (text.takeWhile (· != '\n')).length := rfl
  have hprefix : text.takeWhile (· != '\n') <+: text := List.takeWhile_prefix _
  rw [hreach]
  constructor
  · intro hle hmem
    have heq := hprefix.eq_of_length_le hle
    have := List.takeWhile_eq_self_iff.mp heq _ hmem
    exact absurd this (by decide)
  · intro hnot
    rw [List.takeWhile_eq_self_iff.mpr]
    intro c hc
    rw [bne_iff_ne]
    rintro rfl
    exact hnot hc

theorem atEnd_of_ne_nil {t : Thread} (h : t.cursor.after ≠ []) : atEnd t = none := by
  simp [atEnd, h]

theorem atEnd_of_eq_nil {t : Thread} (h : t.cursor.after = []) : atEnd t = some t := by
  simp [atEnd, h]

/-- A span that must reach the end of the text takes all of it. -/
theorem step_rest {name : List Char} {count : Nat} {t : Thread} {next : Next}
    (h : ∀ u : Thread, u.cursor.after ≠ [] → next u = none) :
    (Sketch.span name .rest .done).step count t next
      = if '\n' ∈ t.cursor.after then none
        else next (t.capture (count + 1) t.cursor.after.length) := by
  have hunique : ∀ m, m ≤ Sketch.reachOf .rest t.cursor.after → m ≠ t.cursor.after.length →
      Sketch.done.step (count + 1) (t.capture (count + 1) m) next = none := by
    intro m hm hne
    have hle : Sketch.reachOf .rest t.cursor.after ≤ t.cursor.after.length :=
      (List.takeWhile_prefix _).length_le
    refine h _ ?_
    rw [Thread.cursor_capture, Cursor.after_forward, ne_eq, List.drop_eq_nil_iff]
    omega
  rw [Sketch.step_span_of_unique hunique]
  by_cases hline : '\n' ∈ t.cursor.after
  · rw [if_pos hline, if_neg fun h => length_le_reachOf_rest.mp h.2 hline]
  · rw [if_neg hline, if_pos ⟨Nat.zero_le _, length_le_reachOf_rest.mpr hline⟩]
    rfl

/-- The pattern of the rest of a path, as the last one. -/
theorem step_wildcardSketch (wildcard : Option (List Char)) (count : Nat) (t : Thread) :
    match wildcardTail wildcard t.cursor.after with
    | none => (wildcardSketch wildcard).step count t atEnd = none
    | some found =>
      ∃ u, (wildcardSketch wildcard).step count t atEnd = some u ∧
        (Fresh count t → Fills (wildcardSketch wildcard) count found t u) := by
  cases wildcard with
  | none =>
    cases hafter : t.cursor.after with
    | nil => exact ⟨t, atEnd_of_eq_nil hafter, fun _ => Fills.done count t⟩
    | cons d text => exact atEnd_of_ne_nil (by simp [hafter])
  | some name =>
    let t' := t.openGroup (count + 1)
    let next : Next := fun u => atEnd (u.closeGroup (count + 1))
    have hstep : (wildcardSketch (some name)).step count t atEnd
        = ((Sketch.char '/' (.span name .rest .done)).step (count + 1) t' next).or (atEnd t) :=
      Sketch.step_optional _ _ count t atEnd
    cases hafter : t.cursor.after with
    | nil =>
      have hbody : (Sketch.char '/' (.span name .rest .done)).step (count + 1) t' next = none :=
        Sketch.step_char_nil hafter
      rw [hbody, Option.none_or, atEnd_of_eq_nil hafter] at hstep
      exact ⟨t, hstep, fun hfresh => Fills.skipped hfresh⟩
    | cons d text =>
      have hend : atEnd t = none := atEnd_of_ne_nil (by simp [hafter])
      rw [hend, Option.or_none, Sketch.step_char_cons (t := t') hafter] at hstep
      by_cases hd : d = '/'
      · subst hd
        let u : Thread := { t' with cursor := t.cursor.forward 1 }
        have hu : u.cursor.after = text := by simp [u, hafter]
        have hrest : (Sketch.span name .rest .done).step (count + 1) u next
            = if '\n' ∈ u.cursor.after then none
              else next (u.capture (count + 2) u.cursor.after.length) :=
          step_rest fun v hv => atEnd_of_ne_nil hv
        rw [if_pos rfl] at hstep
        have hstep := hstep.trans hrest
        rw [hu] at hstep
        rw [wildcardTail]
        by_cases hline : '\n' ∈ text
        · simpa [hline] using hstep
        · rw [if_neg hline] at hstep ⊢
          have hempty : (u.capture (count + 2) text.length).cursor.after = [] := by
            rw [Thread.cursor_capture, Cursor.after_forward, hu, List.drop_length]
          refine ⟨_, hstep.trans (atEnd_of_eq_nil hempty), fun hfresh => ?_⟩
          have hfills := (Fills.char '/' (count + 1) t' (t.cursor.forward 1)).append
            (Fills.span name .rest (count + 1) text.length u)
          rw [hu, List.take_length] at hfills
          exact hfills.entered
      · rw [if_neg hd] at hstep
        simpa [wildcardTail, hd] using hstep

theorem isSome_step_wildcardSketch (wildcard : Option (List Char)) (count : Nat) (t : Thread) :
    ((wildcardSketch wildcard).step count t atEnd).isSome
      = (wildcardTail wildcard t.cursor.after).isSome := by
  have h := step_wildcardSketch wildcard count t
  cases htail : wildcardTail wildcard t.cursor.after with
  | none =>
    rw [htail] at h
    rw [h]
    rfl
  | some found =>
    rw [htail] at h
    obtain ⟨u, hu, -⟩ := h
    rw [hu]
    rfl

theorem expects_wildcardSketch (wildcard : Option (List Char)) (count : Nat) :
    Expects [] fun t => (wildcardSketch wildcard).step count t atEnd := by
  intro t ht
  have hsome := isSome_step_wildcardSketch wildcard count t
  rw [wildcardTail_of_heading ht] at hsome
  simpa using hsome

/-- What is left after a segment. -/
theorem nextSegment?_eq_some {text segment rest : List Char}
    (h : nextSegment? text = some (segment, rest)) :
    segment ≠ [] ∧ text = '/' :: segment ++ rest ∧ heading rest = [] := by
  cases text with
  | nil => exact absurd h (by simp [nextSegment?])
  | cons d text =>
    by_cases hd : d = '/'
    · subst hd
      by_cases htext : heading text = []
      · simp [nextSegment?, htext] at h
      · simp only [nextSegment?, if_neg htext, Option.some.injEq, Prod.mk.injEq] at h
        obtain ⟨rfl, rfl⟩ := h
        refine ⟨htext, ?_, ?_⟩
        · have hsplit := List.take_append_drop (heading text).length text
          rw [take_heading] at hsplit
          rw [List.cons_append, hsplit]
        · rw [heading_drop (le_refl _), List.drop_length]
    · simp [nextSegment?, hd] at h

theorem isOnward_wildcardSketch (wildcard : Option (List Char)) (count : Nat) :
    IsOnward fun t => (wildcardSketch wildcard).step count t atEnd := by
  intro t u segment hsegment hsome
  obtain ⟨-, hafter, hrest⟩ := nextSegment?_eq_some hsegment
  rw [isSome_step_wildcardSketch] at hsome ⊢
  rw [hafter] at hsome
  cases wildcard with
  | none => simp [wildcardTail] at hsome
  | some name =>
    rcases heading_eq_nil_iff.mp hrest with hu | ⟨text, hu⟩
    · simp [hu, wildcardTail]
    · -- After a segment of one line there is one line left.
      have hline : '\n' ∉ segment ++ u.cursor.after := by
        intro hmem
        simp [wildcardTail, hmem] at hsome
      rw [hu] at hline ⊢
      have htext : '\n' ∉ text := fun hmem =>
        hline (List.mem_append_right _ (List.mem_cons_of_mem _ hmem))
      simp [wildcardTail, htext]

/-! ### Whole templates -/

/-- **No way but the walk.**  The search for a match of a whole text fails where the
walk fails, and otherwise its named groups have captured what the walk found. -/
theorem fullMatch?_wholeSketch {ps : List Part} (hsep : IsSeparated ps)
    (wildcard : Option (List Char)) (text : List Char) :
    ((fullMatch? (wholeSketch ps wildcard).anchored text).map fun u =>
        ((wholeSketch ps wildcard).named 0).map fun entry => u.captured? entry.2)
      = walkWhole ps wildcard text := by
  let count := 0 + (sketch ps).groupCount
  let next : Next := fun u => (wildcardSketch wildcard).step count u atEnd
  have hstep : fullMatch? (wholeSketch ps wildcard).anchored text
      = (sketch ps).step 0 (.atStart text) next := by
    rw [Sketch.fullMatch?_anchored, wholeSketch, Sketch.step_append]
  have hwalk := follows_walk hsep (expects_wildcardSketch wildcard count)
    (isOnward_wildcardSketch wildcard count) (fresh_atStart text)
  rw [hstep, walkWhole]
  cases hfound : walk ps text with
  | none =>
    -- A failed walk tells that the search fails before it comes to the wildcard.
    have hnone : Follows (sketch ps) 0 (.atStart text) next none := hfound ▸ hwalk
    rw [hnone]
    rfl
  | some outcome =>
    obtain ⟨found, rest⟩ := outcome
    have hsome : Follows (sketch ps) 0 (.atStart text) next (some (found, rest)) := hfound ▸ hwalk
    obtain ⟨t, ht, rfl, hfills⟩ := hsome
    have htail := step_wildcardSketch wildcard count t
    rw [ht]
    simp only
    cases hrest : wildcardTail wildcard t.cursor.after with
    | none =>
      rw [hrest] at htail
      have hnext : next t = none := htail
      rw [hnext]
      rfl
    | some more =>
      rw [hrest] at htail
      obtain ⟨u, hu, hfills'⟩ := htail
      have hall := hfills.append (hfills' (hfills.fresh (fresh_atStart text)))
      have hnext : next t = some u := hu
      rw [hnext, Option.map_some, Option.map_some]
      exact congrArg some hall.inside

end RouteMatch.Template
