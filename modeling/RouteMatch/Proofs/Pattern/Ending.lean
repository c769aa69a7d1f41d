import RouteMatch.Proofs.Pattern.Idle
import RouteMatch.Proofs.Pattern.Places
import RouteMatch.Proofs.Pattern.Successes
import RouteMatch.Proofs.Template.Bodies
import RouteMatch.Proofs.Template.Walk

/-!
# How a pattern ends

Take a pattern between the two anchors that is accepted although it ends with slashes, or with
nothing.  What comes before the slashes has been read by then: no group, set, name or comment is
open, and no flags are in force.  So something else may be written in place of the slashes, and
what comes before is read as it was.  The one exception is a backslash that makes an escape of
the first slash, or of the anchor.

## Main definitions

* `Grounded` — something has been read of the outermost level, and no flags are in force in it.
* `State.Follows` — a state behind a text, whatever comes next.

## Main results

* `State.exists_scan_front` — a text in front of an idle one is read in front of any other.
* `exists_follows` — **the machine comes to the end of a text that is accepted**.
* `exists_parse_sketch` — something else in place of the slashes at the end.
-/

namespace RouteMatch.Pattern

open Template

/-! ### The outermost level -/

/-- Something has been read of a level, and no flags are in force in it. -/
structure Level.Grounded (l : Level) : Prop where
  flags : l.flags = {}
  begun : l.items ≠ [] ∨ l.branches ≠ []

/-- The outermost one of several levels is grounded. -/
def Grounded (levels : List Level) : Prop :=
  ∀ l ∈ levels.getLast?, l.Grounded

namespace Grounded

variable {l l' : Level} {outer : List Level}

/-- The innermost level may be replaced by one that is grounded as well. -/
theorem replace (h : Grounded (l :: outer)) (hl : l.Grounded → l'.Grounded) :
    Grounded (l' :: outer) := by
  cases outer with
  | nil =>
    intro last hlast
    obtain rfl := Option.some.inj hlast
    exact hl (h l rfl)
  | cons next outer =>
    intro last hlast
    rw [List.getLast?_cons_cons] at hlast
    exact h last (by rwa [List.getLast?_cons_cons])

theorem cons (h : Grounded outer) (houter : outer ≠ []) : Grounded (l :: outer) := by
  obtain ⟨next, outer, rfl⟩ := List.exists_cons_of_ne_nil houter
  intro last hlast
  rw [List.getLast?_cons_cons] at hlast
  exact h last hlast

theorem tail (h : Grounded (l :: outer)) : Grounded outer := by
  intro last hlast
  refine h last ?_
  cases outer with
  | nil => exact absurd hlast (by simp)
  | cons next outer => rwa [List.getLast?_cons_cons]

end Grounded

namespace State

variable {st st' final : State} {position stop skip : Nat}

/-- What has been read of a level is not forgotten as long as it is open. -/
theorem begun_of_step {lexeme : Lexeme} (h : st.step position stop lexeme = .ok st')
    (hnest : lexeme.nest [] = some []) (hbegun : st.level.items ≠ [] ∨ st.level.branches ≠ []) :
    st'.level.items ≠ [] ∨ st'.level.branches ≠ [] := by
  have hadd : ∀ item, (st.add item).level.items ≠ [] := fun item => List.cons_ne_nil _ _
  have hbackref : ∀ {at' index}, st.addBackref at' stop index = .ok st' → st'.level.items ≠ [] := by
    intro at' index h
    unfold addBackref at h
    split at h
    · exact absurd h (by simp)
    · obtain ⟨-, -, rfl⟩ := map_eq_ok h
      exact hadd _
  cases lexeme with
  | ignored =>
    obtain rfl := Except.ok.inj h
    exact hbegun
  | test test =>
    obtain rfl := Except.ok.inj h
    exact Or.inl (hadd _)
  | anchor a =>
    obtain rfl := Except.ok.inj h
    exact Or.inl (hadd _)
  | backref index =>
    simp only [step] at h
    split at h
    · exact absurd h (by simp)
    · exact Or.inl (hbackref h)
  | namedBackref name =>
    simp only [step] at h
    split at h
    · exact absurd h (by simp)
    · exact Or.inl (hbackref h)
  | quantifier mode least most =>
    simp only [step, repeatLast] at h
    split at h
    · obtain rfl := Except.ok.inj h
      exact Or.inl (List.cons_ne_nil _ _)
    · exact absurd h (by simp)
    · exact absurd h (by simp)
    · exact absurd h (by simp)
  | globalFlags on =>
    simp only [step, setGlobalFlags] at h
    split at h
    · obtain rfl := Except.ok.inj h
      exact hbegun
    · exact absurd h (by simp)
  | bar =>
    simp only [step, endBranch] at h
    split at h
    · exact absurd h (by simp)
    · obtain rfl := Except.ok.inj h
      exact Or.inr (List.cons_ne_nil _ _)
  | capture name => exact absurd hnest (by simp [Lexeme.nest])
  | scope on off => exact absurd hnest (by simp [Lexeme.nest])
  | atomic => exact absurd hnest (by simp [Lexeme.nest])
  | look behind positive => exact absurd hnest (by simp [Lexeme.nest])
  | conditional reference => exact absurd hnest (by simp [Lexeme.nest])
  | close => exact absurd hnest (by simp [Lexeme.nest])

/-- Flags are set for the whole pattern only before anything has been read. -/
theorem not_begun_of_setGlobalFlags {on : List Char}
    (h : st.setGlobalFlags position on = .ok st') :
    st.level.branches = [] ∧ st.level.items = [] := by
  unfold setGlobalFlags at h
  split at h
  · next hfirst =>
    simp only [Bool.and_eq_true, List.isEmpty_iff] at hfirst
    exact ⟨hfirst.1.2, hfirst.2⟩
  · exact absurd h (by simp)

/-- The outermost level stays grounded. -/
theorem grounded_step {lexeme : Lexeme} (h : st.step position stop lexeme = .ok st')
    (hst : Grounded (st.level :: st.outer)) : Grounded (st'.level :: st'.outer) := by
  cases step_cases h with
  | kept nest flags =>
    exact hst.replace fun hl => ⟨flags.trans hl.flags, begun_of_step h (nest []) hl.begun⟩
  | flagged on flags outer =>
    obtain ⟨hbranches, hitems⟩ := not_begun_of_setGlobalFlags h
    rw [outer] at hst
    have hbegun := (hst st.level rfl).begun
    rw [hbranches, hitems] at hbegun
    exact absurd hbegun (by simp)
  | opened => exact hst.cons (List.cons_ne_nil _ _)
  | closed around =>
    have htail := hst.tail
    rw [around] at htail
    exact htail.replace fun hl => ⟨hl.flags, Or.inl (List.cons_ne_nil _ _)⟩

/-! ### A text in front of an idle one -/

/-- A comment that a line feed ends would go on behind a text only if it went on up to the end of
the pattern, inside a group that stays open. -/
theorem read_inert_of_scan {c : Char} {rest tail : List Char} {lexeme : Lexeme} {used : Nat}
    (htail : Idle tail) (hescape : c = '\\' → rest ≠ []) (hst : Grounded (st.level :: st.outer))
    (hread : Lexeme.read st.level.flags position c (rest ++ tail) = .ok (lexeme, used))
    (hstep : st.step position stop lexeme = .ok st')
    (hscan : st'.scan (position + 1) (rest ++ tail) used = .ok final) (hfinal : final.outer = []) :
    used ≤ rest.length ∧ ∀ tail', Inert tail' →
      Lexeme.read st.level.flags position c (rest ++ tail') = .ok (lexeme, used) := by
  by_cases hcomment : st.level.flags.verbose = true ∧ c = '#'
  · obtain ⟨hverbose, rfl⟩ := hcomment
    have hblank : isIgnorable '#' = false := by decide
    have hread' : ∀ text, Lexeme.read st.level.flags position '#' text
        = .ok (.ignored, lineCommentLength text) := by
      intro text
      simp [Lexeme.read, hverbose, hblank]
    rw [hread'] at hread
    obtain ⟨rfl, rfl⟩ := Prod.mk.inj (Except.ok.inj hread)
    rcases lineCommentLength_cases rest with hsame | hgoes
    · rw [hsame]
      exact ⟨lineCommentLength_le_length rest, fun tail' _ => by rw [hread', hsame]⟩
    · obtain rfl := Except.ok.inj hstep
      have hend := scan_skip (position + 1) (rest ++ tail) [] st
      rw [List.append_nil, ← hgoes tail (htail.notMem (by decide)), hscan] at hend
      obtain rfl := Except.ok.inj hend
      rw [hfinal] at hst
      rw [(hst final.level rfl).flags] at hverbose
      exact absurd hverbose (by decide)
  · obtain ⟨hused, hsame⟩ := settles_read (read_append_idle htail hescape hcomment hread)
    exact ⟨hused, hsame (fun hverbose hc => absurd ⟨hverbose, hc⟩ hcomment) position⟩

/-- A text in front of an idle one is read in front of any other text that lets no lexeme go on,
if it does not end with a backslash and no group stays open. -/
theorem exists_scan_front {front tail : List Char} (htail : Idle tail)
    (hfront : front.getLast? ≠ some '\\') (hskip : skip ≤ front.length)
    (hst : Grounded (st.level :: st.outer))
    (h : st.scan position (front ++ tail) skip = .ok final) (hfinal : final.outer = []) :
    ∃ st' : State, Grounded (st'.level :: st'.outer) ∧ ∀ tail', Inert tail' →
      st.scan position (front ++ tail') skip = st'.scan (position + front.length) tail' 0 := by
  induction front generalizing position skip st with
  | nil =>
    obtain rfl := Nat.le_zero.mp hskip
    exact ⟨st, hst, fun tail' _ => rfl⟩
  | cons c rest ih =>
    have hlength : position + (c :: rest).length = position + 1 + rest.length := by
      rw [List.length_cons]
      omega
    have hrest : rest.getLast? ≠ some '\\' := by
      cases rest with
      | nil => simp
      | cons d rest => rwa [List.getLast?_cons_cons] at hfront
    rw [hlength]
    cases skip with
    | succ skip => exact ih hrest (Nat.le_of_succ_le_succ hskip) hst h
    | zero =>
      rw [List.cons_append, scan] at h
      split at h
      · exact absurd h (by simp)
      · next lexeme used hread =>
        split at h
        · exact absurd h (by simp)
        · next st₁ hstep =>
          have hst₁ := grounded_step hstep hst
          have hescape : c = '\\' → rest ≠ [] := by
            rintro rfl rfl
            exact hfront rfl
          obtain ⟨hused, hsame⟩ := read_inert_of_scan htail hescape hst hread hstep h hfinal
          obtain ⟨st', hst', hscan⟩ := ih hrest hused hst₁ h
          refine ⟨st', hst', fun tail' htail' => ?_⟩
          rw [List.cons_append, scan, hsame tail' htail']
          simp only [hstep]
          exact hscan tail' htail'

/-! ### Idle texts -/

/-- Within an idle text a lexeme is a character, an escaped one or an anchor. -/
theorem read_idle {flags : Flags} {c : Char} {rest : List Char} {lexeme : Lexeme} {used : Nat}
    (hc : c ∈ idleChars) (hrest : Idle rest)
    (h : Lexeme.read flags position c rest = .ok (lexeme, used)) :
    (∃ test, lexeme = .test test) ∨ ∃ a, lexeme = .anchor a := by
  have hnone : idleChars.any isIgnorable = false := by decide
  have hblank : isIgnorable c = false := Bool.eq_false_iff.mpr (List.any_eq_false.mp hnone c hc)
  have hcomment : c ≠ '#' := ne_of_mem_of_not_mem hc (by decide)
  simp only [Lexeme.read, hblank, hcomment, Bool.and_false, Bool.false_eq_true, if_false,
    decide_false] at h
  simp only [idleChars, List.mem_cons, List.not_mem_nil, or_false] at hc
  rcases hc with rfl | rfl | rfl
  · exact Or.inl ⟨_, (Prod.mk.inj (Except.ok.inj h)).1.symm⟩
  · exact Or.inr ⟨_, (Prod.mk.inj (Except.ok.inj h)).1.symm⟩
  · cases rest with
    | nil => exact absurd h (by simp [readEscape])
    | cons d rest =>
      obtain ⟨hd, -⟩ := idle_cons.mp hrest
      simp only [idleChars, List.mem_cons, List.not_mem_nil, or_false] at hd
      rcases hd with rfl | rfl | rfl
      · exact Or.inl ⟨_, (Prod.mk.inj (Except.ok.inj h)).1.symm⟩
      · exact Or.inl ⟨_, (Prod.mk.inj (Except.ok.inj h)).1.symm⟩
      · exact Or.inl ⟨_, (Prod.mk.inj (Except.ok.inj h)).1.symm⟩

/-- An idle text opens no group and closes none. -/
theorem outer_of_scan_idle {text : List Char} (htext : Idle text)
    (h : st.scan position text skip = .ok final) : final.outer = st.outer := by
  induction text generalizing position skip st with
  | nil =>
    obtain rfl := Except.ok.inj h
    rfl
  | cons c rest ih =>
    obtain ⟨hc, hrest⟩ := idle_cons.mp htext
    obtain ⟨used, st₁, hadvances, hscan⟩ := exists_advances h
    rw [ih hrest hscan]
    cases hadvances with
    | within => rfl
    | lexeme read step =>
      rcases read_idle hc hrest read with ⟨test, rfl⟩ | ⟨a, rfl⟩
      · obtain rfl := Except.ok.inj step
        rfl
      · obtain rfl := Except.ok.inj step
        rfl

/-- Pairs of backslashes are escapes of a backslash each. -/
theorem exists_scan_pairs (n : Nat) (position : Nat) {st : State} (houter : st.outer = [])
    (hflags : st.level.flags = {}) :
    ∃ st' : State, st'.outer = [] ∧ st'.level.flags = {} ∧ ∀ rest,
      st.scan position (List.replicate (2 * n) '\\' ++ rest) 0
        = st'.scan (position + 2 * n) rest 0 := by
  induction n generalizing position st with
  | zero => exact ⟨st, houter, hflags, fun rest => rfl⟩
  | succ n ih =>
    let item := Item.single (.char (.code '\\'.toNat) .exact)
    have houter₁ : (st.add item).outer = [] := houter
    obtain ⟨st', houter', hflags', hscan⟩ := ih (position + 2) houter₁ hflags
    refine ⟨st', houter', hflags', fun rest => ?_⟩
    have htext : List.replicate (2 * (n + 1)) '\\' ++ rest
        = '\\' :: ['\\'] ++ (List.replicate (2 * n) '\\' ++ rest) := by
      rw [Nat.mul_succ, Nat.add_comm, ← List.replicate_append_replicate, List.append_assoc]
      rfl
    have hposition : position + 2 * (n + 1) = position + 2 + 2 * n := by omega
    have hread : Lexeme.read {} position '\\' (['\\'] ++ (List.replicate (2 * n) '\\' ++ rest))
        = .ok (.test (.code '\\'.toNat), 1) := rfl
    rw [htext, hposition, ← hscan]
    exact scan_lexeme (st.add item) hflags hread (by simp [item, State.step, Flags.fold, hflags])

/-! ### Behind a text -/

/-- The machine comes to a state behind a text, after the first anchor, whatever comes next that
lets no lexeme go on.  No group is open and no flags are in force. -/
structure Follows (text : List Char) (st : State) : Prop where
  outer : st.outer = []
  flags : st.level.flags = {}
  reads : ∀ tail, Inert tail →
    initial.scan 0 ('^' :: (text ++ tail)) 0 = st.scan (1 + text.length) tail 0

/-- No two groups have the same name. -/
theorem Follows.nodup {text : List Char} (h : st.Follows text) :
    (st.groups.names.map Prod.fst).Nodup :=
  (scan_grows (h.reads [] closing_nil.inert)).nodup List.nodup_nil

/-- The groups with names are among those of an accepted pattern that begins with the text. -/
theorem Follows.names_subset {text tail : List Char} (h : st.Follows text) (htail : Inert tail)
    {parsed : Parsed} (hparse : parse ('^' :: (text ++ tail)) = .ok parsed) :
    st.groups.names ⊆ parsed.names := by
  obtain ⟨final, hscan, -, rfl⟩ := exists_scan_of_parse hparse
  rw [h.reads tail htail] at hscan
  obtain ⟨more, hmore⟩ := (scan_grows hscan).names
  rw [hmore]
  exact List.subset_append_left _ _

/-- A name that such a pattern does not have is a new one. -/
theorem Follows.nodup_concat {text tail : List Char} (h : st.Follows text) (htail : Inert tail)
    {parsed : Parsed} (hparse : parse ('^' :: (text ++ tail)) = .ok parsed) {name : List Char}
    (hnew : name ∉ parsed.names.map Prod.fst) :
    (st.groups.names.map Prod.fst ++ [name]).Nodup := by
  refine List.nodup_append.mpr ⟨h.nodup, List.pairwise_singleton _ name, ?_⟩
  rintro other hother _ hname rfl
  obtain rfl := List.mem_singleton.mp hname
  exact hnew (List.map_subset _ (h.names_subset htail hparse) hother)

/-- A parenthesis that closes nothing. -/
theorem scan_unbalanced (position : Nat) (rest : List Char) (houter : st.outer = [])
    (hflags : st.level.flags = {}) :
    st.scan position (')' :: rest) 0 = .error (.at position .unbalanced) := by
  have hread : Lexeme.read {} position ')' rest = .ok (.close, 0) := by
    simp [Lexeme.read]
  rw [scan, hflags, hread]
  simp only [step, closeLevel, houter]

/-- The result of reading, at the end of an accepted pattern. -/
theorem finish_eq_ok_iff {parsed : Parsed} :
    st.finish = .ok parsed ↔ st.outer = [] ∧ (∀ entry ∈ st.awaited, entry.1 ≤ st.groups.count) ∧
      st.fixedLookbehinds = true ∧ parsed = ⟨st.level.body, st.groups.count, st.groups.names⟩ := by
  unfold finish
  by_cases houter : st.outer = []
  · simp only [houter, List.isEmpty_nil, Bool.not_true, Bool.false_eq_true, if_false, true_and]
    split
    · next index position hfind =>
      -- A group that is named by number does not exist.
      have hmem := List.mem_reverse.mp (List.mem_of_find?_eq_some hfind)
      have hlt : index > st.groups.count := by simpa using List.find?_some hfind
      refine ⟨fun h => absurd h (by simp), fun h => ?_⟩
      exact absurd (h.1 _ hmem) (Nat.not_le_of_lt hlt)
    · next hfind =>
      have hnone : ∀ entry ∈ st.awaited, entry.1 ≤ st.groups.count := by simpa using hfind
      cases hfixed : st.fixedLookbehinds with
      | true =>
        rw [if_pos rfl, Except.ok.injEq]
        exact ⟨fun h => ⟨hnone, rfl, h.symm⟩, fun h => h.2.2.symm⟩
      | false => simp
  · simp [houter]

end State

open State

/-- **The machine comes to the end of a text that is accepted** in front of an idle one, if no
backslash at its end makes an escape of what follows. -/
theorem exists_follows {front tail : List Char} {n : Nat} (htail : Idle tail)
    (hfront : front.getLast? ≠ some '\\') {parsed : Parsed}
    (h : parse ('^' :: (front ++ List.replicate (2 * n) '\\' ++ tail)) = .ok parsed) :
    ∃ st : State, st.Follows (front ++ List.replicate (2 * n) '\\') := by
  have hpairs : Idle (List.replicate (2 * n) '\\') := idle_replicate (by decide) _
  let st := initial.add (.anchor .textStart)
  have hst : Grounded (st.level :: st.outer) := by
    intro l hl
    obtain rfl := Option.some.inj hl
    exact ⟨rfl, Or.inl (List.cons_ne_nil _ _)⟩
  unfold parse at h
  split at h
  · exact absurd h (by simp)
  · next final hscan =>
    obtain ⟨hfinal, -⟩ := finish_eq_ok_iff.mp h
    rw [List.append_assoc, scan_caret] at hscan
    -- The text before the backslashes, and then the pairs of backslashes.
    obtain ⟨st₁, hgrounded, hfront⟩ :=
      exists_scan_front (hpairs.append htail) hfront (Nat.zero_le _) hst hscan hfinal
    rw [hfront _ (hpairs.append htail).inert] at hscan
    have houter : st₁.outer = [] := (outer_of_scan_idle (hpairs.append htail) hscan).symm.trans hfinal
    rw [houter] at hgrounded
    obtain ⟨st₂, houter₂, hflags₂, hpairs₂⟩ :=
      exists_scan_pairs n (1 + front.length) houter (hgrounded st₁.level rfl).flags
    refine ⟨st₂, houter₂, hflags₂, fun tail' htail' => ?_⟩
    rw [List.append_assoc, scan_caret, hfront _ (hpairs.inert_append htail'), hpairs₂,
      List.length_append, List.length_replicate, Nat.add_assoc]

/-- What has been read of a level, with a tree in place of what comes next. -/
def Level.ended (l : Level) (tail : Regex) : Regex :=
  l.branches.foldl (fun rest b => .alt b rest)
    (l.items.foldl (fun rest item => .seq item.node rest) tail)

/-- A sketch behind a text, in front of the last anchor. -/
theorem State.Follows.parse_sketch {text : List Char} {st : State} (h : st.Follows text)
    {sk : Sketch} (hplain : sk.IsPlain) (hinert : Inert (sk.text ++ ['$']))
    (hnodup : (st.groups.names.map Prod.fst ++ sk.names).Nodup) {parsed : Parsed} :
    parse ('^' :: (text ++ sk.text) ++ ['$']) = .ok parsed ↔
      (∀ entry ∈ st.awaited, entry.1 ≤ st.groups.count + sk.groupCount) ∧
        st.fixedLookbehinds = true ∧
        parsed = ⟨st.level.ended (sk.tree st.groups.count (.seq (.anchor .lastLineEnd) .empty)),
          st.groups.count + sk.groupCount,
          st.groups.names ++ sk.named st.groups.count⟩ := by
  obtain ⟨st', hreads, hscan⟩ := scan_text hplain (1 + text.length) ['$'] st h.flags hnodup rfl
  have hflags : st'.level.flags = {} := by
    obtain ⟨widths, rfl⟩ := hreads
    exact h.flags
  rw [scan_dollar _ hflags, ← h.reads _ hinert, ← List.append_assoc, ← List.cons_append] at hscan
  have hbody : (st'.add (.anchor .lastLineEnd)).level.body
      = st.level.ended (sk.tree st.groups.count (.seq (.anchor .lastLineEnd) .empty)) := by
    obtain ⟨widths, rfl⟩ := hreads
    rw [Level.ended, ← Sketch.foldl_addTo]
    rfl
  unfold parse
  rw [hscan]
  simp only [finish_eq_ok_iff, hbody]
  obtain ⟨widths, rfl⟩ := hreads
  simp only [State.add, h.outer, true_and]

/-- **Something else in place of what ends a pattern.**  If a sketch behind a text is accepted,
another one with new names is accepted as well; and if that sketch matches the end of a path
wherever the first one does, the pattern matches what it matched before. -/
theorem State.Follows.exists_parse_sketch {text : List Char} {st : State} (h : st.Follows text)
    {sk sk' : Sketch} (hplain : sk.IsPlain) (hinert : Inert (sk.text ++ ['$']))
    (hplain' : sk'.IsPlain) (hinert' : Inert (sk'.text ++ ['$'])) (hnames : sk.names = [])
    (hnodup : (st.groups.names.map Prod.fst ++ sk'.names).Nodup)
    (hcount : sk.groupCount ≤ sk'.groupCount)
    (hstep : ∀ count, Widens (sk.step count · atEnd) (sk'.step count · atEnd)) {parsed : Parsed}
    (hparse : parse ('^' :: (text ++ sk.text) ++ ['$']) = .ok parsed) :
    ∃ parsed', parse ('^' :: (text ++ sk'.text) ++ ['$']) = .ok parsed' ∧
      ∀ path, (fullMatch? parsed.regex path).isSome → (fullMatch? parsed'.regex path).isSome := by
  have hnodup' : (st.groups.names.map Prod.fst ++ sk.names).Nodup := by
    rw [hnames, List.append_nil]
    exact h.nodup
  obtain ⟨hawaited, hfixed, rfl⟩ := (h.parse_sketch hplain hinert hnodup').mp hparse
  refine ⟨_, (h.parse_sketch hplain' hinert' hnodup).mpr ⟨fun entry hentry => ?_, hfixed, rfl⟩,
    fun path => ?_⟩
  · exact Nat.le_trans (hawaited entry hentry) (Nat.add_le_add_left hcount _)
  · have hwidens : Widens
        (run (sk.tree st.groups.count (.seq (.anchor .lastLineEnd) .empty)) · atEnd)
        (run (sk'.tree st.groups.count (.seq (.anchor .lastLineEnd) .empty)) · atEnd) := by
      intro t
      simp only [Sketch.run_ended]
      exact hstep _ t
    exact widens_branches (widens_items hwidens st.level.items) st.level.branches (.atStart path)

end RouteMatch.Pattern
