import RouteMatch.Proofs.Pattern.Ending

/-!
# The slashes at the end of a pattern

The group for the rest of a path is written in place of the slashes that a pattern ends with.
Where the pattern was accepted before, it is accepted with the group, and matches what it did:
the slashes of the path are taken by the group, or else by nothing.  But the slashes are dropped
as they are written.  If a backslash makes an escape of the first one, then what is left behind is
the backslash, which makes an escape of the parenthesis instead, and the pattern is refused.

## Main definitions

* `slashesSketch` — a number of slashes.
* `EndsInEscape` — the first one of the slashes at the end of a text is escaped.

## Main results

* `widens_slashesSketch` — the rest of a path matches what slashes match.
* `exists_parse_expandWildcard` — **a pattern with a group for the rest of the path is accepted,
  and matches what it did**.
* `parse_expandWildcard_escaped` — unless the slashes are escaped.
-/

namespace RouteMatch.Template

open Pattern

/-! ### What comes before a run of one character -/

/-- A text is what comes before the run of a character at its end, and the run. -/
theorem rdropWhile_append_replicate (c : Char) (text : List Char) :
    text.rdropWhile (· = c) ++ List.replicate (text.rtakeWhile (· = c)).length c = text := by
  have hrun : text.rtakeWhile (· = c) = List.replicate (text.rtakeWhile (· = c)).length c :=
    List.eq_replicate_iff.mpr ⟨rfl, fun d hd => by simpa using List.mem_rtakeWhile_imp hd⟩
  rw [← hrun]
  exact List.rdropWhile_append_rtakeWhile

theorem getLast?_rdropWhile_ne (c : Char) (text : List Char) :
    (text.rdropWhile (· = c)).getLast? ≠ some c := by
  intro hlast
  have hne : text.rdropWhile (· = c) ≠ [] := by
    intro hnil
    rw [hnil] at hlast
    exact absurd hlast (by simp)
  rw [List.getLast?_eq_some_getLast hne] at hlast
  have hnot := List.rdropWhile_last_not (· = c) text hne
  exact hnot (decide_eq_true (Option.some.inj hlast))

/-! ### Slashes -/

/-- The pattern of a number of slashes. -/
def slashesSketch : Nat → Sketch
  | 0 => .done
  | n + 1 => .char '/' (slashesSketch n)

@[simp] theorem text_slashesSketch (n : Nat) :
    (slashesSketch n).text = List.replicate n '/' := by
  induction n with
  | zero => rfl
  | succ n ih => rw [slashesSketch, Sketch.text, ih, List.replicate_succ]

@[simp] theorem names_slashesSketch (n : Nat) : (slashesSketch n).names = [] := by
  induction n with
  | zero => rfl
  | succ n ih => exact ih

@[simp] theorem groupCount_slashesSketch (n : Nat) : (slashesSketch n).groupCount = 0 := by
  induction n with
  | zero => rfl
  | succ n ih => exact ih

theorem isPlain_slashesSketch (n : Nat) : (slashesSketch n).IsPlain := by
  induction n with
  | zero => trivial
  | succ n ih => exact ⟨by decide, ih⟩

/-- A number of slashes matches itself at the end of a text. -/
theorem after_of_step_slashesSketch {n count : Nat} {t : Thread}
    (h : ((slashesSketch n).step count t atEnd).isSome) :
    t.cursor.after = List.replicate n '/' := by
  induction n generalizing t with
  | zero =>
    rw [slashesSketch, Sketch.step_done, atEnd] at h
    split at h
    · next hempty => exact List.isEmpty_iff.mp hempty
    · exact absurd h (by simp)
  | succ n ih =>
    rw [slashesSketch] at h
    cases hafter : t.cursor.after with
    | nil =>
      rw [Sketch.step_char_nil hafter] at h
      exact absurd h (by simp)
    | cons c rest =>
      rw [Sketch.step_char_cons hafter] at h
      split at h
      · next hc =>
        have hrest := ih h
        simp only [Cursor.after_forward, hafter, List.drop_succ_cons, List.drop_zero] at hrest
        rw [hc, hrest, List.replicate_succ]
      · exact absurd h (by simp)

/-- The rest of a path matches what slashes match. -/
theorem widens_slashesSketch (n : Nat) (name : List Char) (count : Nat) :
    Widens ((slashesSketch n).step count · atEnd)
      ((wildcardSketch (some name)).step count · atEnd) := by
  intro t h
  rw [isSome_step_wildcardSketch, after_of_step_slashesSketch h]
  cases n with
  | zero => rfl
  | succ n =>
    have hline : '\n' ∉ List.replicate n '/' := fun hmem =>
      absurd (List.eq_of_mem_replicate hmem) (by decide)
    rw [List.replicate_succ, wildcardTail, if_neg hline]
    rfl

/-! ### The rest of a path in place of slashes -/

/-- The slashes at the end of a text come behind a backslash that makes an escape of the first
one; if there are none, the backslash is the last character. -/
def EndsInEscape (text : List Char) : Prop :=
  ((stripSlashes text).rtakeWhile (· = '\\')).length % 2 = 1

instance (text : List Char) : Decidable (EndsInEscape text) :=
  inferInstanceAs (Decidable (_ = _))

/-- The backslashes before the slashes are pairs, if there is no such backslash. -/
theorem exists_stripSlashes_eq {text : List Char} (h : ¬EndsInEscape text) :
    ∃ front n, front.getLast? ≠ some '\\' ∧
      stripSlashes text = front ++ List.replicate (2 * n) '\\' := by
  obtain ⟨n, hn⟩ : ∃ n, ((stripSlashes text).rtakeWhile (· = '\\')).length = 2 * n := by
    refine ⟨((stripSlashes text).rtakeWhile (· = '\\')).length / 2, ?_⟩
    rw [EndsInEscape] at h
    omega
  refine ⟨_, n, getLast?_rdropWhile_ne '\\' (stripSlashes text), ?_⟩
  rw [← hn]
  exact (rdropWhile_append_replicate '\\' _).symm

/-- Otherwise they are pairs and the one. -/
theorem EndsInEscape.exists_stripSlashes_eq {text : List Char} (h : EndsInEscape text) :
    ∃ front n, front.getLast? ≠ some '\\' ∧
      stripSlashes text = front ++ List.replicate (2 * n) '\\' ++ ['\\'] := by
  obtain ⟨n, hn⟩ : ∃ n, ((stripSlashes text).rtakeWhile (· = '\\')).length = 2 * n + 1 := by
    refine ⟨((stripSlashes text).rtakeWhile (· = '\\')).length / 2, ?_⟩
    rw [EndsInEscape] at h
    omega
  refine ⟨_, n, getLast?_rdropWhile_ne '\\' (stripSlashes text), ?_⟩
  rw [List.append_assoc, ← List.replicate_succ', ← hn]
  exact (rdropWhile_append_replicate '\\' _).symm

/-- A text ends with the slashes that are dropped. -/
theorem exists_stripSlashes_append (text : List Char) :
    ∃ n, text = stripSlashes text ++ (slashesSketch n).text := by
  refine ⟨(text.rtakeWhile (· = '/')).length, ?_⟩
  rw [text_slashesSketch]
  exact (rdropWhile_append_replicate '/' text).symm

theorem idle_slashes (n : Nat) : Idle ((slashesSketch n).text ++ ['$']) := by
  rw [text_slashesSketch]
  exact (idle_replicate (by decide) n).append (idle_replicate (by decide) 1)

theorem expandWildcard_eq (text name : List Char) :
    expandWildcard text name = stripSlashes text ++ (wildcardSketch (some name)).text := by
  simp [expandWildcard, wildcardSketch, Sketch.text, Span.text]

section

variable {text name : List Char} {parsed : Parsed}
  (hparse : parse ('^' :: text ++ ['$']) = .ok parsed)
  (hname : isName name = true) (hnew : name ∉ parsed.names.map Prod.fst)

include hparse hname hnew

/-- **A pattern with a group for the rest of the path is accepted, and matches what it did**, if
no backslash makes an escape of the slashes at its end. -/
theorem exists_parse_expandWildcard (hescape : ¬EndsInEscape text) :
    ∃ parsed', parse ('^' :: expandWildcard text name ++ ['$']) = .ok parsed' ∧
      ∀ path, (fullMatch? parsed.regex path).isSome → (fullMatch? parsed'.regex path).isSome := by
  obtain ⟨front, n, hfront, hstrip⟩ := exists_stripSlashes_eq hescape
  obtain ⟨k, hk⟩ := exists_stripSlashes_append text
  have hidle : Idle ((slashesSketch k).text ++ ['$']) := idle_slashes k
  rw [hk] at hparse
  have hparse' : parse ('^' :: (stripSlashes text ++ ((slashesSketch k).text ++ ['$'])))
      = .ok parsed := by
    rw [← List.append_assoc]
    exact hparse
  -- The machine behind what is left of the pattern.
  obtain ⟨st, hst⟩ : ∃ st : State, st.Follows (stripSlashes text) := by
    rw [hstrip] at hparse' ⊢
    exact exists_follows hidle hfront hparse'
  have hnodup : (st.groups.names.map Prod.fst ++ (wildcardSketch (some name)).names).Nodup := by
    rw [names_wildcardSketch]
    exact hst.nodup_concat hidle.inert hparse' hnew
  have hplain : (wildcardSketch (some name)).IsPlain :=
    isPlain_wildcardSketch fun w hw => Option.some.inj hw ▸ hname
  rw [expandWildcard_eq]
  refine hst.exists_parse_sketch (isPlain_slashesSketch k) hidle.inert hplain
    (inert_cons (by decide) _) (names_slashesSketch k) hnodup ?_ (widens_slashesSketch k name) hparse
  rw [groupCount_slashesSketch]
  exact Nat.zero_le _

/-- **The pattern is refused if the slashes at its end are escaped**: the backslash makes an
escape of the parenthesis that opens the group, and the one that closes it closes nothing. -/
theorem parse_expandWildcard_escaped (hescape : EndsInEscape text) :
    ∃ position, parse ('^' :: expandWildcard text name ++ ['$'])
      = .error (.at position .unbalanced) := by
  obtain ⟨front, n, hfront, hstrip⟩ := hescape.exists_stripSlashes_eq
  obtain ⟨k, hk⟩ := exists_stripSlashes_append text
  let before := front ++ List.replicate (2 * n) '\\'
  have hidle : Idle ('\\' :: ((slashesSketch k).text ++ ['$'])) :=
    idle_cons.mpr ⟨by decide, idle_slashes k⟩
  have hparse' : parse ('^' :: (before ++ '\\' :: ((slashesSketch k).text ++ ['$'])))
      = .ok parsed := by
    rw [hk, hstrip] at hparse
    simpa [before] using hparse
  -- The machine behind the pairs of backslashes.
  obtain ⟨st, hst⟩ : ∃ st : State, st.Follows before := exists_follows hidle hfront hparse'
  let inner := Sketch.char '/' (.span name .rest .done)
  have hplain : inner.IsPlain := ⟨by decide, hname, trivial⟩
  have htext : '^' :: expandWildcard text name ++ ['$']
      = '^' :: (before ++ '\\' :: '(' :: (inner.text ++ [')', '?', '$'])) := by
    simp [expandWildcard, hstrip, before, inner, Sketch.text, Span.text]
  -- The escape, and the text of the group up to the parenthesis that closes it.
  let st₁ := st.add (.single (.char (.code '('.toNat) .exact))
  obtain ⟨st₂, hreads, hinner⟩ := State.scan_text hplain (1 + before.length + 2)
    [')', '?', '$'] st₁ hst.flags (hst.nodup_concat hidle.inert hparse' hnew) rfl
  have hread : Lexeme.read {} (1 + before.length) '\\' (['('] ++ (inner.text ++ [')', '?', '$']))
      = .ok (.test (.code '('.toNat), 1) := rfl
  have hescaped : st.scan (1 + before.length) ('\\' :: '(' :: (inner.text ++ [')', '?', '$'])) 0
      = st₁.scan (1 + before.length + 2) (inner.text ++ [')', '?', '$']) 0 :=
    State.scan_lexeme st₁ hst.flags hread (by simp [st₁, State.step, Flags.fold, hst.flags])
  have houter : st₂.outer = [] ∧ st₂.level.flags = {} := by
    obtain ⟨widths, rfl⟩ := hreads
    exact ⟨hst.outer, hst.flags⟩
  refine ⟨1 + before.length + 2 + inner.text.length, ?_⟩
  rw [htext, parse, hst.reads _ (inert_cons (by decide) _), hescaped, hinner,
    State.scan_unbalanced _ _ houter.1 houter.2]

end

end RouteMatch.Template
