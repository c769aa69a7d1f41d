import Mathlib.Data.List.Chain
import RouteMatch.Proofs.Template.Walk

/-!
# Optional groups anywhere in a template

An optional group is written as groups inside one another, so that a later name comes
only with the earlier ones.  At the front of a template its first name stands outside of
the others: there it is passed over, and a later one taken, where two slashes follow each
other.  Both shapes are sketches, and what they capture is told for every search that
succeeds, whatever comes next in it.

## Main definitions

* `groupSketch` — the pattern of an optional group.
* `IsInitial` — of several groups the first ones have captured something.

## Main results

* `exists_of_step_groupSketch` — **what an optional group captures** in a search that
  succeeds.
-/

namespace RouteMatch.Pattern

/-! ### Searches that succeed -/

namespace Sketch

variable {after : Sketch} {count : Nat} {t v : Thread} {next : Next}

theorem exists_of_step_char {c : Char} (h : (Sketch.char c after).step count t next = some v) :
    ∃ rest, t.cursor.after = c :: rest ∧
      after.step count { t with cursor := t.cursor.forward 1 } next = some v := by
  cases hafter : t.cursor.after with
  | nil =>
    rw [step_char_nil hafter] at h
    exact absurd h (by simp)
  | cons d rest =>
    rw [step_char_cons hafter] at h
    split at h
    · next hd => exact ⟨rest, by rw [hd], h⟩
    · exact absurd h (by simp)

theorem exists_of_step_span {name : List Char} {kind : Span}
    (h : (Sketch.span name kind after).step count t next = some v) :
    ∃ n, after.step (count + 1) (t.capture (count + 1) n) next = some v := by
  rw [step_span_eq] at h
  obtain ⟨n, -, hn⟩ := List.exists_of_findSome?_eq_some h
  exact ⟨n, hn⟩

end Sketch

end RouteMatch.Pattern

namespace RouteMatch.Template

open Pattern

/-! ### The pattern of an optional group -/

/-- The pattern of an optional group.  At the front of a template the first name follows
a slash that is not optional, and the other names do not depend on it. -/
def groupSketch : (atFront : Bool) → List (List Char) → Sketch
  | true, first :: rest =>
    .char '/' (.optional (.span first .segment .done) (chainSketch rest))
  | _, names => chainSketch names

theorem text_groupSketch {tokens : Entries String Value} {names : List (List Char)}
    (h : HasDefaults tokens names) (atFront : Bool) :
    (groupSketch atFront names).text = (Part.group names).pattern tokens atFront := by
  cases names with
  | nil => cases atFront <;> rfl
  | cons first rest =>
    cases atFront with
    | false => exact text_chainSketch h
    | true =>
      have hbody := h first List.mem_cons_self
      have hrest := text_chainSketch fun n hn => h n (List.mem_cons_of_mem _ hn)
      simp [groupSketch, Sketch.text, Span.text, Part.pattern, hrest, hbody]

@[simp] theorem names_groupSketch (atFront : Bool) (names : List (List Char)) :
    (groupSketch atFront names).names = names := by
  cases names with
  | nil => cases atFront <;> rfl
  | cons first rest =>
    cases atFront with
    | false => exact names_chainSketch (first :: rest)
    | true => simp [groupSketch, Sketch.names]

theorem isPlain_groupSketch (atFront : Bool) {names : List (List Char)}
    (h : names.all isName = true) : (groupSketch atFront names).IsPlain := by
  cases names with
  | nil => cases atFront <;> trivial
  | cons first rest =>
    cases atFront with
    | false => exact isPlain_chainSketch h
    | true =>
      rw [List.all_cons, Bool.and_eq_true] at h
      exact ⟨by decide, ⟨h.1, trivial⟩, isPlain_chainSketch h.2⟩

/-! ### The names that have captured something -/

/-- Of several groups the first ones have captured something, and the others have not. -/
def IsInitial (found : List (Option (List Char))) : Prop :=
  found.IsChain fun earlier later => later.isSome → earlier.isSome

theorem isInitial_cons_padded {head : Option (List Char)} {segments : List (List Char)}
    (h : segments ≠ [] → head.isSome) (count : Nat) :
    IsInitial (head :: padded count segments) := by
  induction segments generalizing head count with
  | nil =>
    refine List.isChain_cons.mpr ⟨fun later hlater hsome => ?_, List.isChain_replicate_of_rel _ id⟩
    have hnone : later = none := List.eq_of_mem_replicate (List.mem_of_mem_head? hlater)
    exact absurd hsome (by simp [hnone])
  | cons segment rest ih =>
    have hrest : IsInitial (some segment :: padded (count - 1) rest) := ih (fun _ => rfl) _
    have hpadded : padded count (segment :: rest) = some segment :: padded (count - 1) rest := by
      have hcount : count - (rest.length + 1) = count - 1 - rest.length := by omega
      simp [padded, hcount]
    rw [hpadded]
    exact List.isChain_cons_cons.mpr ⟨fun _ => h (List.cons_ne_nil _ _), hrest⟩

theorem isInitial_padded (count : Nat) (segments : List (List Char)) :
    IsInitial (padded count segments) :=
  have hcons : IsInitial (some [] :: padded count segments) :=
    isInitial_cons_padded (fun _ => rfl) count
  hcons.tail

/-! ### What an optional group captures -/

section

variable {count : Nat} {t v : Thread} {next : Next}

/-- The first names of nested optional groups take segments, however many. -/
theorem exists_of_step_chainSketch {names : List (List Char)} (hfresh : Fresh count t)
    (h : (chainSketch names).step count t next = some v) :
    ∃ u segments, next u = some v ∧
      Fills (chainSketch names) count (padded names.length segments) t u ∧
      (segments ≠ [] → ['/'] <+: t.cursor.after) := by
  induction names generalizing count t next with
  | nil => exact ⟨t, [], h, Fills.done count t, fun hne => absurd rfl hne⟩
  | cons name rest ih =>
    rw [chainSketch, Sketch.step_optional] at h
    rcases Option.or_eq_some_iff.mp h with h | ⟨-, h⟩
    · -- The group is entered: a slash, the name, and the groups inside.
      obtain ⟨text, hafter, h⟩ := Sketch.exists_of_step_char h
      let t' : Thread := { t.openGroup (count + 1) with cursor := t.cursor.forward 1 }
      obtain ⟨n, h⟩ := Sketch.exists_of_step_span (t := t') h
      have hfills := (Fills.char '/' (count + 1) (t.openGroup (count + 1))
        (t.cursor.forward 1)).append (Fills.span name .segment (count + 1) n t')
      obtain ⟨u, segments, hu, hfills', -⟩ := ih (hfills.fresh hfresh.openGroup) h
      have hall := (hfills.append hfills').entered
      refine ⟨u.closeGroup (count + 1), t'.cursor.after.take n :: segments, hu, ?_,
        fun _ => ⟨text, hafter.symm⟩⟩
      simpa [padded, chainSketch, Sketch.append] using hall
    · have hskipped : Fills (chainSketch (name :: rest)) count
          (List.replicate (chainSketch (name :: rest)).names.length none) t t :=
        Fills.skipped hfresh
      rw [names_chainSketch] at hskipped
      exact ⟨t, [], h, by simpa [padded] using hskipped, fun hne => absurd rfl hne⟩

/-- At the front of a template the first name is passed over, and others take segments, only
where two slashes follow each other. -/
theorem exists_of_step_groupSketch_front {first : List Char} {rest : List (List Char)}
    (hfresh : Fresh count t) (h : (groupSketch true (first :: rest)).step count t next = some v) :
    ∃ u head segments, next u = some v ∧
      Fills (groupSketch true (first :: rest)) count (head :: padded rest.length segments) t u ∧
      (head = none → segments ≠ [] → ['/', '/'] <+: t.cursor.after) := by
  obtain ⟨text, hafter, h⟩ := Sketch.exists_of_step_char h
  let t' : Thread := { t with cursor := t.cursor.forward 1 }
  have hfresh' : Fresh count t' := hfresh
  have hslash : Fills (.char '/' .done) count [] t t' := Fills.char '/' count t _
  rw [Sketch.step_optional] at h
  rcases Option.or_eq_some_iff.mp h with h | ⟨-, h⟩
  · obtain ⟨n, h⟩ := Sketch.exists_of_step_span h
    have hhead := (Fills.span first .segment (count + 1) n (t'.openGroup (count + 1))).entered
    obtain ⟨u, segments, hu, hfills, -⟩ := exists_of_step_chainSketch (hhead.fresh hfresh') h
    exact ⟨u, _, segments, hu, (hslash.append hhead).append hfills, fun hnone => by simp at hnone⟩
  · have hhead : Fills (.optional (.span first .segment .done) .done) count [none] t' t' :=
      Fills.skipped hfresh'
    obtain ⟨u, segments, hu, hfills, hslash'⟩ :=
      exists_of_step_chainSketch (hhead.fresh hfresh') h
    refine ⟨u, none, segments, hu, (hslash.append hhead).append hfills, fun _ hne => ?_⟩
    obtain ⟨rest, hrest⟩ := hslash' hne
    refine ⟨rest, ?_⟩
    have htext : '/' :: rest = text := by simpa [t', hafter] using hrest
    rw [hafter, ← htext]
    rfl

/-- **What an optional group captures** in a search that succeeds: its first names have
captured segments, and the others nothing.  At the front of a template the very first may
have captured nothing where two slashes follow each other. -/
theorem exists_of_step_groupSketch {atFront : Bool} {names : List (List Char)}
    (hfresh : Fresh count t) (h : (groupSketch atFront names).step count t next = some v) :
    ∃ u found, next u = some v ∧ Fills (groupSketch atFront names) count found t u ∧
      IsInitial found.tail ∧
      (atFront = false ∨ ¬['/', '/'] <+: t.cursor.after → IsInitial found) := by
  have hchain : groupSketch atFront names = chainSketch names →
      ∃ u found, next u = some v ∧ Fills (groupSketch atFront names) count found t u ∧
        IsInitial found.tail ∧
        (atFront = false ∨ ¬['/', '/'] <+: t.cursor.after → IsInitial found) := by
    intro heq
    rw [heq] at h ⊢
    obtain ⟨u, segments, hu, hfills, -⟩ := exists_of_step_chainSketch hfresh h
    have hinitial := isInitial_padded names.length segments
    exact ⟨u, _, hu, hfills, hinitial.tail, fun _ => hinitial⟩
  cases names with
  | nil => exact hchain (by cases atFront <;> rfl)
  | cons first rest =>
    cases atFront with
    | false => exact hchain rfl
    | true =>
      obtain ⟨u, head, segments, hu, hfills, hslashes⟩ := exists_of_step_groupSketch_front hfresh h
      refine ⟨u, _, hu, hfills, isInitial_padded rest.length segments, fun hplace => ?_⟩
      refine isInitial_cons_padded (fun hne => ?_) rest.length
      have hsingle := hplace.resolve_left (by decide)
      cases head with
      | none => exact absurd (hslashes rfl hne) hsingle
      | some segment => rfl

end

end RouteMatch.Template
