import RouteMatch.Proofs.Pattern.Captures
import RouteMatch.Proofs.Template.Bodies

/-!
# Sketches within patterns

A sketch may stand between texts of other kinds: what is before it and after it need only
pass.  In an accepted pattern it is read as its tree all the same, with groups of its own,
and a match of the pattern has come through a match of that tree.  What the groups of the
sketch captured there, they have captured in the end.

## Main definitions

* `Embeds` — a parsed pattern has the tree of a sketch in it.

## Main results

* `State.exists_reads_of_scan` — a sketch in an accepted text.
* `exists_embeds_of_parse` — **a sketch between texts that pass.**
* `Embeds.exists_of_fullMatch?` — the match of a sketch within the match of a pattern.
-/

namespace RouteMatch.Pattern

open Template

/-! ### Sketches in accepted texts -/

namespace State

variable {sk : Sketch} {position : Nat} {rest : List Char} {st final : State}

/-- The names of a sketch in an accepted text are new. -/
theorem nodup_of_scan (h : st.scan position (sk.text ++ rest) 0 = .ok final)
    (hplain : sk.IsPlain) (hflags : st.level.flags = {})
    (hnodup : (st.groups.names.map Prod.fst).Nodup) (hrest : readMode rest = (.greedy, 0)) :
    (st.groups.names.map Prod.fst ++ sk.names).Nodup := by
  induction sk generalizing position rest st with
  | done => simpa [Sketch.names] using hnodup
  | char c next ih =>
    obtain ⟨hc, hnext⟩ := hplain
    let st₁ := st.add (.single (.char (.code c.toNat) .exact))
    have hstep : st.scan position (c :: (next.text ++ rest)) 0
        = st₁.scan (position + 1) (next.text ++ rest) 0 :=
      scan_one st₁ hflags (read_of_isPlain hc position (next.text ++ rest))
        (by simp [st₁, State.step, Flags.fold, hflags])
    have hnames := ih (hstep.symm.trans h) hnext hflags hnodup hrest
    exact hnames
  | span name kind next ih =>
    obtain ⟨hname, hnext⟩ := hplain
    rw [Sketch.text, List.append_assoc] at h
    have htext : namedGroup name kind.text ++ (next.text ++ rest)
        = "(?P<".toList ++ name ++ '>' :: (kind.text ++ ')' :: (next.text ++ rest)) := by
      simp [namedGroup]
    obtain ⟨hgrows, -⟩ := exists_inside_of_scan hname hflags (htext ▸ h)
    have hopened := hgrows.nodup hnodup
    simp only [Groups.openNext, List.map_append, List.map_cons, List.map_nil] at hopened
    have hnew : name ∉ st.groups.names.map Prod.fst := fun hmem =>
      (List.nodup_append.mp hopened).2.2 _ hmem _ List.mem_cons_self rfl
    rw [scan_namedGroup hname kind hflags hnew] at h
    have hnames := ih h hnext hflags
      (by simpa [afterGroup, State.add, Groups.close, Groups.openNext] using hopened) hrest
    simpa [afterGroup, State.add, Groups.close, Groups.openNext, Sketch.names] using hnames
  | optional body next ihb ihn =>
    obtain ⟨hbody, hnext⟩ := hplain
    let index := st.groups.count + 1
    have htext : (Sketch.optional body next).text ++ rest
        = '(' :: (body.text ++ ')' :: '?' :: (next.text ++ rest)) := by simp [Sketch.text]
    rw [htext] at h
    have hopen : st.scan position ('(' :: (body.text ++ ')' :: '?' :: (next.text ++ rest))) 0
        = (st.inside position index [] (st.groups.openNext none)).scan (position + 1)
            (body.text ++ ')' :: '?' :: (next.text ++ rest)) 0 :=
      scan_open hflags (readMode_text hbody rfl)
    have hnames := ihb (hopen.symm.trans h) hbody rfl hnodup rfl
    -- The group is read, and its names are among those before what comes next.
    obtain ⟨_, ⟨widths, rfl⟩, hinner⟩ := scan_text hbody (position + 1)
      (')' :: '?' :: (next.text ++ rest))
      (st.inside position index [] (st.groups.openNext none)) rfl hnames rfl
    rw [scan_optionalGroup hbody hflags (readMode_text hnext hrest) hinner] at h
    have hall := ihn h hnext hflags
      (by simpa [afterGroup, inside, State.add, Groups.close, Groups.openNext] using hnames) hrest
    simpa [afterGroup, inside, State.add, Groups.close, Groups.openNext, Sketch.names] using hall

/-- A sketch in an accepted text adds its items to the level it stands in. -/
theorem exists_reads_of_scan (h : st.scan position (sk.text ++ rest) 0 = .ok final)
    (hplain : sk.IsPlain) (hflags : st.level.flags = {})
    (hnodup : (st.groups.names.map Prod.fst).Nodup) (hrest : readMode rest = (.greedy, 0)) :
    ∃ stop st', st.Reads sk st' ∧ (st'.groups.names.map Prod.fst).Nodup ∧
      st'.scan stop rest 0 = .ok final := by
  have hnames := nodup_of_scan h hplain hflags hnodup hrest
  obtain ⟨st', ⟨widths, rfl⟩, hscan⟩ := scan_text hplain position rest st hflags hnames hrest
  exact ⟨_, _, ⟨widths, rfl⟩, by simpa using hnames, hscan.symm.trans h⟩

end State

/-! ### Sketches in parsed patterns -/

/-- A parsed pattern has the tree of a sketch in it, after some items and some groups, and
the tail of the tree has other groups. -/
structure Embeds (parsed : Parsed) (sk : Sketch) (items : List Item) (count : Nat)
    (tail : Regex) : Prop where
  regex : parsed.regex = .seq (.anchor .textStart)
    (items.foldl (fun rest item => .seq item.node rest) (sk.tree count tail))
  before : ∀ item ∈ items, ∀ i ∈ item.node.groups, i ≤ count
  after : ∀ i ∈ tail.groups, count + sk.groupCount < i
  named : sk.named count ⊆ parsed.names
  nodup : (parsed.names.map Prod.fst).Nodup

/-- The tree of a sketch among other items, between the anchors of a pattern. -/
theorem exists_embeds_of_added {sk : Sketch} {st₁ st₂ st₃ : State}
    (hbefore : (State.initial.add (.anchor .textStart)).Added st₁) (hreads : st₁.Reads sk st₂)
    (hnodup : (st₂.groups.names.map Prod.fst).Nodup) (hafter : st₂.Added st₃) :
    ∃ items count tail,
      Embeds ⟨(st₃.add (.anchor .lastLineEnd)).level.body, st₃.groups.count, st₃.groups.names⟩
        sk items count tail ∧
      (st₁ = State.initial.add (.anchor .textStart) → items = []) := by
  obtain ⟨widths, rfl⟩ := hreads
  obtain ⟨items, hlevel, hitems⟩ := hbefore.level
  obtain ⟨items', hlevel', hitems'⟩ := hafter.level
  let count := st₁.groups.count
  let tail : Regex := items'.foldl (fun rest item => .seq item.node rest)
    (.seq (.anchor .lastLineEnd) .empty)
  refine ⟨items, count, tail, ⟨?_, ?_, ?_, ?_, ?_⟩, fun hnil => ?_⟩
  · -- The items of the pattern, the last one first.
    have hall : st₃.level.items
        = items' ++ sk.addTo count (items ++ [.anchor .textStart]) := by
      rw [hlevel', hlevel]
      rfl
    have hbranches : st₃.level.branches = [] := by
      rw [hlevel', hlevel]
      rfl
    simp only [State.add, Level.add, Level.body, Level.branch, hbranches, hall, List.foldl_nil]
    rw [List.foldl_cons, List.foldl_append, Sketch.foldl_addTo, List.foldl_append]
    rfl
  · exact fun item hitem i hi => (hitems item hitem i hi).2
  · intro i hi
    rcases mem_groups_foldl_seq.mp hi with hi | hi
    · obtain ⟨item, hitem, hi⟩ := List.mem_flatMap.mp hi
      exact (hitems' item hitem i hi).1
    · exact absurd hi (by simp [Regex.groups])
  · obtain ⟨more, hmore⟩ := hafter.groups.names
    intro entry hentry
    rw [hmore]
    exact List.mem_append_left _ (List.mem_append_right _ hentry)
  · exact hafter.groups.nodup hnodup
  · rw [hnil] at hlevel
    exact List.self_eq_append_left.mp (congrArg Level.items hlevel)

/-- **A sketch between texts that pass** is read as its tree, at the beginning of the pattern
if nothing is before it. -/
theorem exists_embeds_of_parse {front back : List Char} {bodies others : List (List Char)}
    {sk : Sketch} {parsed : Parsed} (hfront : Passes front bodies) (hplain : sk.IsPlain)
    (hback : Passes back others)
    (h : parse ('^' :: (front ++ sk.text ++ back) ++ ['$']) = .ok parsed) :
    ∃ items count tail, Embeds parsed sk items count tail ∧ (front = [] → items = []) := by
  obtain ⟨final, hscan, -, rfl⟩ := exists_scan_of_parse h
  rw [List.cons_append, State.scan_caret] at hscan
  let st := State.initial.add (.anchor .textStart)
  have hrest : readMode (back ++ ['$']) = (.greedy, 0) := hback.mode _ rfl
  -- The text before the sketch, which may be empty.
  obtain ⟨stop, st₁, hbefore, hempty, hscan⟩ : ∃ stop st₁, st.Added st₁ ∧
      (front = [] → st₁ = st) ∧ st₁.scan stop (sk.text ++ (back ++ ['$'])) 0 = .ok final := by
    by_cases hnil : front = []
    · subst hnil
      exact ⟨1, st, .refl st, fun _ => rfl, by simpa using hscan⟩
    · obtain ⟨-, stop, st₁, hbefore, hscan⟩ := hfront.reads 1 (sk.text ++ (back ++ ['$'])) st final
        rfl (readMode_text hplain hrest) (by simpa using hscan)
      exact ⟨stop, st₁, hbefore, fun h => absurd h hnil, hscan⟩
  -- The sketch, the text after it and the last anchor.
  have hnodup : (st₁.groups.names.map Prod.fst).Nodup := hbefore.groups.nodup List.nodup_nil
  obtain ⟨stop, st₂, hreads, hnodup, hscan⟩ :=
    State.exists_reads_of_scan hscan hplain hbefore.flags hnodup hrest
  have hflags : st₂.level.flags = {} := by
    obtain ⟨widths, rfl⟩ := hreads
    exact hbefore.flags
  obtain ⟨-, stop, st₃, hafter, hscan⟩ := hback.reads stop ['$'] st₂ final hflags rfl hscan
  rw [State.scan_dollar stop (hafter.flags.trans hflags)] at hscan
  obtain rfl := Except.ok.inj hscan
  obtain ⟨items, count, tail, hembeds, hnil⟩ :=
    exists_embeds_of_added hbefore hreads hnodup hafter
  exact ⟨items, count, tail, hembeds, fun hfront => hnil (hempty hfront)⟩

namespace Embeds

variable {parsed : Parsed} {sk : Sketch} {items : List Item} {count : Nat} {tail : Regex}

/-- A match of the pattern has come through a match of the sketch.  That began with no
captures for the groups of the sketch, and what they captured has stayed. -/
theorem exists_of_fullMatch? (h : Embeds parsed sk items count tail) {text : List Char}
    {v : Thread} (hmatch : fullMatch? parsed.regex text = some v) :
    ∃ (t : Thread) (next : Next), sk.step count t next = some v ∧ Fresh count t ∧
      (items = [] → t.cursor = .atStart text) ∧
      ∀ u, next u = some v → ∀ i, i ≤ count + sk.groupCount → v.captured? i = u.captured? i := by
  rw [fullMatch?, h.regex, run, run, if_pos (by rfl)] at hmatch
  obtain ⟨t, ht, hempty, hagree⟩ := exists_of_run_items hmatch
  rw [Sketch.run_tree] at ht
  refine ⟨t, _, ht, fun i hi => ?_, fun hnil => by rw [hempty hnil]; rfl, fun u hu i hi => ?_⟩
  · have hkept := hagree i fun item hitem hmem => by
      have hle := h.before item hitem i hmem
      omega
    exact hkept.trans (fresh_atStart text i (by omega))
  · obtain ⟨w, hw, hagree⟩ := keeps_run tail u _ v hu
    split at hw
    · obtain rfl := Option.some.inj hw
      refine hagree i fun hmem => ?_
      have hlt := h.after i hmem
      omega
    · exact absurd hw (by simp)

end Embeds

end RouteMatch.Pattern
