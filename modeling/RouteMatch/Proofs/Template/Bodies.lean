import RouteMatch.Proofs.Pattern.Standalone
import RouteMatch.Proofs.Template.Outline

/-!
# Reading the patterns of tokens in a template

A template whose text stands for itself is read part by part, whatever patterns its
tokens have, as long as these are confined: a character becomes an item, and a token
becomes one capturing group with all that is in it.  So if the pattern of a template is
accepted, the machine has read the pattern of each token inside its group.

## Main definitions

* `State.Added` — items have been added to a level, and nothing else has changed.
* `Reached` — the machine has come to a text inside a capturing group.
* `Passes` — a text adds items wherever it stands in an accepted pattern, and the
  machine comes to the patterns of its tokens.

## Main results

* `Passes.token`, `Passes.optional`, `Passes.append` — the texts that pass.
* `passes_transcription` — **the pattern of a template passes**, if the patterns of its
  tokens are confined.
-/

namespace RouteMatch.Pattern

open Template

/-! ### Items that are added -/

/-- From the first state to the second, items have been added to the innermost level,
whose groups are new. -/
structure State.Added (st st' : State) : Prop where
  outer : st'.outer = st.outer
  level : ∃ items, st'.level = { st.level with items := items ++ st.level.items } ∧
    ∀ item ∈ items, ∀ i ∈ item.node.groups, st.groups.count < i ∧ i ≤ st'.groups.count
  groups : st.groups.Grows st'.groups

namespace State.Added

variable {st st' st'' : State}

theorem refl (st : State) : st.Added st :=
  ⟨rfl, ⟨[], rfl, fun _ h => absurd h List.not_mem_nil⟩, .refl _⟩

theorem trans (h : st.Added st') (h' : st'.Added st'') : st.Added st'' := by
  obtain ⟨items, hlevel, hitems⟩ := h.level
  obtain ⟨items', hlevel', hitems'⟩ := h'.level
  have hcount := h.groups.count
  have hcount' := h'.groups.count
  refine ⟨h'.outer.trans h.outer, ⟨items' ++ items, by rw [hlevel', hlevel, List.append_assoc],
    fun item hitem i hi => ?_⟩, h.groups.trans h'.groups⟩
  rcases List.mem_append.mp hitem with hitem | hitem
  · have hi := hitems' item hitem i hi
    omega
  · have hi := hitems item hitem i hi
    omega

theorem flags (h : st.Added st') : st'.level.flags = st.level.flags := by
  obtain ⟨items, hlevel, -⟩ := h.level
  rw [hlevel]

/-- An item without groups. -/
theorem add {item : Item} (h : item.node.groups = []) : st.Added (st.add item) := by
  refine ⟨rfl, ⟨[item], rfl, fun item' hitem' i hi => ?_⟩, .refl _⟩
  obtain rfl := List.mem_singleton.mp hitem'
  rw [h] at hi
  exact absurd hi List.not_mem_nil

/-- Items that are added to the level of a new group without a name have groups of their
own. -/
theorem within {start : Nat} {last : State}
    (h : (st.inside start (st.groups.count + 1) [] (st.groups.openNext none)).Added last) :
    last.level.Within st.groups.count last.groups.count := by
  obtain ⟨items, hlevel, hitems⟩ := h.level
  have hcount := h.groups.count
  rw [hlevel]
  constructor
  · intro i hi
    simp only [Level.groups, State.inside, List.flatMap_nil, List.nil_append, List.append_nil,
      List.mem_flatMap] at hi
    obtain ⟨item, hitem, hi⟩ := hi
    have hbounds := hitems item hitem i hi
    simp only [State.inside, Groups.openNext] at hbounds
    omega
  · intro i hi
    obtain rfl := Opening.capture.inj hi
    simp only [State.inside, Groups.openNext] at hcount
    omega

end State.Added

/-! ### Lexemes of an accepted text -/

namespace State

variable {st final : State} {position : Nat} {rest : List Char}

/-- A lexeme of an accepted text has an effect, after which the machine goes on. -/
theorem exists_step_of_scan {c : Char} {used : List Char} {lexeme : Lexeme}
    (h : st.scan position (c :: used ++ rest) 0 = .ok final)
    (hread : Lexeme.read st.level.flags position c (used ++ rest) = .ok (lexeme, used.length)) :
    ∃ stop st', st.step position (position + 1 + used.length) lexeme = .ok st' ∧
      st'.scan stop rest 0 = .ok final := by
  rw [List.cons_append, scan, hread] at h
  simp only [] at h
  split at h
  · exact absurd h (by simp)
  · next st' hstep =>
    rw [scan_skip] at h
    exact ⟨_, st', hstep, h⟩

/-- The opening of a group with a name in an accepted text. -/
theorem exists_inside_of_scan {name : List Char} (hname : isName name = true)
    (hflags : st.level.flags = {})
    (h : st.scan position ("(?P<".toList ++ name ++ '>' :: rest) 0 = .ok final) :
    st.groups.Grows (st.groups.openNext (some name)) ∧
      ∃ stop, (st.inside position (st.groups.count + 1) [] (st.groups.openNext (some name))).scan
        stop rest 0 = .ok final := by
  have hlookup : st.groups.names.lookup name = none := by
    have htext : "(?P<".toList ++ name ++ '>' :: rest
        = '(' :: ("?P<".toList ++ name ++ ['>']) ++ rest := by simp
    rw [htext] at h
    obtain ⟨stop, st', hstep, -⟩ := exists_step_of_scan h
      (hflags ▸ read_namedGroup hname position rest)
    simp only [step, openCapture] at hstep
    split at hstep
    · exact absurd hstep (by simp)
    · next hlookup => exact hlookup
  rw [scan_openNamed hname hflags (lookup_eq_none_iff.mp hlookup)] at h
  have hopens : Opens st.groups (.capture (st.groups.count + 1))
      (st.groups.openNext (some name)) :=
    .capture (some name) fun n hn => Option.some.inj hn ▸ hlookup
  exact ⟨hopens.grows, _, h⟩

/-- The end of a group in an accepted text: the level inside becomes an item of the level
around. -/
theorem exists_item_of_scan {last : State} (houter : last.outer = st.level :: st.outer)
    (hflags : last.level.flags = {})
    (hwithin : last.level.Within st.groups.count last.groups.count)
    (hgrows : st.groups.Grows last.groups)
    (h : last.scan position (')' :: rest) 0 = .ok final) :
    ∃ (stop : Nat) (st' : State) (node : Regex), st'.level = st.level.add (.single node) ∧
      st'.outer = st.outer ∧ (∀ i ∈ node.groups, st.groups.count < i ∧ i ≤ st'.groups.count) ∧
      st.groups.Grows st'.groups ∧ st'.scan stop rest 0 = .ok final := by
  have hread : Lexeme.read last.level.flags position ')' ([] ++ rest) = .ok (.close, 0) := by
    rw [hflags]
    simp [Lexeme.read]
  obtain ⟨stop, st', hstep, hgoes⟩ := exists_step_of_scan h hread
  cases step_cases hstep with
  | kept nest => exact absurd (nest []) (by simp [Lexeme.nest])
  | opened nest => exact absurd (nest [last.level.flags] rfl) (by simp [Lexeme.nest])
  | @closed next outer node widths limit fixed around groups =>
    obtain ⟨rfl, rfl⟩ := List.cons.inj (houter.symm.trans around)
    have hnode : ∀ i ∈ node.groups, st.groups.count < i ∧ i ≤ last.groups.count := by
      intro i hi
      exact (groups i hi).elim (hwithin.groups i) (hwithin.opening i)
    refine ⟨stop, _, node, ?_, ?_, ?_, ?_, hgoes⟩
    · rfl
    · rfl
    · exact hnode
    · exact hgrows.widths widths

/-- A question mark in an accepted text makes the last item optional. -/
theorem exists_optional_of_scan {node : Regex} {items : List Item}
    (hitems : st.level.items = .single node :: items) (hflags : st.level.flags = {})
    (hrest : readMode rest = (.greedy, 0)) (h : st.scan position ('?' :: rest) 0 = .ok final) :
    ∃ stop, { st with level := { st.level with
      items := .repeated (.repeated .greedy 0 (some 1) node) :: items } }.scan stop rest 0
        = .ok final := by
  have hread : Lexeme.read st.level.flags position '?' ([] ++ rest)
      = .ok (.quantifier .greedy 0 (some 1), 0) := by
    rw [hflags]
    simp [Lexeme.read, readQuantifier, hrest]
  obtain ⟨stop, st', hstep, hgoes⟩ := exists_step_of_scan h hread
  simp only [State.step, State.repeatLast, hitems] at hstep
  obtain rfl := Except.ok.inj hstep
  exact ⟨stop, hgoes⟩

/-- A confined text at the beginning of a group of an accepted text adds an item to the
level around the group. -/
theorem exists_added_of_scan {body : List Char} (hbody : Confined body) {start : Nat}
    {name : Option (List Char)} (hopens : st.groups.Grows (st.groups.openNext name))
    (h : (st.inside start (st.groups.count + 1) [] (st.groups.openNext name)).scan position
      (body ++ ')' :: rest) 0 = .ok final) :
    ∃ stop st', st.Added st' ∧ st'.scan stop rest 0 = .ok final := by
  obtain ⟨lexemes, hlexemes⟩ := Option.isSome_iff_exists.mp hbody
  have hinside := st.encloses_inside name start
  rw [scan_lexemes (closing_cons rest) hlexemes (Nat.zero_le _) hinside
    (Or.inl (List.cons_ne_nil _ _))] at h
  obtain ⟨last, hsteps, hscan⟩ := bind_eq_ok h
  obtain ⟨⟨hlow, hlevels⟩, hgrows⟩ := steps_encloses hsteps (nested_of_lexemesFrom hlexemes)
    hinside (Or.inl (List.cons_ne_nil _ _))
  -- The level that the text stands in is the innermost one again, and is closed.
  obtain ⟨houter, hflags⟩ := hlevels.around_eq
  obtain ⟨stop, st', node, hlevel, houter', hnode, hgrows', hgoes⟩ :=
    exists_item_of_scan houter hflags hlevels.within (hopens.trans hgrows) hscan
  refine ⟨stop, st', ⟨houter', ⟨[.single node], hlevel, fun item hitem => ?_⟩, hgrows'⟩, hgoes⟩
  obtain rfl := List.mem_singleton.mp hitem
  exact hnode

end State

/-! ### Texts that add items -/

/-- The machine has come to a text inside a capturing group, in the course of reading an
accepted pattern. -/
def Reached (final : State) (body : List Char) : Prop :=
  ∃ (st : State) (start position : Nat) (name : Option (List Char)) (rest : List Char),
    (st.inside start (st.groups.count + 1) [] (st.groups.openNext name)).scan position
      (body ++ ')' :: rest) 0 = .ok final

/-- Wherever a text stands in an accepted pattern, it adds items to the level it stands
in, if no flags are in force there, and the machine comes to some texts inside groups. -/
structure Passes (text : List Char) (bodies : List (List Char)) : Prop where
  /-- The text does not change the mode of a repetition before it. -/
  mode : ∀ rest, readMode rest = (.greedy, 0) → readMode (text ++ rest) = (.greedy, 0)
  reads : ∀ (position : Nat) (rest : List Char) (st final : State), st.level.flags = {} →
    readMode rest = (.greedy, 0) → st.scan position (text ++ rest) 0 = .ok final →
      (∀ body ∈ bodies, Reached final body) ∧
        ∃ stop st', st.Added st' ∧ st'.scan stop rest 0 = .ok final

namespace Passes

theorem nil : Passes [] [] := by
  refine ⟨fun rest hrest => hrest, fun position rest st final hflags hrest h => ?_⟩
  exact ⟨fun body hbody => absurd hbody List.not_mem_nil, position, st, .refl st, h⟩

theorem append {text more : List Char} {bodies others : List (List Char)}
    (h : Passes text bodies) (h' : Passes more others) :
    Passes (text ++ more) (bodies ++ others) := by
  refine ⟨fun rest hrest => ?_, fun position rest st final hflags hrest hscan => ?_⟩
  · rw [List.append_assoc]
    exact h.mode _ (h'.mode rest hrest)
  · rw [List.append_assoc] at hscan
    obtain ⟨hbodies, stop, st₁, hadded, hscan⟩ :=
      h.reads position _ st final hflags (h'.mode rest hrest) hscan
    obtain ⟨hothers, stop', st', hadded', hscan⟩ :=
      h'.reads stop rest st₁ final (hadded.flags.trans hflags) hrest hscan
    refine ⟨fun body hbody => ?_, stop', st', hadded.trans hadded', hscan⟩
    exact (List.mem_append.mp hbody).elim (hbodies body) (hothers body)

/-- A character that stands for itself. -/
theorem char {c : Char} (h : isPlain c = true) : Passes [c] [] := by
  refine ⟨fun rest hrest => ?_, fun position rest st final hflags hrest hscan => ?_⟩
  · have hsketch : (Sketch.char c .done).IsPlain := ⟨h, trivial⟩
    exact readMode_text hsketch hrest
  · let item := Item.single (.char (.code c.toNat) .exact)
    rw [List.singleton_append, State.scan_one (st.add item) hflags (read_of_isPlain h position rest)
      (by simp [item, State.step, Flags.fold, hflags])] at hscan
    exact ⟨fun body hbody => absurd hbody List.not_mem_nil, position + 1, st.add item,
      .add rfl, hscan⟩

/-- A token with a confined pattern. -/
theorem token {name body : List Char} (hname : isName name = true) (hbody : Confined body) :
    Passes (namedGroup name body) [body] := by
  refine ⟨fun rest hrest => rfl, fun position rest st final hflags hrest hscan => ?_⟩
  have htext : namedGroup name body ++ rest
      = "(?P<".toList ++ name ++ '>' :: (body ++ ')' :: rest) := by simp [namedGroup]
  rw [htext] at hscan
  obtain ⟨hgrows, stop, hinside⟩ := State.exists_inside_of_scan hname hflags hscan
  refine ⟨fun body' hbody' => ?_, State.exists_added_of_scan hbody hgrows hinside⟩
  obtain rfl := List.mem_singleton.mp hbody'
  exact ⟨st, position, stop, some name, rest, hinside⟩

/-- An optional group. -/
theorem optional {text : List Char} {bodies : List (List Char)} (h : Passes text bodies) :
    Passes ('(' :: (text ++ ")?".toList)) bodies := by
  refine ⟨fun rest hrest => rfl, fun position rest st final hflags hrest hscan => ?_⟩
  have htext : '(' :: (text ++ ")?".toList) ++ rest = '(' :: (text ++ ')' :: '?' :: rest) := by
    simp
  rw [htext, State.scan_open hflags (h.mode _ rfl)] at hscan
  -- Inside the group items are added to a level that was empty.
  let inside := st.inside position (st.groups.count + 1) [] (st.groups.openNext none)
  obtain ⟨hbodies, stop, last, hadded, hscan⟩ :=
    h.reads (position + 1) (')' :: '?' :: rest) inside final rfl rfl hscan
  have hopens : st.groups.Grows (st.groups.openNext none) :=
    Opens.grows (.capture none fun n hn => absurd hn (by simp))
  have hlast : last.level.flags = {} := hadded.flags
  obtain ⟨stop', closed, node, hclosed, houter, hnode, hgrows, hscan⟩ :=
    State.exists_item_of_scan hadded.outer hlast hadded.within (hopens.trans hadded.groups) hscan
  -- The group becomes an item, and the item becomes optional.
  obtain ⟨stop'', hscan⟩ := State.exists_optional_of_scan (by rw [hclosed]; rfl)
    (by rw [hclosed]; exact hflags) hrest hscan
  let item := Item.repeated (.repeated .greedy 0 (some 1) node)
  let st' : State :=
    { closed with level := { closed.level with items := item :: st.level.items } }
  have hlevel : st'.level = { st.level with items := [item] ++ st.level.items } := by
    simp only [st', hclosed]
    rfl
  refine ⟨hbodies, stop'', st', ⟨houter, ⟨[item], hlevel, fun item' hitem' i hi => ?_⟩, hgrows⟩,
    hscan⟩
  obtain rfl := List.mem_singleton.mp hitem'
  exact hnode i (by simpa [item, Item.node] using hi)

end Passes

/-! ### Accepted patterns -/

/-- What the machine has read of an accepted pattern. -/
theorem exists_scan_of_parse {source : List Char} {parsed : Parsed}
    (h : parse source = .ok parsed) :
    ∃ final, State.initial.scan 0 source 0 = .ok final ∧ final.fixedLookbehinds = true ∧
      parsed = ⟨final.level.body, final.groups.count, final.groups.names⟩ := by
  unfold parse at h
  split at h
  · exact absurd h (by simp)
  · next final hscan =>
    refine ⟨final, hscan, ?_⟩
    unfold State.finish at h
    split at h
    · exact absurd h (by simp)
    · split at h
      · exact absurd h (by simp)
      · split at h
        · next hfixed => exact ⟨hfixed, (Except.ok.inj h).symm⟩
        · exact absurd h (by simp)

/-- The machine comes to the patterns of the tokens of an accepted pattern. -/
theorem Passes.reached {text : List Char} {bodies : List (List Char)} (h : Passes text bodies)
    {parsed : Parsed} (hparse : parse ('^' :: text ++ ['$']) = .ok parsed) :
    ∃ final : State, final.fixedLookbehinds = true ∧ ∀ body ∈ bodies, Reached final body := by
  obtain ⟨final, hscan, hfixed, -⟩ := exists_scan_of_parse hparse
  rw [List.cons_append, State.scan_caret] at hscan
  obtain ⟨hbodies, -⟩ := h.reads 1 ['$'] _ final rfl rfl hscan
  exact ⟨final, hfixed, hbodies⟩

end RouteMatch.Pattern

namespace RouteMatch.Template

open Pattern

/-! ### Templates -/

/-- The names are names, and the patterns of these tokens are confined. -/
def HasConfined (tokens : Entries String Value) (names : List (List Char)) : Prop :=
  ∀ name ∈ names, isName name = true ∧ Confined (tokenBody tokens name)

variable {tokens : Entries String Value}

theorem passes_nestedGroups {names : List (List Char)} (h : HasConfined tokens names) :
    Passes (nestedGroups tokens names) (names.map (tokenBody tokens)) := by
  induction names with
  | nil => exact .nil
  | cons name rest ih =>
    obtain ⟨hname, hbody⟩ := h name List.mem_cons_self
    have hrest := ih fun n hn => h n (List.mem_cons_of_mem _ hn)
    have hslash : Passes ['/'] [] := .char (by decide)
    have hinner := (hslash.append (.token hname hbody)).append hrest
    have htext : nestedGroups tokens (name :: rest)
        = '(' :: (['/'] ++ namedGroup name (tokenBody tokens name) ++ nestedGroups tokens rest
          ++ ")?".toList) := by simp [nestedGroups]
    rw [htext]
    exact hinner.optional

theorem passes_part {p : Part} (hplain : p.isPlain = true) (h : HasConfined tokens p.names)
    (atFront : Bool) : Passes (p.pattern tokens atFront) (p.names.map (tokenBody tokens)) := by
  cases p with
  | char c => exact .char hplain
  | token name =>
    obtain ⟨hname, hbody⟩ := h name List.mem_cons_self
    exact .token hname hbody
  | group names =>
    cases names with
    | nil => cases atFront <;> exact .nil
    | cons first rest =>
      cases atFront with
      | false => exact passes_nestedGroups h
      | true =>
        obtain ⟨hname, hbody⟩ := h first List.mem_cons_self
        have hrest := passes_nestedGroups fun n hn => h n (List.mem_cons_of_mem _ hn)
        have hslash : Passes ['/'] [] := .char (by decide)
        have htext : (Part.group (first :: rest)).pattern tokens true
            = ['/'] ++ '(' :: (namedGroup first (tokenBody tokens first) ++ ")?".toList)
              ++ nestedGroups tokens rest := by simp [Part.pattern]
        rw [htext]
        exact (hslash.append (Passes.token hname hbody).optional).append hrest

theorem passes_flatMap_pattern {ps : List Part} (hplain : ∀ p ∈ ps, p.isPlain = true)
    (h : HasConfined tokens (ps.flatMap Part.names)) :
    Passes (ps.flatMap (Part.pattern tokens false))
      ((ps.flatMap Part.names).map (tokenBody tokens)) := by
  induction ps with
  | nil => exact .nil
  | cons p ps ih =>
    rw [List.flatMap_cons] at h
    rw [List.flatMap_cons, List.flatMap_cons, List.map_append]
    refine (passes_part (hplain p List.mem_cons_self)
      (fun n hn => h n (List.mem_append_left _ hn)) false).append ?_
    exact ih (fun q hq => hplain q (List.mem_cons_of_mem _ hq))
      fun n hn => h n (List.mem_append_right _ hn)

/-- **The pattern of a template passes.** -/
theorem passes_transcription {ps : List Part} (hplain : ∀ p ∈ ps, p.isPlain = true)
    (h : HasConfined tokens (ps.flatMap Part.names)) :
    Passes (transcription tokens ps) ((ps.flatMap Part.names).map (tokenBody tokens)) := by
  cases ps with
  | nil => exact .nil
  | cons p ps =>
    rw [List.flatMap_cons] at h
    rw [transcription, List.flatMap_cons, List.map_append]
    refine (passes_part (hplain p List.mem_cons_self)
      (fun n hn => h n (List.mem_append_left _ hn)) true).append ?_
    exact passes_flatMap_pattern (fun q hq => hplain q (List.mem_cons_of_mem _ hq))
      fun n hn => h n (List.mem_append_right _ hn)

/-! ### The wildcard -/

/-- The pattern of the rest of a path passes. -/
theorem passes_wildcardSketch {wildcard : Option (List Char)}
    (h : ∀ name ∈ wildcard, isName name = true) :
    Passes (wildcardSketch wildcard).text (wildcard.toList.map fun _ => ".*".toList) := by
  cases wildcard with
  | none => exact .nil
  | some name =>
    have hslash : Passes ['/'] [] := .char (by decide)
    have hrest : Confined ".*".toList := by decide +kernel
    have hinner := hslash.append (.token (h name rfl) hrest)
    have htext : (wildcardSketch (some name)).text
        = '(' :: (['/'] ++ namedGroup name ".*".toList ++ ")?".toList) := by
      simp [wildcardSketch, Sketch.text, Span.text]
    rw [htext]
    exact hinner.optional

theorem transcription_append_cons (front : List Part) (p : Part) (back : List Part) :
    transcription tokens (front ++ p :: back)
      = transcription tokens front ++ p.pattern tokens front.isEmpty
        ++ back.flatMap (Part.pattern tokens false) := by
  cases front with
  | nil => simp [transcription]
  | cons q front => simp [transcription]

/-- The slashes at the end of a pattern are those at the end of the template. -/
theorem stripSlashes_transcription {ps : List Part} (h : ∀ p ∈ ps, p.isWellFormed = true) :
    stripSlashes (transcription tokens ps)
      = transcription tokens (ps.rdropWhile fun p => p = .char '/') := by
  induction ps using List.reverseRecOn with
  | nil => rfl
  | append_singleton ps p ih =>
    have ih := ih fun q hq => h q (List.mem_append_left _ hq)
    have hp := h p (List.mem_append_right _ List.mem_cons_self)
    rw [transcription_append_cons, List.flatMap_nil, List.append_nil]
    by_cases hslash : p = .char '/'
    · rw [List.rdropWhile_concat_pos _ _ _ (by simpa using hslash), ← ih, hslash]
      simp [Part.pattern, stripSlashes]
    · obtain ⟨c, hlast, hc⟩ := exists_getLast?_pattern tokens hp hslash ps.isEmpty
      rw [List.rdropWhile_concat_neg _ _ _ (by simpa using hslash), transcription_append_cons,
        List.flatMap_nil, List.append_nil]
      refine stripSlashes_of_getLast?_ne ?_
      rw [List.getLast?_append, hlast]
      simpa using hc

theorem flatMap_names_rdropWhile (ps : List Part) :
    (ps.rdropWhile fun p => p = .char '/').flatMap Part.names = ps.flatMap Part.names := by
  induction ps using List.reverseRecOn with
  | nil => rfl
  | append_singleton ps p ih =>
    by_cases hslash : p = .char '/'
    · rw [List.rdropWhile_concat_pos _ _ _ (by simpa using hslash), ih, hslash]
      simp [Part.names]
    · rw [List.rdropWhile_concat_neg _ _ _ (by simpa using hslash)]

end RouteMatch.Template
