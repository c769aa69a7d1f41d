import RouteMatch.Proofs.Template.Transcription

/-!
# Where braces in a pattern come from

Braces in a valid template are placeholders, and become groups.  So braces with numbers
between them that stand in the pattern text of a route were written in the pattern of
one of its tokens: the text of the template cannot put them together from its own
characters and the parts of groups, since each of these ends at a mark that does not
occur in such braces.

## Main definitions

* `IsCounting` — digits and commas.
* `Route.bodies` — the patterns that a definition was given.

## Main results

* `braces_mem_pieces` — closed braces in a text are one of its pieces.
* `infix_expandTokens`, `not_infix_expandOptional` — what the rewritings add.
* `Route.infix_patternText` — **counting braces in the pattern text of a definition stand
  in the pattern of a token.**
-/

namespace RouteMatch.Template

open Text

/-! ### Braces -/

/-- Closed braces in a text are one of its pieces. -/
theorem braces_mem_pieces {inner text : List Char} (h₁ : '{' ∉ inner) (h₂ : '}' ∉ inner)
    (h : (Piece.braces inner).render <:+: text) : Piece.braces inner ∈ pieces text := by
  obtain ⟨front, back, rfl⟩ := h
  have htext : front ++ (Piece.braces inner).render ++ back
      = front ++ '{' :: (inner ++ '}' :: back) := by simp [Piece.render]
  rw [htext, pieces, piecesFrom_append_braces h₁ h₂]
  exact List.mem_append_right _ List.mem_cons_self

/-- Braces do not stand in a text without an opening brace. -/
theorem not_infix_of_notMem (inner : List Char) {text : List Char} (htext : '{' ∉ text) :
    ¬(Piece.braces inner).render <:+: text :=
  fun hsub => htext (hsub.subset (by simp [Piece.render]))

/-- Digits and commas. -/
def IsCounting (inner : List Char) : Prop :=
  ∀ c ∈ inner, c = ',' ∨ isDecimal c = true

section Counting

variable {inner : List Char} (h : IsCounting inner)

include h

theorem notMem_of_isCounting {c : Char} (hcomma : c ≠ ',') (hdecimal : isDecimal c = false) :
    c ∉ inner := by
  intro hc
  rcases h c hc with rfl | hc
  · exact hcomma rfl
  · rw [hdecimal] at hc
    exact absurd hc (by decide)

/-- A mark does not occur in counting braces. -/
theorem notMem_braces {c : Char} (hc : c ∈ ['(', ')', '/', '?', '>', '^', '$']) :
    c ∉ (Piece.braces inner).render := by
  have hmarks : (['(', ')', '/', '?', '>', '^', '$'].all fun c =>
      c ≠ '{' ∧ c ≠ '}' ∧ c ≠ ',' ∧ isDecimal c = false) = true := by decide
  obtain ⟨hopen, hclose, hcomma, hdecimal⟩ := of_decide_eq_true (List.all_eq_true.mp hmarks c hc)
  simp only [Piece.render, List.cons_append, List.mem_cons, List.mem_append, List.not_mem_nil,
    or_false, not_or]
  exact ⟨hopen, notMem_of_isCounting h hcomma hdecimal, hclose⟩

theorem mem_pieces_of_isCounting {text : List Char} (hsub : (Piece.braces inner).render <:+: text) :
    Piece.braces inner ∈ pieces text :=
  braces_mem_pieces (notMem_of_isCounting h (by decide) (by decide))
    (notMem_of_isCounting h (by decide) (by decide)) hsub

/-- A name does not count. -/
theorem isName_eq_false : isName inner = false := by
  cases hname : isName inner with
  | false => rfl
  | true =>
    obtain ⟨c, rest, rfl, hletter, -⟩ := isName_iff.mp hname
    rcases h c List.mem_cons_self with rfl | hdecimal
    · exact absurd hletter (by decide)
    · simp only [isDecimal, Unicode.isAsciiDigit, Unicode.isAsciiLetter, Bool.and_eq_true,
        Bool.or_eq_true, decide_eq_true_eq] at hdecimal hletter
      omega

/-! ### Groups with names -/

/-- Counting braces in a group with a name stand in its pattern. -/
theorem infix_namedGroup {name body : List Char} (hname : isName name = true)
    (hsub : (Piece.braces inner).render <:+: namedGroup name body) :
    (Piece.braces inner).render <:+: body := by
  have hbrace : '{' ∉ name := notMem_name hname (by decide)
  rcases infix_append_cons (notMem_braces h (by simp)) hsub with hsub | hsub
  · rcases infix_append_cons (notMem_braces h (by simp)) hsub with hsub | hsub
    · exact absurd hsub (not_infix_of_notMem _ (by simpa using hbrace))
    · exact hsub
  · exact absurd hsub (not_infix_of_notMem _ List.not_mem_nil)

/-- Writing the tokens of a text as groups adds no counting braces but those in the
patterns of tokens. -/
theorem infix_expandTokens {tokens : Entries String Value} {text : List Char}
    (hsub : (Piece.braces inner).render <:+: expandTokens tokens text) :
    (Piece.braces inner).render <:+: text ∨
      ∃ name ∈ tokenNames text, (Piece.braces inner).render <:+: tokenBody tokens name := by
  -- What stands in front of the pieces has been copied without change.
  have key : ∀ (ps : List Piece) (front : List Char),
      (Piece.braces inner).render <:+: front ++ ps.flatMap (expandPiece tokens) →
      (Piece.braces inner).render <:+: front ++ render ps ∨
        ∃ name, Piece.braces name ∈ ps ∧ isName name = true ∧
          (Piece.braces inner).render <:+: tokenBody tokens name := by
    intro ps
    induction ps with
    | nil => exact fun front hsub => Or.inl hsub
    | cons p ps ih =>
      intro front hsub
      have hcopied : expandPiece tokens p = p.render →
          (Piece.braces inner).render <:+: front ++ render (p :: ps) ∨
            ∃ name, Piece.braces name ∈ p :: ps ∧ isName name = true ∧
              (Piece.braces inner).render <:+: tokenBody tokens name := by
        intro hcopy
        rw [List.flatMap_cons, hcopy, ← List.append_assoc] at hsub
        rcases ih _ hsub with hsub | ⟨name, hname, hsub⟩
        · exact Or.inl (by rwa [render_cons, ← List.append_assoc])
        · exact Or.inr ⟨name, List.mem_cons_of_mem _ hname, hsub⟩
      cases p with
      | char c => exact hcopied rfl
      | braces name =>
        by_cases hname : isName name = true
        · have htext : front ++ (Piece.braces name :: ps).flatMap (expandPiece tokens)
              = front ++ '(' :: ("?P<".toList ++ name ++ '>' :: tokenBody tokens name
                ++ ')' :: ps.flatMap (expandPiece tokens)) := by
            simp [expandPiece, hname, namedGroup]
          rw [htext] at hsub
          rcases infix_append_cons (notMem_braces h (by simp)) hsub with hsub | hsub
          · exact Or.inl (hsub.trans (List.infix_append' [] _ _))
          · rcases infix_append_cons (notMem_braces h (by simp)) hsub with hsub | hsub
            · refine Or.inr ⟨name, List.mem_cons_self, hname, infix_namedGroup h hname ?_⟩
              exact hsub.trans ⟨['('], [')'], by simp [namedGroup]⟩
            · rcases ih [] hsub with hsub | ⟨name', hname', hsub⟩
              · exact Or.inl (hsub.trans ⟨front ++ (Piece.braces name).render, [], by simp⟩)
              · exact Or.inr ⟨name', List.mem_cons_of_mem _ hname', hsub⟩
        · exact hcopied (if_neg hname)
  rcases key (pieces text) [] hsub with hsub | ⟨name, hmem, hname, hsub⟩
  · rw [List.nil_append, render_pieces] at hsub
    exact Or.inl hsub
  · refine Or.inr ⟨name, ?_, hsub⟩
    exact List.mem_filter.mpr ⟨mem_placeholders.mpr hmem, hname⟩

/-! ### The optional group -/

/-- Counting braces are no token. -/
theorem not_infix_braces {name : List Char} (hname : isName name = true) :
    ¬(Piece.braces inner).render <:+: (Piece.braces name).render := by
  intro hsub
  have hmem := mem_pieces_of_isCounting h hsub
  have hclosed : (Piece.braces name).IsClosed :=
    ⟨notMem_name hname (by decide), notMem_name hname (by decide)⟩
  have hpieces : pieces (render [Piece.braces name]) = [Piece.braces name] :=
    pieces_render fun p hp => List.mem_singleton.mp hp ▸ hclosed
  rw [render_cons, render_nil, List.append_nil] at hpieces
  rw [hpieces, List.mem_singleton, Piece.braces.injEq] at hmem
  rw [← hmem, isName_eq_false h] at hname
  exact absurd hname (by decide)

/-- Counting braces do not stand in the groups for several names. -/
theorem not_infix_chain {names : List (List Char)} (hnames : ∀ name ∈ names, isName name = true) :
    ¬(Piece.braces inner).render <:+: chain names := by
  induction names with
  | nil => exact not_infix_of_notMem _ List.not_mem_nil
  | cons name rest ih =>
    intro hsub
    have ih := ih fun n hn => hnames n (List.mem_cons_of_mem _ hn)
    have hbraces := not_infix_braces h (hnames name List.mem_cons_self)
    have htext : chain (name :: rest)
        = ['('] ++ '/' :: ((Piece.braces name).render ++ chain rest ++ ')' :: ['?']) := by
      simp [chain]
    rw [htext] at hsub
    rcases infix_append_cons (notMem_braces h (by simp)) hsub with hsub | hsub
    · exact not_infix_of_notMem inner (by decide) hsub
    · rcases infix_append_cons (notMem_braces h (by simp)) hsub with hsub | hsub
      · cases rest with
        | nil => exact hbraces (by simpa [chain] using hsub)
        | cons n more =>
          -- The next group begins at a mark, so the braces stand before it or in it.
          have htext : chain (n :: more)
              = '(' :: ('/' :: ((Piece.braces n).render ++ chain more ++ ")?".toList)) := by
            simp [chain]
          rw [htext] at hsub
          rcases infix_append_cons (notMem_braces h (by simp)) hsub with hsub | hsub
          · exact hbraces hsub
          · refine ih (hsub.trans ?_)
            rw [htext]
            exact (List.suffix_cons _ _).isInfix
      · exact not_infix_of_notMem inner (by decide) hsub

theorem not_infix_groupText {atFront : Bool} {names : List (List Char)}
    (hnames : ∀ name ∈ names, isName name = true) :
    ¬(Piece.braces inner).render <:+: groupText atFront names := by
  unfold groupText
  split
  · next first rest =>
    intro hsub
    have hbraces := not_infix_braces h (hnames first List.mem_cons_self)
    have hchain := not_infix_chain h fun n hn => hnames n (List.mem_cons_of_mem first hn)
    have htext : "/(".toList ++ (Piece.braces first).render ++ ")?".toList ++ chain rest
        = ['/'] ++ '(' :: ((Piece.braces first).render ++ ')' :: ([] ++ '?' :: chain rest)) := by
      simp
    rw [htext] at hsub
    rcases infix_append_cons (notMem_braces h (by simp)) hsub with hsub | hsub
    · exact not_infix_of_notMem inner (by decide) hsub
    · rcases infix_append_cons (notMem_braces h (by simp)) hsub with hsub | hsub
      · exact hbraces hsub
      · rcases infix_append_cons (notMem_braces h (by simp)) hsub with hsub | hsub
        · exact not_infix_of_notMem inner List.not_mem_nil hsub
        · exact hchain hsub
  · exact not_infix_chain h hnames

omit h in
/-- The text of a group begins and ends at a mark. -/
theorem exists_groupText_eq (atFront : Bool) {names : List (List Char)} (hnames : names ≠ []) :
    ∃ c middle, c ∈ ['(', '/'] ∧ groupText atFront names = c :: (middle ++ ['?']) := by
  have hchain : ∀ name rest, ∃ middle, chain (name :: rest) = '(' :: (middle ++ ['?']) := by
    intro name rest
    exact ⟨'/' :: ((Piece.braces name).render ++ chain rest ++ [')']), by simp [chain]⟩
  obtain ⟨first, rest, rfl⟩ := List.exists_cons_of_ne_nil hnames
  cases atFront with
  | false =>
    obtain ⟨middle, hmiddle⟩ := hchain first rest
    exact ⟨'(', middle, by simp, hmiddle⟩
  | true =>
    cases rest with
    | nil =>
      exact ⟨'/', '(' :: ((Piece.braces first).render ++ [')']), by simp,
        by simp [groupText, chain]⟩
    | cons second rest =>
      obtain ⟨middle, hmiddle⟩ := hchain second rest
      refine ⟨'/', '(' :: ((Piece.braces first).render ++ ")?(".toList ++ middle), by simp, ?_⟩
      simp [groupText, hmiddle]

/-- Writing the optional group with tokens puts no counting braces together. -/
theorem infix_expandFirst {atFront : Bool} (ps : List Piece) (front : List Char)
    (hsub : (Piece.braces inner).render <:+: front ++ expandFirst atFront ps) :
    (Piece.braces inner).render <:+: front ++ render ps ∨
      ∃ list, Piece.braces ('/' :: list) ∈ ps ∧
        (Piece.braces inner).render <:+: groupText atFront (split ',' list) := by
  induction ps generalizing front with
  | nil => exact Or.inl hsub
  | cons p ps ih =>
    unfold expandFirst at hsub
    split at hsub
    · next heq => exact absurd heq (by simp)
    · next n names rest heq =>
      obtain ⟨rfl, rfl⟩ := List.cons.inj heq
      obtain ⟨c, middle, hc, htext⟩ :=
        exists_groupText_eq atFront (split_ne_nil ',' (n :: names))
      have hmark : c ∉ (Piece.braces inner).render := by
        refine notMem_braces h ?_
        simp only [List.mem_cons, List.not_mem_nil, or_false] at hc ⊢
        rcases hc with rfl | rfl <;> simp
      rw [htext] at hsub
      have hsplit : front ++ (c :: (middle ++ ['?']) ++ render ps)
          = front ++ c :: (middle ++ '?' :: render ps) := by simp
      rw [hsplit] at hsub
      rcases infix_append_cons hmark hsub with hsub | hsub
      · exact Or.inl (hsub.trans (List.infix_append' [] _ _))
      · rcases infix_append_cons (notMem_braces h (by simp)) hsub with hsub | hsub
        · refine Or.inr ⟨n :: names, List.mem_cons_self, ?_⟩
          rw [htext]
          exact hsub.trans ⟨[c], ['?'], by simp⟩
        · exact Or.inl (hsub.trans ⟨front ++ (Piece.braces ('/' :: n :: names)).render, [],
            by simp⟩)
    · next q rest hq heq =>
      obtain ⟨rfl, rfl⟩ := List.cons.inj heq
      rw [← List.append_assoc] at hsub
      rcases ih _ hsub with hsub | ⟨list, hlist, hsub⟩
      · exact Or.inl (by rwa [render_cons, ← List.append_assoc])
      · exact Or.inr ⟨list, List.mem_cons_of_mem _ hlist, hsub⟩

/-- Writing the optional group of a valid text with tokens adds no counting braces, and
there were none. -/
theorem not_infix_expandOptional {text : List Char} (hvalid : validate text = .ok ()) :
    ¬(Piece.braces inner).render <:+: expandOptional text := by
  have hwell : ∀ braces, Piece.braces braces ∈ pieces text →
      (Piece.braces braces).part.isWellFormed = true :=
    fun braces hmem => (validate_eq_ok_iff.mp hvalid).1 braces (mem_placeholders.mpr hmem)
  intro hsub
  rcases infix_expandFirst h (pieces text) [] hsub with hsub | ⟨list, hmem, hsub⟩
  · rw [List.nil_append, render_pieces] at hsub
    have hpart := hwell inner (mem_pieces_of_isCounting h hsub)
    -- A placeholder that begins with a digit or a comma would have to be a token.
    rcases ofInner_eq inner with ⟨list, rfl, -⟩ | htoken
    · exact notMem_of_isCounting h (by decide) (by decide) List.mem_cons_self
    · rw [Piece.part, htoken] at hpart
      exact absurd ((isName_eq_false h).symm.trans hpart) (by decide)
  · have hpart := hwell _ hmem
    simp only [Piece.part, Placeholder.ofInner, Part.isWellFormed, Bool.and_eq_true,
      List.all_eq_true] at hpart
    exact not_infix_groupText h hpart.2 hsub

end Counting

end RouteMatch.Template

namespace RouteMatch.Route

open Template Text

/-- The patterns that a definition was given: those of the tokens of its template and
those of its constraints. -/
def bodies (d : RouteDefinition) : List (List Char) :=
  (tokenNames (tokenTemplate d)).map (tokenBody d.tokens)
    ++ d.server.map fun entry => entry.2.toList

/-- The wildcard of a definition without fault is a name. -/
theorem isName_wildcard {d : RouteDefinition} (hfault : definitionFault? d = none) {w : String}
    (hwildcard : wildcardOf d = some w) : isName w.toList = true :=
  (definitionFault?_eq_none_iff.mp hfault).2.2 w hwildcard

/-- Counting braces in a pattern with a group for the rest of the path stand in front of
it. -/
theorem infix_expandWildcard {text wildcard inner : List Char} (h : IsCounting inner)
    (hwildcard : isName wildcard = true)
    (hsub : (Piece.braces inner).render <:+: expandWildcard text wildcard) :
    (Piece.braces inner).render <:+: text := by
  have hstrip : stripSlashes text <+: text := by
    have hsuffix := List.dropWhile_suffix (fun c => decide (c = '/')) (l := text.reverse)
    rw [← List.reverse_prefix, List.reverse_reverse] at hsuffix
    exact hsuffix
  have htext : expandWildcard text wildcard
      = stripSlashes text ++ '(' :: ('/' :: (namedGroup wildcard ".*".toList ++ ")?".toList)) := by
    simp [expandWildcard]
  rw [htext] at hsub
  rcases infix_append_cons (notMem_braces h (by simp)) hsub with hsub | hsub
  · exact hsub.trans hstrip.isInfix
  · have hbrace : '{' ∉ wildcard := notMem_name hwildcard (by decide)
    exact absurd hsub (not_infix_of_notMem inner (by simpa [namedGroup] using hbrace))

/-- **Counting braces in the pattern text of a definition stand in the pattern of a
token.** -/
theorem infix_patternText {d : RouteDefinition} (hfault : definitionFault? d = none)
    {inner : List Char} (h : IsCounting inner)
    (hsub : (Piece.braces inner).render <:+: (patternText d).toList) :
    ∃ name ∈ tokenNames (tokenTemplate d),
      (Piece.braces inner).render <:+: tokenBody d.tokens name := by
  have hexpanded : (Piece.braces inner).render <:+: expandTokens d.tokens (tokenTemplate d) →
      ∃ name ∈ tokenNames (tokenTemplate d),
        (Piece.braces inner).render <:+: tokenBody d.tokens name := by
    intro hsub
    refine (infix_expandTokens h hsub).resolve_left ?_
    exact not_infix_expandOptional h (validate_of_definitionFault? hfault)
  have hinside : ∀ whole : List Char, (Piece.braces inner).render <:+: '^' :: whole ++ ['$'] →
      (Piece.braces inner).render <:+: whole := by
    intro whole hsub
    have hend := (infix_append_cons (notMem_braces h (by simp)) hsub).resolve_right
      (not_infix_of_notMem inner List.not_mem_nil)
    rw [← List.nil_append ('^' :: whole)] at hend
    exact (infix_append_cons (notMem_braces h (by simp)) hend).resolve_left
      (not_infix_of_notMem inner List.not_mem_nil)
  simp only [patternText, String.toList_ofList] at hsub
  cases hwildcard : wildcardOf d with
  | none =>
    rw [hwildcard] at hsub
    exact hexpanded (hinside _ hsub)
  | some w =>
    rw [hwildcard] at hsub
    exact hexpanded (infix_expandWildcard h (isName_wildcard hfault hwildcard) (hinside _ hsub))

end RouteMatch.Route
