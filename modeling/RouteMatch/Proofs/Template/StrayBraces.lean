import RouteMatch.Proofs.Template.Transcription

/-!
# Braces outside of placeholders

A brace of a template may belong to no placeholder: nothing closes it, or nothing opens
it, or another brace stands between.  Such a brace is a character of a regular expression
like any other, behind a backslash for instance.  Validation does not look at it, and the
rewritings leave it where it stands.

For this the text that the optional group is rewritten to must be cut into the pieces that
were written, although braces stand around it.  They are, as long as no opening brace among
the characters comes before a closing one without a placeholder between them; a text is
never cut otherwise, and an optional group is rewritten to placeholders.

## Main definitions

* `Settled` — pieces that their text is cut into again.
* `HasSoundParts` — the placeholders of a text are tokens and at most one optional group.

## Main results

* `settled_pieces`, `pieces_render_of_settled` — which pieces texts are cut into.
* `expandTokens_expandOptional` — both rewritings of a valid text.
* `Route.build_hasSoundParts` — **a template with a faulty placeholder is refused, and what
  stands outside of placeholders goes to the pattern as it is.**
* `Route.not_refused_unclosedDefinition` — a forgotten brace is not refused.
-/

namespace RouteMatch.Template

/-! ### Settled pieces -/

/-- Pieces that their text is cut into again.  No opening brace stands among the characters
before a closing one, `pending` telling whether an opening one has come since the last
placeholder. -/
def Settled : Bool → List Piece → Prop
  | _, [] => True
  | pending, .char c :: ps =>
    if c = '{' then Settled true ps
    else if c = '}' then pending = false ∧ Settled false ps
    else Settled pending ps
  | _, .braces inner :: ps => ('{' ∉ inner ∧ '}' ∉ inner) ∧ Settled false ps

theorem settled_opening {pending : Bool} {ps : List Piece} :
    Settled pending (.char '{' :: ps) ↔ Settled true ps := by
  rw [Settled, if_pos rfl]

theorem settled_closing {pending : Bool} {ps : List Piece} :
    Settled pending (.char '}' :: ps) ↔ pending = false ∧ Settled false ps := by
  rw [Settled, if_neg (by decide), if_pos rfl]

theorem settled_char {c : Char} (h₁ : c ≠ '{') (h₂ : c ≠ '}') {pending : Bool} {ps : List Piece} :
    Settled pending (.char c :: ps) ↔ Settled pending ps := by
  rw [Settled, if_neg h₁, if_neg h₂]

theorem settled_braces {inner : List Char} {pending : Bool} {ps : List Piece} :
    Settled pending (.braces inner :: ps) ↔ ('{' ∉ inner ∧ '}' ∉ inner) ∧ Settled false ps :=
  Iff.rfl

/-- An unclosed brace with the text after it. -/
theorem unclosed_cons (c : Char) (inner : List Char) :
    unclosed (c :: inner) = unclosed inner ++ [.char c] := by
  simp [unclosed]

theorem settled_unclosed_append {inner : List Char} (h₁ : '{' ∉ inner) (h₂ : '}' ∉ inner)
    {ps : List Piece} (h : Settled true ps) (pending : Bool) :
    Settled pending (unclosed inner ++ ps) := by
  induction inner generalizing ps with
  | nil => exact settled_opening.mpr h
  | cons c inner ih =>
    rw [List.mem_cons, not_or] at h₁ h₂
    rw [unclosed_cons, List.append_assoc]
    exact ih h₁.2 h₂.2 ((settled_char (Ne.symm h₁.1) (Ne.symm h₂.1)).mpr h)

/-- A text is cut into settled pieces. -/
theorem settled_piecesFrom (text : List Char) :
    Settled false (piecesFrom none text) ∧
      ∀ inner, '{' ∉ inner → '}' ∉ inner → ∀ pending, Settled pending (piecesFrom (some inner) text) := by
  induction text with
  | nil =>
    refine ⟨trivial, fun inner h₁ h₂ pending => ?_⟩
    have hnil : Settled true [] := trivial
    rw [piecesFrom, ← List.append_nil (unclosed inner)]
    exact settled_unclosed_append h₁ h₂ hnil pending
  | cons c text ih =>
    obtain ⟨ihnone, ihsome⟩ := ih
    constructor
    · rw [piecesFrom]
      by_cases hopen : c = '{'
      · rw [if_pos hopen]
        exact ihsome [] List.not_mem_nil List.not_mem_nil false
      · rw [if_neg hopen]
        by_cases hclose : c = '}'
        · subst hclose
          exact settled_closing.mpr ⟨rfl, ihnone⟩
        · exact (settled_char hopen hclose).mpr ihnone
    · intro inner h₁ h₂ pending
      rw [piecesFrom]
      by_cases hopen : c = '{'
      · rw [if_pos hopen]
        exact settled_unclosed_append h₁ h₂
          (ihsome [] List.not_mem_nil List.not_mem_nil true) pending
      · rw [if_neg hopen]
        by_cases hclose : c = '}'
        · rw [if_pos hclose]
          exact settled_braces.mpr ⟨⟨by simpa using h₁, by simpa using h₂⟩, ihnone⟩
        · rw [if_neg hclose]
          refine ihsome (c :: inner) ?_ ?_ pending
          · rw [List.mem_cons, not_or]
            exact ⟨Ne.symm hopen, h₁⟩
          · rw [List.mem_cons, not_or]
            exact ⟨Ne.symm hclose, h₂⟩

theorem settled_pieces (text : List Char) : Settled false (pieces text) :=
  (settled_piecesFrom text).1

/-- The text of settled pieces is cut into them, also behind a brace that is open. -/
theorem piecesFrom_render_of_settled {ps : List Piece} :
    (Settled false ps → piecesFrom none (render ps) = ps) ∧
      (Settled true ps → ∀ inner, piecesFrom (some inner) (render ps) = unclosed inner ++ ps) := by
  induction ps with
  | nil => exact ⟨fun _ => rfl, fun _ inner => (List.append_nil _).symm⟩
  | cons p ps ih =>
    obtain ⟨ihnone, ihsome⟩ := ih
    cases p with
    | char c =>
      rw [render_cons, Piece.render, List.singleton_append]
      by_cases hopen : c = '{'
      · subst hopen
        refine ⟨fun h => ?_, fun h inner => ?_⟩
        · rw [piecesFrom, if_pos rfl, ihsome (settled_opening.mp h)]
          rfl
        · rw [piecesFrom, if_pos rfl, ihsome (settled_opening.mp h)]
          rfl
      · by_cases hclose : c = '}'
        · subst hclose
          refine ⟨fun h => ?_, fun h => absurd (settled_closing.mp h).1 (by decide)⟩
          rw [piecesFrom, if_neg hopen, ihnone (settled_closing.mp h).2]
        · refine ⟨fun h => ?_, fun h inner => ?_⟩
          · rw [piecesFrom, if_neg hopen, ihnone ((settled_char hopen hclose).mp h)]
          · rw [piecesFrom, if_neg hopen, if_neg hclose,
              ihsome ((settled_char hopen hclose).mp h), unclosed_cons, List.append_assoc,
              List.singleton_append]
    | braces inner =>
      have htext : render (.braces inner :: ps) = '{' :: (inner ++ '}' :: render ps) := by
        simp [Piece.render]
      have hclosed : ∀ pending, Settled pending (.braces inner :: ps) →
          piecesFrom (some []) (inner ++ '}' :: render ps) = .braces inner :: ps := by
        intro pending h
        obtain ⟨⟨h₁, h₂⟩, hrest⟩ := settled_braces.mp h
        rw [piecesFrom_some_append h₁ h₂, ihnone hrest]
        rfl
      rw [htext]
      refine ⟨fun h => ?_, fun h read => ?_⟩
      · rw [piecesFrom, if_pos rfl, hclosed _ h]
      · rw [piecesFrom, if_pos rfl, hclosed _ h]

theorem pieces_render_of_settled {ps : List Piece} (h : Settled false ps) :
    pieces (render ps) = ps :=
  piecesFrom_render_of_settled.1 h

/-! ### The optional group -/

/-- A character between placeholders that is no brace. -/
theorem settled_mark {c : Char} (hc : c ∈ ['(', '/', ')', '?']) {pending : Bool}
    {ps : List Piece} : Settled pending (.char c :: ps) ↔ Settled pending ps := by
  have hall : (['(', '/', ')', '?'].all fun c => c ≠ '{' ∧ c ≠ '}') = true := by decide
  obtain ⟨hopen, hclose⟩ := of_decide_eq_true (List.all_eq_true.mp hall c hc)
  exact settled_char hopen hclose

theorem settled_token {name : List Char} (hname : isName name = true) {pending : Bool}
    {ps : List Piece} : Settled pending ((Part.token name).piece :: ps) ↔ Settled false ps := by
  rw [Part.piece, settled_braces]
  exact and_iff_right ⟨notMem_name hname (by decide), notMem_name hname (by decide)⟩

theorem settled_chainParts {names : List (List Char)}
    (hnames : ∀ name ∈ names, isName name = true) {ps : List Piece} (h : Settled false ps) :
    Settled false ((chainParts names).map Part.piece ++ ps) := by
  induction names generalizing ps with
  | nil => exact h
  | cons name rest ih =>
    have hrest : Settled false (.char ')' :: .char '?' :: ps) :=
      (settled_mark (by simp)).mpr ((settled_mark (by simp)).mpr h)
    have ih := ih (fun n hn => hnames n (List.mem_cons_of_mem _ hn)) hrest
    have htext : (chainParts (name :: rest)).map Part.piece ++ ps
        = .char '(' :: .char '/' :: (Part.token name).piece
          :: ((chainParts rest).map Part.piece ++ .char ')' :: .char '?' :: ps) := by
      simp [chainParts, Part.piece]
    rw [htext, settled_mark (by simp), settled_mark (by simp),
      settled_token (hnames name List.mem_cons_self)]
    exact ih

/-- What an optional group is rewritten to holds a placeholder before any closing brace
that may follow. -/
theorem settled_groupParts {names : List (List Char)}
    (hwell : (Part.group names).isWellFormed = true) (atFront pending : Bool) {ps : List Piece}
    (h : Settled false ps) :
    Settled pending ((groupParts atFront names).map Part.piece ++ ps) := by
  simp only [Part.isWellFormed, Bool.and_eq_true, Bool.not_eq_true', List.isEmpty_eq_false_iff,
    List.all_eq_true] at hwell
  obtain ⟨hne, hnames⟩ := hwell
  obtain ⟨first, rest, rfl⟩ := List.exists_cons_of_ne_nil hne
  have hfirst := hnames first List.mem_cons_self
  have hrest := fun n hn => hnames n (List.mem_cons_of_mem first hn)
  cases atFront with
  | true =>
    have hchain := settled_chainParts hrest h
    have htext : (groupParts true (first :: rest)).map Part.piece ++ ps
        = .char '/' :: .char '(' :: (Part.token first).piece :: .char ')' :: .char '?'
          :: ((chainParts rest).map Part.piece ++ ps) := by
      simp [groupParts, Part.piece]
    rw [htext, settled_mark (by simp), settled_mark (by simp), settled_token hfirst,
      settled_mark (by simp), settled_mark (by simp)]
    exact hchain
  | false =>
    have hclose : Settled false (.char ')' :: .char '?' :: ps) :=
      (settled_mark (by simp)).mpr ((settled_mark (by simp)).mpr h)
    have hchain := settled_chainParts hrest hclose
    have htext : (groupParts false (first :: rest)).map Part.piece ++ ps
        = .char '(' :: .char '/' :: (Part.token first).piece
          :: ((chainParts rest).map Part.piece ++ .char ')' :: .char '?' :: ps) := by
      simp [groupParts, chainParts, Part.piece]
    rw [htext, settled_mark (by simp), settled_mark (by simp), settled_token hfirst]
    exact hchain

/-- Writing the optional group with tokens keeps parts settled. -/
theorem settled_expanded {atFront pending : Bool} {ps : List Part} (h : ∀ p ∈ ps, p.IsSound)
    (hsettled : Settled pending (ps.map Part.piece)) :
    Settled pending ((ps.flatMap (Part.expanded atFront)).map Part.piece) := by
  induction ps generalizing pending with
  | nil => exact hsettled
  | cons p ps ih =>
    have ih {pending : Bool} (hps : Settled pending (ps.map Part.piece)) :=
      ih (fun q hq => h q (List.mem_cons_of_mem _ hq)) hps
    rw [List.flatMap_cons, List.map_append]
    rw [List.map_cons] at hsettled
    cases p with
    | char c =>
      change Settled pending (.char c :: _)
      by_cases hopen : c = '{'
      · subst hopen
        exact settled_opening.mpr (ih (settled_opening.mp hsettled))
      · by_cases hclose : c = '}'
        · subst hclose
          obtain ⟨hpending, hrest⟩ := settled_closing.mp hsettled
          exact settled_closing.mpr ⟨hpending, ih hrest⟩
        · exact (settled_char hopen hclose).mpr (ih ((settled_char hopen hclose).mp hsettled))
    | token name =>
      obtain ⟨hinner, hrest⟩ := settled_braces.mp hsettled
      exact settled_braces.mpr ⟨hinner, ih hrest⟩
    | group names =>
      have hwell : (Part.group names).isWellFormed = true := h _ List.mem_cons_self
      exact settled_groupParts hwell atFront pending (ih (settled_braces.mp hsettled).2)

/-! ### Valid texts -/

/-- The placeholders of a text are tokens and at most one optional group, with well-formed
names.  Nothing is asked of its other characters. -/
def HasSoundParts (text : List Char) : Prop :=
  (∀ p ∈ parts text, p.IsSound) ∧ (parts text).countP Part.isGroup ≤ 1

theorem validate_eq_ok_iff_hasSoundParts {text : List Char} :
    validate text = .ok () ↔ HasSoundParts text := by
  constructor
  · exact fun h => ⟨isSound_of_mem_parts h, countP_isGroup_le_one h⟩
  · rintro ⟨hsound, hcount⟩
    rw [countP_isGroup_parts] at hcount
    refine validate_eq_ok_iff.mpr ⟨fun inner hinner => ?_, hcount⟩
    have hpart := hsound _ (List.mem_map_of_mem (mem_placeholders.mp hinner))
    rw [Piece.part] at hpart ⊢
    cases hof : Placeholder.ofInner inner with
    | optional names => rw [hof] at hpart; exact hpart
    | token name => rw [hof] at hpart; exact hpart

/-- Whether a text begins as an optional group does. -/
def opensGroup (text : List Char) : Bool :=
  ['{', '/'].isPrefixOf text

section Valid

variable {text : List Char} (h : HasSoundParts text)

include h

/-- Writing the optional group with tokens, on a valid text. -/
theorem expandOptional_eq_written :
    expandOptional text
      = written ((parts text).flatMap (Part.expanded (opensGroup text))) := by
  rw [expandOptional, ← map_piece_parts, expandFirst_written h.1 h.2]
  rfl

theorem pieces_expandOptional :
    pieces (expandOptional text)
      = ((parts text).flatMap (Part.expanded (opensGroup text))).map Part.piece := by
  rw [expandOptional_eq_written h, written, pieces_render_of_settled]
  refine settled_expanded h.1 ?_
  rw [map_piece_parts]
  exact settled_pieces text

theorem isSound_expanded :
    ∀ q ∈ (parts text).flatMap (Part.expanded (opensGroup text)), q.IsSound ∧ q.isGroup = false := by
  intro q hq
  obtain ⟨p, hp, hq⟩ := List.mem_flatMap.mp hq
  have hsound := h.1 p hp
  cases p with
  | char c => rw [List.mem_singleton.mp hq]; exact ⟨trivial, rfl⟩
  | token name => rw [List.mem_singleton.mp hq]; exact ⟨hsound, rfl⟩
  | group names =>
    have hq := expanded_isWellFormed (p := .group names) hsound hq
    exact ⟨Part.isSound_of_isWellFormed hq.1, hq.2⟩

/-- Both rewritings one after the other rewrite the placeholders and nothing else. -/
theorem expandTokens_expandOptional (tokens : Entries String Value) :
    expandTokens tokens (expandOptional text)
      = (parts text).flatMap (Part.pattern tokens (opensGroup text)) := by
  rw [expandTokens_of_pieces tokens (pieces_expandOptional h) (isSound_expanded h),
    List.flatMap_assoc]
  exact List.flatMap_congr fun p _ => flatMap_pattern_expanded tokens _ p

theorem tokenNames_expandOptional :
    tokenNames (expandOptional text) = (parts text).flatMap Part.names := by
  rw [tokenNames_of_pieces (pieces_expandOptional h) (isSound_expanded h), List.flatMap_assoc]
  exact List.flatMap_congr fun p _ => flatMap_names_expanded _ p

end Valid

end RouteMatch.Template

namespace RouteMatch.Route

open Template

/-- **Braces of a template belong to placeholders or stand for themselves.**  A definition
whose template has a faulty placeholder, or more than one optional group, is refused,
whatever else it holds.  In the pattern of a route that was built the placeholders of the
template are groups, and all other characters, braces among them, stand as they are; the
names of the route are those of the placeholders. -/
theorem build_hasSoundParts (d : RouteDefinition) :
    (¬HasSoundParts d.path.toList → ∃ fault, build d = .error (.route d.path fault)) ∧
      ∀ r, build d = .ok r →
        HasSoundParts d.path.toList ∧
          r.pattern.source
            = String.ofList
                ('^' :: withWildcard d.wildcard ((parts d.path.toList).flatMap
                  (Part.pattern d.tokens (opensGroup d.path.toList))) ++ ['$']) ∧
          r.names = ((parts d.path.toList).flatMap Template.Part.names).map String.ofList := by
  constructor
  · intro hsound
    have hvalid := mt validate_eq_ok_iff_hasSoundParts.mp hsound
    have hfault : definitionFault? d ≠ none := fun hnone =>
      hvalid (validate_of_definitionFault? hnone)
    obtain ⟨fault, hfault⟩ := Option.ne_none_iff_exists'.mp hfault
    exact ⟨fault, by rw [build, hfault]⟩
  · intro r hbuild
    obtain ⟨hfault, pattern, constraints, hpattern, -, rfl⟩ := build_eq_ok_iff.mp hbuild
    have hsound := validate_eq_ok_iff_hasSoundParts.mp (validate_of_definitionFault? hfault)
    refine ⟨hsound, ?_, by rw [tokenTemplate, tokenNames_expandOptional hsound]⟩
    rw [source_of_compile hpattern, patternText_eq, tokenTemplate,
      expandTokens_expandOptional hsound]

/-- The definition of a route for a token in braces. -/
def bracedDefinition : RouteDefinition :=
  { path := "/\\\x7b\x7bid\x7d\\\x7d" }

theorem build_hasSoundParts_bracedDefinition :
    ∃ r, build bracedDefinition = .ok r ∧ HasSoundParts bracedDefinition.path.toList ∧
      r.pattern.source = "^/\\\x7b(?P<id>[^/]+)\\\x7d$" ∧ r.names = ["id"] := by
  obtain ⟨r, hr⟩ : ∃ r, build bracedDefinition = .ok r := exists_of_toBool (by decide +kernel)
  obtain ⟨hsound, hsource, hnames⟩ := (build_hasSoundParts bracedDefinition).2 r hr
  exact ⟨r, hr, hsound, hsource.trans (by decide +kernel), hnames.trans (by decide +kernel)⟩

/-- The definition of a route whose template has an opening brace that nothing closes. -/
def unclosedDefinition : RouteDefinition :=
  { path := "/\x7bid" }

/-- A brace that is forgotten is not refused.  It becomes a character of the pattern, so that the
route has no token and does not match what it was written for. -/
theorem not_refused_unclosedDefinition :
    ¬(¬Closed unclosedDefinition.path.toList →
        ∃ fault, build unclosedDefinition = .error (.route unclosedDefinition.path fault)) ∧
      ∃ r, build unclosedDefinition = .ok r ∧ r.pattern.source = "^/\x7bid$" ∧ r.names = [] ∧
        (r.pattern.matchAll? "/42").isSome = false := by
  obtain ⟨r, hbuild, hchecked⟩ : ∃ r, build unclosedDefinition = .ok r ∧
      (r.pattern.source == "^/\x7bid$" && r.names.isEmpty &&
        !(r.pattern.matchAll? "/42").isSome) = true :=
    exists_of_any_toOption (by decide +kernel)
  simp only [Bool.and_eq_true, beq_iff_eq, List.isEmpty_iff, Bool.not_eq_true'] at hchecked
  obtain ⟨⟨hsource, hnames⟩, hnone⟩ := hchecked
  refine ⟨fun h => ?_, r, hbuild, hsource, hnames, hnone⟩
  obtain ⟨fault, hfault⟩ := h (by decide +kernel)
  rw [hbuild] at hfault
  exact absurd hfault (by simp)

end RouteMatch.Route
