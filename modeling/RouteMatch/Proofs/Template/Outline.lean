import RouteMatch.Proofs.Pattern.Traversal
import RouteMatch.Proofs.Template.Transcription

/-!
# The patterns of plain templates

A template is plain if its text means the same in a pattern as in a path and no
token has a pattern of its own.  Its pattern is then the sketch of its parts, and a
route can always be built from it.

## Main definitions

* `sketch`, `wildcardSketch`, `wholeSketch` — the pattern of parts, of the rest of a
  path, and of both.
* `IsSeparated` — a slash between any two tokens, and an optional group only at the
  end.
* `IsPlainDefinition` — what is asked of the definition of a plain route.

## Main results

* `text_sketch` — the sketch of parts is written as their pattern.
* `IsPlainDefinition.build_eq` — a plain definition makes a route, whose pattern is
  the sketch.
-/

namespace RouteMatch.Template

open Pattern

/-! ### The pattern of parts -/

/-- Optional groups for several names, each inside the one before. -/
def chainSketch : List (List Char) → Sketch
  | [] => .done
  | name :: rest => .optional (.char '/' (.span name .segment (chainSketch rest))) .done

/-- The pattern of parts, where no token has a pattern of its own. -/
def sketch : List Part → Sketch
  | [] => .done
  | .char c :: ps => .char c (sketch ps)
  | .token name :: ps => .span name .segment (sketch ps)
  | .group names :: ps => (chainSketch names).append (sketch ps)

/-- The pattern of the rest of a path. -/
def wildcardSketch : Option (List Char) → Sketch
  | none => .done
  | some name => .optional (.char '/' (.span name .rest .done)) .done

/-- The pattern of a template with its wildcard. -/
def wholeSketch (ps : List Part) (wildcard : Option (List Char)) : Sketch :=
  (sketch ps).append (wildcardSketch wildcard)

/-- A part whose text means the same in a pattern. -/
def Part.isPlain : Part → Bool
  | .char c => Pattern.isPlain c
  | p => p.isWellFormed

/-- No token of the given names has a pattern of its own. -/
def HasDefaults (tokens : Entries String Value) (names : List (List Char)) : Prop :=
  ∀ name ∈ names, tokenBody tokens name = defaultBody

theorem text_chainSketch {tokens : Entries String Value} {names : List (List Char)}
    (h : HasDefaults tokens names) : (chainSketch names).text = nestedGroups tokens names := by
  induction names with
  | nil => rfl
  | cons name rest ih =>
    have hbody := h name List.mem_cons_self
    have ih := ih fun n hn => h n (List.mem_cons_of_mem _ hn)
    simp [chainSketch, Sketch.text, Span.text, nestedGroups, ih, hbody]

theorem text_sketch {tokens : Entries String Value} {ps : List Part}
    (h : HasDefaults tokens (ps.flatMap Part.names)) :
    (sketch ps).text = ps.flatMap (Part.pattern tokens false) := by
  induction ps with
  | nil => rfl
  | cons p ps ih =>
    rw [List.flatMap_cons] at h ⊢
    have ih := ih fun n hn => h n (List.mem_append_right _ hn)
    cases p with
    | char c => simp [sketch, Sketch.text, Part.pattern, ih]
    | token name =>
      have hbody := h name (List.mem_append_left _ List.mem_cons_self)
      simp [sketch, Sketch.text, Part.pattern, Span.text, ih, hbody]
    | group names =>
      have hgroup : (chainSketch names).text = nestedGroups tokens names :=
        text_chainSketch fun n hn => h n (List.mem_append_left _ hn)
      simp [sketch, Part.pattern, ih, hgroup]

@[simp] theorem names_chainSketch (names : List (List Char)) :
    (chainSketch names).names = names := by
  induction names with
  | nil => rfl
  | cons name rest ih => simp [chainSketch, Sketch.names, ih]

@[simp] theorem names_sketch (ps : List Part) : (sketch ps).names = ps.flatMap Part.names := by
  induction ps with
  | nil => rfl
  | cons p ps ih => cases p <;> simp [sketch, Sketch.names, Part.names, ih]

@[simp] theorem names_wildcardSketch (wildcard : Option (List Char)) :
    (wildcardSketch wildcard).names = wildcard.toList := by
  cases wildcard <;> rfl

theorem isPlain_chainSketch {names : List (List Char)} (h : names.all isName = true) :
    (chainSketch names).IsPlain := by
  induction names with
  | nil => trivial
  | cons name rest ih =>
    rw [List.all_cons, Bool.and_eq_true] at h
    exact ⟨⟨by decide, h.1, ih h.2⟩, trivial⟩

theorem isPlain_sketch {ps : List Part} (h : ∀ p ∈ ps, p.isPlain = true) : (sketch ps).IsPlain := by
  induction ps with
  | nil => trivial
  | cons p ps ih =>
    have hp := h p List.mem_cons_self
    have ih := ih fun q hq => h q (List.mem_cons_of_mem _ hq)
    cases p with
    | char c => exact ⟨hp, ih⟩
    | token name => exact ⟨hp, ih⟩
    | group names =>
      simp only [Part.isPlain, Part.isWellFormed, Bool.and_eq_true] at hp
      exact Sketch.isPlain_append.mpr ⟨isPlain_chainSketch hp.2, ih⟩

theorem isPlain_wildcardSketch {wildcard : Option (List Char)}
    (h : ∀ name ∈ wildcard, isName name = true) : (wildcardSketch wildcard).IsPlain := by
  cases wildcard with
  | none => trivial
  | some name => exact ⟨⟨by decide, h name rfl, trivial⟩, trivial⟩

theorem ne_brace_of_isPlain {c : Char} (h : Pattern.isPlain c = true) : c ≠ '{' ∧ c ≠ '}' := by
  constructor
  · rintro rfl
    exact absurd h (by decide)
  · rintro rfl
    exact absurd h (by decide)

/-- A plain part has no stray brace. -/
theorem isWellFormed_of_isPlain {p : Part} (h : p.isPlain = true) : p.isWellFormed = true := by
  cases p with
  | char c =>
    rw [Part.isWellFormed, Bool.and_eq_true, bne_iff_ne, bne_iff_ne]
    exact ne_brace_of_isPlain h
  | token name => exact h
  | group names => exact h

/-! ### Separated parts -/

/-- No token comes before the first slash. -/
def IsApart : List Part → Prop
  | .char c :: ps => c = '/' ∨ IsApart ps
  | .token _ :: _ => False
  | _ => True

/-- A slash stands between any two tokens, and an optional group comes last. -/
def IsSeparated : List Part → Prop
  | [] => True
  | .char _ :: ps => IsSeparated ps
  | .token _ :: ps => IsApart ps ∧ IsSeparated ps
  | .group _ :: ps => ps = []

instance decidableIsApart : DecidablePred IsApart
  | [] => isTrue trivial
  | .char c :: ps =>
    have := decidableIsApart ps
    inferInstanceAs (Decidable (c = '/' ∨ IsApart ps))
  | .token _ :: _ => isFalse id
  | .group _ :: _ => isTrue trivial

instance decidableIsSeparated : DecidablePred IsSeparated
  | [] => isTrue trivial
  | .char _ :: ps => decidableIsSeparated ps
  | .token _ :: ps =>
    have := decidableIsSeparated ps
    inferInstanceAs (Decidable (IsApart ps ∧ IsSeparated ps))
  | .group _ :: ps => inferInstanceAs (Decidable (ps = []))

theorem IsSeparated.countP_isGroup {ps : List Part} (h : IsSeparated ps) :
    ps.countP Part.isGroup ≤ 1 := by
  induction ps with
  | nil => exact Nat.zero_le 1
  | cons p ps ih =>
    cases p with
    | char c => simpa [List.countP_cons, Part.isGroup] using ih h
    | token name => simpa [List.countP_cons, Part.isGroup] using ih h.2
    | group names =>
      have hps : ps = [] := h
      rw [hps]
      exact le_of_eq rfl

/-! ### The text of a plain template -/

/-- The text of well-formed parts is valid. -/
theorem validate_written {ps : List Part} (h : ∀ p ∈ ps, p.isWellFormed = true)
    (hcount : ps.countP Part.isGroup ≤ 1) : validate (written ps) = .ok () := by
  refine validate_eq_ok_iff.mpr ⟨fun inner hinner => ?_, ?_⟩
  · rw [mem_placeholders, pieces_written h] at hinner
    obtain ⟨p, hp, hpiece⟩ := List.mem_map.mp hinner
    rw [← hpiece, part_piece (h p hp)]
    exact h p hp
  · rwa [← countP_isGroup_parts, parts_written h]

/-- The transcription of a plain template is the text of its sketch. -/
theorem transcription_plain {tokens : Entries String Value} {ps : List Part}
    (hfront : ps.head?.any Part.isGroup = false)
    (hdefaults : HasDefaults tokens (ps.flatMap Part.names)) :
    transcription tokens ps = (sketch ps).text := by
  rw [text_sketch hdefaults]
  cases ps with
  | nil => rfl
  | cons p ps =>
    rw [transcription, List.flatMap_cons, pattern_of_not_isGroup tokens (by simpa using hfront)]

/-- The text of a part that is no slash does not end in one. -/
theorem exists_getLast?_pattern (tokens : Entries String Value) {p : Part}
    (hwell : p.isWellFormed = true) (hp : p ≠ .char '/') (atFront : Bool) :
    ∃ c, (p.pattern tokens atFront).getLast? = some c ∧ c ≠ '/' := by
  have hnested : ∀ name rest, ∃ front, nestedGroups tokens (name :: rest) = front ++ ['?'] := by
    intro name rest
    refine ⟨"(/".toList ++ namedGroup name (tokenBody tokens name) ++ nestedGroups tokens rest
      ++ [')'], ?_⟩
    simp [nestedGroups]
  cases p with
  | char c =>
    refine ⟨c, rfl, ?_⟩
    rintro rfl
    exact hp rfl
  | token name =>
    refine ⟨')', ?_, by decide⟩
    rw [Part.pattern, namedGroup, List.getLast?_concat]
  | group names =>
    refine ⟨'?', ?_, by decide⟩
    cases names with
    | nil => exact absurd hwell (by decide)
    | cons first rest =>
      cases atFront with
      | false =>
        obtain ⟨front, hfront⟩ := hnested first rest
        simp only [Part.pattern, hfront, List.getLast?_concat]
      | true =>
        cases rest with
        | nil =>
          have htext : (Part.group [first]).pattern tokens true
              = "/(".toList ++ namedGroup first (tokenBody tokens first) ++ [')'] ++ ['?'] := by
            simp [Part.pattern, nestedGroups]
          rw [htext, List.getLast?_concat]
        | cons second rest =>
          obtain ⟨front, hfront⟩ := hnested second rest
          simp only [Part.pattern, hfront, ← List.append_assoc, List.getLast?_concat]

/-- The pattern of well-formed parts ends in a slash only if the parts do. -/
theorem getLast?_pattern {tokens : Entries String Value} {ps : List Part}
    (h : ∀ p ∈ ps, p.isWellFormed = true)
    (hlast : (ps.flatMap (Part.pattern tokens false)).getLast? = some '/') :
    ps.getLast? = some (.char '/') := by
  rcases List.eq_nil_or_concat ps with rfl | ⟨front, p, rfl⟩
  · exact absurd hlast (by simp)
  · rw [List.concat_eq_append] at h hlast ⊢
    have hp := h p (List.mem_append_right _ List.mem_cons_self)
    rw [List.flatMap_append, List.flatMap_singleton, List.getLast?_append] at hlast
    rw [List.getLast?_concat]
    by_cases hslash : p = .char '/'
    · rw [hslash]
    · obtain ⟨c, hc, hne⟩ := exists_getLast?_pattern tokens hp hslash false
      rw [hc, Option.some_or, Option.some.injEq] at hlast
      exact absurd hlast hne

theorem stripSlashes_of_getLast?_ne {text : List Char} (h : text.getLast? ≠ some '/') :
    stripSlashes text = text := by
  rcases List.eq_nil_or_concat text with rfl | ⟨front, c, rfl⟩
  · rfl
  · rw [List.concat_eq_append, List.getLast?_concat, ne_eq, Option.some.injEq] at h
    rw [stripSlashes, List.concat_eq_append, List.reverse_append, List.reverse_singleton,
      List.singleton_append, List.dropWhile_cons_of_neg (by simpa using h), List.reverse_cons,
      List.reverse_reverse]

end RouteMatch.Template

namespace RouteMatch.Route

open Template

/-- What is asked of the definition of a route with the given parts and wildcard:
the template is plain, names are distinct, no token has a pattern of its own, and
what does not concern the path can be compiled. -/
structure IsPlainDefinition (d : RouteDefinition) (ps : List Template.Part)
    (wildcard : Option (List Char)) : Prop where
  path_eq : d.path.toList = written ps
  isPlain : ∀ p ∈ ps, p.isPlain = true
  separated : IsSeparated ps
  front : ps.head?.any Template.Part.isGroup = false
  nodup : (ps.flatMap Template.Part.names ++ wildcard.toList).Nodup
  defaults : HasDefaults d.tokens (ps.flatMap Template.Part.names)
  wildcard_eq : wildcardOf d = wildcard.map String.ofList
  wildcard_isName : ∀ name ∈ wildcard, isName name = true
  /-- The slashes that a wildcard replaces. -/
  last : wildcard = none ∨ ps.getLast? ≠ some (.char '/')
  accept : ∀ mediaType ∈ d.accept, isMediaType mediaType.toList = true
  server : ∃ constraints, compileConstraints d.path d.server = .ok constraints

namespace IsPlainDefinition

variable {d : RouteDefinition} {ps : List Template.Part} {wildcard : Option (List Char)}

theorem isWellFormed (h : IsPlainDefinition d ps wildcard) :
    ∀ p ∈ ps, p.isWellFormed = true :=
  fun p hp => isWellFormed_of_isPlain (h.isPlain p hp)

theorem definitionFault?_eq_none (h : IsPlainDefinition d ps wildcard) :
    definitionFault? d = none := by
  refine definitionFault?_eq_none_iff.mpr ⟨?_, h.accept, ?_⟩
  · rw [h.path_eq, validate_written h.isWellFormed h.separated.countP_isGroup]
  · intro w hw
    rw [h.wildcard_eq] at hw
    obtain ⟨name, hname, rfl⟩ := Option.map_eq_some_iff.mp hw
    rw [String.toList_ofList]
    exact h.wildcard_isName name hname

/-- The pattern of a plain definition is the text of a sketch. -/
theorem patternText_eq (h : IsPlainDefinition d ps wildcard) :
    patternText d = String.ofList ('^' :: (wholeSketch ps wildcard).text ++ ['$']) := by
  have hexpanded : expandTokens d.tokens (tokenTemplate d) = (sketch ps).text := by
    rw [tokenTemplate, h.path_eq,
      expandTokens_expandOptional_written d.tokens h.isWellFormed h.separated.countP_isGroup,
      transcription_plain h.front h.defaults]
  unfold patternText
  simp only [hexpanded, h.wildcard_eq]
  cases hwildcard : wildcard with
  | none => simp [wholeSketch, wildcardSketch, Pattern.Sketch.text]
  | some name =>
    have hlast : (sketch ps).text.getLast? ≠ some '/' := by
      rw [text_sketch h.defaults]
      intro hslash
      refine h.last.resolve_left ?_ (getLast?_pattern h.isWellFormed hslash)
      rw [hwildcard]
      exact Option.some_ne_none name
    have hstrip : stripSlashes (sketch ps).text = (sketch ps).text :=
      stripSlashes_of_getLast?_ne hlast
    simp [expandWildcard, hstrip, wholeSketch, wildcardSketch, Pattern.Sketch.text,
      Pattern.Span.text]

/-- The compiled pattern of a plain definition. -/
theorem compile_eq (h : IsPlainDefinition d ps wildcard) :
    compile d.path (patternText d)
      = .ok ⟨patternText d, (wholeSketch ps wildcard).anchored,
          (wholeSketch ps wildcard).groupCount,
          ((wholeSketch ps wildcard).named 0).map fun (name, index) =>
            (String.ofList name, index)⟩ := by
  have hplain : (wholeSketch ps wildcard).IsPlain :=
    Pattern.Sketch.isPlain_append.mpr
      ⟨isPlain_sketch h.isPlain, isPlain_wildcardSketch h.wildcard_isName⟩
  have hnodup : (wholeSketch ps wildcard).names.Nodup := by
    simpa [wholeSketch] using h.nodup
  rw [compile, h.patternText_eq, Pattern.Sketch.compile_anchored hplain hnodup]

/-- A plain definition makes a route. -/
theorem build_eq (h : IsPlainDefinition d ps wildcard) :
    ∃ r, build d = .ok r ∧ r.definition = d ∧
      r.pattern.regex = (wholeSketch ps wildcard).anchored ∧
      r.pattern.names = ((wholeSketch ps wildcard).named 0).map
        (fun (name, index) => (String.ofList name, index)) ∧
      r.names = (ps.flatMap Template.Part.names).map String.ofList ∧
      compileConstraints d.path d.server = .ok r.constraints ∧
      r.values = r.names.foldl (fun values name => values.insertNew name .none) d.values := by
  obtain ⟨constraints, hconstraints⟩ := h.server
  have hnames : tokenNames (tokenTemplate d) = ps.flatMap Template.Part.names := by
    rw [tokenTemplate, h.path_eq,
      tokenNames_expandOptional_written h.isWellFormed h.separated.countP_isGroup]
  have hbuild := build_eq_ok_iff.mpr
    ⟨h.definitionFault?_eq_none, _, _, h.compile_eq, hconstraints, rfl⟩
  refine ⟨_, hbuild, rfl, rfl, rfl, ?_, hconstraints, rfl⟩
  rw [hnames]

end IsPlainDefinition

end RouteMatch.Route
