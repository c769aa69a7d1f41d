import RouteMatch.Proofs.Evaluation.Overlay
import RouteMatch.Proofs.Path.Substitution
import RouteMatch.Proofs.Route.Constraints
import RouteMatch.Proofs.Template.StrayBraces

/-!
# The kinds of parameters

Parameters come from the defaults of a route, from what the path and the server variables
were captured for, and from the wildcard.  On a route without a predicate whose defaults are
texts or nothing, each of these gives texts or nothing again, and an empty text counts as
missing everywhere but among the defaults.  So an evaluation of a request whose attributes are
of the usual kinds always comes to an end, and the kinds of its parameters are known.

## Main definitions

* `Value.isOptionalText` — a text or nothing.
* `Attributes.IsTyped` — attributes of the usual kinds.
* `Params.AreTextual` — parameters that are texts or nothing, none empty but for a default.
* `Params.AreTyped` — what is known of the parameters on a route.

## Main results

* `evaluate_cases` — an evaluation rejects, or it gives what was captured to the parameters.
* `areTextual_foldl_overlay` — captures over textual parameters.
* `evaluate_typed` — **every evaluation gives an attempt, with parameters of known kinds.**
-/

namespace RouteMatch

/-! ### Texts or nothing -/

/-- Whether a value is a text or nothing. -/
def Value.isOptionalText : Value → Bool
  | .none | .text _ => true
  | _ => false

theorem Value.isOptionalText_cases {v : Value} (h : v.isOptionalText = true) :
    v = .none ∨ ∃ s, v = .text s := by
  cases v with
  | none => exact Or.inl rfl
  | text s => exact Or.inr ⟨s, rfl⟩
  | _ => exact absurd h (by simp [Value.isOptionalText])

/-- Attributes of the usual kinds. -/
structure Attributes.IsTyped (a : Attributes) : Prop where
  method : ∃ s, a.method = .text s
  https : a.https.isOptionalText = true
  port : a.port = .none ∨ ∃ i, a.port = .int i
  accept : a.accept.isOptionalText = true
  server : ∀ name value, a.server.get? name = some value → Attributes.isText value = true

/-! ### Conditions that can be told -/

section Conditions

variable {r : Route} {path : String} {a : Attributes} {config : Config}

/-- Of typed attributes it can be told whether the connection was secure. -/
theorem Attributes.IsTyped.exists_isSecure (ha : a.IsTyped) : ∃ b, a.isSecure = .ok b := by
  unfold Attributes.isSecure
  rcases Value.isOptionalText_cases ha.https with h | ⟨s, h⟩
  · rw [h]
    exact ⟨_, rfl⟩
  · rw [h]
    exact ⟨_, rfl⟩

/-- Of typed attributes every server variable has a text. -/
theorem Attributes.IsTyped.exists_serverText (ha : a.IsTyped) (name : String) :
    ∃ text, serverText a name = .ok text := by
  unfold serverText
  cases hget : a.server.get? (.text name) with
  | none => exact ⟨"", rfl⟩
  | some value =>
    have htext : Attributes.isText value = true := ha.server (.text name) value hget
    cases value with
    | text s => exact ⟨s, rfl⟩
    | _ => exact absurd htext Bool.false_ne_true

/-- Without a predicate everything is in favour. -/
theorem judgement_of_none (hpredicate : r.definition.predicate = none) (captures : Captures) :
    judgement r a captures = .ok (true, captures) := by
  rw [judgement, hpredicate]

/-- Of a request with typed attributes each condition can be told. -/
theorem Condition.exists_answer (c : Condition) (ha : a.IsTyped)
    (hpredicate : r.definition.predicate = none) :
    ∃ b, c.answer r path a config = .ok b := by
  cases c with
  | routable => exact ⟨_, rfl⟩
  | secure =>
    obtain ⟨b, hb⟩ := ha.exists_isSecure
    rw [Condition.answer, hb]
    cases r.definition.secure with
    | none => exact ⟨_, rfl⟩
    | some wanted => exact ⟨_, rfl⟩
  | path => exact ⟨_, rfl⟩
  | method =>
    obtain ⟨s, hs⟩ := ha.method
    rw [Condition.answer, hs]
    split
    · exact ⟨_, rfl⟩
    · exact ⟨_, rfl⟩
  | accept =>
    rw [Condition.answer]
    split
    · exact ⟨_, rfl⟩
    · rcases Value.isOptionalText_cases ha.accept with h | ⟨s, h⟩
      · rw [h]
        exact ⟨_, rfl⟩
      · rw [h]
        exact ⟨_, rfl⟩
  | server =>
    rw [Condition.answer]
    cases missingConstraint? r a with
    | none => exact ⟨_, rfl⟩
    | some constraint =>
      obtain ⟨text, htext⟩ := ha.exists_serverText constraint.1
      exact ⟨false, by simp only [htext, Except.map]⟩
  | predicate =>
    rw [Condition.answer, judgement_of_none hpredicate]
    exact ⟨_, rfl⟩

/-- If every condition can be told, an evaluation rejects, or it gives all that was captured
to the parameters. -/
theorem evaluate_cases (h : ∀ c : Condition, ∃ b, c.answer r path a config = .ok b) :
    (∃ captures why, evaluate r path a config = .ok ⟨[], captures, some why⟩) ∨
      evaluate r path a config
        = (extractParams r (Condition.predicate.left r path a config)).map fun params =>
          ⟨params, Condition.predicate.left r path a config, none⟩ := by
  rw [evaluate_eq]
  cases Condition.all.find? fun c => !c.holds r path a config with
  | none => exact Or.inr rfl
  | some c =>
    obtain ⟨b, hb⟩ := h c
    rw [Option.elim_some, hb]
    exact Or.inl ⟨_, _, rfl⟩

end Conditions

/-! ### What is captured -/

section Captures

variable (r : Route) (path : String) (a : Attributes) (config : Config)

theorem isOptionalText_pathCaptures (m : Match) :
    ∀ capture ∈ pathCaptures m, capture.2.isOptionalText = true := by
  intro capture hcapture
  obtain ⟨⟨name, text⟩, -, rfl⟩ := List.mem_map.mp hcapture
  cases text <;> rfl

theorem isOptionalText_groupCaptures :
    ∀ capture ∈ groupCaptures r path config, capture.2.isOptionalText = true := by
  unfold groupCaptures
  cases pathMatch? r path config with
  | none =>
    intro capture hcapture
    exact absurd hcapture List.not_mem_nil
  | some m =>
    show ∀ capture ∈ Entries.update [] (pathCaptures m), capture.2.isOptionalText = true
    apply Entries.forall_mem_update (P := fun v : Value => v.isOptionalText = true)
    · intro capture hcapture
      exact absurd hcapture List.not_mem_nil
    · exact isOptionalText_pathCaptures m

theorem isOptionalText_constraintCapture? (constraint : String × Pattern) :
    ((constraintCapture? a constraint).getD .none).isOptionalText = true := by
  unfold constraintCapture?
  cases serverText a constraint.1 with
  | error failure => rfl
  | ok text =>
    simp only [Except.toOption, Option.bind_some]
    cases constraint.2.find? text with
    | none => rfl
    | some m =>
      cases h : m.namedCapture? constraint.1 with
      | none => simp [h, Value.isOptionalText]
      | some captured => simp [h, Value.isOptionalText]

/-- Constraints add texts or nothing to the captures. -/
theorem isOptionalText_foldl_constraints (constraints : List (String × Pattern))
    {captures : Captures} (h : ∀ capture ∈ captures, capture.2.isOptionalText = true) :
    ∀ capture ∈ constraints.foldl
      (fun captures c => captures.insert (.text c.1) ((constraintCapture? a c).getD .none))
      captures, capture.2.isOptionalText = true := by
  induction constraints generalizing captures with
  | nil => exact h
  | cons constraint rest ih =>
    rw [List.foldl_cons]
    apply ih
    exact Entries.forall_mem_insert (P := fun v : Value => v.isOptionalText = true) h _
      (isOptionalText_constraintCapture? a constraint)

/-- Without a predicate nothing is captured after the server variables. -/
theorem left_predicate_of_none (hpredicate : r.definition.predicate = none) :
    Condition.predicate.left r path a config = serverCaptures r path a config := by
  simp only [Condition.left, judgement_of_none hpredicate]

/-- All that is captured without a predicate is texts or nothing. -/
theorem isOptionalText_left (hpredicate : r.definition.predicate = none) :
    ∀ capture ∈ Condition.predicate.left r path a config, capture.2.isOptionalText = true := by
  rw [left_predicate_of_none r path a config hpredicate]
  exact isOptionalText_foldl_constraints a _ (isOptionalText_groupCaptures r path config)

end Captures

/-! ### Captures over parameters -/

/-- Parameters that are texts or nothing.  An empty text is the default of its key. -/
def Params.AreTextual (params defaults : Params) : Prop :=
  ∀ key value, params.get? key = some value →
    value.isOptionalText = true ∧ (value = .text "" → defaults.get? key = some (.text ""))

/-- A capture that is a text or nothing leaves the parameters alone, or writes a decoded text
that is not empty. -/
theorem overlay_cases (params : Params) {capture : Value × Value}
    (h : capture.2.isOptionalText = true) :
    overlay params capture = params ∨
      ∃ name text, text ≠ "" ∧ overlay params capture = params.insert name (.text text) := by
  obtain ⟨key, value⟩ := capture
  cases key with
  | text name =>
    rcases Value.isOptionalText_cases h with hnone | ⟨s, hs⟩
    · left
      simp only [overlay, show value = .none from hnone, isMissing, if_true]
    · obtain rfl : value = .text s := hs
      by_cases hempty : s = ""
      · left
        rw [hempty]
        rfl
      · right
        have hmissing : isMissing (.text s) = false := beq_eq_false_iff_ne.mpr hempty
        refine ⟨name, Text.percentDecode s, Text.percentDecode_ne_empty hempty, ?_⟩
        simp only [overlay, hmissing, decodeCapture, Bool.false_eq_true, if_false]
  | _ => exact Or.inl rfl

section Overlay

variable {defaults params : Params} {captures : Captures}

theorem areTextual_overlay (h : params.AreTextual defaults) {capture : Value × Value}
    (hcapture : capture.2.isOptionalText = true) :
    (overlay params capture).AreTextual defaults := by
  rcases overlay_cases params hcapture with heq | ⟨name, text, hne, heq⟩
  · rw [heq]
    exact h
  · rw [heq]
    intro key value hget
    rw [Entries.get?_insert] at hget
    split at hget
    · obtain rfl := Option.some.inj hget
      refine ⟨rfl, ?_⟩
      intro hempty
      exact absurd (Value.text.inj hempty) hne
    · exact h key value hget

/-- Captures over textual parameters. -/
theorem areTextual_foldl_overlay (h : params.AreTextual defaults)
    (hcaptures : ∀ capture ∈ captures, capture.2.isOptionalText = true) :
    (captures.foldl overlay params).AreTextual defaults := by
  induction captures generalizing params with
  | nil => exact h
  | cons capture rest ih =>
    rw [List.foldl_cons]
    apply ih
    · exact areTextual_overlay h (hcaptures capture List.mem_cons_self)
    · intro other hother
      exact hcaptures other (List.mem_cons_of_mem _ hother)

theorem isSome_get?_overlay {key : String} (h : (params.get? key).isSome = true)
    (capture : Value × Value) : ((overlay params capture).get? key).isSome = true := by
  unfold overlay
  split
  · split
    · exact h
    · rw [Entries.get?_insert]
      split
      · rfl
      · exact h
  · exact h

/-- Captures take no parameter away. -/
theorem isSome_get?_foldl_overlay {key : String} (h : (params.get? key).isSome = true) :
    ((captures.foldl overlay params).get? key).isSome = true := by
  induction captures generalizing params with
  | nil => exact h
  | cons capture rest ih => exact ih (isSome_get?_overlay h capture)

/-- Captures keep the names of parameters different. -/
theorem nodup_foldl_overlay (h : (params.map Prod.fst).Nodup) (captures : Captures) :
    ((captures.foldl overlay params).map Prod.fst).Nodup := by
  rw [foldl_overlay, ← Entries.isDictionary_iff_nodup]
  exact Entries.IsDictionary.update (Entries.isDictionary_iff_nodup.mpr h) _

/-- The pieces of a text or of nothing are texts. -/
theorem exists_splitWildcard {v : Value} (h : v.isOptionalText = true) :
    ∃ pieces : List String, splitWildcard v = .ok (pieces.map .text) := by
  rcases Value.isOptionalText_cases h with rfl | ⟨s, rfl⟩
  · exact ⟨[], rfl⟩
  · unfold splitWildcard
    split
    · exact ⟨[], rfl⟩
    · refine ⟨(Text.split '/' s.toList).map fun piece =>
        String.ofList (Text.percentDecodeChars piece), ?_⟩
      simp [Function.comp_def]

end Overlay

/-! ### Parameters on a route -/

/-- What is known of the parameters that a match on a route gives. -/
structure Params.AreTyped (params : Params) (d : RouteDefinition) : Prop where
  /-- Every name of the template has a parameter. -/
  names : ∀ name ∈ (Template.parts d.path.toList).flatMap Template.Part.names,
    (params.get? (String.ofList name)).isSome = true
  /-- The wildcard has a list of texts. -/
  wildcard : ∀ w, Route.wildcardOf d = some w →
    ∃ pieces : List String, params.get? w = some (.list (pieces.map .text))
  /-- All other parameters are texts or nothing. -/
  textual : ∀ key value, Route.wildcardOf d ≠ some key → params.get? key = some value →
    value.isOptionalText = true
  /-- Only a default is the empty text. -/
  empty : ∀ key, Route.wildcardOf d ≠ some key → params.get? key = some (.text "") →
    d.values.get? key = some (.text "")

section Routes

variable {d : RouteDefinition} {r : Route}

/-- Parameters are what was captured over the defaults, and under the wildcard its pieces. -/
theorem extractParams_eq_ok {captures : Captures} {params : Params}
    (h : extractParams r captures = .ok params) :
    (Route.wildcardOf r.definition = none ∧ params = captures.foldl overlay r.values) ∨
      ∃ w pieces, Route.wildcardOf r.definition = some w ∧
        splitWildcard (((captures.foldl overlay r.values).get? w).getD .none) = .ok pieces ∧
        params = (captures.foldl overlay r.values).insert w (.list pieces) := by
  simp only [extractParams] at h
  split at h
  · next hw => exact Or.inl ⟨hw, (Except.ok.inj h).symm⟩
  · next w hw =>
    obtain ⟨pieces, hpieces, rfl⟩ := map_eq_ok h
    exact Or.inr ⟨w, pieces, hw, hpieces, rfl⟩

/-- Parameters stand under different names if the defaults of the route do. -/
theorem nodup_extractParams (hvalues : (r.values.map Prod.fst).Nodup) {captures : Captures}
    {params : Params} (h : extractParams r captures = .ok params) :
    (params.map Prod.fst).Nodup := by
  have hoverlaid := nodup_foldl_overlay hvalues captures
  rcases extractParams_eq_ok h with ⟨-, rfl⟩ | ⟨w, pieces, -, -, rfl⟩
  · exact hoverlaid
  · exact Entries.nodup_insert hoverlaid w (.list pieces)

/-- The names of a built route are those of its template. -/
theorem Route.names_of_build (hbuild : Route.build d = .ok r) :
    r.names = ((Template.parts d.path.toList).flatMap Template.Part.names).map String.ofList := by
  obtain ⟨hfault, -, -, -, -, rfl⟩ := Route.build_eq_ok_iff.mp hbuild
  have hsound := Template.validate_eq_ok_iff_hasSoundParts.mp
    (Route.validate_of_definitionFault? hfault)
  show (Template.tokenNames (Route.tokenTemplate d)).map String.ofList = _
  rw [Route.tokenTemplate, Template.tokenNames_expandOptional hsound]

/-- The defaults of a built route: its own, and an empty one for each name that had none. -/
theorem Route.get?_values_of_build (hbuild : Route.build d = .ok r) (key : String) :
    r.values.get? key = (d.values.get? key).or (if key ∈ r.names then some .none else none) := by
  obtain ⟨-, -, -, -, -, rfl⟩ := Route.build_eq_ok_iff.mp hbuild
  exact get?_foldl_insertNew _ d.values key

theorem Route.definition_of_build (hbuild : Route.build d = .ok r) : r.definition = d := by
  obtain ⟨-, -, -, -, -, rfl⟩ := Route.build_eq_ok_iff.mp hbuild
  rfl

/-- The constraints of a built route have the names of those of its definition. -/
theorem Route.map_fst_constraints_of_build (hbuild : Route.build d = .ok r) :
    r.constraints.map Prod.fst = d.server.map Prod.fst := by
  obtain ⟨-, -, constraints, -, hconstraints, rfl⟩ := Route.build_eq_ok_iff.mp hbuild
  exact map_fst_of_compileConstraints hconstraints

/-- A route is built without constraints if its definition has none. -/
theorem Route.constraints_eq_nil_of_build (hbuild : Route.build d = .ok r) (hd : d.server = []) :
    r.constraints = [] := by
  have hmap := Route.map_fst_constraints_of_build hbuild
  rw [hd] at hmap
  exact List.map_eq_nil_iff.mp hmap

/-- Empty defaults for more names keep the names of parameters different. -/
theorem nodup_foldl_insertNew (names : List String) {params : Params}
    (h : (params.map Prod.fst).Nodup) :
    ((names.foldl (fun params name => params.insertNew name Value.none) params).map
      Prod.fst).Nodup := by
  induction names generalizing params with
  | nil => exact h
  | cons name names ih => exact ih (Entries.nodup_insertNew h name .none)

/-- The defaults of a built route stand under different names if those of its definition
do. -/
theorem Route.nodup_values_of_build (hbuild : Route.build d = .ok r)
    (h : (d.values.map Prod.fst).Nodup) : (r.values.map Prod.fst).Nodup := by
  obtain ⟨-, -, -, -, -, rfl⟩ := Route.build_eq_ok_iff.mp hbuild
  exact nodup_foldl_insertNew _ h

/-- The defaults of a built route are textual if those of its definition are. -/
theorem areTextual_values (hbuild : Route.build d = .ok r)
    (hvalues : ∀ key value, d.values.get? key = some value → value.isOptionalText = true) :
    r.values.AreTextual d.values := by
  intro key value hget
  rw [Route.get?_values_of_build hbuild] at hget
  cases hown : d.values.get? key with
  | some own =>
    rw [hown, Option.some_or] at hget
    obtain rfl := Option.some.inj hget
    refine ⟨hvalues key own hown, ?_⟩
    rintro rfl
    rfl
  | none =>
    rw [hown, Option.none_or] at hget
    split at hget
    · obtain rfl := Option.some.inj hget
      refine ⟨rfl, ?_⟩
      intro hempty
      exact absurd hempty (by simp)
    · exact absurd hget (by simp)

section Kinds

variable {params : Params}
  (hnames : ∀ name ∈ (Template.parts d.path.toList).flatMap Template.Part.names,
    (params.get? (String.ofList name)).isSome = true)
  (htextual : params.AreTextual d.values)

include hnames htextual

/-- Without a wildcard textual parameters are of known kinds. -/
theorem areTyped_of_wildcardOf_eq_none (hw : Route.wildcardOf d = none) : params.AreTyped d where
  names := hnames
  wildcard := by
    intro w hsome
    rw [hw] at hsome
    exact absurd hsome (by simp)
  textual := by
    intro key value _ hget
    exact (htextual key value hget).1
  empty := by
    intro key _ hget
    exact (htextual key _ hget).2 rfl

/-- The pieces of the wildcard among textual parameters. -/
theorem areTyped_insert {w : String} (hw : Route.wildcardOf d = some w) (pieces : List String) :
    Params.AreTyped (params.insert w (.list (pieces.map .text))) d := by
  have hother : ∀ key, Route.wildcardOf d ≠ some key →
      (params.insert w (.list (pieces.map .text))).get? key = params.get? key := by
    intro key hkey
    have hne : (w == key) = false := by
      apply beq_eq_false_iff_ne.mpr
      rintro rfl
      exact hkey hw
    rw [Entries.get?_insert, hne]
    rfl
  refine ⟨?_, ?_, ?_, ?_⟩
  · intro name hname
    rw [Entries.get?_insert]
    split
    · rfl
    · exact hnames name hname
  · intro w' hw'
    obtain rfl : w = w' := by
      rw [hw] at hw'
      exact Option.some.inj hw'
    refine ⟨pieces, ?_⟩
    rw [Entries.get?_insert, if_pos (beq_self_eq_true w)]
  · intro key value hkey hget
    rw [hother key hkey] at hget
    exact (htextual key value hget).1
  · intro key hkey hget
    rw [hother key hkey] at hget
    exact (htextual key _ hget).2 rfl

end Kinds

/-- Captures of texts or nothing give parameters of known kinds. -/
theorem exists_params (hbuild : Route.build d = .ok r)
    (hvalues : ∀ key value, d.values.get? key = some value → value.isOptionalText = true)
    {captures : Captures} (hcaptures : ∀ capture ∈ captures, capture.2.isOptionalText = true) :
    ∃ params, extractParams r captures = .ok params ∧ params.AreTyped d := by
  have hdefinition := Route.definition_of_build hbuild
  let overlaid := captures.foldl overlay r.values
  have htextual : overlaid.AreTextual d.values :=
    areTextual_foldl_overlay (areTextual_values hbuild hvalues) hcaptures
  have hnames : ∀ name ∈ (Template.parts d.path.toList).flatMap Template.Part.names,
      (overlaid.get? (String.ofList name)).isSome = true := by
    intro name hname
    have hmem : String.ofList name ∈ r.names := by
      rw [Route.names_of_build hbuild]
      exact List.mem_map_of_mem hname
    apply isSome_get?_foldl_overlay
    rw [Route.get?_values_of_build hbuild, if_pos hmem]
    cases d.values.get? (String.ofList name) <;> rfl
  cases hw : Route.wildcardOf d with
  | none =>
    refine ⟨overlaid, ?_, areTyped_of_wildcardOf_eq_none hnames htextual hw⟩
    rw [extractParams, hdefinition, hw]
  | some w =>
    -- What is under the name of the wildcard is split, and replaced by its pieces.
    have hoptional : ((overlaid.get? w).getD .none).isOptionalText = true := by
      cases hget : overlaid.get? w with
      | none => rfl
      | some v => exact (htextual w v hget).1
    obtain ⟨pieces, hpieces⟩ := exists_splitWildcard hoptional
    refine ⟨overlaid.insert w (.list (pieces.map .text)), ?_, areTyped_insert hnames htextual hw
      pieces⟩
    rw [extractParams, hdefinition, hw]
    show (splitWildcard ((overlaid.get? w).getD .none)).map _ = _
    rw [hpieces]
    rfl

/-- Typed attributes are rejected, or they give parameters of known kinds. -/
theorem evaluate_cases_of_typed (hbuild : Route.build d = .ok r) (hpredicate : d.predicate = none)
    (hvalues : ∀ key value, d.values.get? key = some value → value.isOptionalText = true)
    (path : String) {a : Attributes} (ha : a.IsTyped) (config : Config) :
    (∃ captures why, evaluate r path a config = .ok ⟨[], captures, some why⟩) ∨
      ∃ params captures, evaluate r path a config = .ok ⟨params, captures, none⟩ ∧
        extractParams r captures = .ok params ∧ params.AreTyped d := by
  have hnone : r.definition.predicate = none := by
    rw [Route.definition_of_build hbuild]
    exact hpredicate
  have hanswers : ∀ c : Condition, ∃ b, c.answer r path a config = .ok b := by
    intro c
    exact c.exists_answer ha hnone
  rcases evaluate_cases hanswers with hrejects | heval
  · exact Or.inl hrejects
  · right
    obtain ⟨params, hextract, htyped⟩ :=
      exists_params hbuild hvalues (isOptionalText_left r path a config hnone)
    rw [hextract] at heval
    exact ⟨params, _, heval, hextract, htyped⟩

/-- **Every evaluation gives an attempt, with parameters of known kinds.**  Take a route
without a predicate whose defaults are texts or nothing, and a request whose attributes are of
the usual kinds.  Whatever the path and the configuration, the evaluation does not fail.  If
the path matches, each name of the template has a parameter, the wildcard has a list of texts,
and all other parameters are texts or nothing, none of them empty unless it is the default of
the route for its key. -/
theorem evaluate_typed (hbuild : Route.build d = .ok r) (hpredicate : d.predicate = none)
    (hvalues : ∀ key value, d.values.get? key = some value → value.isOptionalText = true)
    (path : String) {a : Attributes} (ha : a.IsTyped) (config : Config) :
    ∃ attempt, evaluate r path a config = .ok attempt ∧
      (attempt.matched = true → attempt.params.AreTyped d) := by
  rcases evaluate_cases_of_typed hbuild hpredicate hvalues path ha config with
    ⟨captures, why, heval⟩ | ⟨params, captures, heval, -, htyped⟩
  · refine ⟨_, heval, ?_⟩
    intro hmatched
    exact absurd hmatched (by simp [Attempt.matched])
  · refine ⟨_, heval, ?_⟩
    intro _
    exact htyped

end Routes

/-- The definition of a route whose server variable takes the place of a token, with an empty
default and with a default for its wildcard. -/
def tailDefinition : RouteDefinition :=
  { path := "/{id}{/year,month}"
    values := [("year", .text ""), ("lang", .none), ("tail", .text "a//%zz")]
    wildcard := some "tail"
    server := [("id", "[a-z]*")] }

/-- Attributes without that server variable. -/
def tailAttributes : Attributes :=
  { https := .text "off", port := .int 80, server := [(.text "HOST", .text "www")] }

theorem evaluate_typed_tailDefinition :
    ∃ r attempt, Route.build tailDefinition = .ok r ∧
      evaluate r "/%zz/20%FF" tailAttributes {} = .ok attempt ∧ attempt.matched = true ∧
      attempt.params.AreTyped tailDefinition := by
  obtain ⟨r, hbuild, hmatches⟩ : ∃ r, Route.build tailDefinition = .ok r ∧
      (evaluate r "/%zz/20%FF" tailAttributes {}).toOption.any Attempt.matched = true :=
    exists_of_any_toOption (by decide +kernel)
  have hvalues : ∀ key value, tailDefinition.values.get? key = some value →
      value.isOptionalText = true := by
    intro key value hget
    obtain ⟨front, back, heq⟩ := Entries.exists_of_get?_eq_some hget
    have hall : tailDefinition.values.all (fun entry => entry.2.isOptionalText) = true := by decide
    have hmem : (key, value) ∈ tailDefinition.values := by
      rw [heq]
      exact List.mem_append_right _ List.mem_cons_self
    exact List.all_eq_true.mp hall _ hmem
  have htyped : tailAttributes.IsTyped := by
    refine ⟨⟨_, rfl⟩, rfl, Or.inr ⟨_, rfl⟩, rfl, ?_⟩
    intro name value hget
    rw [tailAttributes, Entries.get?_cons] at hget
    split at hget
    · obtain rfl := Option.some.inj hget
      rfl
    · exact absurd hget (by simp)
  obtain ⟨attempt, heval, hparams⟩ :=
    evaluate_typed hbuild rfl hvalues "/%zz/20%FF" htyped {}
  have hmatched : attempt.matched = true := by
    rw [heval] at hmatches
    exact hmatches
  exact ⟨r, attempt, hbuild, heval, hmatched, hparams hmatched⟩

end RouteMatch
