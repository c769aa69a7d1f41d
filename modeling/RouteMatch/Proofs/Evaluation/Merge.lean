import RouteMatch.Proofs.Evaluation.ConstraintOrder
import RouteMatch.Proofs.Evaluation.WildcardPieces
import RouteMatch.Proofs.Session.Isolation

/-!
# Merging captures into defaults

Each parameter has one source: what was captured under its name, or the default of the route.
Which it is, and what becomes of it, is said here for one name at a time, without the order in
which captures are laid over the defaults.  A capture counts unless it is nothing or the empty
text, and a text is decoded; a default is taken as it is.  The wildcard has a list, made of what
the same rule gives for its name.

## Main definitions

* `MergedFrom` — the source of a parameter.
* `SplitInto` — the list that is made of the value of a wildcard.
* `MergesTo` — what merging captures into the defaults of a route has to give.

## Main results

* `mergedFrom_foldl_overlay`, `splitInto_splitWildcard` — the two halves of merging.
* `extractParams_merges` — **the parameters of a route are merged by these rules.**
-/

namespace RouteMatch

/-! ### The rules -/

/-- The source of the parameter under a name. -/
inductive MergedFrom (r : Route) (captures : Captures) (name : String) : Option Value → Prop
  /-- A text that was captured is decoded. -/
  | text {s : String} (h : captures.get? (.text name) = some (.text s)) (hne : s ≠ "") :
      MergedFrom r captures name (some (.text (Text.percentDecode s)))
  /-- Any other value that was captured is taken as it is. -/
  | other {v : Value} (h : captures.get? (.text name) = some v) (htext : v.kind ≠ .text)
      (hnothing : v.kind ≠ .nothing) : MergedFrom r captures name (some v)
  /-- If nothing counts as captured, the default is taken, where there is one. -/
  | default (h : ∀ v, captures.get? (.text name) = some v → v = .none ∨ v = .text "") :
      MergedFrom r captures name (r.values.get? name)

/-- The list that is made of the value of a wildcard, if there is a value. -/
inductive SplitInto : Option Value → Except Failure (List Value) → Prop
  | missing : SplitInto none (.ok [])
  | untrue {v : Value} (h : v.isTrue = false) : SplitInto (some v) (.ok [])
  /-- The pieces between the slashes of a text, each of them decoded. -/
  | text {s : String} (hne : s ≠ "") {pieces : List String} (hjoin : "/".intercalate pieces = s)
      (hpieces : ∀ piece ∈ pieces, '/' ∉ piece.toList) :
      SplitInto (some (.text s)) (.ok (pieces.map fun piece => .text (Text.percentDecode piece)))
  | items {v : Value} (h : v.isTrue = true) (htext : v.kind ≠ .text) {items : List Value}
      (hitems : v.items? = some items) : SplitInto (some v) (.ok items)
  | notIterable {v : Value} (h : v.isTrue = true) (hitems : v.items? = none) :
      SplitInto (some v) (.error (.notIterable v.kind))

/-- What merging captures into the defaults of a route has to give: a dictionary of parameters,
or the failure to make a list of the value of its wildcard. -/
inductive MergesTo (r : Route) (captures : Captures) : Except Failure Params → Prop
  | plain (hw : Route.wildcardOf r.definition = none) {params : Params}
      (hdictionary : params.IsDictionary)
      (h : ∀ name, MergedFrom r captures name (params.get? name)) :
      MergesTo r captures (.ok params)
  | wildcard {w : String} (hw : Route.wildcardOf r.definition = some w) {value : Option Value}
      (hvalue : MergedFrom r captures w value) {pieces : List Value}
      (hpieces : SplitInto value (.ok pieces)) {params : Params}
      (hdictionary : params.IsDictionary) (hlist : params.get? w = some (.list pieces))
      (h : ∀ name, name ≠ w → MergedFrom r captures name (params.get? name)) :
      MergesTo r captures (.ok params)
  | failure {w : String} (hw : Route.wildcardOf r.definition = some w) {value : Option Value}
      (hvalue : MergedFrom r captures w value) {why : Failure}
      (hwhy : SplitInto value (.error why)) : MergesTo r captures (.error why)

/-! ### Captures over defaults -/

theorem Value.eq_text_of_kind {v : Value} (h : v.kind = .text) : ∃ s, v = .text s := by
  cases v with
  | text s => exact ⟨s, rfl⟩
  | number n => cases n <;> cases h
  | _ => cases h

theorem Value.eq_none_of_kind {v : Value} (h : v.kind = .nothing) : v = .none := by
  cases v with
  | none => rfl
  | number n => cases n <;> cases h
  | _ => cases h

theorem decodeCapture_of_kind {v : Value} (h : v.kind ≠ .text) : decodeCapture v = v := by
  cases v with
  | text s => exact absurd rfl h
  | _ => rfl

section

variable {r : Route} {captures : Captures}

/-- What is found under a name after captures were laid over the defaults has its source. -/
theorem mergedFrom_foldl_overlay (h : captures.IsDictionary) (name : String) :
    MergedFrom r captures name ((captures.foldl overlay r.values).get? name) := by
  rw [get?_foldl_overlay h]
  cases hget : captures.get? (.text name) with
  | none =>
    apply MergedFrom.default
    intro v hv
    rw [hget] at hv
    cases hv
  | some v =>
    by_cases hmissing : isMissing v = true
    · have hnone : (some v).filter (fun v => !isMissing v) = none := by
        simp [Option.filter, hmissing]
      rw [hnone, Option.map_none, Option.none_or]
      apply MergedFrom.default
      intro v' hv'
      obtain rfl : v = v' := Option.some.inj (hget.symm.trans hv')
      cases v with
      | none => exact Or.inl rfl
      | text s => exact Or.inr (congrArg Value.text (eq_of_beq hmissing))
      | _ => cases hmissing
    · have hsome : (some v).filter (fun v => !isMissing v) = some v := by
        simp [Option.filter, hmissing]
      rw [hsome, Option.map_some, Option.some_or]
      by_cases htext : v.kind = .text
      · obtain ⟨s, rfl⟩ := Value.eq_text_of_kind htext
        have hne : s ≠ "" := fun hs => hmissing (beq_iff_eq.mpr hs)
        exact .text hget hne
      · rw [decodeCapture_of_kind htext]
        refine .other hget htext ?_
        intro hnothing
        obtain rfl := Value.eq_none_of_kind hnothing
        exact hmissing rfl

end

/-! ### The list of a wildcard -/

/-- A text that is not empty is split into the pieces between its slashes. -/
theorem splitInto_text {s : String} (hne : s ≠ "") :
    SplitInto (some (.text s)) (splitWildcard (.text s)) := by
  let pieces := (Text.split '/' s.toList).map String.ofList
  have htrue : (Value.text s).isTrue = true := bne_iff_ne.mpr hne
  have hsplit : splitWildcard (.text s)
      = .ok (pieces.map fun piece => .text (Text.percentDecode piece)) := by
    rw [splitWildcard, htrue]
    simp [pieces, Function.comp_def, Text.percentDecode]
  rw [hsplit]
  refine .text hne ?_ ?_
  · apply String.toList_injective
    have hback : pieces.map String.toList = Text.split '/' s.toList := by
      simp [pieces, Function.comp_def]
    calc ("/".intercalate pieces).toList
        = Text.join '/' (pieces.map String.toList) := by
          rw [String.toList_intercalate, Text.join_eq_intercalate]
          rfl
      _ = s.toList := by rw [hback, Text.join_split]
  · intro piece hpiece
    obtain ⟨text, htext, rfl⟩ := List.mem_map.mp hpiece
    rw [String.toList_ofList]
    exact Text.notMem_of_mem_split htext

/-- A value that is no text is split into its items. -/
theorem splitWildcard_of_kind {v : Value} (htrue : v.isTrue = true) (htext : v.kind ≠ .text) :
    splitWildcard v = v.items := by
  unfold splitWildcard
  rw [htrue]
  cases v with
  | text s => exact absurd rfl htext
  | _ => rfl

/-- What is made of the value of a wildcard, which is nothing if there is no value. -/
theorem splitInto_splitWildcard (value : Option Value) :
    SplitInto value (splitWildcard (value.getD .none)) := by
  cases value with
  | none => exact .missing
  | some v =>
    rw [Option.getD_some]
    cases htrue : v.isTrue with
    | false =>
      have hempty : splitWildcard v = .ok [] := by
        unfold splitWildcard
        rw [htrue]
        rfl
      rw [hempty]
      exact .untrue htrue
    | true =>
      by_cases htext : v.kind = .text
      · obtain ⟨s, rfl⟩ := Value.eq_text_of_kind htext
        exact splitInto_text (bne_iff_ne.mp htrue)
      · rw [splitWildcard_of_kind htrue htext, Value.items]
        cases h : v.items? with
        | none => exact .notIterable htrue h
        | some items => exact .items htrue htext h

/-! ### Parameters -/

/-- Parameters are merged by the rules. -/
theorem mergesTo_extractParams (r : Route) (hvalues : r.values.IsDictionary) {captures : Captures}
    (h : captures.IsDictionary) : MergesTo r captures (extractParams r captures) := by
  have hmerged := mergedFrom_foldl_overlay (r := r) h
  have hdictionary : (captures.foldl overlay r.values).IsDictionary := by
    rw [foldl_overlay]
    exact hvalues.update _
  rw [extractParams]
  cases hw : Route.wildcardOf r.definition with
  | none => exact .plain hw hdictionary hmerged
  | some w =>
    have hsplit := splitInto_splitWildcard ((captures.foldl overlay r.values).get? w)
    simp only []
    cases hresult : splitWildcard (((captures.foldl overlay r.values).get? w).getD .none) with
    | error why =>
      rw [hresult] at hsplit
      exact .failure hw (hmerged w) hsplit
    | ok pieces =>
      rw [hresult] at hsplit
      refine .wildcard hw (hmerged w) hsplit (hdictionary.insert w _) ?_ ?_
      · rw [Entries.get?_insert, if_pos (beq_self_eq_true w)]
      · intro name hname
        have hne : ¬(w == name) = true := fun heq => hname (eq_of_beq heq).symm
        rw [Entries.get?_insert, if_neg hne]
        exact hmerged name

/-- An evaluation leaves the route under its name, unless its attempt is to be kept there. -/
theorem Session.route_step_evaluate {s : Session} {name : String} {r : Route} {given : Given}
    (h : s.route name = .ok (r, given)) (path : String) (attributes config : Option String)
    {keep : Option String} (hkeep : keep ≠ some name) :
    (s.step (.evaluate name path attributes config keep)).session.route name = .ok (r, given) := by
  have hother : (keep == some name) = false := beq_eq_false_iff_ne.mpr hkeep
  refine Session.route_eq_ok_iff.mpr
    ((Session.preserves_evaluate ?_).object_eq_ok (Session.route_eq_ok_iff.mp h))
  rw [hother, Bool.false_and]

/-- **The parameters of a route are merged from its captures and its defaults.**  Let captures be
under any keys and in any order, and let no two keys be equal.  Then the parameters are a
dictionary in which each name but the wildcard has what was captured under it, decoded if it is a
text, unless that is nothing or the empty text; otherwise it has the default of the route as it
stands, and without a default there is no parameter of that name.  The wildcard always has a list,
made of what the same rule gives for it: an empty one of what counts as false, the decoded pieces
between the slashes of a text, the items of another value that has items; for a value without
items merging fails, for that reason.  Captures in another order give the same parameters, and the
route stays what it is when a path is evaluated against it. -/
theorem extractParams_merges (r : Route) (hvalues : r.values.IsDictionary)
    (captures captures' : Captures) (h : captures.IsReordered captures') :
    MergesTo r captures (extractParams r captures) ∧
      Corresponds Entries.IsReordered (extractParams r captures) (extractParams r captures') ∧
      ∀ (s : Session) (name path : String) (attributes config keep : Option String) (given : Given),
        s.route name = .ok (r, given) → keep ≠ some name →
          (s.step (.evaluate name path attributes config keep)).session.route name
            = .ok (r, given) := by
  refine ⟨mergesTo_extractParams r hvalues h.isDictionary, extractParams_perm hvalues h, ?_⟩
  intro s name path attributes config keep given hroute hkeep
  exact Session.route_step_evaluate hroute path attributes config hkeep

/-- The definition of a route with a default that is not decoded and one under its wildcard. -/
def shelfDefinition : RouteDefinition :=
  { path := "/shelf/{id}/{lang}"
    values := [("lang", .text "e%20n"), ("rest", .list [.int 1, .none])]
    wildcard := some "rest" }

/-- Captures under a name, under other keys and with values that count as missing. -/
def shelfCaptures : Captures :=
  [(.int 1, .text "x"), (.text "lang", .text ""), (.text "id", .text "a%2520b"),
    (.tuple [.text "id"], .text "y"), (.text "rest", .none)]

theorem extractParams_merges_shelfDefinition :
    ∃ r params, Route.build shelfDefinition = .ok r ∧
      extractParams r shelfCaptures = .ok params ∧
      (params.map fun entry => (entry.1, entry.2.display))
        = [("lang", "'e%20n'"), ("rest", "[1, None]"), ("id", "'a%20b'")] ∧
      MergesTo r shelfCaptures (.ok params) ∧
      Corresponds Entries.IsReordered (.ok params) (extractParams r shelfCaptures.reverse) := by
  obtain ⟨r, hbuild, hparams⟩ : ∃ r, Route.build shelfDefinition = .ok r ∧
      ((extractParams r shelfCaptures).toOption.any fun params =>
        (params.map fun entry => (entry.1, entry.2.display))
          == [("lang", "'e%20n'"), ("rest", "[1, None]"), ("id", "'a%20b'")]) = true :=
    exists_of_any_toOption (by decide +kernel)
  obtain ⟨params, hextract, hshown⟩ := exists_of_any_toOption hparams
  have hvalues : r.values.IsDictionary :=
    Entries.isDictionary_iff_nodup.mpr (Route.nodup_values_of_build hbuild (by decide))
  have hcaptures : shelfCaptures.IsReordered shelfCaptures.reverse :=
    { isDictionary := by
        show List.Pairwise _ _
        decide +kernel
      isDictionary' := by
        show List.Pairwise _ _
        decide +kernel
      perm := shelfCaptures.reverse_perm.symm }
  obtain ⟨hmerges, hreordered, -⟩ :=
    extractParams_merges r hvalues shelfCaptures shelfCaptures.reverse hcaptures
  rw [hextract] at hmerges hreordered
  exact ⟨r, params, hbuild, hextract, eq_of_beq hshown, hmerges, hreordered⟩

end RouteMatch
