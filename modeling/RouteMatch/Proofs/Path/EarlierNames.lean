import RouteMatch.Proofs.Path.PlainCheck
import RouteMatch.Proofs.Route.Bodies
import RouteMatch.Proofs.Template.Embedding
import RouteMatch.Proofs.Template.OptionalGroup

/-!
# Later names and earlier ones

The names of an optional group stand for path segments that follow each other.  On a path
that passes the path check a later name has captured a segment only if the name before it
has, wherever the group stands in the template and whatever patterns the other tokens have,
if these are confined.  There is one exception: at the front of a template the first name
may have captured nothing although the second one has captured a segment, on a path that
begins with two slashes.

## Main definitions

* `IsCaptured` — something was captured under a name.

## Main results

* `Route.isInitial_captures` — what the names of an optional group have captured.
* `Route.isCaptured_earlier` — **a later name comes with the earlier one**, but for the
  exception.
* `Route.not_isCaptured_earlier_pairDefinition` — the exception.
-/

namespace RouteMatch

/-- Something was captured under a name. -/
def IsCaptured (captures : Captures) (name : List Char) : Prop :=
  ∃ v, captures.get? (.text (String.ofList name)) = some v ∧ v ≠ .none

instance (captures : Captures) (name : List Char) : Decidable (IsCaptured captures name) :=
  decidable_of_iff ((captures.get? (.text (String.ofList name))).any
    (fun | .none => false | _ => true) = true) <| by
    rw [Option.any_eq_true, IsCaptured]
    refine exists_congr fun v => and_congr_right fun _ => ?_
    cases v <;> simp

theorem isCaptured_capturesOf {found : List (List Char × Option (List Char))}
    (hnodup : (found.map Prod.fst).Nodup) {name : List Char} {text : Option (List Char)}
    (hmem : (name, text) ∈ found) : IsCaptured (capturesOf found) name ↔ text.isSome := by
  rw [IsCaptured, get?_capturesOf hnodup hmem]
  cases text with
  | none => simp [capturedValue]
  | some text => simp [capturedValue]

/-- A path that passes the path check matches the pattern. -/
theorem exists_match_of_checkPath {r : Route} {path : String} {config : Config}
    {captures : Captures} (h : checkPath r path config [] = .ok (captures, none)) :
    ∃ v, Pattern.fullMatch? r.pattern.regex path.toList = some v ∧
      captures = Entries.update [] (pathCaptures ⟨r.pattern, v⟩) := by
  unfold checkPath Pattern.matchAll? at h
  split at h
  · exact absurd h (by simp)
  · cases hmatch : Pattern.fullMatch? r.pattern.regex path.toList with
    | none =>
      rw [hmatch] at h
      exact absurd h (by simp)
    | some v =>
      rw [hmatch] at h
      obtain ⟨rfl, -⟩ := Prod.mk.inj (Except.ok.inj h)
      exact ⟨v, rfl, rfl⟩

namespace Route

open Pattern (Confined Sketch)
open Template

variable {d : RouteDefinition}

/-- A part that is no slash is kept with all that is before it. -/
theorem exists_keptParts {front back : List Template.Part} {p : Template.Part}
    (hparts : parts d.path.toList = front ++ p :: back) (hp : p ≠ .char '/') :
    ∃ kept, keptParts d = front ++ p :: kept := by
  have hdrop : ∀ back, ∃ kept,
      (front ++ p :: back).rdropWhile (fun q => q = .char '/') = front ++ p :: kept := by
    intro back
    induction back using List.reverseRecOn with
    | nil => exact ⟨[], List.rdropWhile_concat_neg _ _ _ (by simpa using hp)⟩
    | append_singleton back q ih =>
      rw [← List.cons_append, ← List.append_assoc]
      by_cases hq : q = .char '/'
      · rw [List.rdropWhile_concat_pos _ _ _ (by simpa using hq)]
        exact ih
      · rw [List.rdropWhile_concat_neg _ _ _ (by simpa using hq)]
        exact ⟨back ++ [q], by simp⟩
  unfold keptParts
  split
  · exact ⟨back, hparts⟩
  · rw [hparts]
    exact hdrop back

/-- The pattern of a plain template has the sketch of its optional group in it. -/
theorem exists_embeds_groupSketch {front back : List Template.Part} {names : List (List Char)}
    (hplain : HasPlainText d) (hfault : definitionFault? d = none)
    (hparts : parts d.path.toList = front ++ .group names :: back)
    (hdefaults : HasDefaults d.tokens names)
    (hconfined : ∀ name ∈ tokensOf d, Confined (tokenBody d.tokens name))
    {parsed : Pattern.Parsed} (hparse : Pattern.parse (patternText d).toList = .ok parsed) :
    ∃ items count tail,
      Pattern.Embeds parsed (groupSketch front.isEmpty names) items count tail ∧
        (front = [] → items = []) := by
  obtain ⟨kept, hkept⟩ := exists_keptParts hparts (by simp)
  have hpart := isPlain_keptParts hplain hfault
  have htokens := hasConfined_keptParts hplain hfault hconfined
  rw [hkept] at hpart htokens
  rw [List.flatMap_append, List.flatMap_cons] at htokens
  -- Before the group and after it stand parts that pass.
  have hfront : Pattern.Passes (transcription d.tokens front) _ :=
    passes_transcription (fun p hp => hpart p (List.mem_append_left _ hp))
      fun n hn => htokens n (List.mem_append_left _ hn)
  have hback : Pattern.Passes (kept.flatMap (Template.Part.pattern d.tokens false)) _ :=
    passes_flatMap_pattern
      (fun p hp => hpart p (List.mem_append_right _ (List.mem_cons_of_mem _ hp)))
      fun n hn => htokens n (List.mem_append_right _ (List.mem_append_right _ hn))
  have hnames : names.all isName = true := by
    have hgroup := hpart (.group names) (List.mem_append_right _ List.mem_cons_self)
    simp only [Template.Part.isPlain, Template.Part.isWellFormed, Bool.and_eq_true] at hgroup
    exact hgroup.2
  have htext : (patternText d).toList
      = '^' :: (transcription d.tokens front ++ (groupSketch front.isEmpty names).text
        ++ (kept.flatMap (Template.Part.pattern d.tokens false)
          ++ (wildcardSketch ((wildcardOf d).map String.toList)).text)) ++ ['$'] := by
    rw [patternText_eq_transcription hplain hfault, String.toList_ofList, hkept,
      transcription_append_cons, text_groupSketch hdefaults, List.append_assoc]
  rw [htext] at hparse
  obtain ⟨items, count, tail, hembeds, hempty⟩ := Pattern.exists_embeds_of_parse hfront
    (isPlain_groupSketch front.isEmpty hnames) (hback.append (passes_wildcardOf hfault)) hparse
  exact ⟨items, count, tail, hembeds, fun hnil => hempty (by rw [hnil]; rfl)⟩

/-- **What the names of an optional group have captured** on a path that passes the path
check: the first ones have captured something and the others have not.  At the front of a
template the very first name may be an exception, on a path that begins with two slashes. -/
theorem isInitial_captures {front back : List Template.Part} {names : List (List Char)}
    {r : Route} (hbuild : build d = .ok r) (hplain : HasPlainText d)
    (hparts : parts d.path.toList = front ++ .group names :: back)
    (hdefaults : HasDefaults d.tokens names)
    (hconfined : ∀ name ∈ tokensOf d, Confined (tokenBody d.tokens name))
    {path : String} {config : Config} {captures : Captures}
    (hcheck : checkPath r path config [] = .ok (captures, none)) :
    ∃ found : List (Option (List Char)), found.length = names.length ∧
      (∀ entry ∈ names.zip found, IsCaptured captures entry.1 ↔ entry.2.isSome) ∧
      IsInitial found.tail ∧
      (front ≠ [] ∨ ¬['/', '/'] <+: path.toList → IsInitial found) := by
  obtain ⟨hfault, pattern, constraints, hpattern, -, rfl⟩ := build_eq_ok_iff.mp hbuild
  obtain ⟨parsed, hparse, hregex, hnamed⟩ := exists_parse_of_compile hpattern
  obtain ⟨v, hmatch, rfl⟩ := exists_match_of_checkPath hcheck
  simp only [] at hmatch
  rw [hregex] at hmatch
  obtain ⟨items, count, tail, hembeds, hempty⟩ :=
    exists_embeds_groupSketch hplain hfault hparts hdefaults hconfined hparse
  -- The match has come through a match of the group.
  obtain ⟨t, next, hstep, hfresh, hstart, hkeep⟩ := hembeds.exists_of_fullMatch? hmatch
  obtain ⟨u, found, hu, hfills, htail, hinitial⟩ := exists_of_step_groupSketch hfresh hstep
  let named := (groupSketch front.isEmpty names).named count
  have hnames : named.map Prod.fst = names := by simp [named]
  have hfound : named.map (fun entry => v.captured? entry.2) = found := by
    rw [← hfills.inside]
    exact List.map_congr_left fun entry hentry => hkeep u hu _ (Sketch.mem_named hentry).2
  refine ⟨found, ?_, fun entry hentry => ?_, htail, fun hplace => hinitial ?_⟩
  · rw [← hfound, ← hnames, List.length_map, List.length_map]
  · rw [← hnames, ← hfound, List.zip_map'] at hentry
    obtain ⟨⟨name, index⟩, hmem, rfl⟩ := List.mem_map.mp hentry
    have hall : (parsed.names.map fun entry => (entry.1, v.captured? entry.2)).map Prod.fst
        = parsed.names.map Prod.fst := by
      rw [List.map_map]
      rfl
    rw [pathCaptures_eq hnamed, update_capturesOf (hall ▸ hembeds.nodup)]
    exact isCaptured_capturesOf (hall ▸ hembeds.nodup)
      (List.mem_map.mpr ⟨_, hembeds.named hmem, rfl⟩)
  · by_cases hnil : front = []
    · right
      rw [hstart (hempty hnil)]
      exact hplace.resolve_left (absurd hnil)
    · left
      simpa using hnil

/-- **A later name comes with the earlier one.**  On a path that passes the path check a name
of an optional group has captured something if the next one has, unless it is the first
name at the front of the template and the path begins with two slashes. -/
theorem isCaptured_earlier {front back : List Template.Part} {names : List (List Char)}
    {r : Route} (hbuild : build d = .ok r) (hplain : HasPlainText d)
    (hparts : parts d.path.toList = front ++ .group names :: back)
    (hdefaults : HasDefaults d.tokens names)
    (hconfined : ∀ name ∈ tokensOf d, Confined (tokenBody d.tokens name))
    {path : String} {config : Config} {captures : Captures}
    (hcheck : checkPath r path config [] = .ok (captures, none)) {i : Nat}
    (hi : i + 1 < names.length)
    (hplace : front ≠ [] ∨ 0 < i ∨ ¬['/', '/'] <+: path.toList)
    (hlater : IsCaptured captures names[i + 1]) : IsCaptured captures names[i] := by
  obtain ⟨found, hlength, hcaptured, htail, hinitial⟩ :=
    isInitial_captures hbuild hplain hparts hdefaults hconfined hcheck
  have hat : ∀ (j : Nat) (hj : j < names.length) (hj' : j < found.length),
      IsCaptured captures names[j] ↔ found[j].isSome := by
    intro j hj hj'
    have hzip : j < (names.zip found).length := by
      rw [List.length_zip]
      omega
    have hentry := hcaptured _ (List.getElem_mem hzip)
    rwa [List.getElem_zip] at hentry
  rw [hat i (by omega) (by omega)]
  have hsome := (hat (i + 1) hi (by omega)).mp hlater
  by_cases hfirst : front ≠ [] ∨ ¬['/', '/'] <+: path.toList
  · exact List.isChain_iff_getElem.mp (hinitial hfirst) i (by omega) hsome
  · -- The name is not the first one, so the chain begins before it.
    have hpos : 0 < i := by
      rcases hplace with hfront | hpos | hslashes
      · exact absurd (Or.inl hfront) hfirst
      · exact hpos
      · exact absurd (Or.inr hslashes) hfirst
    obtain ⟨j, rfl⟩ := Nat.exists_eq_add_of_lt hpos
    have hlink := List.isChain_iff_getElem.mp htail (0 + j)
      (by rw [List.length_tail]; omega)
    rw [List.getElem_tail, List.getElem_tail] at hlink
    exact hlink hsome

/-- A path passes the check of a route, with captures that meet a condition, if an evaluation
says so. -/
theorem exists_of_evaluation {path : String} {condition : Captures → Bool}
    (h : ((build d).toOption.any fun r => (checkPath r path {} []).toOption.any fun outcome =>
      outcome.2.isNone && condition outcome.1) = true) :
    ∃ r captures, build d = .ok r ∧ checkPath r path {} [] = .ok (captures, none) ∧
      condition captures = true := by
  obtain ⟨r, hbuild, h⟩ := exists_of_any_toOption h
  obtain ⟨⟨captures, rejection⟩, hcheck, h⟩ := exists_of_any_toOption h
  rw [Bool.and_eq_true, Option.isNone_iff_eq_none] at h
  obtain ⟨rfl, hcondition⟩ := h
  exact ⟨r, captures, hbuild, hcheck, hcondition⟩

/-- The definition of a route with an optional group after a token that has a pattern. -/
def orderDefinition : RouteDefinition :=
  { path := "/x\x7bid\x7d\x7b/a,b\x7d"
    tokens := [("id", .text "(1|2)?")] }

theorem isCaptured_earlier_orderDefinition :
    ∃ r captures, build orderDefinition = .ok r ∧
      checkPath r "/x1/2024/07" {} [] = .ok (captures, none) ∧
      IsCaptured captures "b".toList ∧ IsCaptured captures "a".toList := by
  obtain ⟨r, captures, hbuild, hcheck, hlater⟩ :
      ∃ r captures, build orderDefinition = .ok r ∧
        checkPath r "/x1/2024/07" {} [] = .ok (captures, none) ∧
        decide (IsCaptured captures "b".toList) = true :=
    exists_of_evaluation (by decide +kernel)
  have hlater := of_decide_eq_true hlater
  have hparts : parts orderDefinition.path.toList
      = [.char '/', .char 'x', .token "id".toList] ++ .group ["a".toList, "b".toList] :: [] := by
    decide +kernel
  have hdefaults : HasDefaults orderDefinition.tokens ["a".toList, "b".toList] := by
    unfold HasDefaults
    decide +kernel
  refine ⟨r, captures, hbuild, hcheck, hlater, ?_⟩
  exact isCaptured_earlier hbuild (by decide +kernel) hparts hdefaults (by decide +kernel) hcheck
    (i := 0) (by decide) (Or.inl (List.cons_ne_nil _ _)) hlater

/-- The definition of a route with an optional group at the front. -/
def pairDefinition : RouteDefinition :=
  { path := "\x7b/a,b\x7d" }

/-- At the front of a template the first name may be passed over. -/
theorem not_isCaptured_earlier_pairDefinition :
    ∃ r captures, build pairDefinition = .ok r ∧
      checkPath r "//x" {} [] = .ok (captures, none) ∧
      IsCaptured captures "b".toList ∧ ¬IsCaptured captures "a".toList := by
  obtain ⟨r, captures, hbuild, hcheck, hcondition⟩ :
      ∃ r captures, build pairDefinition = .ok r ∧
        checkPath r "//x" {} [] = .ok (captures, none) ∧
        decide (IsCaptured captures "b".toList ∧ ¬IsCaptured captures "a".toList) = true :=
    exists_of_evaluation (by decide +kernel)
  exact ⟨r, captures, hbuild, hcheck, of_decide_eq_true hcondition⟩

end Route

end RouteMatch
