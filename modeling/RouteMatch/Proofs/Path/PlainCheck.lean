import RouteMatch.Evaluation
import RouteMatch.Proofs.Template.Walk

/-!
# The path check of a plain route

On a route that was built from a plain definition the path check is the walk along
the path: it rejects the path if the walk fails, and otherwise the captures are what
the walk has found, under the names of the template in their order.

## Main definitions

* `capturesOf` — names with what was captured under them.

## Main results

* `checkPath_plain` — the path check is the walk.
-/

namespace RouteMatch

open Template

/-- What a group has captured, as a value. -/
def capturedValue : Option (List Char) → Value
  | none => .none
  | some text => .text (String.ofList text)

/-- Names with what was captured under them. -/
def capturesOf (found : List (List Char × Option (List Char))) : Captures :=
  found.map fun (name, text) => (.text (String.ofList name), capturedValue text)

theorem capturesOf_cons (name : List Char) (text : Option (List Char))
    (found : List (List Char × Option (List Char))) :
    capturesOf ((name, text) :: found)
      = (.text (String.ofList name), capturedValue text) :: capturesOf found :=
  rfl

@[simp] theorem text_beq_text (s t : String) : ((Value.text s) == (Value.text t)) = (s == t) := rfl

/-- What was captured under one of distinct names. -/
theorem get?_capturesOf {found : List (List Char × Option (List Char))}
    (hnodup : (found.map Prod.fst).Nodup) {name : List Char} {text : Option (List Char)}
    (hmem : (name, text) ∈ found) :
    (capturesOf found).get? (.text (String.ofList name)) = some (capturedValue text) := by
  induction found with
  | nil => exact absurd hmem List.not_mem_nil
  | cons entry found ih =>
    obtain ⟨other, text'⟩ := entry
    rw [List.map_cons, List.nodup_cons] at hnodup
    rw [capturesOf_cons, Entries.get?_cons, text_beq_text]
    rcases List.mem_cons.mp hmem with heq | hmem
    · obtain ⟨rfl, rfl⟩ := Prod.mk.inj heq
      rw [if_pos (beq_self_eq_true _)]
    · have hne : String.ofList other ≠ String.ofList name := by
        intro heq
        obtain rfl := String.ofList_injective heq
        exact hnodup.1 (List.mem_map.mpr ⟨_, hmem, rfl⟩)
      rw [if_neg (by simpa using hne), ih hnodup.2 hmem]

/-- Captures under distinct names are a dictionary as they stand. -/
theorem update_capturesOf {found : List (List Char × Option (List Char))}
    (h : (found.map Prod.fst).Nodup) :
    Entries.update [] (capturesOf found) = capturesOf found := by
  rw [Entries.update_of_pairwise, List.nil_append]
  rw [List.nil_append, capturesOf, List.pairwise_map]
  refine (List.pairwise_map.mp h).imp fun hne => ?_
  rw [text_beq_text, beq_eq_false_iff_ne]
  exact fun heq => hne (String.ofList_injective heq)

/-- The captures of a match, from the numbers of the named groups. -/
theorem pathCaptures_eq {m : Match} {named : List (List Char × Nat)}
    (h : m.pattern.names = named.map fun (name, index) => (String.ofList name, index)) :
    pathCaptures m = capturesOf (named.map fun (name, index) =>
      (name, m.thread.captured? index)) := by
  rw [pathCaptures, Match.named, h, capturesOf, List.map_map, List.map_map, List.map_map]
  refine List.map_congr_left fun entry _ => ?_
  simp only [Function.comp, Match.captured?]
  cases m.thread.captured? entry.2 <;> rfl

/-- **The path check of a plain route is the walk.** -/
theorem checkPath_plain {d : RouteDefinition} {ps : List Template.Part}
    {wildcard : Option (List Char)}
    (h : Route.IsPlainDefinition d ps wildcard) {r : Route} (hbuild : Route.build d = .ok r)
    {path : String} {config : Config} (hlimit : exceeds config.maxPathLength path.length = none) :
    checkPath r path config [] = .ok
      (match walkWhole ps wildcard path.toList with
      | none => ([], some .path)
      | some found =>
        (capturesOf ((ps.flatMap Template.Part.names ++ wildcard.toList).zip found), none)) := by
  obtain ⟨r', hbuild', -, hregex, hnames, -⟩ := h.build_eq
  obtain rfl : r' = r := by
    rw [hbuild'] at hbuild
    exact Except.ok.inj hbuild
  let sk := wholeSketch ps wildcard
  have hsk : sk.names = ps.flatMap Template.Part.names ++ wildcard.toList := by
    simp [sk, wholeSketch]
  have hmatch := fullMatch?_wholeSketch h.separated wildcard path.toList
  rw [checkPath, hlimit]
  simp only [Pattern.matchAll?, hregex]
  cases hfull : Pattern.fullMatch? sk.anchored path.toList with
  | none =>
    rw [hfull] at hmatch
    rw [← hmatch]
    rfl
  | some t =>
    rw [hfull] at hmatch
    rw [← hmatch]
    have hzip : (ps.flatMap Template.Part.names ++ wildcard.toList).zip
        ((sk.named 0).map fun entry => t.captured? entry.2)
        = (sk.named 0).map fun (name, index) => (name, t.captured? index) := by
      rw [← hsk, ← sk.map_fst_named 0, List.zip_map']
    simp only [Option.map_some]
    rw [hzip, pathCaptures_eq hnames, update_capturesOf]
    rw [List.map_map]
    have hnodup := h.nodup
    rw [← hsk, ← sk.map_fst_named 0] at hnodup
    exact hnodup

end RouteMatch
