import RouteMatch.Params
import RouteMatch.Proofs.Json.Reader

/-!
# Documents as parameters

Parameters that are printed come back when the document is decoded: nothing, texts, and lists of
these.  The entries of an object are sorted when it is printed, so what comes back has the same
parameter under each name, in another order.

## Main definitions

* `toValue?` — the value that a document stands for.
* `toParams?` — the parameters that an object stands for.

## Main results

* `toValue?_ofValue` — printable values come back.
* `exists_toParams?` — **printed parameters come back.**
-/

namespace RouteMatch

namespace Json

/-! ### Decoding -/

mutual

/-- The value that a document stands for.  Parameters of a path hold no numbers and no
objects, and these are not decoded. -/
def toValue? : Json → Option Value
  | .word w => if w = "null".toList then some .none else none
  | .text s => some (.text (String.ofList s))
  | .array items => (toItems? items).map .list
  | .object _ => none

/-- The values that several documents stand for. -/
def toItems? : List Json → Option (List Value)
  | [] => some []
  | item :: rest => (toValue? item).bind fun v => (toItems? rest).map (v :: ·)

end

/-- The entries that those of an object stand for. -/
def toEntries? : List (List Char × Json) → Option (List (String × Value))
  | [] => some []
  | (name, item) :: rest =>
    (toValue? item).bind fun v => (toEntries? rest).map ((String.ofList name, v) :: ·)

/-- The parameters that an object stands for.  Of several entries with one name the last
counts. -/
def toParams? : Json → Option Params
  | .object entries => (toEntries? entries).map Entries.ofList
  | _ => none

/-! ### Values -/

/-- The values that come back when they are printed and decoded: nothing, texts, and lists of
such values. -/
inductive IsPrintable : Value → Prop
  | none : IsPrintable .none
  | text (s : String) : IsPrintable (.text s)
  | list {items : List Value} (h : ∀ item ∈ items, IsPrintable item) : IsPrintable (.list items)

theorem ofItems_eq (items : List Value) : ofItems items = items.map ofValue := by
  induction items with
  | nil => rfl
  | cons v items ih => rw [ofItems, ih, List.map_cons]

theorem isSound_null : null.IsSound := by
  have hword : "null".toList.all isWordChar = true := by decide
  apply IsSound.word (by decide)
  exact List.all_eq_true.mp hword

theorem isSound_ofValue {v : Value} (h : IsPrintable v) : (ofValue v).IsSound := by
  induction h with
  | none => exact isSound_null
  | text s => exact .text s.toList
  | @list items _ ih =>
    rw [ofValue, ofItems_eq]
    apply IsSound.array
    intro item hitem
    obtain ⟨v, hv, rfl⟩ := List.mem_map.mp hitem
    exact ih v hv

theorem toItems?_map {items : List Value} (h : ∀ v ∈ items, toValue? (ofValue v) = some v) :
    toItems? (items.map ofValue) = some items := by
  induction items with
  | nil => rfl
  | cons v items ih =>
    have hv := h v List.mem_cons_self
    have hrest := ih fun other hother => h other (List.mem_cons_of_mem _ hother)
    rw [List.map_cons, toItems?, hv, Option.bind_some, hrest]
    rfl

/-- Printable values come back. -/
theorem toValue?_ofValue {v : Value} (h : IsPrintable v) : toValue? (ofValue v) = some v := by
  induction h with
  | none => rfl
  | text s =>
    rw [ofValue, toValue?]
    exact congrArg (fun t => some (Value.text t)) (String.ofList_toList)
  | @list items _ ih =>
    rw [ofValue, ofItems_eq, toValue?, toItems?_map ih]
    rfl

/-! ### Parameters -/

/-- A parameter as the entry of an object. -/
def ofEntry (entry : String × Value) : List Char × Json :=
  (entry.1.toList, ofValue entry.2)

/-- The parameter that an entry of an object stands for, if it stands for one. -/
def toEntry (entry : List Char × Json) : String × Value :=
  (String.ofList entry.1, (toValue? entry.2).getD .none)

theorem toEntry_ofEntry {entry : String × Value} (h : IsPrintable entry.2) :
    toEntry (ofEntry entry) = entry := by
  rw [toEntry, ofEntry, toValue?_ofValue h, String.ofList_toList]
  rfl

theorem toEntries?_eq {entries : List (List Char × Json)}
    (h : ∀ entry ∈ entries, ∃ v, toValue? entry.2 = some v) :
    toEntries? entries = some (entries.map toEntry) := by
  induction entries with
  | nil => rfl
  | cons entry entries ih =>
    obtain ⟨name, item⟩ := entry
    obtain ⟨v, hv⟩ := h (name, item) List.mem_cons_self
    have hitem : toValue? item = some v := hv
    have hrest := ih fun other hother => h other (List.mem_cons_of_mem _ hother)
    rw [toEntries?, hitem, Option.bind_some, hrest, List.map_cons, toEntry]
    simp only [hitem]
    rfl

section

variable {params : Params} (hprintable : ∀ entry ∈ params, IsPrintable entry.2)

include hprintable

theorem isSound_ofEntries : (ofEntries params).IsSound := by
  apply IsSound.object
  intro entry hentry
  have hmem := (List.mergeSort_perm _ entryLe).mem_iff.mp hentry
  obtain ⟨param, hparam, rfl⟩ := List.mem_map.mp hmem
  exact isSound_ofValue (hprintable param hparam)

/-- **Printed parameters come back**, each under its name. -/
theorem exists_toParams? (hnodup : (params.map Prod.fst).Nodup) :
    ∃ decoded, toParams? (ofEntries params) = some decoded ∧
      ∀ name, decoded.get? name = params.get? name := by
  let entries := params.map ofEntry
  let sorted := entries.mergeSort entryLe
  have hperm : sorted.Perm entries := List.mergeSort_perm entries entryLe
  have hdecoded : ∀ entry ∈ sorted, ∃ v, toValue? entry.2 = some v := by
    intro entry hentry
    obtain ⟨param, hparam, rfl⟩ := List.mem_map.mp (hperm.mem_iff.mp hentry)
    exact ⟨param.2, toValue?_ofValue (hprintable param hparam)⟩
  have hback : entries.map toEntry = params := by
    calc entries.map toEntry = params.map (toEntry ∘ ofEntry) := List.map_map
      _ = params.map id := List.map_congr_left fun param hparam =>
        toEntry_ofEntry (hprintable param hparam)
      _ = params := List.map_id params
  have hparams : (sorted.map toEntry).Perm params := by
    have hmap := hperm.map toEntry
    rw [hback] at hmap
    exact hmap
  have hkeys : ((sorted.map toEntry).map Prod.fst).Nodup :=
    (hparams.map Prod.fst).nodup_iff.mpr hnodup
  refine ⟨sorted.map toEntry, ?_, ?_⟩
  · show (toEntries? sorted).map Entries.ofList = _
    rw [toEntries?_eq hdecoded, Option.map_some, Entries.ofList_of_nodup hkeys]
  · intro name
    exact Entries.get?_of_perm hparams hkeys name

end

end Json

end RouteMatch
