import Mathlib.Data.List.TakeWhile
import RouteMatch.Proofs.Attributes.Environment
import RouteMatch.Proofs.Evaluation.Conditions

/-!
# Captures as a dictionary

What an evaluation captures is a dictionary: no two captures are under equal keys, whether
they come from the path, from server variables or from a predicate.  Until the predicate is
asked all keys are texts, so that the captures are entries under names.

Captures that are laid over parameters write a parameter for each name under which something
is captured.  Since there is one capture for a name, what is found under it afterwards is what
was captured there, if it does not count as missing, and the old parameter otherwise.

## Main definitions

* `Entries.asCaptures` — entries under names as captures.
* `constraintEntries` — what constraints capture, under their names.
* `writtenParams` — the parameters that captures write.

## Main results

* `serverCaptures_eq` — what is captured before the predicate is asked.
* `isDictionary_captures` — **the captures of an attempt are a dictionary.**
* `get?_foldl_overlay` — **what is found under a name after captures were laid over
  parameters.**
-/

namespace RouteMatch

/-! ### Captures under names -/

namespace Entries

/-- Entries under names as captures. -/
def asCaptures (named : Entries String Value) : Captures :=
  named.map fun entry => (.text entry.1, entry.2)

theorem insert_asCaptures (named : Entries String Value) (name : String) (value : Value) :
    named.asCaptures.insert (.text name) value = (named.insert name value).asCaptures := by
  induction named with
  | nil => rfl
  | cons entry rest ih =>
    obtain ⟨k, v⟩ := entry
    have hkey : ((Value.text k) == .text name) = (k == name) := rfl
    rw [asCaptures, List.map_cons, insert, insert, hkey]
    split
    · rfl
    · exact congrArg _ ih

theorem update_asCaptures (named more : Entries String Value) :
    named.asCaptures.update more.asCaptures = (named.update more).asCaptures := by
  induction more generalizing named with
  | nil => rfl
  | cons entry more ih =>
    show Entries.update (named.asCaptures.insert (.text entry.1) entry.2) (asCaptures more) = _
    rw [insert_asCaptures]
    exact ih (named.insert entry.1 entry.2)

theorem get?_asCaptures (named : Entries String Value) (name : String) :
    named.asCaptures.get? (.text name) = named.get? name := by
  induction named with
  | nil => rfl
  | cons entry rest ih =>
    obtain ⟨k, v⟩ := entry
    have hkey : ((Value.text k) == .text name) = (k == name) := rfl
    rw [asCaptures, List.map_cons, get?_cons, get?_cons, hkey]
    split
    · rfl
    · exact ih

/-- Nothing is found under a name that no key is equal to. -/
theorem get?_text_eq_none {entries : Entries Value Value} {name : String}
    (h : ∀ entry ∈ entries, ((Value.text name) == entry.1) = false) :
    entries.get? (.text name) = none := by
  induction entries with
  | nil => rfl
  | cons entry rest ih =>
    obtain ⟨k, v⟩ := entry
    have hk : ¬(k == .text name) = true := by
      intro hkey
      obtain rfl := Value.beq_text_iff.mp hkey
      rw [h _ List.mem_cons_self] at hkey
      exact absurd hkey (by decide)
    rw [get?_cons, if_neg hk]
    exact ih fun other hother => h other (List.mem_cons_of_mem _ hother)

theorem isDictionary_asCaptures {named : Entries String Value} (h : named.IsDictionary) :
    named.asCaptures.IsDictionary :=
  List.pairwise_map.mpr h

end Entries

/-! ### What is captured -/

section Captures

variable (r : Route) (path : String) (a : Attributes) (config : Config)

/-- What constraints capture, under their names. -/
def constraintEntries (constraints : List (String × Pattern)) : Entries String Value :=
  constraints.map fun c => (c.1, (constraintCapture? a c).getD .none)

theorem map_fst_constraintEntries (constraints : List (String × Pattern)) :
    (constraintEntries a constraints).map Prod.fst = constraints.map Prod.fst := by
  rw [constraintEntries, List.map_map]
  rfl

/-- Constraints write what they capture. -/
theorem foldl_constraints (constraints : List (String × Pattern)) (named : Entries String Value) :
    constraints.foldl
        (fun captures c => captures.insert (.text c.1) ((constraintCapture? a c).getD .none))
        named.asCaptures
      = (named.update (constraintEntries a constraints)).asCaptures := by
  rw [← Entries.update_asCaptures, constraintEntries, Entries.asCaptures, Entries.asCaptures,
    Entries.update, List.map_map, List.foldl_map]
  rfl

/-- What the path captures is under the names of groups. -/
theorem exists_groupCaptures_eq :
    ∃ named : Entries String Value,
      named.IsDictionary ∧ groupCaptures r path config = named.asCaptures := by
  unfold groupCaptures
  cases pathMatch? r path config with
  | none => exact ⟨[], List.Pairwise.nil, rfl⟩
  | some m =>
    let captured : Entries String Value :=
      m.named.map fun group => (group.1, group.2.elim .none .text)
    have hcaptured : pathCaptures m = captured.asCaptures := by
      rw [pathCaptures, Entries.asCaptures, List.map_map]
      refine List.map_congr_left ?_
      intro group _
      cases h : group.2 <;> simp [h]
    refine ⟨Entries.update [] captured, Entries.IsDictionary.update List.Pairwise.nil captured, ?_⟩
    rw [Option.elim_some, hcaptured]
    exact Entries.update_asCaptures [] captured

/-- What is captured before the predicate is asked: what the path captured, and over it what
the constraints captured up to the first that is not found. -/
theorem serverCaptures_eq {named : Entries String Value}
    (h : groupCaptures r path config = named.asCaptures) :
    serverCaptures r path a config
      = (named.update (constraintEntries a
          (r.constraints.takeWhile fun c => (constraintCapture? a c).isSome))).asCaptures := by
  rw [serverCaptures, h, foldl_constraints]

/-- If all constraints are found, each of them has captured something. -/
theorem serverCaptures_of_holds {named : Entries String Value}
    (h : groupCaptures r path config = named.asCaptures)
    (hholds : Condition.server.holds r path a config = true) :
    serverCaptures r path a config
      = (named.update (constraintEntries a r.constraints)).asCaptures := by
  have hfound : ∀ c ∈ r.constraints, (constraintCapture? a c).isSome = true :=
    holds_server_iff.mp hholds
  rw [serverCaptures_eq r path a config h, List.takeWhile_eq_self_iff.mpr hfound]

theorem isDictionary_groupCaptures : (groupCaptures r path config).IsDictionary := by
  obtain ⟨named, hnamed, heq⟩ := exists_groupCaptures_eq r path config
  rw [heq]
  exact Entries.isDictionary_asCaptures hnamed

theorem isDictionary_serverCaptures : (serverCaptures r path a config).IsDictionary := by
  obtain ⟨named, hnamed, heq⟩ := exists_groupCaptures_eq r path config
  rw [serverCaptures_eq r path a config heq]
  exact Entries.isDictionary_asCaptures (hnamed.update _)

variable {r path a config}

/-- A value that is read as a dictionary is one. -/
theorem isDictionary_entries {v : Value} {entries : Captures} (h : v.entries = .ok entries) :
    entries.IsDictionary := by
  unfold Value.entries at h
  split at h
  · rw [← Except.ok.inj h]
    exact Entries.isDictionary_ofList _
  · split at h
    · exact absurd h (by simp)
    · next items _ =>
      cases hitems : Value.entriesOf 0 items with
      | error failure =>
        rw [hitems] at h
        exact absurd h (by simp [Except.map])
      | ok pairs =>
        rw [hitems] at h
        rw [← Except.ok.inj h]
        exact Entries.isDictionary_ofList pairs

/-- A verdict leaves a dictionary of captures, its own or the one before it. -/
theorem isDictionary_read {captures updated : Captures} (hcaptures : captures.IsDictionary)
    {verdict : Value} {ok : Bool} (h : Verdict.read captures verdict = .ok (ok, updated)) :
    updated.IsDictionary := by
  unfold Verdict.read at h
  split at h
  · next truth replacement =>
    cases hentries : replacement.entries with
    | error failure =>
      rw [hentries] at h
      exact absurd h (by simp [Except.map])
    | ok entries =>
      rw [hentries] at h
      obtain ⟨-, rfl⟩ := Prod.mk.inj (Except.ok.inj h)
      exact isDictionary_entries hentries
  · exact absurd h (by simp)
  · exact absurd h (by simp)
  · obtain ⟨-, rfl⟩ := Prod.mk.inj (Except.ok.inj h)
    exact hcaptures

theorem isDictionary_judgement {captures updated : Captures} (hcaptures : captures.IsDictionary)
    {ok : Bool} (h : judgement r a captures = .ok (ok, updated)) : updated.IsDictionary := by
  unfold judgement at h
  split at h
  · obtain ⟨-, rfl⟩ := Prod.mk.inj (Except.ok.inj h)
    exact hcaptures
  · split at h
    · exact absurd h (by simp)
    · exact isDictionary_read hcaptures h

/-- Whatever condition was asked last, a dictionary has been captured. -/
theorem isDictionary_left (c : Condition) : (c.left r path a config).IsDictionary := by
  cases c with
  | routable => exact List.Pairwise.nil
  | secure => exact List.Pairwise.nil
  | path => exact isDictionary_groupCaptures r path config
  | method => exact isDictionary_groupCaptures r path config
  | accept => exact isDictionary_groupCaptures r path config
  | server => exact isDictionary_serverCaptures r path a config
  | predicate =>
    have hserver := isDictionary_serverCaptures r path a config
    rw [Condition.left]
    cases h : judgement r a (serverCaptures r path a config) with
    | error failure => exact hserver
    | ok outcome => exact isDictionary_judgement hserver h

/-- **The captures of an attempt are a dictionary.** -/
theorem isDictionary_captures {attempt : Attempt} (h : evaluate r path a config = .ok attempt) :
    attempt.captures.IsDictionary := by
  rcases evaluate_eq_ok h with ⟨-, params, -, rfl⟩ | ⟨c, -, -, rfl⟩
  · exact isDictionary_left .predicate
  · exact isDictionary_left c

end Captures

/-! ### Captures over parameters -/

/-- The parameter that a capture writes: its value decoded, if it has a name and does not
count as missing. -/
def writtenBy? (capture : Value × Value) : Option (String × Value) :=
  match capture.1 with
  | .text name => if isMissing capture.2 then none else some (name, decodeCapture capture.2)
  | _ => none

/-- The parameters that captures write. -/
def writtenParams (captures : Captures) : Params :=
  captures.filterMap writtenBy?

theorem overlay_eq (params : Params) (capture : Value × Value) :
    overlay params capture
      = (writtenBy? capture).elim params fun entry => params.insert entry.1 entry.2 := by
  unfold overlay writtenBy?
  cases capture.1 with
  | text name => cases isMissing capture.2 <;> rfl
  | _ => rfl

/-- Captures that are laid over parameters write theirs. -/
theorem foldl_overlay (params : Params) (captures : Captures) :
    captures.foldl overlay params = params.update (writtenParams captures) := by
  induction captures generalizing params with
  | nil => rfl
  | cons capture rest ih =>
    rw [List.foldl_cons, ih, overlay_eq, writtenParams, writtenParams]
    cases h : writtenBy? capture with
    | none => rw [List.filterMap_cons_none h, Option.elim_none]
    | some entry => rw [List.filterMap_cons_some h, Option.elim_some]; rfl

/-- A parameter is written by a capture of its name. -/
theorem writtenBy?_eq_some {capture : Value × Value} {entry : String × Value}
    (h : writtenBy? capture = some entry) : capture.1 = .text entry.1 := by
  unfold writtenBy? at h
  split at h
  · next name hname =>
    split at h
    · exact absurd h (by simp)
    · rw [← Option.some.inj h]
      exact hname
  · exact absurd h (by simp)

section

variable {captures : Captures} (h : captures.IsDictionary)

include h

theorem nodup_writtenParams : ((writtenParams captures).map Prod.fst).Nodup := by
  apply Entries.isDictionary_iff_nodup.mp
  refine List.Pairwise.filterMap writtenBy? ?_ h
  intro capture other hne entry hentry entry' hentry'
  rw [writtenBy?_eq_some hentry, writtenBy?_eq_some hentry'] at hne
  exact hne

/-- What captures write under a name: the one capture of that name, unless it counts as
missing. -/
theorem get?_writtenParams (name : String) :
    (writtenParams captures).get? name
      = ((captures.get? (.text name)).filter fun v => !isMissing v).map decodeCapture := by
  induction captures with
  | nil => rfl
  | cons capture rest ih =>
    obtain ⟨k, v⟩ := capture
    obtain ⟨hfirst, hrest⟩ := List.pairwise_cons.mp h
    rw [Entries.get?_cons, writtenParams]
    by_cases hk : (k == .text name) = true
    · obtain rfl := Value.beq_text_iff.mp hk
      rw [if_pos hk]
      cases hmissing : isMissing v with
      | true =>
        -- Nothing is written here, and no other capture has the name.
        have hwrites : writtenBy? (.text name, v) = none := by simp [writtenBy?, hmissing]
        rw [List.filterMap_cons_none hwrites, ← writtenParams, ih hrest,
          Entries.get?_text_eq_none hfirst]
        simp [Option.filter, hmissing]
      | false =>
        have hwrites : writtenBy? (.text name, v) = some (name, decodeCapture v) := by
          simp [writtenBy?, hmissing]
        rw [List.filterMap_cons_some hwrites, Entries.get?_cons, if_pos (beq_self_eq_true name)]
        simp [Option.filter, hmissing]
    · rw [if_neg hk, ← ih hrest]
      cases hwrites : writtenBy? (k, v) with
      | none => rw [List.filterMap_cons_none hwrites, writtenParams]
      | some entry =>
        have hne : (entry.1 == name) = false := by
          apply beq_eq_false_iff_ne.mpr
          rintro rfl
          exact hk (Value.beq_text_iff.mpr (writtenBy?_eq_some hwrites))
        rw [List.filterMap_cons_some hwrites, Entries.get?_cons, hne, writtenParams]
        rfl

/-- **What is found under a name after captures were laid over parameters.** -/
theorem get?_foldl_overlay (params : Params) (name : String) :
    (captures.foldl overlay params).get? name
      = (((captures.get? (.text name)).filter fun v => !isMissing v).map decodeCapture).or
          (params.get? name) := by
  rw [foldl_overlay, Entries.get?_update (nodup_writtenParams h), get?_writtenParams h]

end

end RouteMatch
