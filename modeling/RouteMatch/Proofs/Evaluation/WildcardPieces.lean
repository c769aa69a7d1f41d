import RouteMatch.Proofs.Path.CatchAll
import RouteMatch.Proofs.Text.PercentDecoding
import RouteMatch.Proofs.Text.PercentEncoding

/-!
# The pieces of a wildcard

The value of a wildcard is cut at its slashes and each piece is decoded.  Decoding moves no
slash and none is part of an escape, so the pieces joined again are the value decoded as a
whole, whatever escapes are in it, whole or cut short.  What was captured for a wildcard is
decoded once before it is cut; its pieces joined are the captured text decoded twice.

## Main results

* `splitWildcard_text` — the pieces of a text: their number, and what they are joined to.
* `extractParams_wildcard` — the pieces of what was captured.
* `evaluate_wildcardPieces` — **cutting at slashes and decoding commute.**
-/

namespace RouteMatch

open Text

/-- The pieces of a text that is not empty: one more than it has slashes, and joined they are
the text decoded. -/
theorem splitWildcard_text {v : String} (hne : v ≠ "") :
    ∃ pieces : List String, splitWildcard (.text v) = .ok (pieces.map .text) ∧
      pieces.length = v.toList.count '/' + 1 ∧ "/".intercalate pieces = percentDecode v := by
  let decoded := (split '/' v.toList).map percentDecodeChars
  have htrue : (Value.text v).isTrue = true := bne_iff_ne.mpr hne
  refine ⟨decoded.map String.ofList, ?_, ?_, ?_⟩
  · rw [splitWildcard, htrue]
    simp [decoded, Function.comp_def]
  · simp [decoded, length_split]
  · apply String.toList_injective
    have hback : (decoded.map String.ofList).map String.toList = decoded := by
      simp [Function.comp_def]
    calc ("/".intercalate (decoded.map String.ofList)).toList
        = join '/' decoded := by
          rw [String.toList_intercalate, hback, join_eq_intercalate]
          rfl
      _ = percentDecodeChars (join '/' (split '/' v.toList)) := percentDecodeChars_join _
      _ = (percentDecode v).toList := by
          rw [join_split, percentDecode, String.toList_ofList]

/-- The pieces of what was captured for a wildcard, joined, are the captured text decoded
twice. -/
theorem extractParams_wildcard {r : Route} {w c : String}
    (hw : Route.wildcardOf r.definition = some w) {captures : Captures}
    (hcaptures : captures.IsDictionary) (hget : captures.get? (.text w) = some (.text c))
    (hne : c ≠ "") :
    ∃ (params : Params) (pieces : List String), extractParams r captures = .ok params ∧
      params.get? w = some (.list (pieces.map .text)) ∧
      "/".intercalate pieces = percentDecode (percentDecode c) := by
  have hparam : (captures.foldl overlay r.values).get? w = some (.text (percentDecode c)) := by
    have hmissing : isMissing (.text c) = false := beq_eq_false_iff_ne.mpr hne
    rw [get?_foldl_overlay hcaptures, hget]
    simp [Option.filter, hmissing, decodeCapture]
  obtain ⟨pieces, hsplit, -, hjoined⟩ := splitWildcard_text (percentDecode_ne_empty hne)
  have hpieces : splitWildcard (((captures.foldl overlay r.values).get? w).getD .none)
      = .ok (pieces.map .text) := by
    rw [hparam]
    exact hsplit
  obtain ⟨params, hextract, hlist⟩ := extractParams_of_wildcard r captures hw hpieces
  exact ⟨params, pieces, hextract, hlist, hjoined⟩

/-- The parameters of a match are those that its captures give. -/
theorem extractParams_of_evaluate {r : Route} {path : String} {a : Attributes} {config : Config}
    {attempt : Attempt} (h : evaluate r path a config = .ok attempt)
    (hmatched : attempt.matched = true) :
    extractParams r attempt.captures = .ok attempt.params := by
  rcases evaluate_eq_ok h with ⟨-, params, hextract, rfl⟩ | ⟨c, -, -, rfl⟩
  · exact hextract
  · exact absurd hmatched (by simp [Attempt.matched])

/-- **Cutting at slashes and decoding commute.**  A text that is not empty, whatever escapes
are in it, is cut into one piece more than it has slashes, and the decoded pieces joined with
slashes are the whole text decoded.  So if a text that is not empty was captured for the
wildcard of a route, the list under the wildcard, joined with slashes, is the captured text
decoded twice, both for parameters made of any captures and for those of a path that matches. -/
theorem evaluate_wildcardPieces :
    (∀ v : String, v ≠ "" →
      ∃ pieces : List String, splitWildcard (.text v) = .ok (pieces.map .text) ∧
        pieces.length = v.toList.count '/' + 1 ∧ "/".intercalate pieces = percentDecode v) ∧
    ∀ (r : Route) (w c : String), Route.wildcardOf r.definition = some w → c ≠ "" →
      (∀ captures : Captures, captures.IsDictionary →
        captures.get? (.text w) = some (.text c) →
        ∃ (params : Params) (pieces : List String), extractParams r captures = .ok params ∧
          params.get? w = some (.list (pieces.map .text)) ∧
          "/".intercalate pieces = percentDecode (percentDecode c)) ∧
      ∀ (path : String) (a : Attributes) (config : Config) (attempt : Attempt),
        evaluate r path a config = .ok attempt → attempt.matched = true →
        attempt.captures.get? (.text w) = some (.text c) →
        ∃ pieces : List String, attempt.params.get? w = some (.list (pieces.map .text)) ∧
          "/".intercalate pieces = percentDecode (percentDecode c) := by
  refine ⟨fun v hne => splitWildcard_text hne, ?_⟩
  intro r w c hw hne
  refine ⟨fun captures hcaptures hget => extractParams_wildcard hw hcaptures hget hne, ?_⟩
  intro path a config attempt heval hmatched hget
  obtain ⟨params, pieces, hextract, hlist, hjoined⟩ :=
    extractParams_wildcard hw (isDictionary_captures heval) hget hne
  rw [extractParams_of_evaluate heval hmatched] at hextract
  obtain rfl := Except.ok.inj hextract
  exact ⟨pieces, hlist, hjoined⟩

/-- A slash in the middle of an escape, one in the middle of a sequence, and one that comes out
of an escape. -/
theorem evaluate_wildcardPieces_filesDefinition :
    (∃ pieces : List String,
      splitWildcard (.text "%/2F%E2%82/%AC%2F") = .ok (pieces.map .text) ∧
        pieces.length = 3 ∧ "/".intercalate pieces = "%/2F\uFFFD/\uFFFD/") ∧
    ∃ r attempt, Route.build filesDefinition = .ok r ∧
      evaluate r "/files/7/%25/2F%25E2%2582/%25AC%252F" {} {} = .ok attempt ∧
      attempt.matched = true ∧
      attempt.captures.get? (.text "rest") = some (.text "%25/2F%25E2%2582/%25AC%252F") ∧
      ∃ pieces : List String, attempt.params.get? "rest" = some (.list (pieces.map .text)) ∧
        "/".intercalate pieces = "%/2F\uFFFD/\uFFFD/" := by
  obtain ⟨hsplit, hwildcard⟩ := evaluate_wildcardPieces
  obtain ⟨r, hbuild, hmatches⟩ : ∃ r, Route.build filesDefinition = .ok r ∧
      (evaluate r "/files/7/%25/2F%25E2%2582/%25AC%252F" {} {}).toOption.any (fun attempt =>
        attempt.matched && (attempt.captures.get? (.text "rest")).any fun v =>
          v == .text "%25/2F%25E2%2582/%25AC%252F") = true :=
    exists_of_any_toOption (by decide +kernel)
  obtain ⟨attempt, heval, hattempt⟩ := exists_of_any_toOption hmatches
  obtain ⟨hmatched, hcaptured⟩ := Bool.and_eq_true_iff.mp hattempt
  obtain ⟨v, hget, hv⟩ := (Option.any_eq_true _ _).mp hcaptured
  obtain rfl := Value.beq_text_iff.mp hv
  have hwildcard' : Route.wildcardOf r.definition = some "rest" := by
    rw [Route.definition_of_build hbuild]
    decide
  have hpiece : percentDecode "%/2F%E2%82/%AC%2F" = "%/2F\uFFFD/\uFFFD/" := by decide +kernel
  have hrest : percentDecode "%25/2F%25E2%2582/%25AC%252F" = "%/2F%E2%82/%AC%2F" := by
    decide +kernel
  obtain ⟨pieces, hpieces, hlength, hjoined⟩ := hsplit "%/2F%E2%82/%AC%2F" (by decide)
  obtain ⟨-, hmatch⟩ :=
    hwildcard r "rest" "%25/2F%25E2%2582/%25AC%252F" hwildcard' (by decide)
  obtain ⟨pieces', hlist, hjoined'⟩ := hmatch _ {} {} attempt heval hmatched hget
  rw [hpiece] at hjoined
  rw [hrest, hpiece] at hjoined'
  exact ⟨⟨pieces, hpieces, hlength, hjoined⟩, r, attempt, hbuild, heval, hmatched, hget, pieces',
    hlist, hjoined'⟩

end RouteMatch
