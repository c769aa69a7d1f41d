import RouteMatch.Proofs.Path.CatchAll
import RouteMatch.Proofs.Text.PercentEncoding

/-!
# Lists of segments in a path

The rest of a path under a wildcard is decoded as a whole, cut at its slashes, and each of
the pieces is decoded once more.  A list of texts comes through this if it was encoded in the
opposite order: each text by itself, so that the slashes in it are not those that part the
texts, and then all of them together once more, except for the slashes between them.  Only
the list of one empty text is lost, since nothing is left of it to be captured.

## Main definitions

* `encodedRest` — a list of texts as the rest of a path.

## Main results

* `percentDecode_encodedRest` — the first decoding gives back the joined texts.
* `splitWildcard_encodedRest` — the pieces of the rest are the texts.
* `evaluate_encodedRest` — **the wildcard gives back the list.**
-/

namespace RouteMatch

open Template Text

/-! ### Encoding a list -/

/-- Texts, each of them encoded, with slashes between them. -/
def encodedPieces (segments : List String) : List Char :=
  join '/' (segments.map fun segment => percentEncode segment.toList)

/-- Texts as the rest of a path: each of them encoded, and all of them once more except for
the slashes between them. -/
def encodedRest (segments : List String) : String :=
  String.ofList (percentEncodePath (encodedPieces segments))

/-- The encoded texts are empty only for no texts and for an empty one. -/
theorem encodedPieces_ne_nil {segments : List String} (hne : segments ≠ [])
    (hone : segments ≠ [""]) : encodedPieces segments ≠ [] := by
  intro hnil
  rcases join_eq_nil_iff.mp hnil with hmap | hmap
  · exact hne (List.map_eq_nil_iff.mp hmap)
  · obtain ⟨segment, rfl, hsegment⟩ := List.map_eq_singleton_iff.mp hmap
    have hchars : segment.toList = [] := by
      by_contra hnonempty
      exact percentEncode_ne_nil hnonempty hsegment
    exact hone (congrArg (fun text => [text]) (String.toList_injective hchars))

theorem encodedRest_ne_empty {segments : List String} (hne : segments ≠ [])
    (hone : segments ≠ [""]) : encodedRest segments ≠ "" := fun heq =>
  percentEncodePath_ne_nil (encodedPieces_ne_nil hne hone) (String.ofList_injective heq)

/-- An encoded list is one line. -/
theorem newline_notMem_encodedRest (segments : List String) :
    '\n' ∉ (encodedRest segments).toList := by
  rw [encodedRest, String.toList_ofList]
  exact notMem_percentEncodePath (by decide) (by decide) (by decide) _

/-! ### Decoding it -/

/-- The first decoding gives back the joined texts. -/
theorem percentDecode_encodedRest (segments : List String) :
    percentDecode (encodedRest segments) = String.ofList (encodedPieces segments) := by
  rw [percentDecode, encodedRest, String.toList_ofList, percentDecodeChars_percentEncodePath]

/-- The slashes between the texts are the only ones. -/
theorem split_encodedPieces {segments : List String} (hne : segments ≠ []) :
    split '/' (encodedPieces segments)
      = segments.map fun segment => percentEncode segment.toList := by
  refine split_join (mt List.map_eq_nil_iff.mp hne) fun piece hpiece => ?_
  obtain ⟨segment, -, rfl⟩ := List.mem_map.mp hpiece
  exact slash_notMem_percentEncode segment.toList

/-- The pieces of the rest are the texts. -/
theorem splitWildcard_encodedRest {segments : List String} (hne : segments ≠ [])
    (hone : segments ≠ [""]) :
    splitWildcard (.text (percentDecode (encodedRest segments)))
      = .ok (segments.map Value.text) := by
  have htrue : (Value.text (String.ofList (encodedPieces segments))).isTrue = true := by
    have hnonempty : String.ofList (encodedPieces segments) ≠ "" := fun heq =>
      encodedPieces_ne_nil hne hone (String.ofList_injective heq)
    simpa [Value.isTrue] using hnonempty
  rw [percentDecode_encodedRest, splitWildcard, htrue]
  have hpiece : ∀ segment : String,
      Value.text (String.ofList (percentDecodeChars (percentEncode segment.toList)))
        = .text segment := fun segment => by
    rw [percentDecodeChars_percentEncode, String.ofList_toList]
  simp [split_encodedPieces hne, Function.comp_def, hpiece]

/-! ### The evaluation -/

/-- A simple template with a wildcard, on a route that asks for nothing but the path, is
plain. -/
theorem Route.IsPlainDefinition.of_wildcard (T : SimpleTemplate) {w : List Char}
    (hw : T.wildcard = some w) {d : RouteDefinition} (hpath : d.path.toList = T.text)
    (hwildcard : d.wildcard = some (String.ofList w)) (hdefaults : HasDefaults d.tokens T.names)
    (hd : IsUnconstrained d.withoutWildcard) : IsPlainDefinition d T.parts (some w) := by
  have hname : isName w = true :=
    T.isName w (List.mem_append_right _ (by rw [hw]; exact List.mem_singleton_self w))
  have hne : String.ofList w ≠ "" := by
    intro heq
    rw [String.ofList_injective (heq : String.ofList w = String.ofList [])] at hname
    exact absurd hname (by decide)
  have hwildcardOf : wildcardOf d = T.wildcard.map String.ofList := by
    rw [wildcardOf, hwildcard, hw]
    simp [hne]
  exact hw ▸ .of_simpleTemplate T hpath hwildcardOf hdefaults hd.accept hd.server

/-- **The wildcard gives back the list.**  Take a simple template of literal texts and tokens,
with a wildcard, on a route that asks for nothing but the path.  If the same route without its
wildcard matches a path, then the route matches that path with a slash and an encoded list of
texts after it, and the parameter of the wildcard is the list, whatever characters are in the
texts.  The list must not be empty, and must not be the one of one empty text. -/
theorem evaluate_encodedRest (T : SimpleTemplate) {w : List Char} (hgroup : T.group = [])
    (hw : T.wildcard = some w) {d : RouteDefinition} (hpath : d.path.toList = T.text)
    (hwildcard : d.wildcard = some (String.ofList w)) (hdefaults : HasDefaults d.tokens T.names)
    (hd : IsUnconstrained d.withoutWildcard) :
    ∃ r plain, Route.build d = .ok r ∧ Route.build d.withoutWildcard = .ok plain ∧
      ∀ (p : String) (a : Attributes) (config : Config) (attempt : Attempt)
        (segments : List String),
        config.maxPathLength = none → evaluate plain p a config = .ok attempt →
        attempt.matched = true → segments ≠ [] → segments ≠ [""] →
        ∃ longer, evaluate r (p ++ "/" ++ encodedRest segments) a config = .ok longer ∧
          longer.matched = true ∧
          longer.params.get? (String.ofList w) = some (.list (segments.map Value.text)) := by
  have hdefinition := Route.IsPlainDefinition.of_wildcard T hw hpath hwildcard hdefaults hd
  obtain ⟨r, hbuild, -⟩ := hdefinition.build_eq
  obtain ⟨plain, hplain, -⟩ := hdefinition.withoutWildcard.build_eq
  refine ⟨r, plain, hbuild, hplain, ?_⟩
  intro p a config attempt segments hlimit heval hmatched hne hone
  have hpieces : splitWildcard
      (if encodedRest segments = "" then (d.values.get? (String.ofList w)).getD .none
      else .text (percentDecode (encodedRest segments))) = .ok (segments.map Value.text) := by
    rw [if_neg (encodedRest_ne_empty hne hone)]
    exact splitWildcard_encodedRest hne hone
  obtain ⟨params, hlonger, hparam⟩ := evaluate_append_slash hdefinition hd
    (T.not_isGroup_of_mem_parts hgroup) hbuild hplain hlimit heval hmatched
    (newline_notMem_encodedRest segments) hpieces
  exact ⟨_, hlonger, rfl, hparam⟩

/-- Slashes, percent signs, empty texts and line feeds come through. -/
theorem evaluate_encodedRest_filesDefinition :
    ∃ r plain attempt longer, Route.build filesDefinition = .ok r ∧
      Route.build filesDefinition.withoutWildcard = .ok plain ∧
      evaluate plain "/files/7" {} { maxPathLength := none } = .ok attempt ∧
      attempt.matched = true ∧
      evaluate r "/files/7/a%252Fb//100%2525/%25C3%25A9%250A" {} { maxPathLength := none }
        = .ok longer ∧
      longer.matched = true ∧
      longer.params.get? "rest"
        = some (.list [.text "a/b", .text "", .text "100%", .text "é\n"]) := by
  obtain ⟨r, plain, hbuild, hplain, hlonger⟩ := evaluate_encodedRest filesTemplate
    (w := "rest".toList) (d := filesDefinition) rfl rfl (by decide) rfl (fun _ _ => rfl)
    ⟨rfl, rfl, rfl, rfl, rfl, rfl, rfl⟩
  obtain ⟨plain', hplain', hshort⟩ :
      ∃ plain, Route.build filesDefinition.withoutWildcard = .ok plain ∧
        (evaluate plain "/files/7" {} { maxPathLength := none }).toOption.any Attempt.matched
          = true :=
    exists_of_any_toOption (by decide +kernel)
  obtain rfl : plain' = plain := by
    rw [hplain'] at hplain
    exact Except.ok.inj hplain
  obtain ⟨attempt, hattempt, hmatched⟩ := exists_of_any_toOption hshort
  obtain ⟨longer, heval, hmatches, hparam⟩ := hlonger "/files/7" {} { maxPathLength := none }
    attempt ["a/b", "", "100%", "é\n"] rfl hattempt hmatched (by simp) (by simp)
  have hpath : "/files/7" ++ "/" ++ encodedRest ["a/b", "", "100%", "é\n"]
      = "/files/7/a%252Fb//100%2525/%25C3%25A9%250A" := by
    decide +kernel
  rw [hpath] at heval
  exact ⟨r, plain', attempt, longer, hbuild, hplain', hattempt, hmatched, heval, hmatches, hparam⟩

end RouteMatch
