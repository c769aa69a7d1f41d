import RouteMatch.Evaluation
import RouteMatch.Proofs.Text.Integer

/-!
# The environment of a connection

The attributes in the scope of a connection come with an environment: variables for
the facts of the connection and one for each header.  Taking attributes from that
environment gives the same attributes.  The variables that are read back are
`REQUEST_METHOD`, `HTTPS` and `SERVER_PORT`, which no header can write, and
`HTTP_ACCEPT`, which only the header `accept` can write, however headers are spelled.

## Main definitions

* `Scope.IsFact` — the name of a variable that no header has.
* `Scope.HasTexts` — what is a text in a scope.
* `Attributes.SameConnection` — attributes that agree on the facts of a connection.

## Main results

* `Scope.variableName_eq_accept_iff` — which header the variable `HTTP_ACCEPT` holds.
* `Scope.get?_headerVariables_accept`, `Scope.get?_headerVariables_of_fact` — what
  headers make of an environment.
* `Attributes.ofEnvironment_ofScope` — **the attributes in a scope and in its
  environment are the same.**
* `Attributes.sameConnection_ofScope` — the headers of a scope leave the facts of the
  connection alone.
-/

namespace RouteMatch

/-! ### Entries under texts -/

/-- Only a text equals a text; among values of other kinds equality is coarser than
identity. -/
theorem Value.beq_text_iff {v : Value} {name : String} :
    (v == .text name) = true ↔ v = .text name := by
  constructor
  · intro h
    cases v with
    | text s => rw [show s = name from beq_iff_eq.mp h]
    | _ => exact absurd h (by simp [BEq.beq, Value.same])
  · rintro rfl
    exact beq_self_eq_true name

theorem Value.text_beq_text_eq (name other : String) :
    ((Value.text name) == .text other) = decide (name = other) := by
  rw [Bool.eq_iff_iff, Value.beq_text_iff, Value.text.injEq, decide_eq_true_eq]

namespace Entries

theorem get?_insert_text (entries : Entries Value Value) (name other : String) (value : Value) :
    (entries.insert (.text name) value).get? (.text other)
      = if name = other then some value else entries.get? (.text other) := by
  induction entries with
  | nil => simp [insert, get?, Value.text_beq_text_eq]
  | cons entry rest ih =>
    obtain ⟨k, v⟩ := entry
    by_cases hk : (k == .text name) = true
    · obtain rfl := Value.beq_text_iff.mp hk
      rw [insert, if_pos hk, get?_cons, get?_cons, Value.text_beq_text_eq]
      by_cases hother : name = other <;> simp [hother]
    · rw [insert, if_neg hk, get?_cons, get?_cons, ih]
      by_cases hother : (k == .text other) = true
      · have hne : name ≠ other := by
          rintro rfl
          exact hk hother
        simp [hother, hne]
      · simp [hother]

end Entries

/-! ### Headers -/

namespace Scope

open Text

/-- Headers under names in lower case, each of which occurs once. -/
structure AreHeaders (headers : Entries (List Char) (List Char)) : Prop where
  nodup : (headers.map Prod.fst).Nodup
  lower : ∀ name ∈ headers.map Prod.fst, ∃ raw : List Char, name = raw.map latinLower

theorem AreHeaders.addHeader {headers : Entries (List Char) (List Char)} (h : AreHeaders headers)
    (header : List Char × List Char) : AreHeaders (addHeader headers header) := by
  let name := header.1.map latinLower
  have hnames : (Scope.addHeader headers header).map Prod.fst
      = headers.map Prod.fst ++ if name ∈ headers.map Prod.fst then [] else [name] :=
    Entries.map_fst_insert headers name _
  by_cases hmem : name ∈ headers.map Prod.fst
  · rw [if_pos hmem, List.append_nil] at hnames
    exact ⟨hnames ▸ h.nodup, hnames ▸ h.lower⟩
  · rw [if_neg hmem] at hnames
    constructor
    · rw [hnames, List.nodup_append]
      refine ⟨h.nodup, List.pairwise_singleton _ name, fun a ha b hb => ?_⟩
      rw [List.mem_singleton.mp hb]
      rintro rfl
      exact hmem ha
    · intro other hother
      rw [hnames] at hother
      rcases List.mem_append.mp hother with hother | hother
      · exact h.lower other hother
      · exact ⟨header.1, List.mem_singleton.mp hother⟩

theorem areHeaders_headerValues (headers : List (List Char × List Char)) :
    AreHeaders (headerValues headers) := by
  suffices hfold : ∀ met : Entries (List Char) (List Char), AreHeaders met →
      AreHeaders (headers.foldl addHeader met) from
    hfold [] ⟨List.nodup_nil, fun name hname => absurd hname List.not_mem_nil⟩
  intro met hmet
  induction headers generalizing met with
  | nil => exact hmet
  | cons header headers ih => exact ih _ (hmet.addHeader header)

/-! ### The variables of headers -/

/-- A variable of a header is either that of a header which describes the content, or
begins with `HTTP_`. -/
theorem variableName_cases (header : List Char) :
    variableName header = "CONTENT_TYPE".toList ∨ variableName header = "CONTENT_LENGTH".toList ∨
      "HTTP_".toList <+: variableName header := by
  unfold variableName
  simp only []
  split
  · next h => exact h.imp id Or.inl
  · exact Or.inr (Or.inr (List.prefix_append _ _))

/-- A fact of the connection is under a name that no header has. -/
theorem variableName_ne {fact : List Char}
    (h : fact ≠ "CONTENT_TYPE".toList ∧ fact ≠ "CONTENT_LENGTH".toList ∧
      ¬ "HTTP_".toList <+: fact) (header : List Char) : variableName header ≠ fact := by
  rintro rfl
  rcases variableName_cases header with hname | hname | hname
  · exact h.1 hname
  · exact h.2.1 hname
  · exact h.2.2 hname

/-- A capital letter of ASCII. -/
def IsCapital (c : Char) : Prop :=
  0x41 ≤ c.toNat ∧ c.toNat ≤ 0x5A

instance (c : Char) : Decidable (IsCapital c) :=
  inferInstanceAs (Decidable (_ ∧ _))

theorem toNat_ofNat {n : Nat} (h : n < 0xD800) : (Char.ofNat n).toNat = n := by
  rw [Char.ofNat, dif_pos (Or.inl h)]
  rfl

theorem not_isCapital_latinLower (c : Char) : ¬ IsCapital (latinLower c) := by
  unfold IsCapital latinLower
  simp only []
  split
  · next h =>
    rw [toNat_ofNat (by omega)]
    omega
  · next h => omega

/-- What is written for a character that is no capital itself: the letters of the sharp
s, or one character, which is a capital only if the character is its small letter. -/
theorem latinUpper_cases {c : Char} (hc : ¬ IsCapital c) :
    latinUpper c = ['S', 'S'] ∨
      ∃ d, latinUpper c = [d] ∧ (IsCapital d → c = latinLower d) := by
  unfold latinUpper
  simp only []
  split
  · next h =>
    refine Or.inr ⟨_, rfl, fun hd => ?_⟩
    unfold IsCapital at hd
    rw [toNat_ofNat (by omega)] at hd
    have hback : c.toNat - 0x20 + 0x20 = c.toNat := by omega
    rw [latinLower]
    simp only [toNat_ofNat (n := c.toNat - 0x20) (by omega), hback, Char.ofNat_toNat]
    rw [if_pos (Or.inl hd)]
  · split
    · exact Or.inl rfl
    · refine Or.inr ?_
      split
      · exact ⟨_, rfl, fun hd => absurd hd (by decide)⟩
      · split
        · exact ⟨_, rfl, fun hd => absurd hd (by decide)⟩
        · exact ⟨c, rfl, fun hd => absurd hd hc⟩

/-- The capitals of a name in lower case tell the name, unless an S is among them. -/
theorem eq_map_latinLower {name word : List Char} (hname : ∀ c ∈ name, ¬ IsCapital c)
    (hword : ∀ d ∈ word, IsCapital d ∧ d ≠ 'S')
    (h : (name.flatMap latinUpper).map (fun c => if c = '-' then '_' else c) = word) :
    name = word.map latinLower := by
  induction name generalizing word with
  | nil =>
    rw [← h]
    rfl
  | cons c name ih =>
    rw [List.flatMap_cons, List.map_append] at h
    rcases latinUpper_cases (hname c List.mem_cons_self) with hupper | ⟨d, hupper, hd⟩
    · -- The first letter of the word would be an S.
      have hmem : 'S' ∈ word := by
        rw [← h, hupper]
        exact List.mem_append_left _ (by decide)
      exact absurd rfl (hword 'S' hmem).2
    · rw [hupper, List.map_singleton, List.singleton_append] at h
      subst h
      have hfirst := (hword _ List.mem_cons_self).1
      have hdash : d ≠ '-' := by
        rintro rfl
        exact absurd hfirst (by decide)
      rw [if_neg hdash] at hfirst ⊢
      have hrest := ih (fun e he => hname e (List.mem_cons_of_mem _ he))
        (fun e he => hword e (List.mem_cons_of_mem _ he)) rfl
      rw [List.map_cons, ← hrest, ← hd hfirst]

/-- **Only the header `accept` is held by `HTTP_ACCEPT`.** -/
theorem variableName_eq_accept_iff {name : List Char}
    (hname : ∃ raw : List Char, name = raw.map latinLower) :
    variableName name = "HTTP_ACCEPT".toList ↔ name = "accept".toList := by
  constructor
  · intro h
    obtain ⟨raw, rfl⟩ := hname
    unfold variableName at h
    simp only [] at h
    split at h
    · next hcontent =>
      rw [h] at hcontent
      exact absurd hcontent (by decide)
    · have hword : "HTTP_ACCEPT".toList = "HTTP_".toList ++ "ACCEPT".toList := by decide
      rw [hword] at h
      refine (eq_map_latinLower ?_ ?_ (List.append_cancel_left h)).trans (by decide)
      · intro c hc
        obtain ⟨d, -, rfl⟩ := List.mem_map.mp hc
        exact not_isCapital_latinLower d
      · have hall : ("ACCEPT".toList.all fun d => IsCapital d ∧ d ≠ 'S') = true := by decide
        exact fun d hd => of_decide_eq_true (List.all_eq_true.mp hall d hd)
  · rintro rfl
    decide

/-! ### What headers make of an environment -/

theorem update_headerVariables_cons (environment : Entries Value Value) (name value : List Char)
    (headers : Entries (List Char) (List Char)) :
    Entries.update environment (headerVariables ((name, value) :: headers))
      = Entries.update
          (environment.insert (.text (String.ofList (variableName name)))
            (.text (String.ofList value)))
          (headerVariables headers) :=
  rfl

/-- Headers leave a variable alone that none of them has. -/
theorem get?_headerVariables_of_forall_ne {headers : Entries (List Char) (List Char)}
    {variableText : List Char}
    (h : ∀ name ∈ headers.map Prod.fst, variableName name ≠ variableText)
    (environment : Entries Value Value) :
    (Entries.update environment (headerVariables headers)).get? (.text (String.ofList variableText))
      = environment.get? (.text (String.ofList variableText)) := by
  induction headers generalizing environment with
  | nil => rfl
  | cons header headers ih =>
    obtain ⟨name, value⟩ := header
    have hne : String.ofList (variableName name) ≠ String.ofList variableText := fun heq =>
      h name List.mem_cons_self (String.ofList_injective heq)
    rw [update_headerVariables_cons, ih fun n hn => h n (List.mem_cons_of_mem _ hn),
      Entries.get?_insert_text, if_neg hne]

/-- The name of a variable that no header has: it does not begin with `HTTP_`, and does not
describe the content. -/
def IsFact (name : String) : Prop :=
  name.toList ≠ "CONTENT_TYPE".toList ∧ name.toList ≠ "CONTENT_LENGTH".toList ∧
    ¬ "HTTP_".toList <+: name.toList

/-- Headers leave the facts of the connection alone. -/
theorem get?_headerVariables_of_fact (fact : List Char)
    (h : fact ≠ "CONTENT_TYPE".toList ∧ fact ≠ "CONTENT_LENGTH".toList ∧
      ¬ "HTTP_".toList <+: fact) (environment : Entries Value Value)
    (headers : Entries (List Char) (List Char)) :
    (Entries.update environment (headerVariables headers)).get? (.text (String.ofList fact))
      = environment.get? (.text (String.ofList fact)) :=
  get?_headerVariables_of_forall_ne (fun name _ => variableName_ne h name) environment

/-- `HTTP_ACCEPT` holds the header `accept`. -/
theorem get?_headerVariables_accept (environment : Entries Value Value)
    {headers : Entries (List Char) (List Char)} (h : AreHeaders headers) :
    (Entries.update environment (headerVariables headers)).get? (.text "HTTP_ACCEPT")
      = ((headers.get? "accept".toList).map fun value => Value.text (String.ofList value)).or
          (environment.get? (.text "HTTP_ACCEPT")) := by
  induction headers generalizing environment with
  | nil => rfl
  | cons header headers ih =>
    obtain ⟨name, value⟩ := header
    have hrest : AreHeaders headers :=
      ⟨(List.nodup_cons.mp h.nodup).2, fun n hn => h.lower n (List.mem_cons_of_mem _ hn)⟩
    rw [update_headerVariables_cons, ih _ hrest, Entries.get?_insert_text, Entries.get?_cons]
    have hiff : String.ofList (variableName name) = "HTTP_ACCEPT" ↔ name = "accept".toList := by
      rw [← variableName_eq_accept_iff (h.lower name List.mem_cons_self)]
      exact ⟨fun heq => String.ofList_injective heq, fun heq => congrArg String.ofList heq⟩
    by_cases haccept : name = "accept".toList
    · -- No later header has the name again.
      have hnone : Entries.get? name headers = none :=
        Entries.get?_eq_none_iff.mpr (List.nodup_cons.mp h.nodup).1
      rw [if_pos (hiff.mpr haccept), if_pos (beq_iff_eq.mpr haccept), ← haccept, hnone]
      rfl
    · rw [if_neg (mt hiff.mp haccept), if_neg (by simpa using haccept)]

/-! ### The facts of the connection -/

/-- The entries of a scope that become variables as they stand are texts. -/
def HasTexts (s : Scope) : Prop :=
  ∀ name ∈ ["method", "root_path", "path"], ∀ v,
    s.entries.get? (.text name) = some v → Attributes.isText v = true

theorem HasTexts.isText_getD {s : Scope} (h : s.HasTexts) {name : String}
    (hname : name ∈ ["method", "root_path", "path"]) (absent : String) :
    Attributes.isText (s.getD name (.text absent)) = true := by
  rw [getD]
  cases hget : s.entries.get? (.text name) with
  | none => rfl
  | some v => exact h name hname v hget

theorem forall_isText_optional (name : String) (value : Option String) :
    ∀ entry ∈ optional name value, Attributes.isText entry.2 = true := by
  cases value <;> simp [optional, Attributes.isText]

theorem forall_isText_connectionVariables {s : Scope} (h : s.HasTexts) (protocol : String)
    (server port client : Option String) :
    ∀ entry ∈ s.connectionVariables protocol server port client,
      Attributes.isText entry.2 = true := by
  intro entry hentry
  simp only [connectionVariables, List.mem_append, List.mem_cons, List.not_mem_nil, or_false]
    at hentry
  rcases hentry with ((((rfl | rfl | rfl | rfl | rfl) | hentry) | hentry) | hentry) | hentry
  · exact h.isText_getD (by decide) _
  · exact h.isText_getD (by decide) _
  · exact h.isText_getD (by decide) _
  · rfl
  · rfl
  all_goals exact forall_isText_optional _ _ entry hentry

theorem forall_isText_update {environment : Entries Value Value}
    (h : ∀ entry ∈ environment, Attributes.isText entry.2 = true)
    (headers : Entries (List Char) (List Char)) :
    ∀ entry ∈ Entries.update environment (headerVariables headers),
      Attributes.isText entry.2 = true := by
  refine Entries.forall_mem_update (P := fun v => Attributes.isText v = true) h ?_
  intro entry hentry
  obtain ⟨header, -, rfl⟩ := List.mem_map.mp hentry
  rfl

/-- The port of a scope is an integer, if it is known. -/
theorem port_eq_ok {s : Scope} {port : Value} (h : s.port = .ok port) :
    port = .none ∨ ∃ i, port = .int i := by
  unfold Scope.port at h
  simp only [] at h
  split at h
  · split at h
    · exact absurd h (by simp)
    · exact Or.inl (Except.ok.inj h).symm
    · next v _ _ =>
      cases hint : v.toInteger with
      | error failure =>
        rw [hint] at h
        exact absurd h (by simp [Except.map])
      | ok i =>
        rw [hint] at h
        exact Or.inr ⟨i, (Except.ok.inj h).symm⟩
  · exact Or.inl (Except.ok.inj h).symm

/-- The port is read back from its text. -/
theorem portOf_portText {port : Value} (hport : port = .none ∨ ∃ i, port = .int i)
    {text : Option String} (h : portText port = .ok text) :
    Attributes.portOf (text.elim .none .text) = .ok port := by
  rcases hport with rfl | ⟨i, rfl⟩
  · obtain rfl : none = text := Except.ok.inj h
    rfl
  · rw [portText] at h
    cases hint : Value.integerText i with
    | error failure =>
      rw [hint] at h
      exact absurd h (by simp [Except.map])
    | ok t =>
      rw [hint] at h
      obtain rfl : some t = text := Except.ok.inj h
      simp only [Option.elim, Attributes.portOf, Value.toInteger_of_integerText hint]

section Facts

variable (s : Scope) (protocol : String) (server port client : Option String)

theorem get?_optional (name other : String) (value : Option String) (rest : List (Value × Value)) :
    Entries.get? (.text other) (optional name value ++ rest)
      = if name = other then (value.map Value.text).or (Entries.get? (.text other) rest)
        else Entries.get? (.text other) rest := by
  cases value with
  | none => simp [optional]
  | some v =>
    simp only [optional, List.singleton_append, Entries.get?_cons, Value.text_beq_text_eq]
    by_cases h : name = other <;> simp [h]

theorem get?_optional_last (name other : String) (value : Option String) :
    Entries.get? (.text other) (optional name value)
      = if name = other then value.map Value.text else none := by
  simpa using get?_optional name other value []

theorem get?_method :
    Entries.get? (.text "REQUEST_METHOD") (s.connectionVariables protocol server port client)
      = some (s.getD "method" (.text "GET")) := by
  simp [connectionVariables, Entries.get?_cons, Value.text_beq_text_eq]

/-- What is found of a variable that is set only under some condition. -/
theorem get?_connectionVariables_optional {name : String}
    (h : name ∉ ["REQUEST_METHOD", "SCRIPT_NAME", "PATH_INFO", "QUERY_STRING",
      "SERVER_PROTOCOL"]) :
    Entries.get? (.text name) (s.connectionVariables protocol server port client)
      = Entries.get? (.text name)
          (optional "SERVER_NAME" server ++ (optional "SERVER_PORT" port
            ++ (optional "REMOTE_ADDR" client
              ++ optional "HTTPS" (if s.isSecure then some "on" else none)))) := by
  simp only [List.mem_cons, List.not_mem_nil, or_false, not_or] at h
  obtain ⟨h₁, h₂, h₃, h₄, h₅⟩ := h
  simp [connectionVariables, Entries.get?_cons, Value.text_beq_text_eq, Ne.symm h₁, Ne.symm h₂,
    Ne.symm h₃, Ne.symm h₄, Ne.symm h₅]

theorem get?_port :
    Entries.get? (.text "SERVER_PORT") (s.connectionVariables protocol server port client)
      = port.map .text := by
  rw [get?_connectionVariables_optional _ _ _ _ _ (by decide)]
  simp [get?_optional, get?_optional_last]

theorem get?_https :
    Entries.get? (.text "HTTPS") (s.connectionVariables protocol server port client)
      = if s.isSecure then some (.text "on") else none := by
  rw [get?_connectionVariables_optional _ _ _ _ _ (by decide)]
  cases s.isSecure <;> simp [get?_optional, get?_optional_last]

theorem get?_accept :
    Entries.get? (.text "HTTP_ACCEPT") (s.connectionVariables protocol server port client) = none := by
  rw [get?_connectionVariables_optional _ _ _ _ _ (by decide)]
  simp [get?_optional, get?_optional_last]

end Facts

end Scope

namespace Attributes

open Scope

/-- What a scope with attributes is like, and what its environment holds. -/
theorem ofScope_eq_ok {s : Scope} {a : Attributes} (h : ofScope s = .ok a) :
    ∃ port protocol server text client, s.port = .ok port ∧ portText port = .ok text ∧
      a = { method := s.getD "method" (.text "GET")
            https := if s.isSecure then .text "on" else .none
            port := port
            accept := match (headerValues s.headers).get? "accept".toList with
              | none => .none
              | some value => .text (String.ofList value)
            server := Entries.update (s.connectionVariables protocol server text client)
              (headerVariables (headerValues s.headers)) } := by
  unfold ofScope at h
  simp only [] at h
  split at h
  · exact absurd h (by simp)
  · next port hport =>
    split at h
    · exact absurd h (by simp)
    · exact absurd h (by simp)
    · exact absurd h (by simp)
    · exact absurd h (by simp)
    · next protocol server text client _ _ htext _ =>
      exact ⟨port, protocol, server, text, client, hport, htext, (Except.ok.inj h).symm⟩

/-- The environment of a scope gives back the attributes. -/
theorem ofEnvironment_server {s : Scope} (htexts : s.HasTexts) {a : Attributes}
    (h : ofScope s = .ok a) : ofEnvironment a.server = .ok a := by
  obtain ⟨port, protocol, server, text, client, hport, htext, rfl⟩ := ofScope_eq_ok h
  let headers := headerValues s.headers
  let connection := s.connectionVariables protocol server text client
  let environment := Entries.update connection (headerVariables headers)
  have hmethod : environment.get? (.text "REQUEST_METHOD") = some (s.getD "method" (.text "GET")) :=
    (get?_headerVariables_of_fact "REQUEST_METHOD".toList (by decide) _ _).trans
      (get?_method s protocol server text client)
  have hhttps : environment.get? (.text "HTTPS")
      = if s.isSecure then some (.text "on") else none :=
    (get?_headerVariables_of_fact "HTTPS".toList (by decide) _ _).trans
      (get?_https s protocol server text client)
  have hserverPort : environment.get? (.text "SERVER_PORT") = text.map .text :=
    (get?_headerVariables_of_fact "SERVER_PORT".toList (by decide) _ _).trans
      (get?_port s protocol server text client)
  have haccept : environment.get? (.text "HTTP_ACCEPT")
      = (headers.get? "accept".toList).map fun value => .text (String.ofList value) := by
    rw [get?_headerVariables_accept _ (areHeaders_headerValues _), get?_accept, Option.or_none]
  have htextual : environment.filter (fun entry => isText entry.2) = environment :=
    List.filter_eq_self.mpr
      (forall_isText_update (forall_isText_connectionVariables htexts protocol server text client)
        headers)
  have hread : portOf ((text.map Value.text).getD .none) = .ok port := by
    have := portOf_portText (port_eq_ok hport) htext
    cases text <;> exact this
  simp only [ofEnvironment, named?, environment, connection, headers] at *
  rw [hmethod, hhttps, hserverPort, haccept, htextual, hread]
  simp only [Except.map, Option.getD_some]
  congr 2
  · cases s.isSecure <;> rfl
  · cases Entries.get? "accept".toList (headerValues s.headers) <;> rfl

/-- **The attributes in a scope and in its environment are the same.**  If the method
and the paths of a scope are texts, and attributes can be taken from it, then they can
be taken from the environment among them as well, and are the same: each of them, the
security of the connection, and the outcome of every evaluation. -/
theorem ofEnvironment_ofScope {s : Scope} (htexts : s.HasTexts) {a : Attributes}
    (h : ofScope s = .ok a) :
    ∃ b, ofEnvironment a.server = .ok b ∧ b.method = a.method ∧ b.https = a.https ∧
      b.port = a.port ∧ b.accept = a.accept ∧ b.server = a.server ∧
      b.isSecure = a.isSecure ∧
      ∀ (r : Route) (path : String) (config : Config),
        evaluate r path b config = evaluate r path a config :=
  ⟨a, ofEnvironment_server htexts h, rfl, rfl, rfl, rfl, rfl, rfl, fun _ _ _ => rfl⟩

/-- A scope with headers that come close to the variables that are read back. -/
def proxyScope : Scope where
  headers := [("Accept".toList, "text/html".toList), ("s".toList, "on".toList),
    ("ACCEPT".toList, "*/*".toList), ("accept-".toList, "a/b".toList)]
  query := "q=1".toList
  entries := [(.text "method", .text "POST"), (.text "scheme", .text "wss"),
    (.text "path", .text "/x"), (.text "server", .tuple [.text "localhost", .int 8443])]

theorem ofEnvironment_ofScope_proxyScope :
    proxyScope.HasTexts ∧ ∃ a b, ofScope proxyScope = .ok a ∧
      ofEnvironment a.server = .ok b ∧ b.method = .text "POST" ∧ b.https = .text "on" ∧
      b.port = .int 8443 ∧ b.accept = .text "text/html,*/*" := by
  have htexts : proxyScope.HasTexts := by
    intro name hname v hget
    simp only [List.mem_cons, List.not_mem_nil, or_false] at hname
    rcases hname with rfl | rfl | rfl
    · obtain rfl : Value.text "POST" = v := Option.some.inj hget
      rfl
    · have hnone : proxyScope.entries.get? (.text "root_path") = none := by decide +kernel
      exact absurd (hnone.symm.trans hget) (by simp)
    · obtain rfl : Value.text "/x" = v := Option.some.inj hget
      rfl
  obtain ⟨a, ha, hmethod, hhttps, hport, haccept⟩ : ∃ a, ofScope proxyScope = .ok a ∧
      a.method = .text "POST" ∧ a.https = .text "on" ∧ a.port = .int 8443 ∧
      a.accept = .text "text/html,*/*" := ⟨_, rfl, rfl, rfl, rfl, rfl⟩
  obtain ⟨b, hb, hmethod', hhttps', hport', haccept', -⟩ := ofEnvironment_ofScope htexts ha
  exact ⟨htexts, a, b, ha, hb, hmethod'.trans hmethod, hhttps'.trans hhttps, hport'.trans hport,
    haccept'.trans haccept⟩

/-! ### Headers and facts -/

/-- Attributes that agree on the facts of a connection. -/
structure SameConnection (a a' : Attributes) : Prop where
  method : a.method = a'.method
  https : a.https = a'.https
  port : a.port = a'.port
  server : ∀ name : String, IsFact name → a.server.get? (.text name) = a'.server.get? (.text name)

theorem SameConnection.isSecure_eq {a a' : Attributes} (h : a.SameConnection a') :
    a.isSecure = a'.isSecure := by
  rw [isSecure, isSecure, h.https, h.port]

/-- **The headers of a scope leave the facts of the connection alone.** -/
theorem sameConnection_ofScope (s : Scope) (headers headers' : List (List Char × List Char)) :
    Corresponds SameConnection (ofScope { s with headers := headers })
      (ofScope { s with headers := headers' }) := by
  have hfacts : ∀ (environment : Entries Value Value) (name : String), IsFact name →
      (Entries.update environment (headerVariables (headerValues headers))).get? (.text name)
        = (Entries.update environment (headerVariables (headerValues headers'))).get?
            (.text name) := by
    intro environment name hname
    rw [← String.ofList_toList (s := name), get?_headerVariables_of_fact _ hname,
      get?_headerVariables_of_fact _ hname]
  -- Of a scope without its headers the same is known.
  have hport : ∀ headers, Scope.port { s with headers := headers } = s.port := fun _ => rfl
  have hprotocol : ∀ headers, Scope.protocol { s with headers := headers } = s.protocol :=
    fun _ => rfl
  have hentry : ∀ headers, Scope.getD { s with headers := headers } = s.getD := fun _ => rfl
  unfold ofScope
  simp only [hport, hprotocol, hentry]
  cases s.port with
  | error why => exact .failure why
  | ok port =>
    simp only []
    split
    · exact .failure _
    · exact .failure _
    · exact .failure _
    · exact .failure _
    · exact .value ⟨rfl, rfl, rfl, hfacts _⟩

end Attributes

end RouteMatch
