import RouteMatch.Session

/-!
# Where the dictionaries of an object stand

What an object shows is read from the dictionaries that it holds, and from no others.  Some of
these are there to be written to, namely those of the caller and those of an outcome; all others
are to stay as they are.

## Main definitions

* `Memory.left?` — what is left of a dictionary.
* `HeldRoute.addresses` — the dictionaries of a route.
* `Held.fixed`, `Held.writable` — the dictionaries of an object that stay and those that may
  change.

## Main results

* `HeldRoute.view?_congr_left` — a route depends on what is left of its dictionaries.
* `HeldRoute.view?_congr`, `Held.view?_congr` — what an object shows depends on its dictionaries.
* `HeldRoute.view?_of_extends`, `Held.view?_of_extends` — what an object shows stays when the
  memory grows.
-/

namespace RouteMatch

variable {m m' : Memory} {usedUp usedUp' : List Nat}

/-- What is left of the dictionary at an address after objects were used up. -/
def Memory.left? (m : Memory) (usedUp : List Nat) (address : Address) :
    Option (Entries Value Value) :=
  (m.read? address).map (Entries.left usedUp)

theorem Memory.names?_congr {β : Type} {ofValue : Value → Option β} {address : Address}
    (h : m'.left? usedUp' address = m.left? usedUp address) :
    m'.names? usedUp' ofValue address = m.names? usedUp ofValue address := by
  have hnames : ∀ (m : Memory) (usedUp : List Nat),
      m.names? usedUp ofValue address = (m.left? usedUp address).bind (Given.names? ofValue) := by
    intro m usedUp
    rw [names?, left?, Option.bind_map]
    rfl
  rw [hnames, hnames, h]

theorem Memory.lt_size_of_names? {β : Type} {ofValue : Value → Option β} {address : Address}
    {entries : Entries String β} (h : m.names? usedUp ofValue address = some entries) :
    address < m.size := by
  obtain ⟨held, hread, -⟩ := Option.bind_eq_some_iff.mp h
  exact lt_size_of_read? hread

/-! ### Routes -/

namespace HeldRoute

/-- The addresses of the dictionaries of a route that its definition is read from. -/
def definitionAddresses (h : HeldRoute) : List Address :=
  [h.tokens, h.values, h.server] ++ (h.predicate.map HeldPredicate.kept).toList

/-- The addresses of the dictionaries of a route. -/
def addresses (h : HeldRoute) : List Address :=
  h.definitionAddresses ++ (h.compiled.map Compiled.values).toList

variable {h : HeldRoute}

theorem predicate?_congr (hsame : ∀ address ∈ h.definitionAddresses,
    m'.left? usedUp' address = m.left? usedUp address) :
    h.predicate? m' usedUp' = h.predicate? m usedUp := by
  unfold predicate?
  cases hp : h.predicate with
  | none => rfl
  | some p =>
    have hview : ∀ (m : Memory) (usedUp : List Nat),
        p.view? m usedUp = (m.left? usedUp p.kept).map
          fun kept => KeepingPredicate.toPredicate ⟨p.answer, kept⟩ := by
      intro m usedUp
      rw [HeldPredicate.view?, Memory.left?, Option.map_map]
      rfl
    have hmem : p.kept ∈ h.definitionAddresses := by simp [definitionAddresses, hp]
    simp only [hview, hsame p.kept hmem]

theorem definition?_congr (hsame : ∀ address ∈ h.definitionAddresses,
    m'.left? usedUp' address = m.left? usedUp address) :
    h.definition? m' usedUp' = h.definition? m usedUp := by
  have htokens := hsame h.tokens (by simp [definitionAddresses])
  have hvalues := hsame h.values (by simp [definitionAddresses])
  have hserver := hsame h.server (by simp [definitionAddresses])
  rw [definition?, definition?, predicate?_congr hsame, Memory.names?_congr htokens,
    Memory.names?_congr hvalues, Memory.names?_congr hserver]

/-- A route depends on what is left of its dictionaries. -/
theorem view?_congr_left (hsame : ∀ address ∈ h.addresses,
    m'.left? usedUp' address = m.left? usedUp address) :
    h.view? m' usedUp' = h.view? m usedUp := by
  have hdefinition : h.definition? m' usedUp' = h.definition? m usedUp :=
    definition?_congr fun address hmem => hsame address (List.mem_append_left _ hmem)
  rw [view?, view?, hdefinition]
  cases hc : h.compiled with
  | none => rfl
  | some c =>
    have hmem : c.values ∈ h.addresses := by simp [addresses, hc]
    cases h.definition? m usedUp with
    | none => rfl
    | some d =>
      have hvalues : m'.names? usedUp' some c.values = m.names? usedUp some c.values :=
        Memory.names?_congr (hsame c.values hmem)
      simp only [hvalues]

/-- What a route shows depends on its dictionaries. -/
theorem view?_congr (hsame : ∀ address ∈ h.addresses, m'.read? address = m.read? address) :
    h.view? m' usedUp = h.view? m usedUp :=
  view?_congr_left fun address hmem => congrArg (Option.map _) (hsame address hmem)

/-- What can be told of a route that has a definition. -/
theorem exists_of_definition? {d : RouteDefinition}
    (hdefinition : h.definition? m usedUp = some d) :
    m.names? usedUp some h.tokens = some d.tokens ∧ m.names? usedUp some h.values = some d.values ∧
      m.names? usedUp Value.text? h.server = some d.server ∧
      h.predicate? m usedUp = some d.predicate ∧
      d = { h.plain with
        tokens := d.tokens, values := d.values, server := d.server, predicate := d.predicate } := by
  unfold definition? at hdefinition
  split at hdefinition
  · next tokens values server predicate htokens hvalues hserver hpredicate =>
    obtain rfl := Option.some.inj hdefinition
    exact ⟨htokens, hvalues, hserver, hpredicate, rfl⟩
  · cases hdefinition

/-- What can be told of a route that shows something. -/
theorem exists_of_view? {r : Route} (hview : h.view? m usedUp = some r) :
    ∃ c d, h.compiled = some c ∧ h.definition? m usedUp = some d ∧
      m.names? usedUp some c.values = some r.values ∧
      r = ⟨d, c.pattern, c.names, c.constraints, r.values⟩ := by
  unfold view? at hview
  split at hview
  · next c d hcompiled hdefinition =>
    obtain ⟨values, hvalues, rfl⟩ := Option.map_eq_some_iff.mp hview
    exact ⟨c, d, hcompiled, hdefinition, hvalues, rfl⟩
  · cases hview

/-- A route that has a definition has the dictionaries for it in the memory. -/
theorem lt_size_of_definition? {d : RouteDefinition}
    (hdefinition : h.definition? m usedUp = some d) :
    ∀ address ∈ h.definitionAddresses, address < m.size := by
  obtain ⟨htokens, hvalues, hserver, hpredicate, -⟩ := exists_of_definition? hdefinition
  intro address hmem
  simp only [definitionAddresses, List.mem_append, List.mem_cons, List.not_mem_nil,
    or_false] at hmem
  rcases hmem with (rfl | rfl | rfl) | hkept
  · exact Memory.lt_size_of_names? htokens
  · exact Memory.lt_size_of_names? hvalues
  · exact Memory.lt_size_of_names? hserver
  · obtain ⟨p, hp, rfl⟩ := Option.map_eq_some_iff.mp (Option.mem_toList.mp hkept)
    rw [predicate?, hp] at hpredicate
    obtain ⟨_, hview, -⟩ := Option.map_eq_some_iff.mp hpredicate
    obtain ⟨_, hread, -⟩ := Option.map_eq_some_iff.mp hview
    exact Memory.lt_size_of_read? hread

/-- A route that shows something has its dictionaries in the memory. -/
theorem lt_size_of_view? {r : Route} (hview : h.view? m usedUp = some r) :
    ∀ address ∈ h.addresses, address < m.size := by
  obtain ⟨c, d, hcompiled, hdefinition, hvalues, -⟩ := exists_of_view? hview
  intro address hmem
  rcases List.mem_append.mp hmem with hmem | hmem
  · exact lt_size_of_definition? hdefinition address hmem
  · rw [hcompiled] at hmem
    obtain rfl := List.mem_singleton.mp hmem
    exact Memory.lt_size_of_names? hvalues

/-- The definition of a route stays when the memory grows. -/
theorem definition?_of_extends {d : RouteDefinition} (hdefinition : h.definition? m usedUp = some d)
    (hextends : m.Extends m') : h.definition? m' usedUp = some d := by
  rw [← hdefinition]
  exact definition?_congr fun address hmem => congrArg (Option.map _)
    (hextends.read?_eq (lt_size_of_definition? hdefinition address hmem))

/-- What a route shows stays when the memory grows. -/
theorem view?_of_extends {r : Route} (hview : h.view? m usedUp = some r) (hextends : m.Extends m') :
    h.view? m' usedUp = some r := by
  rw [← hview]
  exact view?_congr fun address hmem => hextends.read?_eq (lt_size_of_view? hview address hmem)

end HeldRoute

/-! ### Objects -/

/-- The addresses of the dictionaries of a caller. -/
def HeldGiven.addresses (given : HeldGiven) : List Address :=
  [given.tokens, given.values, given.server]

theorem HeldGiven.address_mem (given : HeldGiven) (field : GivenField) :
    given.address field ∈ given.addresses := by
  cases field <;> simp [HeldGiven.address, HeldGiven.addresses]

theorem HeldGiven.view?_congr {given : HeldGiven}
    (hsame : ∀ address ∈ given.addresses, m'.read? address = m.read? address) :
    given.view? m' = given.view? m := by
  have htokens : m'.read? given.tokens = m.read? given.tokens := hsame _ (address_mem given .tokens)
  have hvalues : m'.read? given.values = m.read? given.values := hsame _ (address_mem given .values)
  have hserver : m'.read? given.server = m.read? given.server := hsame _ (address_mem given .server)
  rw [view?, view?, htokens, hvalues, hserver]

theorem HeldGiven.exists_of_view? {given : HeldGiven} {shown : Given}
    (hview : given.view? m = some shown) :
    m.read? given.tokens = some shown.tokens ∧ m.read? given.values = some shown.values ∧
      m.read? given.server = some shown.server := by
  unfold view? at hview
  split at hview
  · next htokens hvalues hserver =>
    obtain rfl := Option.some.inj hview
    exact ⟨htokens, hvalues, hserver⟩
  · cases hview

/-- The dictionaries of a caller stay when the memory grows. -/
theorem HeldGiven.view?_of_extends {given : HeldGiven} {shown : Given}
    (hview : given.view? m = some shown) (hextends : m.Extends m') :
    given.view? m' = some shown := by
  obtain ⟨htokens, hvalues, hserver⟩ := exists_of_view? hview
  rw [view?, hextends.read?_eq_some htokens, hextends.read?_eq_some hvalues,
    hextends.read?_eq_some hserver]

namespace Held

/-- The addresses of the dictionaries of an object that are to stay as they are. -/
def fixed : Held → List Address
  | .route h _ => h.addresses
  | .attributes h => [h.server]
  | .config _ => []
  | .attempt h => h.route.addresses

/-- The addresses of the dictionaries of an object that may be written to. -/
def writable : Held → List Address
  | .route _ given => given.addresses
  | .attributes h => [h.given]
  | .config _ => []
  | .attempt h => [h.params, h.captures]

variable {h : Held}

/-- What an object shows depends on its dictionaries. -/
theorem view?_congr (hsame : ∀ address, address ∈ h.fixed ∨ address ∈ h.writable →
    m'.read? address = m.read? address) : h.view? m' = h.view? m := by
  cases h with
  | route h given =>
    have hroute : h.view? m' [] = h.view? m [] :=
      HeldRoute.view?_congr fun address hmem => hsame address (Or.inl hmem)
    have hgiven : given.view? m' = given.view? m :=
      HeldGiven.view?_congr fun address hmem => hsame address (Or.inr hmem)
    rw [view?, view?, hroute, hgiven]
  | attributes h =>
    have hserver := hsame h.server (Or.inl (List.mem_singleton.mpr rfl))
    rw [view?, view?, HeldAttributes.view?, HeldAttributes.view?, hserver]
  | config c => rfl
  | attempt h =>
    have hroute : h.route.view? m' [] = h.route.view? m [] :=
      HeldRoute.view?_congr fun address hmem => hsame address (Or.inl hmem)
    have hparams := hsame h.params (Or.inr (by simp [writable]))
    have hcaptures := hsame h.captures (Or.inr (by simp [writable]))
    rw [view?, view?, HeldAttempt.view?, HeldAttempt.view?, hroute, hparams, hcaptures]

/-- What a route with the dictionaries of its caller shows. -/
theorem view?_route_eq_some_iff {h : HeldRoute} {given : HeldGiven} {o : Object} :
    (route h given).view? m = some o ↔
      ∃ r shown, h.view? m [] = some r ∧ given.view? m = some shown ∧ o = .route r shown := by
  rw [view?]
  cases h.view? m [] with
  | none => simp
  | some r =>
    cases given.view? m with
    | none => simp
    | some shown => simp [eq_comm]

/-- What an outcome shows. -/
theorem view?_attempt_eq_some_iff {h : HeldAttempt} {o : Object} :
    (attempt h).view? m = some o ↔
      ∃ r params captures, h.route.view? m [] = some r ∧ m.read? h.params = some params ∧
        m.read? h.captures = some captures ∧
        o = .attempt ⟨r, h.rejection.isNone, params, captures,
          (h.rejection.map Rejection.text).toList⟩ := by
  show (HeldAttempt.view? m h).map Object.attempt = some o ↔ _
  unfold HeldAttempt.view?
  cases h.route.view? m [] with
  | none => simp
  | some r =>
    cases m.read? h.params with
    | none => simp
    | some params =>
      cases m.read? h.captures with
      | none => simp
      | some captures => simp [eq_comm]

/-- What attributes show. -/
theorem view?_attributes_eq_some_iff {h : HeldAttributes} {o : Object} :
    (attributes h).view? m = some o ↔
      ∃ server, m.read? h.server = some server ∧
        o = .attributes { h.plain with server := server } := by
  show (HeldAttributes.view? m h).map Object.attributes = some o ↔ _
  unfold HeldAttributes.view?
  cases m.read? h.server with
  | none => simp
  | some server => simp [eq_comm]

/-- What an object shows stays when the memory grows. -/
theorem view?_of_extends {o : Object} (hview : h.view? m = some o) (hextends : m.Extends m') :
    h.view? m' = some o := by
  cases h with
  | route h given =>
    obtain ⟨r, shown, hroute, hgiven, rfl⟩ := view?_route_eq_some_iff.mp hview
    exact view?_route_eq_some_iff.mpr ⟨r, shown, HeldRoute.view?_of_extends hroute hextends,
      HeldGiven.view?_of_extends hgiven hextends, rfl⟩
  | attributes h =>
    obtain ⟨server, hserver, rfl⟩ := view?_attributes_eq_some_iff.mp hview
    exact view?_attributes_eq_some_iff.mpr ⟨server, hextends.read?_eq_some hserver, rfl⟩
  | config c => exact hview
  | attempt h =>
    obtain ⟨r, params, captures, hroute, hparams, hcaptures, rfl⟩ :=
      view?_attempt_eq_some_iff.mp hview
    exact view?_attempt_eq_some_iff.mpr ⟨r, params, captures,
      HeldRoute.view?_of_extends hroute hextends, hextends.read?_eq_some hparams,
      hextends.read?_eq_some hcaptures, rfl⟩

end Held

end RouteMatch
