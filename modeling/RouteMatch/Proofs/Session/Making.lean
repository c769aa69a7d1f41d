import RouteMatch.Proofs.Evaluation.Parameters
import RouteMatch.Proofs.Session.Dictionaries

/-!
# Making routes and attributes

A route is made from dictionaries of its caller, and so are attributes.  Making them gives what is
made from the values in those dictionaries; and the dictionaries that they end up with are new
ones, apart from those that their caller has.

## Main definitions

* `Held.IsNew` — all dictionaries of an object are new, and those that may be written to are
  different and apart from the others.

## Main results

* `follows_build` — **making a route follows building it**, in dictionaries of its own.
* `follows_make` — **making attributes follows making them**, likewise.
-/

namespace RouteMatch

open RouteMatch.Action

/-- The dictionaries of an object that may be written to are different, and apart from those that
stay. -/
structure Held.IsApart (h : Held) : Prop where
  nodup : h.writable.Nodup
  apart : ∀ address ∈ h.writable, address ∉ h.fixed

/-- All dictionaries of an object have been made since there was another memory. -/
structure Held.IsNew (base m : Memory) (h : Held) : Prop extends h.IsApart where
  new : ∀ address : Nat, address ∈ h.fixed ∨ address ∈ h.writable →
    base.size ≤ address ∧ address < m.size

/-! ### Predicates -/

/-- A predicate that makes its verdicts for the occasion is that predicate. -/
theorem toPredicate_ofPredicate (p : Predicate) :
    (KeepingPredicate.ofPredicate p).toPredicate = p := by
  funext a captures
  show ((p a captures).map Answer.verdict).map _ = p a captures
  cases p a captures <;> rfl

/-- The predicate of a definition that is made with another one, if there is one. -/
theorem RouteDefinition.predicate_keeping (d : RouteDefinition) (p : Option KeepingPredicate) :
    (d.keeping p).predicate = (d.kept? p).map KeepingPredicate.toPredicate := by
  cases p with
  | some p => rfl
  | none =>
    rw [keeping, kept?, Option.none_or, Option.map_map]
    cases d.predicate with
    | none => rfl
    | some q => exact congrArg some (toPredicate_ofPredicate q).symm

/-- A definition that is made with a predicate differs in the predicate alone. -/
theorem RouteDefinition.keeping_eq (d : RouteDefinition) (p : Option KeepingPredicate) :
    d.keeping p = { d.plain with
      tokens := d.tokens, values := d.values, server := d.server,
      predicate := (d.keeping p).predicate } := by
  cases p <;> rfl

/-- How a predicate is put into the memory. -/
theorem holdPredicate_apply (m : Memory) (p : Option KeepingPredicate) :
    ∃ held m', holdPredicate p m = .ok held m' ∧ m.Extends m' ∧
      (∀ q ∈ held, m.size ≤ q.kept ∧ q.kept < m'.size) ∧
      ∀ {m'' : Memory} {h : HeldRoute}, m'.Extends m'' → h.predicate = held →
        h.predicate? m'' [] = some (p.map KeepingPredicate.toPredicate) := by
  cases p with
  | none =>
    refine ⟨none, m, rfl, .refl m, ?_, ?_⟩
    · intro q hq
      cases hq
    · intro m'' h hextends hnone
      rw [HeldRoute.predicate?, hnone]
      rfl
  | some p =>
    refine ⟨some ⟨p.answer, m.size⟩, m.add p.kept, rfl, (Memory.Extends.refl m).add _, ?_, ?_⟩
    · rintro q ⟨⟩
      rw [Memory.size_add]
      exact ⟨Nat.le_refl _, Nat.lt_succ_self _⟩
    · intro m'' h hextends hsome
      have hkept : m''.read? m.size = some p.kept := hextends.read?_eq_some Memory.read?_add_size
      rw [HeldRoute.predicate?, hsome]
      simp [HeldPredicate.view?, hkept]

/-! ### Routes -/

theorem names?_of_read? {β : Type} {m : Memory} {address : Address} {toValue : β → Value}
    {ofValue : Value → Option β} {entries : Entries String β}
    (hread : m.read? address = some (Given.named toValue entries))
    (h : ∀ b, ofValue (toValue b) = some b) : m.names? [] ofValue address = some entries := by
  rw [Memory.names?, hread, Option.bind_some, Entries.left_nil, Given.names?_named h]

/-- Compiling a route that has not been compiled follows building it.  Its defaults are put into a
new dictionary. -/
theorem follows_compile {base m : Memory} {h : HeldRoute} {d : RouteDefinition}
    (hextends : base.Extends m) (hnone : h.compiled = none)
    (hdefinition : h.definition? m [] = some d) :
    Follows base
      (fun v r m' => v.1.view? m' [] = some r ∧ m.Extends m' ∧ m'.size = m.size + 1 ∧
        v.1.addresses = h.definitionAddresses ++ [m.size])
      (h.compile m) (Route.build d) := by
  simp only [HeldRoute.compile, hnone]
  rw [bind_apply_of_ok (look_apply hdefinition)]
  cases hbuild : Route.build d with
  | error why => exact .failure hextends
  | ok r =>
    -- The compilation is counted, which no dictionary shows; then the defaults are kept.
    let noted : Memory := { m with compilations := m.compilations + 1 }
    have hnoted : m.Extends noted := (Memory.Extends.refl m).of_differsAt (Nat.le_refl _)
      (Memory.differsAt_of_dictionaries rfl)
    have hgrown := hnoted.add (Given.named id r.values)
    let compiled : HeldRoute :=
      { h with compiled := some ⟨m.compilations, r.pattern, r.names, r.constraints, noted.size⟩ }
    have hvalues :
        (noted.add (Given.named id r.values)).names? [] some noted.size = some r.values :=
      names?_of_read? Memory.read?_add_size fun _ => rfl
    have hsame :
        compiled.definition? (noted.add (Given.named id r.values)) [] = some r.definition := by
      rw [Route.definition_of_build hbuild]
      exact HeldRoute.definition?_of_extends hdefinition hgrown
    have hview : compiled.view? (noted.add (Given.named id r.values)) [] = some r := by
      simp only [HeldRoute.view?, hsame, hvalues, Option.map_some, compiled]
    exact .value (hextends.trans hgrown) ⟨hview, hgrown, Memory.size_add, rfl⟩

/-- Three new dictionaries with what a caller's dictionaries hold. -/
theorem exists_add_given (m : Memory) (shown : Given) :
    ∃ given : HeldGiven, given.addresses = [m.size, m.size + 1, m.size + 2] ∧
      ∃ m', m' = ((m.add shown.tokens).add shown.values).add shown.server ∧
        given = ⟨m.size, (m.add shown.tokens).size, ((m.add shown.tokens).add shown.values).size⟩ ∧
        m.Extends m' ∧ m'.size = m.size + 3 ∧ given.view? m' = some shown := by
  let first := m.add shown.tokens
  let second := first.add shown.values
  let third := second.add shown.server
  have hfirst : m.Extends first := (Memory.Extends.refl m).add _
  have hsecond : first.Extends second := (Memory.Extends.refl first).add _
  have hthird : second.Extends third := (Memory.Extends.refl second).add _
  have htokens : third.read? m.size = some shown.tokens :=
    (hsecond.trans hthird).read?_eq_some Memory.read?_add_size
  have hvalues : third.read? first.size = some shown.values :=
    hthird.read?_eq_some Memory.read?_add_size
  have hserver : third.read? second.size = some shown.server := Memory.read?_add_size
  refine ⟨⟨m.size, first.size, second.size⟩, ?_, third, rfl, rfl,
    hfirst.trans (hsecond.trans hthird), ?_, ?_⟩
  · simp [HeldGiven.addresses, second, first]
  · simp [third, second, first]
  · rw [HeldGiven.view?, htokens, hvalues, hserver]

/-- A caller's dictionaries are put into the memory. -/
theorem hold_apply (m : Memory) (d : RouteDefinition) :
    ∃ given m', HeldGiven.hold d m = .ok given m' ∧ m.Extends m' ∧ m'.size = m.size + 3 ∧
      given.addresses = [m.size, m.size + 1, m.size + 2] ∧
      given.view? m' = some (Given.ofDefinition d) := by
  obtain ⟨given, haddresses, m', hm', hgiven, hextends, hsize, hview⟩ :=
    exists_add_given m (Given.ofDefinition d)
  refine ⟨given, m', ?_, hextends, hsize, haddresses, hview⟩
  rw [hgiven, hm']
  rfl

/-- A caller's dictionaries are copied. -/
theorem copy_apply_given {m : Memory} {given : HeldGiven} {shown : Given}
    (hview : given.view? m = some shown) :
    ∃ own m', given.copy m = .ok own m' ∧ m.Extends m' ∧ m'.size = m.size + 3 ∧
      own.addresses = [m.size, m.size + 1, m.size + 2] ∧ own.view? m' = some shown := by
  obtain ⟨htokens, hvalues, hserver⟩ := HeldGiven.exists_of_view? hview
  obtain ⟨own, haddresses, m', hm', hown, hextends, hsize, hview'⟩ := exists_add_given m shown
  refine ⟨own, m', ?_, hextends, hsize, haddresses, hview'⟩
  have hfirst : m.Extends (m.add shown.tokens) := (Memory.Extends.refl m).add _
  rw [HeldGiven.copy, bind_apply_of_ok (copy_apply htokens),
    bind_apply_of_ok (copy_apply (hfirst.read?_eq_some hvalues)),
    bind_apply_of_ok (copy_apply ((hfirst.add _).read?_eq_some hserver)), hown, hm']
  rfl

/-- The definition of a route that has copies of a caller's dictionaries. -/
theorem definition?_of_copies {m : Memory} {d : RouteDefinition} {p : Option KeepingPredicate}
    {own : HeldGiven} {held : Option HeldPredicate}
    (hview : own.view? m = some (Given.ofDefinition d))
    (hpredicate :
      HeldRoute.predicate? m [] ⟨d.plain, own.tokens, own.values, own.server, held, none⟩
        = some (d.keeping p).predicate) :
    HeldRoute.definition? m [] ⟨d.plain, own.tokens, own.values, own.server, held, none⟩
      = some (d.keeping p) := by
  obtain ⟨htokens, hvalues, hserver⟩ := HeldGiven.exists_of_view? hview
  have htokens : m.names? [] some own.tokens = some d.tokens := names?_of_read? htokens fun _ => rfl
  have hvalues : m.names? [] some own.values = some d.values := names?_of_read? hvalues fun _ => rfl
  have hserver : m.names? [] Value.text? own.server = some d.server :=
    names?_of_read? hserver fun _ => rfl
  rw [d.keeping_eq p]
  simp only [HeldRoute.definition?, htokens, hvalues, hserver, hpredicate]

/-- **Making a route follows building it**, in dictionaries of its own. -/
theorem follows_build (m : Memory) (d : RouteDefinition) (p : Option KeepingPredicate) :
    Follows m
      (fun v r m' => (Held.route v.1 v.2).view? m' = some (.route r (Given.ofDefinition d)) ∧
        (Held.route v.1 v.2).IsNew m m')
      (HeldRoute.build d p m) (Route.build (d.keeping p)) := by
  -- What the predicate keeps comes first, then the caller's dictionaries, then their copies.
  obtain ⟨held, m₁, hhold, hextends₁, hkept, hpredicate⟩ := holdPredicate_apply m (d.kept? p)
  obtain ⟨given, m₂, hgiven, hextends₂, hsize₂, haddresses, hview⟩ := hold_apply m₁ d
  obtain ⟨own, m₃, hcopy, hextends₃, hsize₃, howned, hview₃⟩ := copy_apply_given hview
  have hextends₁₃ := hextends₂.trans hextends₃
  have hp := hpredicate (h := ⟨d.plain, own.tokens, own.values, own.server, held, none⟩) hextends₁₃
    rfl
  rw [← RouteDefinition.predicate_keeping] at hp
  have hdefinition := definition?_of_copies hview₃ hp
  have hcompile := follows_compile (hextends₁.trans hextends₁₃) rfl hdefinition
  have hinit : Follows m
      (fun h r m' => h.view? m' [] = some r ∧ m₃.Extends m' ∧ m'.size = m₃.size + 1 ∧
        h.addresses = own.addresses ++ (held.map HeldPredicate.kept).toList ++ [m₃.size])
      (HeldRoute.init d.plain held given m₂) (Route.build (d.keeping p)) := by
    rw [HeldRoute.init, bind_apply_of_ok hcopy]
    refine hcompile.bind_ok ?_
    rintro ⟨h, c⟩ r m' hextends hcompiled
    exact .value hextends hcompiled
  rw [HeldRoute.build, bind_apply_of_ok hhold, bind_apply_of_ok hgiven]
  refine hinit.bind_ok ?_
  rintro h r m' hextends ⟨hview', hgrown, hsize, hown⟩
  refine .value hextends ⟨?_, ?_⟩
  · exact Held.view?_route_eq_some_iff.mpr ⟨r, _, hview',
      HeldGiven.view?_of_extends hview (hextends₃.trans hgrown), rfl⟩
  · -- The caller's dictionaries stand between the predicate's and those of the route.
    have hwritable : ∀ address : Nat, address ∈ given.addresses →
        m₁.size ≤ address ∧ address < m₂.size := by
      rw [haddresses, hsize₂]
      simp
    have hfixed : ∀ address : Nat, address ∈ h.addresses →
        (m.size ≤ address ∧ address < m₁.size) ∨ (m₂.size ≤ address ∧ address < m'.size) := by
      intro address hmem
      rw [hown, howned] at hmem
      simp only [List.mem_append, List.mem_cons, List.not_mem_nil, or_false] at hmem
      rcases hmem with (hcopied | hkeeps) | rfl
      · right
        omega
      · obtain ⟨q, hq, rfl⟩ := Option.map_eq_some_iff.mp (Option.mem_toList.mp hkeeps)
        exact Or.inl (hkept q hq)
      · right
        omega
    have hnodup : given.addresses.Nodup := by
      rw [haddresses]
      simp
    have hle := hextends₁.size_le
    refine { nodup := hnodup, apart := ?_, new := ?_ }
    · intro address hmem hmem'
      have hin := hwritable address hmem
      have hout := hfixed address hmem'
      omega
    · rintro address (hmem | hmem)
      · have hin := hfixed address hmem
        omega
      · have hin := hwritable address hmem
        omega

/-! ### Attributes -/

/-- What attributes are made from after objects were used up. -/
def AttributesSource.left (usedUp : List Nat) : AttributesSource → AttributesSource
  | .fields method https port accept server =>
    .fields method https port accept (server.left usedUp)
  | source => source

/-- Attributes copy the dictionary that is passed. -/
theorem init_apply {m : Memory} {passed : Address} {entries : Entries Value Value}
    (hread : m.read? passed = some entries) (plain : Attributes) (given : Address) :
    HeldAttributes.init plain given passed m
      = .ok ⟨{ plain with server := [] }, m.size, given⟩ (m.add entries) :=
  bind_apply_of_ok (copy_apply hread)

/-- Attributes whose dictionary and whose caller's dictionary are different and new. -/
theorem isNew_attributes {base m : Memory} {h : HeldAttributes} (hgiven : base.size ≤ h.given)
    (hlt : h.given < h.server) (hserver : h.server < m.size) :
    (Held.attributes h).IsNew base m := by
  refine { nodup := List.pairwise_singleton _ _, apart := ?_, new := ?_ }
  · intro address hmem hmem'
    rw [List.mem_singleton.mp hmem] at hmem'
    exact Nat.ne_of_lt hlt (List.mem_singleton.mp hmem')
  · rintro address (hmem | hmem)
    · rw [List.mem_singleton.mp hmem]
      exact ⟨Nat.le_trans hgiven (Nat.le_of_lt hlt), hserver⟩
    · rw [List.mem_singleton.mp hmem]
      exact ⟨hgiven, Nat.lt_trans hlt hserver⟩

/-- **Making attributes follows making them**, in a dictionary of their own. -/
theorem follows_make (m : Memory) (source : AttributesSource) :
    Follows m
      (fun h a m' => h.view? m' = some a ∧ (Held.attributes h).IsNew m m')
      (HeldAttributes.make source m) (Attributes.ofSource (source.left m.usedUp)) := by
  -- A scope or an environment is read into a dictionary, which is passed and copied like a
  -- caller's.
  have hpassed : ∀ source : AttributesSource, Follows m
      (fun h a m' => h.view? m' = some a ∧ (Held.attributes h).IsNew m m')
      ((do
        let given ← new source.given
        let a ← ofResult (Attributes.ofSource source)
        let passed ← new a.server
        HeldAttributes.init a given passed) m) (Attributes.ofSource source) := by
    intro source
    rw [bind_apply_of_ok (show new source.given m = .ok m.size _ from rfl)]
    refine (follows_ofResult ((Memory.Extends.refl m).add _) _).bind_ok ?_
    rintro a _ _ hextends ⟨rfl, rfl⟩
    rw [bind_apply_of_ok (show new a.server (m.add source.given) = .ok _ _ from rfl),
      init_apply Memory.read?_add_size]
    refine .value ((hextends.add _).add _) ⟨?_, isNew_attributes (Nat.le_refl _) ?_ ?_⟩
    · rw [HeldAttributes.view?, Memory.read?_add_size]
      rfl
    · simp only [Memory.size_add]
      exact Nat.lt_succ_of_le (Nat.le_succ _)
    · simp
  rw [HeldAttributes.make, bind_apply_of_ok (show (get : Action Memory) m = .ok m m from rfl)]
  cases source with
  | fields method https port accept server =>
    obtain ⟨m', hused, hsame⟩ := useUp_apply (m := m) server
    have hextends : m.Extends m' := (Memory.Extends.refl m).of_differsAt (Nat.le_refl _)
      (Memory.differsAt_of_dictionaries hsame)
    have hsize : m'.size = m.size := congrArg List.length hsame
    simp only []
    rw [bind_apply_of_ok hused]
    refine (follows_ofResult hextends _).bind_map ?_
    rintro entries _ m'' hextends ⟨rfl, rfl⟩
    rw [bind_apply_of_ok (show new entries m'' = .ok _ _ from rfl),
      init_apply Memory.read?_add_size]
    refine .value ((hextends.add _).add _) ⟨?_, isNew_attributes hextends.size_le ?_ ?_⟩
    · rw [HeldAttributes.view?, Memory.read?_add_size]
      rfl
    · simp
    · simp
  | environment v => exact hpassed (.environment v)
  | scope s => exact hpassed (.scope s)

end RouteMatch
