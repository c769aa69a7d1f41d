import RouteMatch.Entries
import RouteMatch.Value.Access

/-!
# The dictionaries of a session

Dictionaries are held by reference: whoever holds the address of one sees what others write to it.
So the dictionaries of a session stand in a memory, and what is done to them is an action on that
memory.  An action that fails leaves the memory as it is at that moment.  A list or a dictionary
that stands in a dictionary is a value there; it has no place of its own.

Listing the items of some objects, such as an iterator, uses them up.  The memory knows which of
them have been used up.

## Main definitions

* `Value.left`, `Value.isLasting` — what is left of a value, and whether all of it always is.
* `Memory` — the dictionaries by their addresses.
* `Memory.Extends` — a memory in which the dictionaries of another one stand as they did.
* `Memory.DiffersAt` — memories that differ in one dictionary.
* `Action` — what is done to a memory.
* `Action.new`, `Action.read`, `Action.write`, `Action.copy` — actions on one dictionary.

## Main results

* `Memory.read?_write_of_ne` — a write is seen at its own address only.
* `Memory.Extends.read?_eq_some` — what is found in a memory that extends another one.
-/

namespace RouteMatch

/-! ### Objects that are used up -/

/-- A value after the objects with some numbers were used up: such an object has no items any
more. -/
def Value.left (usedUp : List Nat) : Value → Value
  | .other about items =>
    .other about (if about.isUsedUp && usedUp.contains about.number then some [] else items)
  | v => v

/-- Whether the items of a value can be listed again and again. -/
def Value.isLasting : Value → Bool
  | .other about _ => !about.isUsedUp
  | _ => true

/-- A dictionary after objects were used up. -/
def Entries.left {κ : Type} (usedUp : List Nat) (entries : Entries κ Value) : Entries κ Value :=
  entries.map fun entry => (entry.1, entry.2.left usedUp)

theorem Value.left_of_isLasting {v : Value} (h : v.isLasting = true) (usedUp : List Nat) :
    v.left usedUp = v := by
  cases v with
  | other about items =>
    have hlasting : about.isUsedUp = false := Bool.not_eq_true' _ ▸ h
    simp [Value.left, hlasting]
  | _ => rfl

@[simp] theorem Value.left_nil (v : Value) : v.left [] = v := by
  cases v <;> simp [Value.left]

theorem Entries.left_of_isLasting {κ : Type} {entries : Entries κ Value}
    (h : ∀ entry ∈ entries, entry.2.isLasting = true) (usedUp : List Nat) :
    entries.left usedUp = entries := by
  have hsame : ∀ entry ∈ entries, (entry.1, entry.2.left usedUp) = entry := by
    intro entry hentry
    rw [Value.left_of_isLasting (h entry hentry)]
  rw [left, List.map_congr_left hsame, List.map_id']

@[simp] theorem Entries.left_nil {κ : Type} (entries : Entries κ Value) :
    entries.left [] = entries := by
  simp [Entries.left]

/-! ### The memory -/

/-- Where a dictionary stands. -/
abbrev Address := Nat

/-- The dictionaries of a session. -/
structure Memory where
  /-- The dictionaries in the order in which they were made.  None is ever given up. -/
  dictionaries : List (Entries Value Value) := []
  /-- The numbers of the objects that have been used up. -/
  usedUp : List Nat := []
  /-- How many patterns of routes have been compiled. -/
  compilations : Nat := 0

namespace Memory

/-- How many dictionaries there are, which is the address of the next one. -/
def size (m : Memory) : Nat := m.dictionaries.length

/-- The dictionary at an address. -/
def read? (m : Memory) (address : Address) : Option (Entries Value Value) :=
  m.dictionaries[address]?

/-- A memory with one more dictionary. -/
def add (m : Memory) (entries : Entries Value Value) : Memory :=
  { m with dictionaries := m.dictionaries ++ [entries] }

/-- A memory with another dictionary at an address. -/
def write (m : Memory) (address : Address) (entries : Entries Value Value) : Memory :=
  { m with dictionaries := m.dictionaries.set address entries }

variable {m m' m'' : Memory} {address other : Address} {entries old : Entries Value Value}

@[simp] theorem size_add : (m.add entries).size = m.size + 1 := List.length_append

@[simp] theorem size_write : (m.write address entries).size = m.size := List.length_set

theorem lt_size_of_read? (h : m.read? address = some entries) : address < m.size :=
  (List.getElem?_eq_some_iff.mp h).1

theorem exists_read? (h : address < m.size) : ∃ entries, m.read? address = some entries :=
  ⟨_, List.getElem?_eq_getElem h⟩

theorem read?_add_of_lt (h : address < m.size) :
    (m.add entries).read? address = m.read? address :=
  List.getElem?_append_left h

@[simp] theorem read?_add_size : (m.add entries).read? m.size = some entries :=
  List.getElem?_concat_length

/-- What is written is found. -/
theorem read?_write_self (h : m.read? address = some old) :
    (m.write address entries).read? address = some entries :=
  List.getElem?_set_self (lt_size_of_read? h)

/-- A write is seen at its own address only. -/
theorem read?_write_of_ne (h : address ≠ other) :
    (m.write address entries).read? other = m.read? other :=
  List.getElem?_set_ne h

/-- A memory in which the dictionaries of another one stand as they did. -/
structure Extends (m m' : Memory) : Prop where
  size_le : m.size ≤ m'.size
  read?_eq : ∀ {address}, address < m.size → m'.read? address = m.read? address

namespace Extends

theorem refl (m : Memory) : m.Extends m where
  size_le := Nat.le_refl _
  read?_eq := fun _ => rfl

theorem trans (h : m.Extends m') (h' : m'.Extends m'') : m.Extends m'' where
  size_le := Nat.le_trans h.size_le h'.size_le
  read?_eq := by
    intro address hlt
    rw [h'.read?_eq (Nat.lt_of_lt_of_le hlt h.size_le), h.read?_eq hlt]

/-- What was found is still found. -/
theorem read?_eq_some (h : m.Extends m') (hread : m.read? address = some entries) :
    m'.read? address = some entries := by
  rw [h.read?_eq (lt_size_of_read? hread), hread]

theorem add (h : m.Extends m') (entries : Entries Value Value) : m.Extends (m'.add entries) where
  size_le := by
    rw [size_add]
    exact Nat.le_succ_of_le h.size_le
  read?_eq := by
    intro address hlt
    rw [read?_add_of_lt (Nat.lt_of_lt_of_le hlt h.size_le), h.read?_eq hlt]

end Extends

/-- Two memories that differ at an address only. -/
structure DiffersAt (address : Address) (m m' : Memory) : Prop where
  size_eq : m'.size = m.size
  read?_eq : ∀ {other}, address ≠ other → m'.read? other = m.read? other

namespace DiffersAt

theorem refl (address : Address) (m : Memory) : m.DiffersAt address m where
  size_eq := rfl
  read?_eq := fun _ => rfl

theorem trans (h : m.DiffersAt address m') (h' : m'.DiffersAt address m'') :
    m.DiffersAt address m'' where
  size_eq := h'.size_eq.trans h.size_eq
  read?_eq := fun hne => (h'.read?_eq hne).trans (h.read?_eq hne)

end DiffersAt

theorem differsAt_write (m : Memory) (address : Address) (entries : Entries Value Value) :
    m.DiffersAt address (m.write address entries) where
  size_eq := size_write
  read?_eq := read?_write_of_ne

/-- A change of a dictionary that is new leaves the others alone. -/
theorem Extends.of_differsAt (h : m.Extends m') (hnew : m.size ≤ address)
    (hdiffers : m'.DiffersAt address m'') : m.Extends m'' where
  size_le := by
    rw [hdiffers.size_eq]
    exact h.size_le
  read?_eq := by
    intro other hlt
    rw [hdiffers.read?_eq (Nat.ne_of_gt (Nat.lt_of_lt_of_le hlt hnew)), h.read?_eq hlt]

/-- Writing to a dictionary that is new leaves the others alone. -/
theorem Extends.write (h : m.Extends m') (hnew : m.size ≤ address)
    (entries : Entries Value Value) : m.Extends (m'.write address entries) :=
  h.of_differsAt hnew (differsAt_write m' address entries)

/-- What else the memory knows does not matter. -/
theorem differsAt_of_dictionaries (hsame : m'.dictionaries = m.dictionaries) :
    m.DiffersAt address m' where
  size_eq := congrArg List.length hsame
  read?_eq := fun _ => congrArg (·[_]?) hsame

end Memory

/-! ### Actions -/

/-- What is done to a memory: it gives a value or fails, and leaves a memory either way. -/
abbrev Action (α : Type) := EStateM Failure Memory α

namespace Action

/-- A result as an action that leaves the memory alone. -/
def ofResult {α : Type} (result : Except Failure α) : Action α := fun m =>
  match result with
  | .ok v => .ok v m
  | .error failure => .error failure m

/-- Makes a dictionary. -/
def new (entries : Entries Value Value) : Action Address := fun m =>
  .ok m.size (m.add entries)

/-- The dictionary at an address. -/
def read (address : Address) : Action (Entries Value Value) := fun m =>
  match m.read? address with
  | some entries => .ok entries m
  | none => .error (.missingKey (.int address)) m

/-- Puts other entries into a dictionary. -/
def write (address : Address) (entries : Entries Value Value) : Action Unit := fun m =>
  .ok () (m.write address entries)

/-- Makes a dictionary with the entries of another one. -/
def copy (address : Address) : Action Address := do
  new (← read address)

/-- Puts a value under a key of a dictionary. -/
def insert (address : Address) (key value : Value) : Action Unit := do
  write address ((← read address).insert key value)

/-- Uses up a value whose items are listed, if listing does so. -/
def useUp (v : Value) : Action Unit := fun m =>
  match v with
  | .other about _ =>
    .ok () (if about.isUsedUp then { m with usedUp := about.number :: m.usedUp } else m)
  | _ => .ok () m

/-- The number of the next pattern. -/
def nextPattern : Action Nat := fun m =>
  .ok m.compilations { m with compilations := m.compilations + 1 }

end Action

end RouteMatch
