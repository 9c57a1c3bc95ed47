/-! Finite maps from text. Template data, scopes, registries and stored sources are such maps: what
answers show of them is looked up by key or listed in key order, never in the order of insertion.
That the entries ascend is part of their type: each one carries that it stands behind the key
before it. -/
namespace TextTemplate

/-- Entries in ascending key order, all of them behind a bound if there is one. -/
inductive Entries (α : Type) : Option String → Type where
  | nil {bound : Option String} : Entries α bound
  | cons {bound : Option String} (key : String) (value : α) (above : ∀ low ∈ bound, low < key)
      (rest : Entries α (some key)) : Entries α bound

/-- A finite map from text. -/
abbrev Table (α : Type) := Entries α none

namespace Table

variable {α : Type}

/-- The map without entries. -/
def empty : Table α := .nil

/-- The entries in ascending key order. -/
def toList {bound : Option String} : Entries α bound → List (String × α)
  | .nil => []
  | .cons key a _ rest => (key, a) :: toList rest

/-- Nothing is stored. -/
def isEmpty {bound : Option String} : Entries α bound → Bool
  | .nil => true
  | .cons .. => false

/-- The keys in ascending order. -/
def keys {bound : Option String} (entries : Entries α bound) : List String :=
  (toList entries).map Prod.fst

/-- The value stored under a key. -/
def get? {bound : Option String} : Entries α bound → String → Option α
  | .nil, _ => none
  | .cons k a _ rest, key => if k = key then some a else get? rest key

/-- A key has a value. -/
def contains {bound : Option String} (entries : Entries α bound) (key : String) : Bool :=
  (get? entries key).isSome

theorem lt_of_other {first second : String} (apart : ¬ first = second) (other : ¬ second < first) :
    first < second :=
  (Std.le_iff_lt_or_eq.mp (String.not_lt.mp other)).resolve_right apart

/-- Stores a value under a key that stands behind the bound, in place of what was there. -/
def insertAbove {bound : Option String} (key : String) (a : α) :
    Entries α bound → (∀ low ∈ bound, low < key) → Entries α bound
  | .nil, above => .cons key a above .nil
  | .cons k b first rest, above =>
    if same : k = key then .cons k a first rest
    else if before : key < k then
      .cons key a above (.cons k b (fun _ low => Option.mem_some.mp low ▸ before) rest)
    else
      .cons k b first
        (insertAbove key a rest fun _ low => Option.mem_some.mp low ▸ lt_of_other same before)

/-- Stores a value under a key in place of what was there. -/
def insert (table : Table α) (key : String) (a : α) : Table α :=
  insertAbove key a table nofun

/-- Stores entries one after the other. -/
def insertAll (table : Table α) (entries : List (String × α)) : Table α :=
  entries.foldl (fun table entry => insert table entry.1 entry.2) table

/-- The map holding the given entries; of two under one key the later stays. -/
def ofList (entries : List (String × α)) : Table α := insertAll empty entries

variable {bound : Option String}

/-- All keys are behind the bound. -/
theorem above_of_mem {entries : Entries α bound} {entry : String × α}
    (member : entry ∈ toList entries) : ∀ low ∈ bound, low < entry.1 := by
  induction entries with
  | nil => cases member
  | cons k b above rest ih =>
    intro low is
    rcases List.mem_cons.mp member with rfl | among
    · exact above low is
    · exact String.lt_trans (above low is) (ih among k rfl)

/-- The keys ascend, so that none is listed twice. -/
theorem toList_ascending (entries : Entries α bound) :
    (toList entries).Pairwise fun first second => first.1 < second.1 := by
  induction entries with
  | nil => exact List.Pairwise.nil
  | cons k b above rest ih =>
    exact List.pairwise_cons.mpr ⟨fun entry member => above_of_mem member k rfl, ih⟩

@[simp] theorem get?_empty (key : String) : get? (empty : Table α) key = none := rfl

theorem get?_insertAbove (entries : Entries α bound)
    (key other : String) (a : α) (above : ∀ low ∈ bound, low < key) :
    get? (insertAbove key a entries above) other =
      if key = other then some a else get? entries other := by
  induction entries with
  | nil => simp [insertAbove, get?]
  | cons k b first rest ih =>
    rw [insertAbove]
    split
    · subst k
      by_cases found : key = other <;> simp [get?, found]
    · split
      · by_cases found : key = other <;> simp [get?, found]
      · rw [get?, ih, get?]
        grind

theorem get?_insert (table : Table α) (key other : String) (a : α) :
    get? (insert table key a) other = if key = other then some a else get? table other :=
  get?_insertAbove table key other a _

end Table

end TextTemplate
