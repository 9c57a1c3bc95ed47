import TextTemplate.Filter.Catalog

/-! Filling a collection of filters. Filters are registered one by one, or as a catalogue, or taken over
from another collection that was filled in the same ways. A catalogue holds each filter
beside its mark; a registry keeps the names that are marked as safe apart from the filters,
so that both have to be set anew when a filter is replaced. -/
namespace TextTemplate

/-- The filters by name, and the names of those whose output is escaped already. -/
structure FilterRegistry where
  filters : Table Filter := .empty
  safe : List String := []

namespace FilterRegistry

/-- A name is that of a filter whose output is escaped already. -/
def isSafe (registry : FilterRegistry) (name : String) : Bool := registry.safe.contains name

/-- The filter under a name, with its mark. -/
def find? (registry : FilterRegistry) (name : String) : Option FilterEntry :=
  (Table.get? registry.filters name).map fun filter => ⟨filter, registry.isSafe name⟩

/-- Registers a filter that makes no promise about its output. -/
def register (registry : FilterRegistry) (name : String) (filter : Filter) : FilterRegistry :=
  ⟨Table.insert registry.filters name filter, registry.safe.filter (· ≠ name)⟩

/-- Registers a filter whose output is escaped already. -/
def registerSafe (registry : FilterRegistry) (name : String) (filter : Filter) : FilterRegistry :=
  ⟨Table.insert registry.filters name filter, registry.safe.insert name⟩

/-- Registers a filter with a mark. -/
def put (registry : FilterRegistry) (name : String) (entry : FilterEntry) : FilterRegistry :=
  if entry.safe then registry.registerSafe name entry.apply
  else registry.register name entry.apply

/-- Adds all filters of another registry, with their marks. -/
def extend (registry other : FilterRegistry) : FilterRegistry :=
  (Table.toList other.filters).foldl
    (fun registry entry => registry.put entry.1 ⟨entry.2, other.isSafe entry.1⟩) registry

/-- Adds the two filters that rendering itself gives a meaning. -/
def addBuiltin (registry : FilterRegistry) : FilterRegistry :=
  (registry.register FilterCatalog.defaultName Filter.default).registerSafe "safe" Filter.safe

/-- Adds the filters of the standard catalogue. -/
def addStandard (registry : FilterRegistry) : FilterRegistry :=
  registry.addBuiltin
    |>.register "capitalize" Filter.capitalize
    |>.register "uppercase" Filter.upper |>.register "upper" Filter.upper
    |>.register "lowercase" Filter.lower |>.register "lower" Filter.lower
    |>.register "join" Filter.join |>.register "split" Filter.split
    |>.register "indent" Filter.indent |>.register "length" Filter.length
    |>.register "first" Filter.first |>.register "last" Filter.last
    |>.register "trim" Filter.trim |>.registerSafe "escape" Filter.escape

end FilterRegistry

/-- A step of filling a collection. -/
inductive Registration where
  | register (name : String) (filter : Filter)
  | registerSafe (name : String) (filter : Filter)
  | builtin
  | standard
  | extend (steps : List Registration)

/-- What can be done to a collection of filters of some kind. -/
structure FilterBuilder (R : Type) where
  empty : R
  register : R → String → Filter → R
  registerSafe : R → String → Filter → R
  addBuiltin : R → R
  addStandard : R → R
  extend : R → R → R

/-- The filling of a catalogue. -/
def FilterCatalog.builder : FilterBuilder FilterCatalog :=
  ⟨Table.empty, register, registerSafe, addBuiltin, addStandard, extend⟩

/-- The filling of a registry. -/
def FilterRegistry.builder : FilterBuilder FilterRegistry :=
  ⟨{}, register, registerSafe, addBuiltin, addStandard, extend⟩

namespace FilterBuilder

variable {R : Type} (b : FilterBuilder R)

mutual

/-- Takes a step. The collection that another one is extended by is filled from nothing. -/
def perform : Registration → R → R
  | .register name filter, r => b.register r name filter
  | .registerSafe name filter, r => b.registerSafe r name filter
  | .builtin, r => b.addBuiltin r
  | .standard, r => b.addStandard r
  | .extend steps, r => b.extend r (performAll steps b.empty)

/-- Takes steps one after the other. -/
def performAll : List Registration → R → R
  | [], r => r
  | step :: later, r => performAll later (perform step r)

end

/-- The collection that is filled by steps. -/
def build (steps : List Registration) : R := b.performAll steps b.empty

end FilterBuilder

end TextTemplate
