import TextTemplate.Filter

/-! Catalogues of filters by name. A filter may be marked as safe: it yields text that is escaped
already, and a pipeline that ends with it is not escaped again. The mark belongs to the
filter that is registered under the name, so registering another one sets it anew. -/
namespace TextTemplate

/-- A registered filter. -/
structure FilterEntry where
  apply : Filter
  safe : Bool := false

/-- The filters that pipelines may use, by name. -/
abbrev FilterCatalog := Table FilterEntry

namespace FilterCatalog

/-- Registers a filter that makes no promise about its output. -/
def register (catalog : FilterCatalog) (name : String) (filter : Filter) : FilterCatalog :=
  Table.insert catalog name ⟨filter, false⟩

/-- Registers a filter whose output is escaped already. -/
def registerSafe (catalog : FilterCatalog) (name : String) (filter : Filter) : FilterCatalog :=
  Table.insert catalog name ⟨filter, true⟩

/-- Adds all filters of another catalogue, with their marks. -/
def extend (catalog other : FilterCatalog) : FilterCatalog :=
  Table.insertAll catalog (Table.toList other)

/-- A name is that of a filter whose output is escaped already. -/
def isSafe (catalog : FilterCatalog) (name : String) : Bool :=
  ((Table.get? catalog name).map FilterEntry.safe).getD false

/-- The filter that stands in for what is undefined. -/
def defaultName : String := "default"

/-- Adds the two filters that rendering itself gives a meaning. -/
def addBuiltin (catalog : FilterCatalog) : FilterCatalog :=
  registerSafe (register catalog defaultName Filter.default) "safe" Filter.safe

/-- Adds the filters of the standard catalogue. -/
def addStandard (catalog : FilterCatalog) : FilterCatalog :=
  let plain : List (String × Filter) := [
    ("capitalize", Filter.capitalize), ("uppercase", Filter.upper), ("upper", Filter.upper),
    ("lowercase", Filter.lower), ("lower", Filter.lower), ("join", Filter.join),
    ("split", Filter.split), ("indent", Filter.indent), ("length", Filter.length),
    ("first", Filter.first), ("last", Filter.last), ("trim", Filter.trim)]
  let catalog := plain.foldl (fun catalog entry => register catalog entry.1 entry.2)
    (addBuiltin catalog)
  registerSafe catalog "escape" Filter.escape

/-- The catalogue that holds just the two built-in filters. -/
def builtin : FilterCatalog := addBuiltin Table.empty

/-- The standard catalogue. -/
def standard : FilterCatalog := addStandard Table.empty

end FilterCatalog

end TextTemplate
