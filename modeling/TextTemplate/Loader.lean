import TextTemplate.Error
import TextTemplate.Table

/-! Where the sources of templates come from: any function from names to sources, and the one that
looks them up in a finite map. -/
namespace TextTemplate

/-- The source of a template by its name. -/
abbrev Loader := String → Except Error String

/-- Sources held in a map. -/
def Loader.ofTable (sources : Table String) : Loader := fun name =>
  match Table.get? sources name with
  | some source => .ok source
  | none => .error (.notFound name none)

end TextTemplate
