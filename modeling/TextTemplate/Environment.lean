import TextTemplate.Filter.Catalog
import TextTemplate.Loader
import TextTemplate.Template.Parse
import TextTemplate.Text.Escape

/-! What templates are read and rendered with: a loader, catalogues of filters and tags, an escaper, and
the options of a render. -/
namespace TextTemplate

/-- The options of a render: whether an undefined lookup is an error, whether output is escaped, and how
deep templates may nest through inclusion and inheritance. -/
structure RenderOptions where
  strictUndefined : Bool := false
  autoescape : Bool := true
  maxDepth : Nat := 64
  deriving DecidableEq

namespace RenderOptions

/-- A flag that may be left out. -/
def flag? (byDefault : Bool) : Option Value → Option Bool
  | none => some byDefault
  | some (.bool b) => some b
  | some _ => none

/-- A depth that may be left out. -/
def depth? (byDefault : Nat) : Option Value → Option Nat
  | none => some byDefault
  | some (.number n) => n.toNat?
  | some _ => none

/-- Options from the values of the fields that are given. -/
def ofFields? (strict escape depth : Option Value) : Option RenderOptions := do
  let standard : RenderOptions := {}
  let strictUndefined ← flag? standard.strictUndefined strict
  let autoescape ← flag? standard.autoescape escape
  let maxDepth ← depth? standard.maxDepth depth
  some ⟨strictUndefined, autoescape, maxDepth⟩

/-- Options from an object with some of the fields, other members being ignored, or from an array of at
most three values in the order of the fields. -/
def ofValue? : Value → Option RenderOptions
  | .object members =>
    ofFields? (Table.get? members "strict_undefined") (Table.get? members "autoescape")
      (Table.get? members "max_depth")
  | .array items =>
    if items.length ≤ 3 then ofFields? items[0]? items[1]? items[2]? else none
  | _ => none

end RenderOptions

/-- The setting of templates. -/
structure Environment where
  loader : Option Loader := none
  filters : FilterCatalog := FilterCatalog.builtin
  tags : Table Tag := .empty
  escape : String → String := Text.escapeHtml
  options : RenderOptions := {}

namespace Environment

/-- The setting with the built-in filters and no tags beyond the built-in ones. -/
def builtin : Environment := {}

/-- The setting with the standard catalogues of filters and tags. -/
def standard : Environment := { filters := FilterCatalog.standard, tags := Tag.standard }

/-- Reads a template with the tags of the setting. -/
def template (env : Environment) (name source : String) : Except Error Template :=
  Template.ofSource env.tags name source

/-- Loads the source of a template by name and reads it. -/
def load (env : Environment) (name : String) : Except Error Template :=
  match env.loader with
  | none => .error (.notFound name none)
  | some loader =>
    match loader name with
    | .error e => .error e
    | .ok source => env.template name source

end Environment

end TextTemplate
