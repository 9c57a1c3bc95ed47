import TextTemplate.Node
import TextTemplate.Table

/-! A template: its name, its source, and what reading the source gave. -/
namespace TextTemplate

/-- A named region that a template further down a chain may replace. -/
structure Block where
  span : Span
  name : String
  body : List Node

/-- The declaration of the template that a template extends. -/
structure Parent where
  span : Span
  name : Pipeline

/-- A template. Its blocks are all those that it declares at any depth, by name. -/
structure Template where
  name : String
  source : String
  root : List Node
  parent : Option Parent := none
  blocks : Table Block := .empty

namespace Template

/-- The block of a name, declared anywhere in the template. -/
def block? (t : Template) (name : String) : Option Block := Table.get? t.blocks name

/-- The names of the declared blocks in ascending order. -/
def blockNames (t : Template) : List String := Table.keys t.blocks

end Template

end TextTemplate
