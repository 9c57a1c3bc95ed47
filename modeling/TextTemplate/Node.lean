import TextTemplate.Expr

/-! The tree of a template. Text and comments are leaves; conditionals, loops, blocks and the tags of
a host hold further nodes. -/
namespace TextTemplate

/-- What a loop binds, walks over and selects by. -/
structure LoopHeader where
  names : List String
  iterable : Pipeline
  selection : Option Condition := none

/-- What an included template sees: the scopes around it, or nothing but what it is given. -/
inductive Visibility where
  | inherited
  | isolated
  deriving DecidableEq

/-- Which template is included, with what data. -/
structure IncludeHeader where
  template : Pipeline
  data : Option Pipeline := none
  visibility : Visibility := .inherited

/-- What a tag of the host does. A body, if the tag has one, is kept beside it in the tree. -/
inductive TagAction where
  | write (text : String)
  | fail (message : String)
  | filter (calls : List FilterCall)
  | iterate (count : Pipeline)

mutual

/-- A node of a template. -/
inductive Node where
  | text (span : Span) (text : String)
  | output (span : Span) (source : String) (pipeline : Pipeline)
  | comment (span : Span) (text : String)
  | conditional (span : Span) (condition : Condition) (thenBody : List Node)
      (branches : List Branch) (elseBody : Option (List Node))
  | loop (span : Span) (header : LoopHeader) (body : List Node) (emptyBody : Option (List Node))
  | inclusion (span : Span) (header : IncludeHeader)
  | inheritance (span : Span) (parent : Pipeline)
  | block (span : Span) (name : String) (body : List Node)
  | custom (span : Span) (keyword : String) (action : TagAction) (body : List Node)

/-- A further branch of a conditional. -/
inductive Branch where
  | mk (span : Span) (condition : Condition) (body : List Node)

end

namespace Branch

/-- The stretch from the tag of a branch to the tag that ends it. -/
def span : Branch → Span
  | mk span _ _ => span

/-- The condition of a branch. -/
def condition : Branch → Condition
  | mk _ condition _ => condition

/-- The nodes of a branch. -/
def body : Branch → List Node
  | mk _ _ body => body

end Branch

/-- The stretch of the source that a node takes up. -/
def Node.span : Node → Span
  | .text span _ | .output span _ _ | .comment span _ | .conditional span _ _ _ _
  | .loop span _ _ _ | .inclusion span _ | .inheritance span _ | .block span _ _
  | .custom span _ _ _ => span

end TextTemplate
