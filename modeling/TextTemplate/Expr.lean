import TextTemplate.Source.Location
import TextTemplate.Value

/-! The expressions of templates. A pipeline is a literal or a dotted path, sent through filters from
left to right; a condition combines pipelines by comparison and the words `not`, `and`
and `or`. -/
namespace TextTemplate

/-- A step of a dotted path after the first name. -/
inductive PathSegment where
  | key (name : String)
  | index (position : Int)
  deriving DecidableEq

/-- A step as it is written. -/
def PathSegment.text : PathSegment → String
  | .key name => name
  | .index position => toString position

/-- A dotted path: a name, looked up in the scopes, and the steps taken from its value. -/
structure Path where
  name : String
  steps : List PathSegment := []
  deriving DecidableEq

/-- A path as it is written. -/
def Path.text (p : Path) : String :=
  p.steps.foldl (fun written step => written ++ "." ++ step.text) p.name

/-- A literal value or a lookup. -/
inductive Expr where
  | literal (value : Value)
  | lookup (path : Path)

/-- A filter by name, with the arguments after it. -/
structure FilterCall where
  name : String
  args : List Expr := []

/-- An expression and the filters that its value goes through. The span is that of the tag it stands
in. -/
structure Pipeline where
  span : Span
  head : Expr
  filters : List FilterCall := []

/-- The pipeline starts from the reserved name that stands for the inherited content of a block. -/
def Pipeline.isSuper (p : Pipeline) : Bool :=
  match p.head with
  | .lookup path => path = ⟨"super", []⟩ || path = ⟨"block", [.key "super"]⟩
  | .literal _ => false

/-- The operators that compare two values. -/
inductive Operator where
  | equal
  | notEqual
  | less
  | lessOrEqual
  | greater
  | greaterOrEqual
  | within
  deriving DecidableEq

/-- An operator as it is written. -/
def Operator.text : Operator → String
  | .equal => "=="
  | .notEqual => "!="
  | .less => "<"
  | .lessOrEqual => "<="
  | .greater => ">"
  | .greaterOrEqual => ">="
  | .within => "in"

/-- What decides a branch or selects the items of a loop. -/
inductive Condition where
  | value (pipeline : Pipeline)
  | compare (operator : Operator) (lhs rhs : Pipeline)
  | not (condition : Condition)
  | and (lhs rhs : Condition)
  | or (lhs rhs : Condition)

end TextTemplate
