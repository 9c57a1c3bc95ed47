import TextTemplate.Environment
import TextTemplate.Scopes
import TextTemplate.Value.Compare

/-! The values of pipelines and the outcomes of conditions. An undefined lookup is null, or an error in
strict mode, unless it is tolerated: at the head of a pipeline that goes on with the `default`
filter, and at the heads in conditions. The arguments of filters are never tolerant. -/
namespace TextTemplate.Environment

/-- The value of an expression. -/
def evalExpr (env : Environment) (scopes : Scopes) (span : Span) (tolerant : Bool) :
    Expr → Except Failure Value
  | .literal value => .ok value
  | .lookup path =>
    match scopes.resolve path with
    | some value => .ok value
    | none =>
      if env.options.strictUndefined && !tolerant then
        .error (.reported (.spanned (.undefinedVariable path) span))
      else .ok .null

/-- The values of arguments, from left to right. -/
def evalArgs (env : Environment) (scopes : Scopes) (span : Span) :
    List Expr → Except Failure (List Value)
  | [] => .ok []
  | arg :: rest => do
    let value ← env.evalExpr scopes span false arg
    let values ← evalArgs env scopes span rest
    .ok (value :: values)

/-- A value sent through one filter. -/
def applyFilter (env : Environment) (scopes : Scopes) (span : Span) (call : FilterCall)
    (value : Value) : Except Failure Value :=
  match Table.get? env.filters call.name with
  | none => .error (.reported (.spanned (.unknownFilter call.name) span))
  | some entry => do
    let args ← env.evalArgs scopes span call.args
    match entry.apply value args with
    | .ok value => .ok value
    | .error failure =>
      .error (failure.map fun e => .caused (.filterFailed call.name e.message) span e)

/-- A value sent through filters from left to right. -/
def applyFilters (env : Environment) (scopes : Scopes) (span : Span) :
    List FilterCall → Value → Except Failure Value
  | [], value => .ok value
  | call :: rest, value => do
    let value ← env.applyFilter scopes span call value
    applyFilters env scopes span rest value

/-- The value of a pipeline whose head may be undefined or not. -/
def evalPipelineWith (env : Environment) (scopes : Scopes) (tolerant : Bool) (p : Pipeline) :
    Except Failure Value := do
  let head ← env.evalExpr scopes p.span tolerant p.head
  env.applyFilters scopes p.span p.filters head

/-- The pipeline goes on with the filter that stands in for what is undefined. -/
def hasDefault (p : Pipeline) : Bool :=
  p.filters.head?.any fun call => call.name = FilterCatalog.defaultName

/-- The value of a pipeline. -/
def evalPipeline (env : Environment) (scopes : Scopes) (p : Pipeline) : Except Failure Value :=
  env.evalPipelineWith scopes (hasDefault p) p

/-- The outcome of a condition. The second of two joined conditions counts only if the first leaves the
outcome open. -/
def evalCondition (env : Environment) (scopes : Scopes) : Condition → Except Failure Bool
  | .value p => do
    let value ← env.evalPipelineWith scopes true p
    .ok value.isTruthy
  | .compare op lhs rhs => do
    let left ← env.evalPipelineWith scopes true lhs
    let right ← env.evalPipelineWith scopes true rhs
    match left.compare op right with
    | .ok holds => .ok holds
    | .error fault => .error (.reported (.spanned fault lhs.span))
  | .not condition => do
    let holds ← evalCondition env scopes condition
    .ok !holds
  | .and lhs rhs => do
    let holds ← evalCondition env scopes lhs
    if holds then evalCondition env scopes rhs else .ok false
  | .or lhs rhs => do
    let holds ← evalCondition env scopes lhs
    if holds then .ok true else evalCondition env scopes rhs

/-- The name of a template that a pipeline gives, which is text that is not empty. -/
def evalTemplateName (env : Environment) (scopes : Scopes) (p : Pipeline) :
    Except Failure String := do
  let value ← env.evalPipeline scopes p
  let refused : Except Failure String :=
    .error (.reported (.spanned (.notATemplateName value.shape) p.span))
  match value with
  | .string name => if name = "" then refused else .ok name
  | _ => refused

/-- Loads a template that a tag asks for. That it is not found is a fault of the tag. -/
def loadFor (env : Environment) (purpose : Purpose) (name : String) (span : Span) :
    Except Failure Template :=
  match env.load name with
  | .ok t => .ok t
  | .error (.notFound missing cause) =>
    .error (.reported (.caused (.unresolvedTemplate purpose name) span (.notFound missing cause)))
  | .error e => .error (.reported e)

end TextTemplate.Environment
