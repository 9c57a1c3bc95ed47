import TextTemplate.Render.Evaluate
import TextTemplate.Render.State

/-! Rendering. A template is rendered through its chain of inheritance: the tree of the last ancestor is
walked, a block in it stands for its most derived definition, and `super` in a definition
for the next less derived one. An included template has a chain and a frame of its own.

Blocks and `super` may lead back into each other without end, so the nesting of nodes is
bounded by a number given from outside; running out of it is an outcome of its own. A
bound that suffices gives the same result as any greater one. -/
namespace TextTemplate

/-! Chains of inheritance -/

/-- The chain from a template up to its last ancestor. `below` are the templates already followed, the
most derived first. A name may not repeat, and the chain may not be longer than the depth
leaves room for. -/
def Environment.ancestors (env : Environment) (scopes : Scopes) (depth : Nat) (below : List Template)
    (current : Template) : Except Failure (List Template) :=
  match current.parent with
  | none => .ok [current]
  | some parent =>
    let members := below ++ [current]
    match env.evalTemplateName scopes parent.name with
    | .error failure => .error (failure.map (Error.inTemplate current.name))
    | .ok name =>
      if members.any fun member => member.name = name then
        let cycle := Fault.extendsCycle (members.map Template.name ++ [name])
        .error (.reported ((Error.spanned cycle parent.span).inTemplate current.name))
      else if env.options.maxDepth < depth + members.length then
        let long := Fault.chainTooLong env.options.maxDepth
        .error (.reported ((Error.spanned long parent.span).inTemplate current.name))
      else match env.loadFor .inheritance name parent.span with
        | .error failure => .error (failure.map (Error.inTemplate current.name))
        | .ok next => (ancestors env scopes depth members next).map (current :: ·)
termination_by env.options.maxDepth + 1 - (depth + below.length)
decreasing_by
  simp only [members, List.length_append, List.length_cons, List.length_nil] at *
  omega

/-- The chain of a template that is rendered at a depth. -/
def Environment.resolveChain (env : Environment) (scopes : Scopes) (depth : Nat)
    (template : Template) : Except Failure (List Template) :=
  env.ancestors scopes depth [] template

namespace Render

/-- What renders a node that is nested one level deeper. -/
abbrev Walk := Node → Render Unit

/-- Renders nodes in order. -/
def nodes (walk : Walk) (body : List Node) : Render Unit := each walk body

/-- The value of something that depends on the scopes alone. -/
def eval {α : Type} (f : Scopes → Except Failure α) : Render α :=
  bind get fun s => ofExcept (f s.scopes)

/-- Renders a template in the present scopes, with a chain and a frame of its own. -/
def template (env : Environment) (walk : Walk) (t : Template) : Render Unit := do
  let s ← get
  if env.options.maxDepth ≤ s.depth then
    fail (.reported ((Error.ofFault (.depthExceeded env.options.maxDepth)).inTemplate t.name))
  else deeper do
    let s ← get
    let chain ← ofExcept (env.resolveChain s.scopes s.depth t)
    let root := chain.getLastD t
    inFrame chain (mapError (Error.inTemplate root.name) (nodes walk root.root))

/-- Renders one definition of a block. -/
def definition (walk : Walk) (name : String) (level : Nat) (d : Definition) : Render Unit :=
  inBlock ⟨name, level⟩ (mapError (Error.inTemplate d.template) (nodes walk d.body))

/-- Renders a block: its most derived definition, or its own body where no frame has one. -/
def block (walk : Walk) (name : String) (body : List Node) : Render Unit := do
  let s ← get
  match s.frames with
  | [] => nodes walk body
  | frame :: _ =>
    match frame.definitions name with
    | [] => nodes walk body
    | d :: _ => definition walk name 0 d

/-- The text of the next less derived definition of the innermost active block, empty if there is none.
Outside of a block it is empty, or an error in strict mode. -/
def inherited (env : Environment) (walk : Walk) (span : Span) : Render String := do
  let s ← get
  match s.frames with
  | ⟨chain, active :: outer⟩ :: _ =>
    let frame : Frame := ⟨chain, active :: outer⟩
    match (frame.definitions active.name)[active.level + 1]? with
    | some d => capture (definition walk active.name (active.level + 1) d)
    | none => pure ""
  | _ =>
    if env.options.strictUndefined then fail (.reported (.spanned .superOutsideBlock span))
    else pure ""

/-- The text of a pipeline as it is written: escaped, unless escaping is off or the last filter yields
text that is escaped already. -/
def escaped (env : Environment) (p : Pipeline) (text : String) : String :=
  let safe := p.filters.getLast?.any fun call => FilterCatalog.isSafe env.filters call.name
  if env.options.autoescape && !safe then env.escape text else text

/-- Sends text through filters and writes what comes of it. -/
def writeFiltered (env : Environment) (span : Span) (calls : List FilterCall) (text : String) :
    Render Unit := do
  let value ← eval fun scopes => env.applyFilters scopes span calls (.string text)
  write value.text

/-- Renders an output. Inherited content is not escaped again. -/
def output (env : Environment) (walk : Walk) (p : Pipeline) : Render Unit := do
  if p.isSuper then
    let text ← inherited env walk p.span
    if p.filters.isEmpty then write text else writeFiltered env p.span p.filters text
  else
    let value ← eval fun scopes => env.evalPipeline scopes p
    write (escaped env p value.text)

/-- Renders the body of the first branch whose condition holds, or the last part if there is one. -/
def branches (env : Environment) (walk : Walk) (elseBody : Option (List Node)) :
    List (Condition × List Node) → Render Unit
  | [] => nodes walk (elseBody.getD [])
  | (condition, body) :: rest => do
    if ← eval fun scopes => env.evalCondition scopes condition then nodes walk body
    else branches env walk elseBody rest

/-- The items that a loop walks over. An object gives its keys, or pairs of key and value when there are
several variables; text gives its characters, and any other value nothing. -/
def items (count : Nat) : Value → List Value
  | .array items => items
  | .object members =>
    (Table.toList members).map fun (key, value) =>
      if 1 < count then .array [.string key, value] else .string key
  | .string s => s.toList.map Value.ofChar
  | _ => []

/-- The scope that binds the variables of a loop to an item: a single one to the whole item, several
to the items of an array of the same number. -/
def bindItem (names : List String) (item : Value) : Except Fault Members :=
  match names with
  | [name] => .ok (Table.ofList [(name, item)])
  | _ =>
    let refused : Except Fault Members := .error (.notUnpackable item.shape names.length)
    match item with
    | .array values =>
      if values.length = names.length then .ok (Table.ofList (names.zip values))
      else refused
    | _ => refused

/-- The scopes of the items that a loop selects. All items are bound and tested, in order, before any
is rendered. -/
def select (env : Environment) (scopes : Scopes) (header : LoopHeader) :
    List Value → Except Failure (List Members)
  | [] => .ok []
  | item :: rest =>
    match bindItem header.names item with
    | .error fault => .error (.reported (.spanned fault header.iterable.span))
    | .ok scope => do
      let keep ← match header.selection with
        | none => .ok true
        | some condition => env.evalCondition (scopes.push scope) condition
      let others ← select env scopes header rest
      .ok (if keep then scope :: others else others)

/-- What a loop tells about the item it has come to. -/
def progress (index length : Nat) : Value :=
  .object <| Table.ofList [
    ("index", .ofNat index),
    ("counter", .ofNat (index + 1)),
    ("counter0", .ofNat index),
    ("first", .bool (index = 0)),
    ("last", .bool (index + 1 = length)),
    ("length", .ofNat length)]

/-- Renders a body in each of the scopes, with the progress of the loop added to it. -/
def iterations (walk : Walk) (body : List Node) (length : Nat) : Nat → List Members → Render Unit
  | _, [] => pure ()
  | index, scope :: rest => do
    inScope (Table.insert scope "forloop" (progress index length)) (nodes walk body)
    iterations walk body length (index + 1) rest

/-- Renders a loop, or its other part when no item is selected. -/
def loop (env : Environment) (walk : Walk) (header : LoopHeader) (body : List Node)
    (emptyBody : Option (List Node)) : Render Unit := do
  let scopes ← eval fun scopes => do
    let iterable ← env.evalPipeline scopes header.iterable
    select env scopes header (items header.names.length iterable)
  if scopes.isEmpty then nodes walk (emptyBody.getD [])
  else iterations walk body scopes.length 0 scopes

/-- The variables that an inclusion hands on: the members of an object, or none. -/
def handedOn (env : Environment) (scopes : Scopes) : Option Pipeline → Except Failure Members
  | none => .ok .empty
  | some p => do
    match ← env.evalPipeline scopes p with
    | .object members => .ok members
    | .null => .ok .empty
    | value => .error (.reported (.spanned (.notAnObject value.shape) p.span))

/-- Renders an included template. -/
def inclusion (env : Environment) (walk : Walk) (span : Span) (header : IncludeHeader) :
    Render Unit := do
  let name ← eval fun scopes => env.evalTemplateName scopes header.template
  let members ← eval fun scopes => handedOn env scopes header.data
  let t ← ofExcept (env.loadFor .inclusion name span)
  match header.visibility with
  | .inherited => inScope members (template env walk t)
  | .isolated => isolated members (template env walk t)

/-- Renders a tag of the host. -/
def custom (env : Environment) (walk : Walk) (span : Span) (body : List Node) :
    TagAction → Render Unit
  | .write text => write text
  | .fail message => fail (.reported (.ofFault (.custom .render message)))
  | .filter calls => do
    let text ← capture (nodes walk body)
    writeFiltered env span calls text
  | .iterate count => do
    match ← eval fun scopes => env.evalPipeline scopes count with
    | .number n =>
      match n.toNat? with
      | some n => times (nodes walk body) n
      | none => fail (.reported (.ofFault .invalidCount))
    | _ => fail (.reported (.ofFault .invalidCount))

/-- Renders a node, given what renders the nodes inside it. -/
def step (env : Environment) (walk : Walk) : Walk
  | .text _ text => write text
  | .output _ _ p => output env walk p
  | .comment _ _ => pure ()
  | .conditional _ condition thenBody others elseBody =>
    branches env walk elseBody ((condition, thenBody) :: others.map fun b => (b.condition, b.body))
  | .loop _ header body emptyBody => loop env walk header body emptyBody
  | .inclusion span header => inclusion env walk span header
  | .inheritance _ _ => pure ()
  | .block _ name body => block walk name body
  | .custom span _ action body => mapError (Error.orSpan span) (custom env walk span body action)

/-- Renders a node whose nesting stays within a bound. -/
def node (env : Environment) : Nat → Walk
  | 0, _ => exhaust
  | bound + 1, n => step env (node env bound) n

end Render

namespace Environment

/-- The output of a template for data. The bound is on the nesting of nodes. -/
def render (env : Environment) (bound : Nat) (t : Template) (data : Value) : Except Halt String :=
  let action := Render.mapError (Error.inTemplate t.name)
    (Render.template env (Render.node env bound) t)
  match action { scopes := Scopes.ofData data } with
  | (.ok (), s) => .ok s.output
  | (.error halt, _) => .error halt

/-- The name of a template that has none of its own. -/
def inlineName : String := "<inline>"

/-- The output of a template given by its source. -/
def renderText (env : Environment) (bound : Nat) (source : String) (data : Value) :
    Except Halt String :=
  match env.template inlineName source with
  | .error e => .error (.failed (.reported e))
  | .ok t => env.render bound t data

/-- The output of a template that the loader finds by name. -/
def renderNamed (env : Environment) (bound : Nat) (name : String) (data : Value) :
    Except Halt String :=
  match env.load name with
  | .error e => .error (.failed (.reported e))
  | .ok t => env.render bound t data

end Environment

end TextTemplate
