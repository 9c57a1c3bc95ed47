import TextTemplate.Tag
import TextTemplate.Template
import TextTemplate.Token.Scan

/-! Reading a template from its source. The tokens are taken one by one, and the tags whose end has not
come yet are kept on a stack, the innermost first. Each knows the nodes before it, what has
been read of it, and the terminators that its present part may end with; a source that
ends while tags are open misses the end of the innermost. -/
namespace TextTemplate

/-- What has been read of an open tag. The nodes of its present part are those that the reading is
collecting; branches are held last first. -/
inductive OpenPart where
  | thenPart (condition : Condition)
  | elifPart (condition : Condition) (thenBody : List Node) (branches : List Branch)
      (token : Token) (branchCondition : Condition)
  | elsePart (condition : Condition) (thenBody : List Node) (branches : List Branch)
  | loopPart (header : LoopHeader)
  | emptyPart (header : LoopHeader) (body : List Node)
  | blockPart (name : String)
  | customPart (action : TagAction) (terminator : String)

/-- The keywords that end a part. -/
def OpenPart.terminators : OpenPart → List String
  | .thenPart _ | .elifPart _ _ _ _ _ => ["elif", "else", "endif"]
  | .elsePart _ _ _ => ["endif"]
  | .loopPart _ => ["empty", "else", "endfor"]
  | .emptyPart _ _ => ["endfor"]
  | .blockPart _ => ["endblock"]
  | .customPart _ terminator => [terminator]

/-- A tag whose end has not been read: its token, what has been read of it, and the nodes before it in
the list that it will stand in, last first. -/
structure OpenTag where
  token : Token
  part : OpenPart
  before : List Node

/-- The state of a reading: the nodes of the innermost list, last first, the open tags, whether any tag
has been met, and what the whole template declares. -/
structure Parsing where
  nodes : List Node := []
  opened : List OpenTag := []
  anyTag : Bool := false
  parent : Option Parent := none
  blocks : Table Block := .empty

/-- Keywords that belong inside some built-in tag. -/
def innerKeywords : List String := ["elif", "else", "endif", "empty", "endfor", "endblock"]

/-- A keyword that reads as the end or a further part of a tag. -/
def looksLikeTerminator (keyword : String) : Bool :=
  innerKeywords.contains keyword || "end".toList.isPrefixOf keyword.toList

/-- A name for a block: a letter or underscore, then letters, numerals, underscores and hyphens. -/
def isBlockName (name : String) : Bool :=
  match name.toList with
  | [] => false
  | first :: rest =>
    (Text.isAlphabetic first || first = '_') &&
      rest.all fun c => Text.isAlphanumeric c || c = '_' || c = '-'

/-- Reports a fault in the arguments of a tag as one of the tag. -/
def inArguments {α : Type} (token : Token) (read : Except Fault α) : Except Error α :=
  match read with
  | .ok a => .ok a
  | .error fault => .error (.spanned (.invalidArguments token.keyword fault) token.span)

/-- The condition that is the arguments of a tag. -/
def tagCondition (token : Token) : Except Error Condition :=
  if token.arguments = "" then .error (.spanned (.noCondition token.keyword) token.span)
  else inArguments token (Condition.ofText token.span token.arguments)

/-- Refuses arguments. -/
def requireBare (token : Token) : Except Error Unit :=
  if token.isBare then .ok ()
  else .error (.spanned (.argumentsNotAllowed token.keyword) token.span)

/-- The header of a loop: variables, `in`, a pipeline, and after `where` a condition. -/
def readLoopHeader (span : Span) (ls : List Lexeme) : Except Stuck (LoopHeader × List Lexeme) := do
  let (names, rest) ← readVariables ls
  let (_, rest) ← readWord "in" rest
  let (iterable, rest) ← readPipeline span rest
  if startsWith "where" rest then
    let (selection, rest) ← readCondition span rest.tail
    .ok (⟨names, iterable, some selection⟩, rest)
  else .ok (⟨names, iterable, none⟩, rest)

/-- The header of an inclusion: a pipeline for the name, after `with` one for the data, and `only` to
hide the scopes around it. -/
def readIncludeHeader (span : Span) (ls : List Lexeme) :
    Except Stuck (IncludeHeader × List Lexeme) := do
  let (template, rest) ← readPipeline span ls
  let (data, rest) ←
    if startsWith "with" rest then
      Reading.map some (readPipeline span rest.tail)
    else .ok (none, rest)
  if startsWith "only" rest then .ok (⟨template, data, .isolated⟩, rest.tail)
  else .ok (⟨template, data, .inherited⟩, rest)

/-- An inclusion; arguments without any lexeme name no template. -/
def readInclude (token : Token) : Except Error IncludeHeader :=
  match Lexeme.ofText token.arguments.toList with
  | .ok [] => .error (.spanned .noIncludeName token.span)
  | _ => inArguments token (readWhole (readIncludeHeader token.span) token.arguments)

namespace Parsing

/-- Adds a node to the innermost list. -/
def push (s : Parsing) (node : Node) : Parsing := { s with nodes := node :: s.nodes }

/-- Starts the body of a tag. -/
def enter (s : Parsing) (token : Token) (part : OpenPart) : Parsing :=
  { s with nodes := [], opened := ⟨token, part, s.nodes⟩ :: s.opened }

/-- Goes on to another part of the innermost tag. -/
def continueWith (s : Parsing) (opened : OpenTag) (outer : List OpenTag) (part : OpenPart) : Parsing :=
  { s with nodes := [], opened := { opened with part := part } :: outer }

/-- Ends the innermost tag, whose node takes its place in the list around it. -/
def leave (s : Parsing) (opened : OpenTag) (outer : List OpenTag) (node : Node) : Parsing :=
  { s with nodes := node :: opened.before, opened := outer }

/-- Refuses a block whose name is taken. -/
def requireFresh (s : Parsing) (token : Token) (name : String) : Except Error Unit :=
  if Table.contains s.blocks name then .error (.spanned (.duplicateBlock name) token.span)
  else .ok ()

/-- The terminator of a conditional: another branch, the last part, or the end. -/
def endConditionalPart (s : Parsing) (opened : OpenTag) (outer : List OpenTag) (token : Token)
    (condition : Condition) (thenBody : List Node) (branches : List Branch) :
    Except Error Parsing := do
  if token.keyword = "elif" then
    let branchCondition ← tagCondition token
    .ok (s.continueWith opened outer (.elifPart condition thenBody branches token branchCondition))
  else
    requireBare token
    if token.keyword = "else" then
      .ok (s.continueWith opened outer (.elsePart condition thenBody branches))
    else
      .ok (s.leave opened outer (.conditional (opened.token.span.through token.span) condition
        thenBody branches.reverse none))

/-- The end of a block, which declares it. A block of the same name inside it was declared first. -/
def endBlock (s : Parsing) (opened : OpenTag) (outer : List OpenTag) (token : Token)
    (name : String) : Except Error Parsing := do
  let named := match token.components with
    | [_] => true
    | [_, closing] => closing = name
    | _ => false
  if !named then .error (.spanned (.mismatchedEnd token.contents name) token.span)
  else
    s.requireFresh opened.token name
    let body := s.nodes.reverse
    let span := opened.token.span.through token.span
    let s := s.leave opened outer (.block span name body)
    .ok { s with blocks := Table.insert s.blocks name ⟨span, name, body⟩ }

/-- A terminator of the innermost open tag. -/
def terminate (s : Parsing) (opened : OpenTag) (outer : List OpenTag) (token : Token) :
    Except Error Parsing := do
  let body := s.nodes.reverse
  let span := opened.token.span.through token.span
  match opened.part with
  | .thenPart condition => s.endConditionalPart opened outer token condition body []
  | .elifPart condition thenBody branches branchToken branchCondition =>
    let branch := Branch.mk (branchToken.span.through token.span) branchCondition body
    s.endConditionalPart opened outer token condition thenBody (branch :: branches)
  | .elsePart condition thenBody branches =>
    requireBare token
    .ok (s.leave opened outer
      (.conditional span condition thenBody branches.reverse (some body)))
  | .loopPart header =>
    requireBare token
    if token.keyword = "endfor" then .ok (s.leave opened outer (.loop span header body none))
    else .ok (s.continueWith opened outer (.emptyPart header body))
  | .emptyPart header loopBody =>
    requireBare token
    .ok (s.leave opened outer (.loop span header loopBody (some body)))
  | .blockPart name => s.endBlock opened outer token name
  | .customPart action _ =>
    .ok (s.leave opened outer (.custom opened.token.span opened.token.keyword action body))

/-- A declaration of the parent, which must be the first tag and stand outside all others. -/
def declareParent (s : Parsing) (token : Token) (first : Bool) : Except Error Parsing := do
  if s.parent.isSome then .error (.spanned .repeatedExtends token.span)
  else if !first || !s.opened.isEmpty then .error (.spanned .lateExtends token.span)
  else
    let name ← inArguments token (Pipeline.ofText token.span token.arguments)
    .ok { s.push (.inheritance token.span name) with parent := some ⟨token.span, name⟩ }

/-- The start of a block. -/
def startBlock (s : Parsing) (token : Token) : Except Error Parsing := do
  match token.components with
  | [_, name] =>
    if !isBlockName name then .error (.spanned .noBlockName token.span)
    else
      s.requireFresh token name
      .ok (s.enter token (.blockPart name))
  | _ => .error (.spanned .noBlockName token.span)

/-- A keyword that is neither built in nor registered. -/
def unknown (s : Parsing) (token : Token) : Error :=
  let keyword := token.keyword
  if !looksLikeTerminator keyword then .spanned (.unknownTag keyword) token.span
  else match s.opened with
    | [] => .spanned (.strayTerminator keyword) token.span
    | opened :: _ =>
      .spanned (.misplacedTerminator keyword opened.token.keyword opened.token.span.start
        opened.part.terminators) token.span

/-- A tag of the host. -/
def startCustom (s : Parsing) (token : Token) (next : Option Token) (tag : Tag) :
    Except Error Parsing := do
  let start ← tag.start token next
  match start.terminator with
  | some terminator => .ok (s.enter token (.customPart start.action terminator))
  | none => .ok (s.push (.custom token.span token.keyword start.action []))

/-- A tag that ends no part of the innermost open one; `first` says that no tag came before it. -/
def startTag (tags : Table Tag) (s : Parsing) (token : Token) (next : Option Token) (first : Bool) :
    Except Error Parsing := do
  if token.keyword = "if" then
    let condition ← tagCondition token
    .ok (s.enter token (.thenPart condition))
  else if token.keyword = "for" then
    let header ← inArguments token (readWhole (readLoopHeader token.span) token.arguments)
    .ok (s.enter token (.loopPart header))
  else if token.keyword = "block" then s.startBlock token
  else if token.keyword = "extends" then s.declareParent token first
  else if token.keyword = "include" then
    let header ← readInclude token
    .ok (s.push (.inclusion token.span header))
  else match Table.get? tags token.keyword with
    | some tag => s.startCustom token next tag
    | none => .error (s.unknown token)

/-- An output, whose contents are a pipeline. -/
def readOutput (s : Parsing) (token : Token) : Except Error Parsing :=
  if token.contents = "" then .error (.spanned .emptyOutput token.span)
  else match Pipeline.ofText token.span token.contents with
    | .ok pipeline => .ok (s.push (.output token.span token.contents pipeline))
    | .error fault => .error (.spanned fault token.span)

/-- Whether a token ends the present part of the innermost open tag. -/
def innermostEndedBy (s : Parsing) (token : Token) : Option (OpenTag × List OpenTag) :=
  match s.opened with
  | [] => none
  | opened :: outer =>
    if opened.part.terminators.contains token.keyword then some (opened, outer) else none

/-- The reading of one token, given the token after it. -/
def step (tags : Table Tag) (s : Parsing) (token : Token) (next : Option Token) :
    Except Error Parsing :=
  match token.kind with
  | .text => .ok (s.push (.text token.span token.contents))
  | .comment => .ok (s.push (.comment token.span token.contents))
  | .output => { s with anyTag := true }.readOutput token
  | .tag =>
    if token.keyword = "" then .error (.spanned .emptyTag token.span)
    else match s.innermostEndedBy token with
      | some (opened, outer) => s.terminate opened outer token
      | none => startTag tags { s with anyTag := true } token next !s.anyTag

/-- The reading of tokens one after the other. -/
def run (tags : Table Tag) (s : Parsing) : List Token → Except Error Parsing
  | [] => .ok s
  | token :: rest => do
    let s ← s.step tags token rest.head?
    run tags s rest

/-- What a finished reading gives, provided that no tag is open. -/
def finish (s : Parsing) (name source : String) : Except Error Template :=
  match s.opened with
  | [] => .ok ⟨name, source, s.nodes.reverse, s.parent, s.blocks⟩
  | opened :: _ =>
    .error (.spanned (.missingEnd opened.token.keyword opened.part.terminators) opened.token.span)

end Parsing

/-- The template that tokens make up. -/
def Template.ofTokens (tags : Table Tag) (name source : String) (tokens : List Token) :
    Except Error Template := do
  let s ← Parsing.run tags {} tokens
  s.finish name source

/-- The template that a source writes. Errors name the template. -/
def Template.ofSource (tags : Table Tag) (name source : String) : Except Error Template :=
  match Template.ofTokens tags name source (tokenize source) with
  | .ok template => .ok template
  | .error e => .error (e.inTemplate name)

end TextTemplate
