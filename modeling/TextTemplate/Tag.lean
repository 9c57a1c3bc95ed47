import TextTemplate.Error
import TextTemplate.Expr.Parse
import TextTemplate.Node
import TextTemplate.Table

/-! Tags that a host adds to the built-in ones. Such a tag reads its arguments, may look at the token
after it, and may ask for a body up to a terminator of its own. -/
namespace TextTemplate

/-- The tags that every template knows. -/
def builtinTags : List String := ["if", "for", "block", "extends", "include"]

/-- A keyword that the built-in tags keep to themselves. -/
def isBuiltinTag (keyword : String) : Bool := builtinTags.contains keyword

/-- A tag of a host. -/
inductive Tag where
  /-- Sends its body through the filters that are its arguments. -/
  | filter
  /-- Renders its body as often as its argument says. -/
  | iterate
  /-- Writes the kind and contents of the token that follows it. -/
  | peek
  /-- Fails when rendered, with its arguments as the message. -/
  | fail
  /-- Fails when read. -/
  | reject
  deriving DecidableEq

/-- What a tag of a host becomes: its action, and the terminator of its body if it has one. -/
structure TagStart where
  action : TagAction
  terminator : Option String := none

namespace Tag

/-- What a tag makes of its token and the token that follows. -/
def start (tag : Tag) (token : Token) (next : Option Token) : Except Error TagStart :=
  match tag with
  | .filter =>
    match FilterCall.chainOfText token.arguments with
    | .ok calls => .ok ⟨.filter calls, some "endfilter"⟩
    | .error fault => .error (.spanned (.invalidFilterTag fault) token.span)
  | .iterate =>
    match Pipeline.ofText token.span token.arguments with
    | .ok count => .ok ⟨.iterate count, some "endrepeat"⟩
    | .error fault => .error (.spanned fault token.span)
  | .peek =>
    match next with
    | some t => .ok ⟨.write ("[" ++ t.kind.name ++ ":" ++ t.contents ++ "]"), none⟩
    | none => .ok ⟨.write "[end]", none⟩
  | .fail => .ok ⟨.fail token.arguments, none⟩
  | .reject => .error (.ofFault (.custom .parse ("bad tag " ++ token.arguments)))

/-- Adds a tag under a keyword, unless the keyword is that of a built-in tag. -/
def register (tags : Table Tag) (keyword : String) (tag : Tag) : Table Tag :=
  if isBuiltinTag keyword then tags else Table.insert tags keyword tag

/-- The tags of the standard catalogue. -/
def standard : Table Tag := register Table.empty "filter" .filter

end Tag

end TextTemplate
