import TextTemplate.Source.Location
import TextTemplate.Text.Whitespace

/-! The tokens of a template: literal text, outputs `{{ … }}`, tags `{% … %}` and comments
`{# … #}`. The contents of all but text are folded into one line. A tag is told by its first
word, the keyword; what follows is read as an expression or, for a named block, word by
word with quoted stretches kept together. -/
namespace TextTemplate

/-- The kinds of token. -/
inductive TokenKind where
  | text
  | output
  | tag
  | comment
  deriving DecidableEq, Repr

/-- The name of a kind. -/
def TokenKind.name : TokenKind → String
  | .text => "text"
  | .output => "variable"
  | .tag => "block"
  | .comment => "comment"

/-- A token with its place in the source. -/
structure Token where
  kind : TokenKind
  contents : String
  span : Span
  deriving DecidableEq, Repr

/-- A character that opens and closes a quoted stretch. -/
def isQuote (c : Char) : Bool := c = '\x27' || c = '"'

/-- Splits at whitespace outside quotes. `word` is the component being read, reversed, and `quote` the
quote that it is inside of. -/
def componentsFrom (quote : Option Char) (word : List Char) : List Char → List (List Char)
  | [] => if word.isEmpty then [] else [word.reverse]
  | c :: rest =>
    match quote with
    | some q => componentsFrom (if c = q then none else some q) (c :: word) rest
    | none =>
      if isQuote c then componentsFrom (some c) (c :: word) rest
      else if Text.isSpace c then
        if word.isEmpty then componentsFrom none [] rest
        else word.reverse :: componentsFrom none [] rest
      else componentsFrom none (c :: word) rest

namespace Token

/-- The words of the contents; a quoted stretch stays together and keeps its quotes. -/
def components (t : Token) : List String :=
  (componentsFrom none [] t.contents.toList).map String.ofList

/-- The first word of the contents, empty if there is none. -/
def keyword (t : Token) : String :=
  String.ofList ((Text.trimStart t.contents.toList).takeWhile fun c => !Text.isSpace c)

/-- The contents after the keyword and the whitespace that follows it. -/
def arguments (t : Token) : String :=
  String.ofList <| Text.trimStart <|
    (Text.trimStart t.contents.toList).dropWhile fun c => !Text.isSpace c

/-- The contents are at most a single word. -/
def isBare (t : Token) : Bool := (Text.words t.contents.toList).length ≤ 1

end Token

end TextTemplate
