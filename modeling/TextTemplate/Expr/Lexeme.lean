import TextTemplate.Expr

/-! The words and signs that an expression is written with. -/
namespace TextTemplate

/-- A lexeme of an expression. A number keeps its spelling, since only its place decides whether it
is a literal or the steps of a path. -/
inductive Lexeme where
  | identifier (word : String)
  | string (text : String)
  | number (text : String)
  | dot
  | pipe
  | comma
  | leftParen
  | rightParen
  | operator (operator : Operator)
  deriving DecidableEq

/-- A lexeme as an error report names it. -/
def Lexeme.describe : Lexeme → String
  | .identifier word => "identifier '" ++ word ++ "'"
  | .string s => "string \"" ++ s ++ "\""
  | .number s => "number " ++ s
  | .dot => "'.'"
  | .pipe => "'|'"
  | .comma => "','"
  | .leftParen => "'('"
  | .rightParen => "')'"
  | .operator op => "operator '" ++ op.text ++ "'"

/-- The words that join conditions, which are no names of their own. -/
def reservedWords : List String := ["and", "or", "not", "in"]

/-- A word that may name a variable as far as the joining words go. -/
def isReserved (word : String) : Bool := reservedWords.contains word

end TextTemplate
