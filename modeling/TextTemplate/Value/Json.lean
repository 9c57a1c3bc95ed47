import TextTemplate.Value

/-! The compact interchange text of a value. There are no blanks, members come in key order, and in a
string only the quote, the backslash and the control characters are escaped. The text
of a value in the output of a template is this one for arrays and objects; a string
stands for itself, null for nothing, and a double loses its trailing zeros. -/
namespace TextTemplate

/-- A hexadecimal digit in lower case. -/
def hexDigit (n : Nat) : Char := Nat.digitChar n

namespace Value

/-- A character of a string as it is written between quotes. -/
def quotedChar (c : Char) : List Char :=
  match c with
  | '"' => ['\\', '"']
  | '\\' => ['\\', '\\']
  | '\x08' => ['\\', 'b']
  | '\x0c' => ['\\', 'f']
  | '\n' => ['\\', 'n']
  | '\r' => ['\\', 'r']
  | '\t' => ['\\', 't']
  | c =>
    if c.toNat < 0x20 then ['\\', 'u', '0', '0', hexDigit (c.toNat / 16), hexDigit (c.toNat % 16)]
    else [c]

/-- A string between quotes. -/
def quoted (s : String) : String :=
  String.ofList ('"' :: s.toList.flatMap quotedChar ++ ['"'])

mutual

/-- The interchange text of a value. -/
def json : Value → String
  | .null => "null"
  | .bool b => if b then "true" else "false"
  | .number n => n.text
  | .string s => quoted s
  | .array items => "[" ++ jsonItems items ++ "]"
  | .object members => "\x7b" ++ jsonMembers members ++ "\x7d"

/-- Items with commas between them. -/
def jsonItems : List Value → String
  | [] => ""
  | [item] => json item
  | item :: rest => json item ++ "," ++ jsonItems rest

/-- Members with commas between them. -/
def jsonMembers {low : Option String} : Entries Value low → String
  | .nil => ""
  | .cons key value _ .nil => quoted key ++ ":" ++ json value
  | .cons key value _ rest => quoted key ++ ":" ++ json value ++ "," ++ jsonMembers rest

end

/-- Text without zeros at its end, and then without a point at its end, provided that it has a point
anywhere. -/
def dropFraction (cs : List Char) : List Char :=
  if cs.contains '.' then
    let kept := cs.reverse.dropWhile (· = '0')
    match kept with
    | '.' :: rest => rest.reverse
    | kept => kept.reverse
  else cs

/-- The text of a value in the output of a template. -/
def text : Value → String
  | .null => ""
  | .bool b => if b then "true" else "false"
  | .number (.integer i) => toString i
  | .number (.double d) => String.ofList (dropFraction d.text.toList)
  | .string s => s
  | value => json value

end Value

end TextTemplate
