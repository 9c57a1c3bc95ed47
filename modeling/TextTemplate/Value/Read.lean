import TextTemplate.Value.Json

/-! Reading a value from its interchange text, with blanks allowed between its parts. Of two members
of an object under one key the later stays. A number without a point and an exponent is
an integer if it is in range; every other number is the nearest double, and one beyond
the largest double is refused. -/
namespace TextTemplate.Value

/-- A blank of the interchange format. -/
def isJsonBlank (c : Char) : Bool := c = ' ' || c = '\n' || c = '\t' || c = '\r'

/-- The text after the blanks at its start. -/
def skipBlanks (cs : List Char) : List Char := cs.dropWhile isJsonBlank

/-- The value of a hexadecimal digit. -/
def hexValue? (c : Char) : Option Nat :=
  if c.isDigit then some (c.toNat - '0'.toNat)
  else if 'a' ≤ c ∧ c ≤ 'f' then some (c.toNat - 'a'.toNat + 10)
  else if 'A' ≤ c ∧ c ≤ 'F' then some (c.toNat - 'A'.toNat + 10)
  else none

/-- A code unit of four hexadecimal digits, and what follows it. -/
def readUnit? : List Char → Option (Nat × List Char)
  | a :: b :: c :: d :: rest => do
    let a ← hexValue? a
    let b ← hexValue? b
    let c ← hexValue? c
    let d ← hexValue? d
    some (((a * 16 + b) * 16 + c) * 16 + d, rest)
  | _ => none

/-- The character of an escaped code unit. A leading surrogate takes the trailing one after it; a
surrogate out of place is refused. -/
def readEscapedUnit? (cs : List Char) : Option (Char × List Char) := do
  let (first, rest) ← readUnit? cs
  if 0xD800 ≤ first ∧ first < 0xDC00 then
    match rest with
    | '\\' :: 'u' :: rest =>
      let (second, rest) ← readUnit? rest
      if 0xDC00 ≤ second ∧ second < 0xE000 then
        some (Char.ofNat (0x10000 + (first - 0xD800) * 0x400 + (second - 0xDC00)), rest)
      else none
    | _ => none
  else if 0xDC00 ≤ first ∧ first < 0xE000 then none
  else some (Char.ofNat first, rest)

/-- The character after a backslash that stands for another one. -/
def escapedChar? (c : Char) : Option Char :=
  if c = '"' || c = '\\' || c = '/' then some c
  else if c = 'b' then some '\x08'
  else if c = 'f' then some '\x0c'
  else if c = 'n' then some '\n'
  else if c = 'r' then some '\r'
  else if c = 't' then some '\t'
  else none

/-- The characters of a string whose opening quote has been read. -/
def readString? : Nat → List Char → Option (List Char × List Char)
  | 0, _ => none
  | fuel + 1, cs => do
    match cs with
    | [] => none
    | '"' :: rest => some ([], rest)
    | '\\' :: 'u' :: rest =>
      let (c, rest) ← readEscapedUnit? rest
      let (cs, rest) ← readString? fuel rest
      some (c :: cs, rest)
    | '\\' :: c :: rest =>
      let c ← escapedChar? c
      let (cs, rest) ← readString? fuel rest
      some (c :: cs, rest)
    | c :: rest =>
      if c.toNat < 0x20 then none
      else
        let (cs, rest) ← readString? fuel rest
        some (c :: cs, rest)

/-- A number as the format writes it: no plus sign, no zero in front of another digit, a digit on
either side of the point. -/
def readNumber? (cs : List Char) : Option (Number × List Char) :=
  let (negative, unsigned) := match cs with
    | '-' :: rest => (true, rest)
    | rest => (false, rest)
  let whole := unsigned.takeWhile Char.isDigit
  let (point, fraction, rest) := match unsigned.dropWhile Char.isDigit with
    | '.' :: rest => (true, rest.takeWhile Char.isDigit, rest.dropWhile Char.isDigit)
    | rest => (false, [], rest)
  let isPower (c : Char) : Bool :=
    c.isDigit || c = 'e' || c = 'E' || c = '+' || c = '-'
  let power := rest.takeWhile isPower
  let rest := rest.dropWhile isPower
  if whole.isEmpty || (whole.head? = some '0' && whole.length != 1) || (point && fraction.isEmpty) then
    none
  else
    let magnitude := digitsValue whole
    let integer : Int := if negative then -(magnitude : Int) else magnitude
    if !point && power.isEmpty && Number.inRange integer && !(negative && magnitude = 0) then
      some (.integer integer, rest)
    else do
      let exponent ← Binary64.readExponent? power
      match Binary64.ofDecimal negative ((whole ++ fraction).map digitValue)
          (exponent - fraction.length) with
      | .finite d => some (.double d, rest)
      | _ => none

/-- A word that stands for a value. -/
def readWord? (word : List Char) (value : Value) (cs : List Char) : Option (Value × List Char) :=
  if word.isPrefixOf cs then some (value, cs.drop word.length) else none

mutual

/-- A value at the start of a text, and what follows it. -/
def readValue? : Nat → List Char → Option (Value × List Char)
  | 0, _ => none
  | fuel + 1, cs => do
    match skipBlanks cs with
    | 'n' :: rest => readWord? "ull".toList .null rest
    | 't' :: rest => readWord? "rue".toList (.bool true) rest
    | 'f' :: rest => readWord? "alse".toList (.bool false) rest
    | '"' :: rest =>
      let (text, rest) ← readString? fuel rest
      some (.string (String.ofList text), rest)
    | '[' :: rest =>
      match skipBlanks rest with
      | ']' :: rest => some (.array [], rest)
      | rest =>
        let (items, rest) ← readItems? fuel rest
        some (.array items, rest)
    | '\x7b' :: rest =>
      match skipBlanks rest with
      | '\x7d' :: rest => some (.object .nil, rest)
      | rest =>
        let (members, rest) ← readMembers? fuel rest
        some (.object (Table.ofList members), rest)
    | rest =>
      let (n, rest) ← readNumber? rest
      some (.number n, rest)

/-- The items of an array up to its closing bracket. -/
def readItems? : Nat → List Char → Option (List Value × List Char)
  | 0, _ => none
  | fuel + 1, cs => do
    let (item, rest) ← readValue? fuel cs
    match skipBlanks rest with
    | ',' :: rest =>
      let (items, rest) ← readItems? fuel rest
      some (item :: items, rest)
    | ']' :: rest => some ([item], rest)
    | _ => none

/-- The members of an object up to its closing brace, in the order of the text. -/
def readMembers? : Nat → List Char → Option (List (String × Value) × List Char)
  | 0, _ => none
  | fuel + 1, cs => do
    match skipBlanks cs with
    | '"' :: rest =>
      let (key, rest) ← readString? fuel rest
      match skipBlanks rest with
      | ':' :: rest =>
        let (value, rest) ← readValue? fuel rest
        let member := (String.ofList key, value)
        match skipBlanks rest with
        | ',' :: rest =>
          let (members, rest) ← readMembers? fuel rest
          some (member :: members, rest)
        | '\x7d' :: rest => some ([member], rest)
        | _ => none
      | _ => none
    | _ => none

end

/-- The value that a whole text writes. Every step of the reader but the one into a container takes a
character, so twice the length of the text is fuel enough. -/
def ofJson? (s : String) : Option Value :=
  let cs := s.toList
  match readValue? (2 * cs.length + 2) cs with
  | some (value, rest) => if (skipBlanks rest).isEmpty then some value else none
  | none => none

end TextTemplate.Value
