import TextTemplate.Number.Shortest
import TextTemplate.Text.Whitespace

/-! Numbers of template data and their text. An integer is written in digits. A double is
written shortest, positionally with at least one fractional digit while its decimal
exponent lies between -5 and 15, and otherwise in scientific form with a signed
exponent. Two readers go the other way: one for number literals, and one for text that
is to be taken as a double. -/
namespace TextTemplate

/-- A number of template data. Readers yield integers from `-2 ^ 63` to `2 ^ 64 - 1`. -/
inductive Number where
  | integer (value : Int)
  | double (value : Double)
  deriving DecidableEq

namespace Double

/-- Decimal exponents that are written positionally: from the first to the second. -/
def positionalExponents : Int × Int := (-5, 15)

/-- Digits with a point before the last `-exponent` of them, and zeros filled in on either side so
that a digit stands before and after the point. -/
def positional (digits : List Char) (exponent : Int) : List Char :=
  if 0 ≤ exponent then digits ++ List.replicate exponent.toNat '0' ++ ['.', '0']
  else
    let places := (-exponent).toNat
    if places < digits.length then
      digits.take (digits.length - places) ++ '.' :: digits.drop (digits.length - places)
    else '0' :: '.' :: List.replicate (places - digits.length) '0' ++ digits

/-- One digit, a point and the others if there are any, and the exponent with its sign. -/
def scientific (digits : List Char) (exponent : Int) : List Char :=
  let point := match digits with
    | first :: second :: rest => first :: '.' :: second :: rest
    | short => short
  point ++ 'e' :: (if exponent < 0 then '-' else '+') :: (toString exponent.natAbs).toList

/-- The text of a double. -/
def text (d : Double) : String :=
  let magnitude :=
    if d.significand = 0 then ['0', '.', '0']
    else
      let decimal := d.shortest
      let digits := (toString decimal.digits).toList
      let exponent := decimal.exponent + digits.length - 1
      if positionalExponents.1 ≤ exponent ∧ exponent ≤ positionalExponents.2 then
        positional digits decimal.exponent
      else scientific digits exponent
  String.ofList (if d.negative then '-' :: magnitude else magnitude)

end Double

/-- The value of a decimal digit. -/
def digitValue (c : Char) : Nat := c.toNat - '0'.toNat

/-- The natural number that digits write. -/
def digitsValue (cs : List Char) : Nat := cs.foldl (fun n c => 10 * n + digitValue c) 0

namespace Binary64

/-- The exponent part of a decimal: nothing, or `e`, an optional sign and digits. -/
def readExponent? : List Char → Option Int
  | [] => some 0
  | e :: rest =>
    if e = 'e' || e = 'E' then
      let (sign, digits) := match rest with
        | '-' :: digits => ((-1 : Int), digits)
        | '+' :: digits => (1, digits)
        | digits => (1, digits)
      if digits.isEmpty || !digits.all Char.isDigit then none else some (sign * digitsValue digits)
    else none

/-- An unsigned decimal: digits around an optional point, at least one of them, and an optional
exponent. -/
def readDecimal? (negative : Bool) (cs : List Char) : Option Binary64 :=
  let whole := cs.takeWhile Char.isDigit
  let (fraction, rest) := match cs.dropWhile Char.isDigit with
    | '.' :: after => (after.takeWhile Char.isDigit, after.dropWhile Char.isDigit)
    | other => ([], other)
  if whole.isEmpty && fraction.isEmpty then none
  else (readExponent? rest).map fun exponent =>
    ofDecimal negative ((whole ++ fraction).map digitValue) (exponent - fraction.length)

/-- Reads a whole text as a double: an optional sign, then a decimal or, in any case of its letters,
`inf`, `infinity` or `nan`. No blank is allowed. -/
def read? (s : String) : Option Binary64 :=
  let (negative, rest) := match s.toList with
    | '-' :: rest => (true, rest)
    | '+' :: rest => (false, rest)
    | rest => (false, rest)
  let word := String.ofList (rest.map Char.toLower)
  if word = "inf" || word = "infinity" then some (.infinite negative)
  else if word = "nan" then some .nan
  else readDecimal? negative rest

end Binary64

namespace Number

/-- The integers that a reader accepts: those of 64 bits, with a sign or without. -/
def inRange (i : Int) : Bool := -(Nat.pow 2 63 : Int) ≤ i && i < Nat.pow 2 64

/-- The text of a number. -/
def text : Number → String
  | .integer i => toString i
  | .double d => d.text

/-- The nearest double of a number. -/
def toBinary64 : Number → Binary64
  | .integer i => Binary64.ofInt i
  | .double d => .finite d

/-- The natural number that a number is, if it is an integer and not negative. -/
def toNat? : Number → Option Nat
  | .integer i => if 0 ≤ i then some i.toNat else none
  | .double _ => none

/-- The natural numbers are the integers that are not negative. -/
theorem toNat?_eq_some_iff {n : Number} {k : Nat} : n.toNat? = some k ↔ n = .integer k := by
  cases n with
  | integer j =>
    rw [Number.integer.injEq, toNat?]
    split
    · rw [Option.some.injEq]
      omega
    · simp only [reduceCtorEq, false_iff]
      omega
  | double d => simp [toNat?]

/-- A number other than zero. -/
def isNonzero : Number → Bool
  | .integer i => i != 0
  | .double d => d.isNonzero

/-- Equality of the two kinds apart: an integer never equals a double here. -/
def same : Number → Number → Bool
  | .integer i, .integer j => i == j
  | .double d, .double e => d.units == e.units
  | _, _ => false

/-- Reads the sign and digits of an integer within range. -/
def readInteger? (cs : List Char) : Option Number :=
  let i : Int := match cs with
    | '-' :: digits => -(digitsValue digits : Int)
    | digits => digitsValue digits
  if inRange i then some (.integer i) else none

/-- Reads a number literal: with a point a finite double, without one an integer within range. -/
def readLiteral? (cs : List Char) : Option Number :=
  if cs.contains '.' then
    match Binary64.read? (String.ofList cs) with
    | some (.finite d) => some (.double d)
    | _ => none
  else readInteger? cs

end Number

end TextTemplate
