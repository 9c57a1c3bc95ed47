/-! Binary floating-point numbers of 64 bits as exact data. A finite one is a sign, a significand
and a power of two in their unique form, so every operation on it is integer
arithmetic: rounding takes a ratio of naturals to the nearest double, a tie to the even
significand, and order compares whole multiples of the smallest positive double. -/
namespace TextTemplate

/-- The least significand of 53 bits. -/
def Double.significandStart : Nat := Nat.pow 2 52

/-- The least natural above the significands of 53 bits. -/
def Double.significandEnd : Nat := Nat.pow 2 53

/-- A finite double `± significand · 2 ^ exponent`. The significand has 53 bits unless the exponent
is the least one, which makes the form unique; zero keeps its sign. -/
structure Double where
  negative : Bool
  significand : Nat
  exponent : Int
  significand_lt : significand < Double.significandEnd
  exponent_ge : -1074 ≤ exponent
  exponent_le : exponent ≤ 971
  normal : Double.significandStart ≤ significand ∨ exponent = -1074
  deriving DecidableEq

/-- The value of a 64-bit floating-point operation. -/
inductive Binary64 where
  | finite (d : Double)
  | infinite (negative : Bool)
  | nan
  deriving DecidableEq

namespace Double

/-- Zero of either sign. -/
def zero (negative : Bool) : Double where
  negative := negative
  significand := 0
  exponent := -1074
  significand_lt := by decide
  exponent_ge := by decide
  exponent_le := by decide
  normal := .inr rfl

/-- The value as a multiple of the smallest positive double, `2 ^ -1074`. -/
def units (d : Double) : Int :=
  let magnitude : Int := (d.significand * Nat.pow 2 (d.exponent + 1074).toNat : Nat)
  if d.negative then -magnitude else magnitude

/-- A double that is not zero. -/
def isNonzero (d : Double) : Bool := d.significand != 0

end Double

namespace Binary64

/-- A quotient rounded to the nearest natural, a tie to the even one. -/
def roundDiv (num den : Nat) : Nat :=
  let quotient := num / den
  let rest := num % den
  if 2 * rest < den then quotient
  else if den < 2 * rest then quotient + 1
  else quotient + quotient % 2

/-- Numerator and denominator of a ratio divided by a power of two. -/
def scaleDown (num den : Nat) (exponent : Int) : Nat × Nat :=
  if 0 ≤ exponent then (num, den * Nat.pow 2 exponent.toNat)
  else (num * Nat.pow 2 (-exponent).toNat, den)

/-- The exponent that gives the significand of a positive ratio 53 bits, or the least one where that
would lie below it. The bit lengths fix it up to one, and a trial division decides. -/
def exponentOf (num den : Nat) : Int :=
  let low : Int := (num.log2 : Int) - den.log2 - 53
  let (n, d) := scaleDown num den low
  max (if n / d < Double.significandEnd then low else low + 1) (-1074)

/-- The double with this sign, significand and exponent; infinite if there is none. A significand
that rounding has carried to 54 bits moves to the next exponent. -/
def assemble (negative : Bool) (significand : Nat) (exponent : Int) : Binary64 :=
  let (m, q) :=
    if significand = Double.significandEnd then (Double.significandStart, exponent + 1)
    else (significand, exponent)
  if h : (m < Double.significandEnd ∧ -1074 ≤ q) ∧
      q ≤ 971 ∧ (Double.significandStart ≤ m ∨ q = -1074) then
    .finite ⟨negative, m, q, h.1.1, h.1.2, h.2.1, h.2.2⟩
  else .infinite negative

/-- The double nearest to `± num / den`; infinite beyond the largest finite one. -/
def ofRatio (negative : Bool) (num den : Nat) : Binary64 :=
  if num = 0 then .finite (Double.zero negative)
  else
    let exponent := exponentOf num den
    let (n, d) := scaleDown num den exponent
    assemble negative (roundDiv n d) exponent

/-- The double nearest to an integer. -/
def ofInt (i : Int) : Binary64 := ofRatio (i < 0) i.natAbs 1

/-- Decimal exponents beyond this one in either direction leave the range of the doubles, so the
power of ten need not be formed. -/
def decimalReach : Int := 400

/-- The double nearest to `± digits · 10 ^ exponent`, where `digits` are decimal digits, the first of
the highest weight. -/
def ofDecimal (negative : Bool) (digits : List Nat) (exponent : Int) : Binary64 :=
  let significant := digits.dropWhile (· = 0)
  let magnitude := exponent + significant.length
  let value := significant.foldl (fun n d => 10 * n + d) 0
  if value = 0 then .finite (Double.zero negative)
  else if decimalReach < magnitude then .infinite negative
  else if magnitude < -decimalReach then .finite (Double.zero negative)
  else if 0 ≤ exponent then ofRatio negative (value * Nat.pow 10 exponent.toNat) 1
  else ofRatio negative value (Nat.pow 10 (-exponent).toNat)

/-- The order of two floating-point values; a value that is not a number has none. -/
def compare? : Binary64 → Binary64 → Option Ordering
  | .nan, _ => none
  | _, .nan => none
  | .finite a, .finite b => some (compare a.units b.units)
  | .infinite a, .infinite b => some (compare b.toNat a.toNat)
  | .infinite negative, .finite _ => some (if negative then .lt else .gt)
  | .finite _, .infinite negative => some (if negative then .gt else .lt)

/-- Equality of floating-point values: zeros of either sign are equal, and a value that is not a
number differs from itself. -/
def equals (a b : Binary64) : Bool := compare? a b == some .eq

/-- The 64 bits of the interchange format, as a natural number; `none` for a value that is not a
number, which has many. -/
def bits? : Binary64 → Option Nat
  | .nan => none
  | .infinite negative => some (negative.toNat * Nat.pow 2 63 + 0x7FF * Double.significandStart)
  | .finite d =>
    let rest :=
      if d.significand < Double.significandStart then d.significand
      else (d.exponent + 1075).toNat * Double.significandStart +
        (d.significand - Double.significandStart)
    some (d.negative.toNat * Nat.pow 2 63 + rest)

end Binary64

end TextTemplate
