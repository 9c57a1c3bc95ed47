import TextTemplate.Number.Double

/-! The shortest decimal that reads back as a given double. The reals that round to a double form
an interval; the coarsest decimal grid with a point in it is found, and of its points
the one nearest to the double is taken, a tie going to the even digit. -/
namespace TextTemplate.Double

/-- A decimal `digits · 10 ^ exponent`. -/
structure Decimal where
  digits : Nat
  exponent : Int
  deriving DecidableEq, Repr

/-- The interval of a positive double seen on the grid of multiples of `10 ^ exponent`: the double
and the two ends of its interval over a common denominator. -/
structure GridView where
  value : Nat
  low : Nat
  high : Nat
  unit : Nat

/-- The view on a grid, in quarters of the last binary place: the next double is four quarters up, and
four down, or two where the spacing halves below a power of two. -/
def onGrid (d : Double) (exponent : Int) : GridView :=
  let place := d.exponent - 2
  let scale := Nat.pow 2 place.toNat * Nat.pow 10 (-exponent).toNat
  let below := if d.significand = significandStart ∧ -1074 < d.exponent then 1 else 2
  { value := 4 * d.significand * scale
    low := (4 * d.significand - below) * scale
    high := (4 * d.significand + 2) * scale
    unit := Nat.pow 2 (-place).toNat * Nat.pow 10 exponent.toNat }

/-- The multiple of the grid that reads back as the double and is nearest to it, if there is one. The
ends of the interval belong to it exactly when the significand is even. -/
def gridPoint? (d : Double) (exponent : Int) : Option Nat :=
  let view := d.onGrid exponent
  let even := d.significand % 2 = 0
  let k := view.value / view.unit
  let below := k * view.unit
  let above := below + view.unit
  let lowFits := view.low < below || (even && view.low = below)
  let highFits := above < view.high || (even && above = view.high)
  match lowFits, highFits with
  | true, true =>
    let down := view.value - below
    let up := above - view.value
    if down < up then some k
    else if up < down then some (k + 1)
    else some (k + k % 2)
  | true, false => some k
  | false, true => some (k + 1)
  | false, false => none

/-- The first grid with a point, from `exponent` downwards. -/
def coarsest (d : Double) : Nat → Int → Decimal
  | 0, exponent => ⟨0, exponent⟩
  | steps + 1, exponent =>
    match d.gridPoint? exponent with
    | some k => ⟨k, exponent⟩
    | none => coarsest d steps (exponent - 1)

/-- A power of ten above the interval of the double. The factor is the logarithm of two to base ten,
rounded up. -/
def topExponent (d : Double) : Int :=
  ((d.significand.log2 + d.exponent + 2) * 30103).fdiv 100000 + 2

/-- The shortest decimal of a positive double. Seventeen digits always suffice, so the search of
twenty-four grids from above the double ends with a point. -/
def shortest (d : Double) : Decimal := d.coarsest 24 d.topExponent

end TextTemplate.Double
