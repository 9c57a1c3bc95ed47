/-! Membership of a code point in a class given as an ascending list of ranges. -/
namespace TextTemplate.Text

/-- The code point lies in one of the ranges, both ends included. The ranges ascend, so the
search stops at the first one that starts beyond it. -/
def inRanges : List (Nat × Nat) → Nat → Bool
  | [], _ => false
  | (first, last) :: rest, n =>
    if n < first then false else if n ≤ last then true else inRanges rest n

end TextTemplate.Text
