import TextTemplate.Expr
import TextTemplate.Fault
import TextTemplate.Text.Search
import TextTemplate.Value.Json

/-! Comparison of values. Two numbers compare as doubles, whatever their kinds; text compares by code
points; no other pair has an order. Membership asks an array for an equal item, an object
for a key, and text for a part. -/
namespace TextTemplate

namespace Value

/-- A value taken as a double: a number, or text that writes one. -/
def toBinary64 : Value → Except Fault Binary64
  | .number n => .ok n.toBinary64
  | .string s =>
    match Binary64.read? s with
    | some x => .ok x
    | none => .error .textNotNumeric
  | _ => .error .notNumeric

/-- Equality as conditions see it: two numbers are equal when their doubles are, and any other two
values when their structures are. -/
def equals : Value → Value → Bool
  | .number a, .number b => a.toBinary64.equals b.toBinary64
  | a, b => a.same b

/-- The order of two numbers or two texts. -/
def order : Value → Value → Except Fault Ordering
  | .number a, .number b =>
    match a.toBinary64.compare? b.toBinary64 with
    | some ordering => .ok ordering
    | none => .error .unorderedNumbers
  | .string a, .string b => .ok (Ord.compare a b)
  | _, _ => .error .incomparable

/-- Membership of a value in a container. -/
def isWithin (needle : Value) : Value → Except Fault Bool
  | .array items => .ok (items.any fun item => item.equals needle)
  | .object members => .ok (Table.contains members needle.text)
  | .string s => .ok (Text.isInfix needle.text.toList s.toList)
  | .null => .ok false
  | _ => .error .notAContainer

/-- The outcome of a comparison. -/
def compare (op : Operator) (lhs rhs : Value) : Except Fault Bool :=
  match op with
  | .equal => .ok (lhs.equals rhs)
  | .notEqual => .ok (!lhs.equals rhs)
  | .within => lhs.isWithin rhs
  | .less => (order lhs rhs).map (·.isLT)
  | .lessOrEqual => (order lhs rhs).map (·.isLE)
  | .greater => (order lhs rhs).map (·.isGT)
  | .greaterOrEqual => (order lhs rhs).map (·.isGE)

end Value

end TextTemplate
