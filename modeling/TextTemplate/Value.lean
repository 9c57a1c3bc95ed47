import TextTemplate.Number.Text
import TextTemplate.Table

/-! The data that templates are rendered with: null, booleans, numbers, text, arrays and objects
whose members are listed in key order. A value counts as true unless it is null,
`false`, zero or empty. -/
namespace TextTemplate

/-- A value of template data. -/
inductive Value where
  | null
  | bool (b : Bool)
  | number (n : Number)
  | string (s : String)
  | array (items : List Value)
  | object (members : Entries Value none)
  deriving Inhabited

/-- The members of an object. -/
abbrev Members := Table Value

namespace Value

/-- The integer value of a count. -/
def ofNat (n : Nat) : Value := .number (.integer n)

/-- The text of a single character. -/
def ofChar (c : Char) : Value := .string (String.singleton c)

/-- Whether a value counts as true in a condition. -/
def isTruthy : Value → Bool
  | .null => false
  | .bool b => b
  | .number n => n.isNonzero
  | .string s => s != ""
  | .array items => !items.isEmpty
  | .object members => !Table.isEmpty members

/-- The kind of a value, as far as an error report names it. -/
inductive Shape where
  | null
  | boolean
  | number
  | string
  | array (length : Nat)
  | object
  deriving DecidableEq

/-- The kind of a value. -/
def shape : Value → Shape
  | .null => .null
  | .bool _ => .boolean
  | .number _ => .number
  | .string _ => .string
  | .array items => .array items.length
  | .object _ => .object

/-- The kind of a value in words. -/
def Shape.describe : Shape → String
  | .null => "null"
  | .boolean => "a boolean"
  | .number => "a number"
  | .string => "a string"
  | .array length => "an array of " ++ toString length ++ " values"
  | .object => "an object"

mutual

/-- Equality of data by structure. Numbers are equal here only within their kind. -/
def same : Value → Value → Bool
  | .null, .null => true
  | .bool a, .bool b => a == b
  | .number a, .number b => a.same b
  | .string a, .string b => a == b
  | .array as, .array bs => sameItems as bs
  | .object as, .object bs => sameMembers as bs
  | _, _ => false

/-- Equality of arrays, item by item. -/
def sameItems : List Value → List Value → Bool
  | [], [] => true
  | a :: as, b :: bs => same a b && sameItems as bs
  | _, _ => false

/-- Equality of objects, member by member in key order. -/
def sameMembers {low low' : Option String} : Entries Value low → Entries Value low' → Bool
  | .nil, .nil => true
  | .cons k a _ as, .cons l b _ bs => k == l && same a b && sameMembers as bs
  | _, _ => false

end

end Value

end TextTemplate
