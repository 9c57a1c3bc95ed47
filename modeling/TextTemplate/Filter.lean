import TextTemplate.Error
import TextTemplate.Text.Case
import TextTemplate.Text.Escape
import TextTemplate.Text.Search
import TextTemplate.Value.Json

/-! Filters, and those of the standard catalogue. A filter takes the value before it in a pipeline and
the values of its arguments; it is a function of these alone, which gives a value, reports an
error or breaks down. Arguments beyond those it asks for are ignored. -/
namespace TextTemplate

/-- A filter. -/
abbrev Filter := Value → List Value → Except Failure Value

namespace Filter

/-- The value, or the first argument in place of one that does not count as true. -/
def default : Filter := fun value args =>
  .ok (if value.isTruthy then value else args.head?.getD value)

/-- The value itself. The catalogue marks it as safe, which is all its effect. -/
def safe : Filter := fun value _ => .ok value

/-- Changes text; an array is changed item by item. -/
def onText (f : String → String) : Filter := fun value _ =>
  match value with
  | .array items => .ok (.array (items.map fun item => .string (f item.text)))
  | value => .ok (.string (f value.text))

/-- Text with its first character in upper case. -/
def capitalize : Filter := onText Text.capitalize

/-- Text in upper case. -/
def upper : Filter := onText Text.upper

/-- Text in lower case. -/
def lower : Filter := onText Text.lower

/-- Text without whitespace at either end. -/
def trim : Filter := onText fun s => String.ofList (Text.trim s.toList)

/-- The text of the value escaped for HTML. -/
def escape : Filter := fun value _ => .ok (.string (Text.escapeHtml value.text))

/-- The text at a position of the arguments; a value of another kind there is refused. -/
def stringArg (filter : String) (args : List Value) (position : Nat) :
    Except Failure (Option String) :=
  match args[position]? with
  | none => .ok none
  | some (.string s) => .ok (some s)
  | some _ => .error (.reported (.ofFault (.stringExpected filter (position + 1))))

theorem stringArg_ok_iff {filter : String} {args : List Value} {position : Nat} {text : Option String} :
    stringArg filter args position = .ok text ↔ args[position]? = text.map .string := by
  unfold stringArg
  constructor
  · intro read
    split at read
    · rename_i absent
      cases read
      exact absent
    · rename_i s found
      cases read
      exact found
    · cases read
  · intro found
    rw [found]
    cases text <;> rfl

theorem stringArg_error {filter : String} {args : List Value} {position : Nat} {failure : Failure}
    (failed : stringArg filter args position = .error failure) :
    failure = .reported (.ofFault (.stringExpected filter (position + 1))) := by
  unfold stringArg at failed
  split at failed <;> cases failed
  rfl

/-- The texts of the items of an array with the argument between them. -/
def join : Filter := fun value args => do
  let separator := (← stringArg "join" args 0).getD ""
  match value with
  | .array items => .ok (.string (separator.intercalate (items.map Value.text)))
  | value => .ok value

/-- The pieces of a text between the occurrences of the argument, which is a space by default. -/
def split : Filter := fun value args => do
  let separator := (← stringArg "split" args 0).getD " "
  if separator = "" then .error (.reported (.ofFault .emptySeparator))
  else
    let pieces := Text.splitAtText separator.toList value.text.toList
    .ok (.array (pieces.map fun piece => .string (String.ofList piece)))

/-- How far lines are indented, with what, and whether the first line is among them. -/
structure Indentation where
  width : Nat := 4
  fill : String := " "
  first : Bool := false

/-- The width that an argument gives, or the default without one. -/
def Indentation.widthOf : Option Value → Except Failure Nat
  | none => .ok 4
  | some (.number n) =>
    match n.toNat? with
    | some width => .ok width
    | none => .error (.reported (.ofFault .invalidWidth))
  | some _ => .error (.reported (.ofFault .invalidWidth))

/-- The indentation that arguments ask for. -/
def Indentation.ofArgs (args : List Value) : Except Failure Indentation := do
  let width ← widthOf args[0]?
  let fill := (← stringArg "indent" args 1).getD " "
  .ok ⟨width, fill, args[2]?.any Value.isTruthy⟩

/-- What stands in front of an indented line. -/
def Indentation.margin (i : Indentation) : List Char := Text.replicate i.width i.fill.toList

/-- The number of bytes of the margin. -/
def Indentation.marginSize (i : Indentation) : Nat := i.width * i.fill.utf8ByteSize

/-- The number of bytes that a text holds at most. -/
def maxTextSize : Nat := Nat.pow 2 63 - 1

/-- Makes room for a text of so many bytes, and breaks down if no text holds them. -/
def allocate (size : Nat) : Except Failure Unit :=
  if size ≤ maxTextSize then .ok () else .error .breakdown

theorem allocate_eq_ok {size : Nat} (fits : size ≤ maxTextSize) : allocate size = .ok () := if_pos fits

/-- Lines with the margin in front of those that are not empty. -/
def indentLines (margin : List Char) (lines : List (List Char)) : List (List Char) :=
  lines.map fun line => if line.isEmpty then line else margin ++ line

/-- A text with its lines indented, the first one only if asked for. -/
def Indentation.apply (i : Indentation) (text : String) : String :=
  let lines := Text.splitAtChar '\n' text.toList
  let indented :=
    if i.first then indentLines i.margin lines
    else lines.take 1 ++ indentLines i.margin (lines.drop 1)
  String.ofList (['\n'].intercalate indented)

/-- The text of the value with its lines indented. There has to be room for the margin, whether a line
needs it or not, and then for the result. -/
def indent : Filter := fun value args => do
  let indentation ← Indentation.ofArgs args
  allocate indentation.marginSize
  let text := indentation.apply value.text
  allocate text.utf8ByteSize
  .ok (.string text)

/-- The number of items, members or characters. -/
def length : Filter := fun value _ =>
  match value with
  | .array items => .ok (.ofNat items.length)
  | .object members => .ok (.ofNat (Table.toList members).length)
  | .string s => .ok (.ofNat s.length)
  | .null => .ok (.ofNat 0)
  | _ => .error (.reported (.ofFault .noLength))

/-- The first item or character; null if there is none. A value of another kind stays as it is. -/
def first : Filter := fun value _ =>
  match value with
  | .array items => .ok (items.head?.getD .null)
  | .string s => .ok ((s.toList.head?.map Value.ofChar).getD .null)
  | value => .ok value

/-- The last item or character; null if there is none. A value of another kind stays as it is. -/
def last : Filter := fun value _ =>
  match value with
  | .array items => .ok (items.getLast?.getD .null)
  | .string s => .ok ((s.toList.getLast?.map Value.ofChar).getD .null)
  | value => .ok value

end Filter

end TextTemplate
