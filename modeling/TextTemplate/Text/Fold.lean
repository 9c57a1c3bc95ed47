import TextTemplate.Text.Whitespace

/-! The folding of a tag written over several lines into one. Every line loses the blanks at
its ends, empty lines disappear, and the rest are joined by single spaces. A carriage
return counts as a blank, so both line endings fold alike. -/
namespace TextTemplate.Text

/-- A blank inside a line: space, tab or carriage return. -/
def isBlank (c : Char) : Bool := c = ' ' || c = '\t' || c = '\r'

/-- The lines of a text that hold more than blanks, without the blanks at their ends. -/
def foldedLines (cs : List Char) : List (List Char) :=
  ((splitAtChar '\n' cs).map (trimWith isBlank)).filter fun line => !line.isEmpty

/-- Text folded into a single line. -/
def fold (cs : List Char) : List Char := [' '].intercalate (foldedLines cs)

end TextTemplate.Text
