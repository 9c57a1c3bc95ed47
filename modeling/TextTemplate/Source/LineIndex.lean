import TextTemplate.Source.Location

/-! The lines of a source with the offsets at which they start, and the location of an offset: the
last line that starts at or before it, and the characters of that line before it. -/
namespace TextTemplate

/-- The number of bytes of a text. -/
def byteLength (cs : List Char) : Nat := cs.foldl (fun size c => size + c.utf8Size) 0

/-- A line of a source, without its line feed, and the offset of its first byte. -/
structure Line where
  start : Nat
  text : List Char
  deriving DecidableEq, Repr

/-- The lines of a source that starts at an offset; there is always one, if only an empty one after
the last line feed. -/
def Line.ofSource (start : Nat) : List Char → Line × List Line
  | [] => (⟨start, []⟩, [])
  | c :: rest =>
    let (first, others) := ofSource (start + c.utf8Size) rest
    if c = '\n' then (⟨start, []⟩, first :: others)
    else (⟨start, c :: first.text⟩, others)

/-- The number of characters that start before an offset, in a text that starts at `start`. -/
def charsBefore (offset start : Nat) : List Char → Nat
  | [] => 0
  | c :: rest => if start < offset then charsBefore offset (start + c.utf8Size) rest + 1 else 0

/-- The lines of a source and its length in bytes. -/
structure LineIndex where
  size : Nat
  first : Line
  others : List Line
  deriving Repr

namespace LineIndex

/-- The lines of a source. -/
def ofSource (cs : List Char) : LineIndex :=
  let (first, others) := Line.ofSource 0 cs
  ⟨byteLength cs, first, others⟩

/-- The last line that starts at or before an offset, with its number, given the line with number
`number` and those after it. -/
def lineAt (offset number : Nat) (line : Line) : List Line → Nat × Line
  | [] => (number, line)
  | next :: rest =>
    if next.start ≤ offset then lineAt offset (number + 1) next rest else (number, line)

/-- The location of an offset; one beyond the source stands for its end. -/
def location (index : LineIndex) (offset : Nat) : Location :=
  let offset := min offset index.size
  let (number, line) := lineAt offset 1 index.first index.others
  ⟨offset, number, charsBefore offset line.start line.text + 1⟩

/-- The span between two offsets. -/
def span (index : LineIndex) (start stop : Nat) : Span :=
  ⟨index.location start, index.location stop⟩

end LineIndex

end TextTemplate
