import TextTemplate.Source.LineIndex

/-! A table of the offsets at which the lines of a source start. The line of an offset is found by halving
the table again and again, and the column is counted in the source, from the start of the line up
to the offset. An offset inside a character has no location. -/
namespace TextTemplate

/-- A source, and where its lines start. -/
structure LineStarts where
  source : String
  starts : List Nat
  deriving Repr

namespace LineStarts

/-- The offsets behind the line feeds of a text that starts at an offset. -/
def behindFeeds (start : Nat) : List Char → List Nat
  | [] => []
  | c :: rest =>
    let next := start + c.utf8Size
    if c = '\n' then next :: behindFeeds next rest else behindFeeds next rest

/-- The table of a source. The first line starts at once, and a further one behind each line feed. -/
def ofSource (source : String) : LineStarts := ⟨source, 0 :: behindFeeds 0 source.toList⟩

/-- Looks for a number among ascending ones, from one place of the list up to another: its place, or else
the place at which it would have to be put in. -/
def search (starts : List Nat) (wanted low high : Nat) (bounded : high ≤ starts.length) :
    Except Nat Nat :=
  if remains : low < high then
    let middle := low + (high - low) / 2
    have inside : middle < high := by omega
    if starts[middle] = wanted then .ok middle
    else if starts[middle] < wanted then search starts wanted (middle + 1) high bounded
    else search starts wanted low middle (by omega)
  else .error low
termination_by high - low

/-- The place of a number that was found, or of the one before the place where it would have to be put in. -/
def lastPlace? : Except Nat Nat → Option Nat
  | .ok place => some place
  | .error 0 => none
  | .error (place + 1) => some place

/-- The place in the table of the line that an offset belongs to. -/
def lineAt? (index : LineStarts) (offset : Nat) : Option Nat :=
  lastPlace? (search index.starts offset 0 index.starts.length (Nat.le_refl _))

/-- The part of the source between two offsets, neither of which may lie inside a character. -/
def slice? (source : String) (start stop : Nat) : Option String :=
  if start ≤ stop ∧ String.Pos.Raw.isValid source ⟨start⟩ ∧ String.Pos.Raw.isValid source ⟨stop⟩ then
    some (String.Pos.Raw.extract source ⟨start⟩ ⟨stop⟩)
  else none

/-- The location of an offset; one beyond the source stands for its end. -/
def location? (index : LineStarts) (offset : Nat) : Option Location := do
  let offset := min offset index.source.utf8ByteSize
  let line ← index.lineAt? offset
  let start ← index.starts[line]?
  let before ← slice? index.source start offset
  some ⟨offset, line + 1, before.length + 1⟩

end LineStarts

end TextTemplate
