/-! Positions in the source of a template. An offset counts bytes; lines and columns count from one,
columns in characters. -/
namespace TextTemplate

/-- A position in a source. -/
structure Location where
  offset : Nat := 0
  line : Nat := 0
  column : Nat := 0
  deriving DecidableEq, Repr, Inhabited

/-- A position as an error report gives it. -/
def Location.text (l : Location) : String := toString l.line ++ ":" ++ toString l.column

/-- The stretch of a source from one position to another. -/
structure Span where
  start : Location := {}
  stop : Location := {}
  deriving DecidableEq, Repr, Inhabited

namespace Span

/-- The empty stretch at a position. -/
def emptyAt (l : Location) : Span := ⟨l, l⟩

/-- The stretch from the start of one to the end of another. -/
def through (first last : Span) : Span := ⟨first.start, last.stop⟩

/-- Nothing lies between the ends. -/
def isEmpty (s : Span) : Bool := s.start.offset == s.stop.offset

/-- The number of bytes between the ends. -/
def length (s : Span) : Nat := s.stop.offset - s.start.offset

end Span

end TextTemplate
