import TextTemplate.Source.LineIndex
import TextTemplate.Text.Fold
import TextTemplate.Token.Segment

/-! The tokens of a source. Each segment gives one token; the tail of an opener that is never closed
gives an empty text token where no text stands before it, and nothing otherwise. The
scan never fails: what is wrong with a tag is for the parser to say. -/
namespace TextTemplate

namespace Segment

/-- The token of a segment that starts at an offset. The span of a tag covers its body without the
whitespace at the ends, and is empty after the opener if nothing else is there. -/
def toToken (index : LineIndex) (offset : Nat) : Segment → Token
  | .text chars => ⟨.text, String.ofList chars, index.span offset (offset + byteLength chars)⟩
  | .tag kind body _ =>
    let start := offset + 2
    let trimmed := Text.trim body
    let span :=
      if trimmed.isEmpty then Span.emptyAt (index.location start)
      else
        let inner := start + (byteLength body - byteLength (Text.trimStart body))
        index.span inner (inner + byteLength trimmed)
    ⟨kind, String.ofList (Text.fold body), span⟩

/-- The tokens of segments that follow each other from an offset on. -/
def toTokens (index : LineIndex) : Nat → List Segment → List Token
  | _, [] => []
  | offset, segment :: rest =>
    segment.toToken index offset :: toTokens index (offset + byteLength segment.source) rest

/-- A stretch of text ends the segments. -/
def endInText (segments : List Segment) : Bool :=
  match segments.getLast? with
  | some (.text _) => true
  | _ => false

end Segment

/-- The tokens of a source in order; an empty source has a single empty text token. -/
def tokenize (source : String) : List Token :=
  let cs := source.toList
  let index := LineIndex.ofSource cs
  let (segments, tail) := Segment.split cs
  let silent := Segment.endInText segments || (tail.isEmpty && !segments.isEmpty)
  let swallowed := index.span (index.size - byteLength tail) index.size
  Segment.toTokens index 0 segments ++ (if silent then [] else [⟨.text, "", swallowed⟩])

end TextTemplate
