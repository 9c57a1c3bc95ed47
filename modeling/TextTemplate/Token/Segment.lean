import TextTemplate.Token

/-! A source cut into segments: stretches of text, and tags of the three kinds from opener to closer.
The closer of an output or a tag is the first one outside quotes; a comment knows no
quotes. The closer may share its first character with the opener, so that three
characters make an empty tag. An opener without a closer ends the segments, and all from
it on is the tail. -/
namespace TextTemplate

namespace TokenKind

/-- The kind of tag that a brace followed by this character opens. -/
def ofMarker? (c : Char) : Option TokenKind :=
  if c = '\x7b' then some .output
  else if c = '%' then some .tag
  else if c = '#' then some .comment
  else none

/-- The character after the brace that opens the kind. -/
def openMarker : TokenKind → Char
  | .output => '\x7b'
  | .tag => '%'
  | .comment => '#'
  | .text => '\x00'

/-- The character before the brace that closes the kind. -/
def closeMarker : TokenKind → Char
  | .output => '\x7d'
  | .tag => '%'
  | .comment => '#'
  | .text => '\x00'

/-- Whether a closer inside quotes is passed over. -/
def honoursQuotes : TokenKind → Bool
  | .output | .tag => true
  | .comment | .text => false

end TokenKind

/-- A piece of a source. The body of a tag is what lies between opener and closer; `joined` says that
the two share a character, and then the body is empty. -/
inductive Segment where
  | text (chars : List Char)
  | tag (kind : TokenKind) (body : List Char) (joined : Bool)
  deriving DecidableEq, Repr

namespace Segment

/-- The characters that a segment takes up in the source. -/
def source : Segment → List Char
  | .text chars => chars
  | .tag kind body joined =>
    '\x7b' :: kind.openMarker ::
      (body ++ (if joined then ['\x7d'] else [kind.closeMarker, '\x7d']))

/-- The text before the first opener, and the kind of that opener with what follows it. -/
def splitOpener : List Char → List Char × Option (TokenKind × List Char)
  | [] => ([], none)
  | [c] => ([c], none)
  | c :: d :: rest =>
    match (if c = '\x7b' then TokenKind.ofMarker? d else none) with
    | some kind => ([], some (kind, rest))
    | none =>
      let (before, opened) := splitOpener (d :: rest)
      (c :: before, opened)

/-- The body up to the first closer outside quotes, and what follows the closer. -/
def splitCloser (kind : TokenKind) : Option Char → List Char → Option (List Char × List Char)
  | _, [] => none
  | some quote, c :: rest =>
    (splitCloser kind (if c = quote then none else some quote) rest).map fun (body, rest) =>
      (c :: body, rest)
  | none, c :: rest =>
    if kind.honoursQuotes && isQuote c then
      (splitCloser kind (some c) rest).map fun (body, rest) => (c :: body, rest)
    else if c = kind.closeMarker && rest.head? = some '\x7d' then some ([], rest.tail)
    else (splitCloser kind none rest).map fun (body, rest) => (c :: body, rest)

/-- The tag whose opener has been read, and what follows it. -/
def splitTag (kind : TokenKind) (rest : List Char) : Option (Segment × List Char) :=
  if kind.openMarker = kind.closeMarker && rest.head? = some '\x7d' then
    some (.tag kind [] true, rest.tail)
  else (splitCloser kind none rest).map fun (body, rest) => (.tag kind body false, rest)

/-- A stretch of text, if it is not empty. -/
def ofText (chars : List Char) : List Segment := if chars.isEmpty then [] else [.text chars]

theorem splitOpener_length (cs : List Char) :
    ∀ kind rest, (splitOpener cs).2 = some (kind, rest) → rest.length < cs.length := by
  induction cs using splitOpener.induct with
  | case1 => simp [splitOpener]
  | case2 => simp [splitOpener]
  | case3 c d rest kind found =>
    intro kind' rest' h
    simp only [splitOpener, found, Option.some.injEq, Prod.mk.injEq] at h
    simp only [← h.2, List.length_cons]
    omega
  | case4 c d rest found before opened rec ih =>
    intro kind rest' h
    simp only [splitOpener, found] at h
    have := ih kind rest' h
    simp only [List.length_cons] at this ⊢
    omega

theorem splitCloser_length (kind : TokenKind) (quote : Option Char) (cs : List Char) :
    ∀ body rest, splitCloser kind quote cs = some (body, rest) → rest.length < cs.length := by
  induction cs generalizing quote with
  | nil => simp [splitCloser]
  | cons c cs ih =>
    intro body rest h
    have step : ∀ quote', (splitCloser kind quote' cs).map
        (fun (body, rest) => (c :: body, rest)) = some (body, rest) → rest.length < cs.length + 1 := by
      intro quote' h
      obtain ⟨⟨b, r⟩, found, same⟩ := Option.map_eq_some_iff.1 h
      have := ih quote' b r found
      simp only [Prod.mk.injEq] at same
      rw [← same.2]
      omega
    cases quote with
    | some q => exact step _ h
    | none =>
      rw [splitCloser] at h
      split at h
      · exact step _ h
      · split at h
        · simp only [Option.some.injEq, Prod.mk.injEq] at h
          simp only [← h.2, List.length_tail, List.length_cons]
          omega
        · exact step _ h

theorem splitTag_length (kind : TokenKind) (cs : List Char) (segment : Segment) (rest : List Char)
    (h : splitTag kind cs = some (segment, rest)) : rest.length ≤ cs.length := by
  rw [splitTag] at h
  split at h
  · simp only [Option.some.injEq, Prod.mk.injEq] at h
    simp [← h.2]
  · obtain ⟨⟨b, r⟩, found, same⟩ := Option.map_eq_some_iff.1 h
    have := splitCloser_length kind none cs b r found
    simp only [Prod.mk.injEq] at same
    rw [← same.2]
    omega

/-- The segments of a source and its tail. -/
def split (cs : List Char) : List Segment × List Char :=
  match _opened : (splitOpener cs).2 with
  | none => (ofText (splitOpener cs).1, [])
  | some (kind, rest) =>
    match _closed : splitTag kind rest with
    | none => (ofText (splitOpener cs).1, '\x7b' :: kind.openMarker :: rest)
    | some (segment, after) =>
      let (segments, tail) := split after
      (ofText (splitOpener cs).1 ++ segment :: segments, tail)
termination_by cs.length
decreasing_by
  have := splitOpener_length cs kind rest _opened
  have := splitTag_length kind rest segment after _closed
  omega

end Segment

end TextTemplate
