import Mathlib.Data.List.Chain
import Mathlib.Data.List.Forall2
import TextTemplate.Proofs.Folding
import TextTemplate.Proofs.SourceSegments
import TextTemplate.Proofs.SourceSlices
import TextTemplate.Token.Scan

/-! The tokens of a source. Each segment stands behind one token, in order: a text is taken over as it is,
and of a tag the folded body. The spans follow each other, and whatever offset is used on the
source lies between two characters. The tail has a token only where no text stands before it. -/
namespace TextTemplate

/-- The segments with the offsets at which they start. -/
def Segment.placed : Nat → List Segment → List (Nat × Segment)
  | _, [] => []
  | offset, segment :: rest =>
    (offset, segment) :: placed (offset + byteLength segment.source) rest

/-- A token stands for a segment that starts at an offset of the source. The span of a text is the segment;
that of a tag is the body without the whitespace at its ends. -/
inductive Stands (source : List Char) : Nat × Segment → Token → Prop
  | text {offset : Nat} {chars : List Char} {span : Span} :
      span.start.offset = offset → Covers source span chars →
      Stands source (offset, .text chars) ⟨.text, String.ofList chars, span⟩
  | tag {offset : Nat} {kind : TokenKind} {body : List Char} {joined : Bool} {span : Span} :
      Slice source (offset + 2) (offset + 2 + byteLength body) body →
      offset + 2 ≤ span.start.offset → span.stop.offset ≤ offset + 2 + byteLength body →
      Covers source span (Text.trim body) →
      Stands source (offset, .tag kind body joined) ⟨kind, String.ofList (Text.fold body), span⟩

/-- The token that a tail has, if it has one. -/
inductive Swallows (source tail : List Char) : Token → Prop
  | intro {span : Span} : Covers source span tail → Swallows source tail ⟨.text, "", span⟩

/-- The spans follow each other, and none of them ends before it starts. -/
def InOrder (tokens : List Token) : Prop :=
  tokens.Pairwise (fun first second => first.span.stop.offset ≤ second.span.start.offset) ∧
    ∀ token ∈ tokens, token.span.start.offset ≤ token.span.stop.offset

/-- The whitespace before the trimmed body of a tag is what trimming its start takes away. -/
theorem trim_parts (cs : List Char) : ∃ left right, cs = left ++ Text.trim cs ++ right ∧
    (∀ c ∈ left ++ right, Text.isSpace c) ∧
    byteLength cs - byteLength (Text.trimStart cs) = byteLength left := by
  obtain ⟨right, -, parts, trailing⟩ := Text.trimWith_parts Text.isSpace cs
  have leading : ∀ c ∈ cs.takeWhile Text.isSpace, Text.isSpace c :=
    List.all_eq_true.mp List.all_takeWhile
  refine ⟨cs.takeWhile Text.isSpace, right, parts, List.forall_mem_append.mpr ⟨leading, trailing⟩, ?_⟩
  have whole : cs = cs.takeWhile Text.isSpace ++ Text.trimStart cs :=
    List.takeWhile_append_dropWhile.symm
  have sizes := congrArg byteLength whole
  rw [byteLength_append] at sizes
  omega

namespace Segment

section Tag

variable {source before after body : List Char} {kind : TokenKind} {joined : Bool}

/-- The body of a tag starts behind the opener. -/
theorem body_slice (whole : source = before ++ (Segment.tag kind body joined).source ++ after) :
    Slice source (byteLength before + 2) (byteLength before + 2 + byteLength body) body := by
  have opener : byteLength ['\x7b', kind.openMarker] = 2 := by cases kind <;> rfl
  have slice : Slice source (byteLength before)
      (byteLength before + byteLength (Segment.tag kind body joined).source)
      (Segment.tag kind body joined).source := ⟨before, after, whole, rfl, rfl⟩
  have inside := Slice.inner ['\x7b', kind.openMarker] _ slice
  rwa [opener] at inside

/-- The span of a tag takes in the trimmed body, and is empty behind the opener if nothing is left of it. -/
theorem toToken_tag (whole : source = before ++ (Segment.tag kind body joined).source ++ after) :
    ∃ span left right,
      toToken (LineIndex.ofSource source) (byteLength before) (.tag kind body joined) =
        ⟨kind, String.ofList (Text.fold body), span⟩ ∧
      body = left ++ Text.trim body ++ right ∧ (∀ c ∈ left ++ right, Text.isSpace c) ∧
      span.start.offset = byteLength before + 2 + byteLength left ∧
      Covers source span (Text.trim body) := by
  have inside := body_slice whole
  obtain ⟨left, right, parts, spaces, leading⟩ := trim_parts body
  simp only [toToken, leading]
  split
  · rename_i empty
    have nothing : Text.trim body = [] := List.isEmpty_iff.mp empty
    have point : ∀ index : LineIndex, Span.emptyAt (index.location (byteLength before + 2)) =
        index.span (byteLength before + 2) (byteLength before + 2) := fun _ => rfl
    have start : Slice source (byteLength before + 2) (byteLength before + 2) [] :=
      Slice.inner [] body inside
    obtain ⟨starts, -, covers⟩ := start.covers
    rw [nothing, List.append_nil] at parts
    rw [point, nothing]
    exact ⟨_, [], body, rfl, rfl, parts ▸ spaces, starts, covers⟩
  · have trimmed := Slice.inner left right (parts ▸ inside)
    obtain ⟨starts, -, covers⟩ := trimmed.covers
    exact ⟨_, left, right, rfl, parts, spaces, starts, covers⟩

end Tag

/-- The token of a segment stands for it. -/
theorem toToken_stands {source before after : List Char} {segment : Segment}
    (whole : source = before ++ segment.source ++ after) :
    Stands source (byteLength before, segment)
      (segment.toToken (LineIndex.ofSource source) (byteLength before)) := by
  cases segment with
  | text chars =>
    have slice : Slice source (byteLength before) (byteLength before + byteLength chars) chars :=
      ⟨before, after, whole, rfl, rfl⟩
    obtain ⟨start, -, covers⟩ := slice.covers
    exact .text start covers
  | tag kind body joined =>
    obtain ⟨span, left, right, made, parts, -, starts, covers⟩ := toToken_tag whole
    have sizes := congrArg byteLength parts
    simp only [byteLength_append] at sizes
    obtain ⟨_, _, -, first, last⟩ := covers.slice
    rw [made]
    refine .tag (body_slice whole) ?_ ?_ covers
    · omega
    · omega

variable {source : List Char}

/-- The tokens of the segments that a source goes on with stand for them. -/
theorem toTokens_stand (segments : List Segment) (before tail : List Char)
    (whole : source = before ++ sources segments ++ tail) :
    List.Forall₂ (Stands source) (placed (byteLength before) segments)
      (toTokens (LineIndex.ofSource source) (byteLength before) segments) := by
  induction segments generalizing before with
  | nil => exact .nil
  | cons segment rest ih =>
    have parts : source = before ++ segment.source ++ (sources rest ++ tail) := by
      rw [whole]
      simp [sources]
    refine .cons (toToken_stands parts) ?_
    rw [← byteLength_append]
    exact ih (before ++ segment.source) (by rw [parts]; simp)

/-- The token of a segment is found behind what the segments before it take up. -/
theorem mem_toTokens {index : LineIndex} {offset : Nat} {segments : List Segment} {token : Token}
    (member : token ∈ toTokens index offset segments) :
    ∃ earlier segment later, segments = earlier ++ segment :: later ∧
      token = segment.toToken index (offset + byteLength (sources earlier)) := by
  induction segments generalizing offset with
  | nil => cases member
  | cons first rest ih =>
    rcases List.mem_cons.mp member with rfl | member
    · exact ⟨[], first, rest, rfl, rfl⟩
    · obtain ⟨earlier, segment, later, rfl, rfl⟩ := ih member
      have width : byteLength (sources (first :: earlier)) =
          byteLength first.source + byteLength (sources earlier) := byteLength_append _ _
      refine ⟨first :: earlier, segment, later, rfl, ?_⟩
      rw [width, Nat.add_assoc]

/-- The kind of the token that a segment gives. -/
def kind : Segment → TokenKind
  | .text _ => .text
  | .tag kind _ _ => kind

/-- What the token of every segment has, the tokens of all segments have. -/
theorem toTokens_map {α : Type} {f : Token → α} {g : Segment → α} {index : LineIndex}
    (single : ∀ offset segment, f (toToken index offset segment) = g segment) (offset : Nat)
    (segments : List Segment) : (toTokens index offset segments).map f = segments.map g := by
  induction segments generalizing offset with
  | nil => rfl
  | cons segment rest ih => simp only [toTokens, List.map_cons, single, ih]

theorem toTokens_kind (index : LineIndex) (offset : Nat) (segments : List Segment) :
    (toTokens index offset segments).map Token.kind = segments.map kind := by
  refine toTokens_map (fun _ segment => ?_) offset segments
  cases segment <;> rfl

theorem endInText_eq_false {segments : List Segment} : endInText segments = false ↔
    ∀ chars, segments.getLast? ≠ some (.text chars) := by
  unfold endInText
  split
  · rename_i chars last
    simp [last]
  · rename_i other
    simpa using other

/-- Only a text gives a text. -/
theorem Cut.text_of_kind {segments : List Segment} {tail : List Char} (cut : Cut segments tail)
    {segment : Segment} (member : segment ∈ segments) (isText : segment.kind = .text) :
    ∃ chars, chars ≠ [] ∧ segment = .text chars := by
  induction cut with
  | done => cases member
  | unclosed => cases member
  | tag tag _ ih =>
    rcases List.mem_cons.mp member with rfl | member
    · exact absurd isText tag.isTag
    · exact ih member
  | text nonempty _ _ _ ih =>
    rcases List.mem_cons.mp member with rfl | member
    · exact ⟨_, nonempty, rfl⟩
    · exact ih member

theorem Cut.isTag {kind : TokenKind} {body : List Char} {joined : Bool} {segments : List Segment}
    {tail : List Char} (cut : Cut segments tail) (member : .tag kind body joined ∈ segments) :
    IsTag kind body joined := by
  induction cut with
  | done | unclosed => cases member
  | tag tag _ ih =>
    rcases List.mem_cons.mp member with same | member
    · cases same
      exact tag
    · exact ih member
  | text _ _ _ _ ih =>
    rcases List.mem_cons.mp member with same | member
    · cases same
    · exact ih member

/-- After a text the source ends or a tag follows. -/
theorem Cut.alternates {segments : List Segment} {tail : List Char} (cut : Cut segments tail) :
    (segments.map kind).IsChain fun first second => first = .text → second ≠ .text := by
  induction cut with
  | done => exact .nil
  | unclosed => exact .nil
  | tag tag _ ih =>
    exact List.isChain_cons.mpr ⟨fun _ _ isText => absurd isText tag.isTag, ih⟩
  | text _ _ ends cut ih =>
    refine List.isChain_cons.mpr ⟨fun next follows _ => ?_, ih⟩
    cases cut with
    | done => cases follows
    | unclosed => cases follows
    | tag tag => cases follows; exact tag.isTag
    | text => exact absurd rfl (ends _)

end Segment

section Order

variable {source : List Char} {offset : Nat} {segment : Segment} {token : Token}

theorem Stands.ascends (stands : Stands source (offset, segment) token) :
    token.span.start.offset ≤ token.span.stop.offset := by
  cases stands with
  | text _ covers => exact covers.slice.le
  | tag _ _ _ covers => exact covers.slice.le

/-- The span of a token stays inside the segment. -/
theorem Stands.within (stands : Stands source (offset, segment) token) :
    offset ≤ token.span.start.offset ∧
      token.span.stop.offset ≤ offset + byteLength segment.source := by
  cases stands with
  | text start covers =>
    obtain ⟨before, after, -, starts, stops⟩ := covers.slice
    have inside := start.symm
    simp only [Segment.source]
    omega
  | @tag offset kind body joined span slice starts stops covers =>
    have brace : ('\x7b' : Char).utf8Size = 1 := rfl
    have marker : kind.openMarker.utf8Size = 1 := by cases kind <;> rfl
    simp only [Segment.source, byteLength_cons, byteLength_append, brace, marker]
    omega

/-- The spans of the tokens of segments follow each other inside the segments. -/
theorem tokens_inOrder {segments : List Segment} {tokens : List Token}
    (stand : List.Forall₂ (Stands source) (Segment.placed offset segments) tokens) :
    InOrder tokens ∧ ∀ token ∈ tokens, offset ≤ token.span.start.offset ∧
      token.span.stop.offset ≤ offset + byteLength (Segment.sources segments) := by
  induction segments generalizing offset tokens with
  | nil =>
    cases stand
    exact ⟨⟨.nil, nofun⟩, nofun⟩
  | cons segment rest ih =>
    cases stand with
    | @cons _ token _ tokens first others =>
      obtain ⟨⟨later, ascending⟩, inside⟩ := ih others
      obtain ⟨starts, stops⟩ := first.within
      have width : byteLength (Segment.sources (segment :: rest)) =
          byteLength segment.source + byteLength (Segment.sources rest) := byteLength_append _ _
      refine ⟨⟨List.pairwise_cons.mpr ⟨fun next member => ?_, later⟩, ?_⟩, ?_⟩
      · have := inside next member
        omega
      · exact List.forall_mem_cons.mpr ⟨first.ascends, ascending⟩
      · refine List.forall_mem_cons.mpr ⟨⟨starts, by omega⟩, fun next member => ?_⟩
        have := inside next member
        omega

end Order

/-- The token of a tail, unless a text stands before it or a tag ends the source. -/
def tailToken (index : LineIndex) (segments : List Segment) (tail : List Char) : Option Token :=
  if Segment.endInText segments || (tail.isEmpty && !segments.isEmpty) then none
  else some ⟨.text, "", index.span (index.size - byteLength tail) index.size⟩

theorem tokenize_eq {source : String} {segments : List Segment} {tail : List Char}
    (found : Segment.split source.toList = (segments, tail)) :
    let index := LineIndex.ofSource source.toList
    tokenize source =
      Segment.toTokens index 0 segments ++ (tailToken index segments tail).toList := by
  simp only [tokenize, found, tailToken]
  split <;> rfl

section Tail

variable {source : List Char} {segments : List Segment} {tail : List Char}

/-- There is a token for the tail if the source is empty, or if the tail is not and follows a tag or
starts the source. -/
theorem tailToken_isSome (cut : Segment.Cut segments tail) (index : LineIndex) :
    (tailToken index segments tail).isSome ↔ Segment.sources segments ++ tail = [] ∨
      tail ≠ [] ∧ ∀ chars, segments.getLast? ≠ some (.text chars) := by
  have spoken : (tailToken index segments tail).isSome ↔
      (Segment.endInText segments || (tail.isEmpty && !segments.isEmpty)) = false := by
    rw [tailToken]
    cases Segment.endInText segments || (tail.isEmpty && !segments.isEmpty) <;> simp
  rw [spoken, Bool.or_eq_false_iff, Segment.endInText_eq_false]
  by_cases ended : tail = []
  · have empty : Segment.sources segments ++ tail = [] ↔ segments = [] := by
      refine ⟨cut.eq_nil, ?_⟩
      rintro rfl
      exact ended
    rw [empty]
    cases segments <;> simp [ended]
  · simp [ended]

/-- The token of the tail takes in what follows the segments. -/
theorem tailToken_swallows (whole : Segment.sources segments ++ tail = source) :
    ∀ token ∈ tailToken (LineIndex.ofSource source) segments tail, Swallows source tail token ∧
      token.span.start.offset = byteLength (Segment.sources segments) := by
  have length : byteLength source = byteLength (Segment.sources segments) + byteLength tail := by
    rw [← whole, byteLength_append]
  have slice : Slice source (byteLength source - byteLength tail) (byteLength source) tail :=
    ⟨Segment.sources segments, [], by rw [whole, List.append_nil], by omega, by omega⟩
  obtain ⟨starts, -, covers⟩ := slice.covers
  intro token member
  rw [tailToken] at member
  split at member
  · cases member
  · cases member
    exact ⟨.intro covers, starts.trans (by omega)⟩

/-- The token of the tail follows a tag or stands alone. -/
theorem tailToken_alternates (cut : Segment.Cut segments tail) (index : LineIndex) :
    (segments.map Segment.kind ++ (tailToken index segments tail).toList.map Token.kind).IsChain
      fun first second => first = .text → second ≠ .text := by
  refine List.isChain_append.mpr ⟨cut.alternates, ?_, ?_⟩
  · cases tailToken index segments tail with
    | none => exact .nil
    | some token => exact .singleton _
  · intro last final next follows isText
    cases spoken : tailToken index segments tail with
    | none =>
      rw [spoken] at follows
      cases follows
    | some token =>
      have needed := (tailToken_isSome cut index).mp (by rw [spoken]; rfl)
      rw [List.getLast?_map] at final
      obtain ⟨segment, ends, rfl⟩ := Option.map_eq_some_iff.mp final
      obtain ⟨chars, -, rfl⟩ := cut.text_of_kind (List.mem_of_getLast? ends) isText
      rcases needed with empty | ⟨-, tagged⟩
      · rw [cut.eq_nil empty] at ends
        cases ends
      · exact absurd ends (tagged chars)

end Tail

/-- A token other than a text is that of a tag of the source. -/
theorem tag_of_token {source : String} {token : Token} (member : token ∈ tokenize source)
    (markup : token.kind ≠ .text) : ∃ before body joined after,
      source.toList = before ++ (Segment.tag token.kind body joined).source ++ after ∧
      Segment.IsTag token.kind body joined ∧
      token = (Segment.tag token.kind body joined).toToken (LineIndex.ofSource source.toList)
        (byteLength before) := by
  cases found : Segment.split source.toList with
  | mk segments tail =>
  obtain ⟨cut, whole⟩ := Segment.split_eq_iff.mp found
  rw [tokenize_eq found] at member
  rcases List.mem_append.mp member with member | extra
  · obtain ⟨earlier, segment, later, rfl, made⟩ := Segment.mem_toTokens member
    rw [Nat.zero_add] at made
    cases segment with
    | text chars => exact absurd (congrArg Token.kind made) markup
    | tag kind body joined =>
      obtain rfl : token.kind = kind := congrArg Token.kind made
      refine ⟨Segment.sources earlier, body, joined, Segment.sources later ++ tail, ?_,
        cut.isTag (by simp), made⟩
      rw [← whole]
      simp [Segment.sources]
  · obtain ⟨⟨-⟩, -⟩ := tailToken_swallows whole token (Option.mem_toList.mp extra)
    exact absurd rfl markup

/-- Tokens in order are followed by one that starts behind them. -/
theorem InOrder.append {tokens : List Token} {extra : Option Token} {bound : Nat}
    (inOrder : InOrder tokens) (inside : ∀ token ∈ tokens, token.span.stop.offset ≤ bound)
    (behind : ∀ token ∈ extra, bound ≤ token.span.start.offset ∧
      token.span.start.offset ≤ token.span.stop.offset) : InOrder (tokens ++ extra.toList) := by
  obtain ⟨later, ascending⟩ := inOrder
  refine ⟨List.pairwise_append.mpr ⟨later, ?_, ?_⟩, ?_⟩
  · cases extra with
    | none => exact .nil
    | some token => exact List.pairwise_singleton _ _
  · intro first member second follows
    have stops := inside first member
    have starts := behind second (Option.mem_toList.mp follows)
    omega
  · intro token member
    rcases List.mem_append.mp member with member | follows
    · exact ascending token member
    · exact (behind token (Option.mem_toList.mp follows)).2

/-- The tokens of a source partition it. The source is segments and a tail; each segment has its token, and
an extra one stands for the tail if that is not empty and follows a tag or starts the source, and for an
empty source. No two texts are neighbours, and the spans are in order. -/
theorem tokenize_partitions (source : String) :
    ∃ (segments : List Segment) (tail : List Char) (tokens : List Token) (extra : Option Token),
      Segment.Cut segments tail ∧ Segment.sources segments ++ tail = source.toList ∧
      tokenize source = tokens ++ extra.toList ∧
      List.Forall₂ (Stands source.toList) (Segment.placed 0 segments) tokens ∧
      (extra.isSome ↔ source = "" ∨ tail ≠ [] ∧ ∀ chars, segments.getLast? ≠ some (.text chars)) ∧
      (∀ token ∈ extra, Swallows source.toList tail token) ∧
      ((tokenize source).map Token.kind).IsChain (fun first second =>
        first = .text → second ≠ .text) ∧
      InOrder (tokenize source) := by
  cases found : Segment.split source.toList with
  | mk segments tail =>
  obtain ⟨cut, whole⟩ := Segment.split_eq_iff.mp found
  have stand : List.Forall₂ (Stands source.toList) (Segment.placed 0 segments)
      (Segment.toTokens (LineIndex.ofSource source.toList) 0 segments) :=
    Segment.toTokens_stand segments [] tail whole.symm
  have swallows := tailToken_swallows whole
  have tokens := tokenize_eq found
  refine ⟨segments, tail, _, _, cut, whole, tokens, stand, ?_, ?_, ?_, ?_⟩
  · have empty : source = "" ↔ Segment.sources segments ++ tail = [] := by simp [whole]
    rw [empty]
    exact tailToken_isSome cut _
  · exact fun token member => (swallows token member).1
  · rw [tokens, List.map_append, Segment.toTokens_kind]
    exact tailToken_alternates cut _
  · obtain ⟨inOrder, inside⟩ := tokens_inOrder stand
    rw [tokens]
    refine inOrder.append (fun token member => (inside token member).2) fun token member => ?_
    obtain ⟨⟨covers⟩, starts⟩ := swallows token member
    refine ⟨?_, covers.slice.le⟩
    rw [starts, Nat.zero_add]

end TextTemplate
