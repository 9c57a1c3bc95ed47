import TextTemplate.Proofs.Tokenizing

/-! Writing tokens back. A text is written as it is, and a tag in one line, its contents between single
spaces. Folding moves nothing but blanks, and where it takes blanks away between two characters it
leaves a space; so no closer and no quote comes about or gets lost, and what is read from the
written text has the same contents. Only the end of a source that is never closed is not written. -/
namespace TextTemplate

/-- A token as it is written in a template. -/
def Token.written (t : Token) : List Char :=
  match t.kind with
  | .text => t.contents.toList
  | kind => '\x7b' :: kind.openMarker :: ' ' :: (t.contents.toList ++ [' ', kind.closeMarker, '\x7d'])

/-- The template that tokens are written back to. -/
def unlex (tokens : List Token) : String := String.ofList (tokens.flatMap Token.written)

/-- What a parser reads of a token. -/
def Token.read (t : Token) : TokenKind × String := (t.kind, t.contents)

namespace Segment

/-- A tag in one line, with single spaces around its contents. -/
def oneLine : Segment → Segment
  | .text chars => .text chars
  | .tag kind body _ => .tag kind (' ' :: (Text.fold body ++ [' '])) false

/-- What a parser reads of the token of a segment. -/
def read : Segment → TokenKind × String
  | .text chars => (.text, String.ofList chars)
  | .tag kind body _ => (kind, String.ofList (Text.fold body))

theorem toTokens_read (index : LineIndex) (offset : Nat) (segments : List Segment) :
    (toTokens index offset segments).map Token.read = segments.map read := by
  refine toTokens_map (fun _ segment => ?_) offset segments
  cases segment <;> rfl

theorem read_kind (segment : Segment) : segment.read.1 = segment.kind := by
  cases segment <;> rfl

/-- The contents of a tag are those of its form in one line. -/
theorem oneLine_read (segment : Segment) : segment.oneLine.read = segment.read := by
  cases segment with
  | text chars => rfl
  | tag kind body joined => simp only [oneLine, read, Text.fold_spaced]

end Segment

section Quotes

variable {kind : TokenKind} {quote : Option Char} {c : Char}

/-- Inside quotes the quote that has been opened is remembered. -/
def Remembers (quote : Option Char) : Prop := ∀ q ∈ quote, isQuote q

theorem quoteStep_remembers (remembers : Remembers quote) :
    Remembers (kind.quoteStep quote c) := by
  intro q member
  cases quote with
  | none =>
    simp only [TokenKind.quoteStep] at member
    split at member
    · rename_i opens
      cases member
      exact (Bool.and_eq_true_iff.mp opens).2
    · cases member
  | some quote =>
    simp only [TokenKind.quoteStep] at member
    split at member
    · cases member
    · cases member
      exact remembers _ rfl

theorem isQuote_isInk (quotes : isQuote c) : Text.isInk c := by
  simp only [isQuote, Bool.or_eq_true, decide_eq_true_eq] at quotes
  rcases quotes with rfl | rfl <;> rfl

/-- Blanks and line feeds neither open nor close quotes. -/
theorem quoteStep_blank (remembers : Remembers quote) (blank : ¬ Text.isInk c) :
    kind.quoteStep quote c = quote := by
  cases quote with
  | none =>
    have plain : ¬ isQuote c := fun quotes => blank (isQuote_isInk quotes)
    simp [TokenKind.quoteStep, plain]
  | some quote =>
    have other : c ≠ quote := by
      rintro rfl
      exact blank (isQuote_isInk (remembers c rfl))
    simp [TokenKind.quoteStep, other]

/-- Only the characters that are neither blanks nor line feeds have a part in what is quoted. -/
theorem quoteAfter_ink (cs : List Char) (remembers : Remembers quote) :
    kind.quoteAfter quote (Text.ink cs) = kind.quoteAfter quote cs := by
  induction cs generalizing quote with
  | nil => rfl
  | cons c cs ih =>
    rw [TokenKind.quoteAfter_cons, Text.ink, List.filter_cons]
    split
    · rw [TokenKind.quoteAfter_cons]
      exact ih (quoteStep_remembers remembers)
    · rename_i blank
      rw [quoteStep_blank remembers blank]
      exact ih remembers

theorem quoteAfter_congr {cs ds : List Char} (same : Text.ink cs = Text.ink ds) :
    kind.quoteAfter none cs = kind.quoteAfter none ds := by
  have nothing : Remembers none := by rintro _ ⟨⟩
  rw [← quoteAfter_ink cs nothing, ← quoteAfter_ink ds nothing, same]

end Quotes

namespace Segment

variable {kind : TokenKind} {body : List Char} {joined : Bool}

theorem IsTag.unquoted (tag : IsTag kind body joined) : kind.quoteAfter none body = none := by
  cases joined with
  | true => rw [(tag.overlaps rfl).1]; rfl
  | false =>
    have unquoted := tag.reaches.unquoted
    rw [if_neg (by simp), TokenKind.quoteAfter_cons, TokenKind.quoteStep_openMarker] at unquoted
    exact unquoted

/-- There is no closer outside quotes inside the body of a tag. -/
theorem IsTag.no_closer (tag : IsTag kind body joined) {before after : List Char} :
    ¬ kind.ClosesAt none body before after := by
  rintro ⟨rfl, unquoted⟩
  cases joined with
  | true => simpa using (tag.overlaps rfl).1
  | false =>
    have closes : kind.ClosesAt none (kind.openMarker ::
        (before ++ kind.closeMarker :: '\x7d' :: after) ++ [kind.closeMarker, '\x7d'])
        (kind.openMarker :: before) (after ++ [kind.closeMarker, '\x7d']) := by
      refine ⟨by simp, ?_⟩
      rw [TokenKind.quoteAfter_cons, TokenKind.quoteStep_openMarker, unquoted]
    simpa using tag.reaches.first _ _ closes

theorem closeMarker_ne_space : kind.closeMarker ≠ ' ' := by
  cases kind <;> decide

/-- Folding brings no closer outside quotes about. -/
theorem IsTag.fold_no_closer (tag : IsTag kind body joined) {before after : List Char} :
    ¬ kind.ClosesAt none (Text.fold body) before after := by
  rintro ⟨here, unquoted⟩
  obtain ⟨before', after', same, inked⟩ :=
    Text.fold_neighbours closeMarker_ne_space (by decide) here
  exact tag.no_closer ⟨same, by rw [quoteAfter_congr inked, unquoted]⟩

/-- The form of a tag in one line is a tag. -/
theorem IsTag.oneLine (tag : IsTag kind body joined) :
    IsTag kind (' ' :: (Text.fold body ++ [' '])) false := by
  have marker := TokenKind.quoteStep_openMarker kind
  have spaced : ∀ cs, kind.quoteAfter none (kind.openMarker :: ' ' :: cs) = kind.quoteAfter none cs := by
    intro cs
    rw [TokenKind.quoteAfter_cons, marker]
    exact quoteAfter_congr (Text.ink_space cs)
  refine ⟨tag.isTag, ⟨?_, fun before after closes => ?_⟩, nofun⟩
  · have folded : Text.ink (Text.fold body ++ [' ']) = Text.ink body := by
      rw [Text.ink_append, Text.fold_ink, Text.ink_space, Text.ink_nil, List.append_nil]
    rw [if_neg (by simp), spaced, quoteAfter_congr folded, tag.unquoted]
  · obtain ⟨here, unquoted⟩ := closes
    have parts : [kind.openMarker] ++ ' ' :: (Text.fold body ++ ' ' :: [kind.closeMarker, '\x7d']) =
        before ++ kind.closeMarker :: '\x7d' :: after := by
      rw [← here]
      simp
    rcases Text.neighbours_cases closeMarker_ne_space (by decide) parts with
      ⟨more, first⟩ | ⟨more, rfl, rest⟩
    · have lengths := congrArg List.length first
      simp only [List.length_append, List.length_cons, List.length_nil] at lengths
      omega
    · rw [List.singleton_append, spaced] at unquoted
      rcases Text.neighbours_cases closeMarker_ne_space (by decide) rest with
        ⟨later, folded⟩ | ⟨later, rfl, ends⟩
      · exact absurd ⟨folded, unquoted⟩ tag.fold_no_closer
      · have lengths := congrArg List.length ends
        simp only [List.length_append, List.length_cons, List.length_nil] at lengths
        exact List.length_eq_zero_iff.mp (by omega)

/-- A segment is kept as it is or put into one line. -/
def Rewritten (old new : Segment) : Prop := new = old ∨ new = old.oneLine

variable {segments segments' : List Segment} {tail tail' : List Char}

/-- What starts the rest of a source is the same after rewriting, unless nothing is left. -/
theorem rewritten_head (rewritten : List.Forall₂ Rewritten segments segments')
    (starts : ∀ others, segments.head? ≠ some (.text others)) (ending : tail' = [] ∨ tail' = tail) :
    (sources segments' ++ tail' = [] ∨
      (sources segments' ++ tail').head? = (sources segments ++ tail).head?) ∧
    ∀ others, segments'.head? ≠ some (.text others) := by
  cases rewritten with
  | nil =>
    refine ⟨?_, nofun⟩
    rcases ending with rfl | rfl
    · exact .inl rfl
    · exact .inr rfl
  | @cons old new rest rest' first others =>
    cases old with
    | text chars => exact absurd rfl (starts chars)
    | tag kind body joined =>
      rcases first with rfl | rfl
      · exact ⟨.inr rfl, nofun⟩
      · exact ⟨.inr rfl, nofun⟩

/-- Segments stay a cut of a source when tags are put into one line and when the tail is left out. -/
theorem Cut.rewritten (cut : Cut segments tail) (rewritten : List.Forall₂ Rewritten segments segments')
    (ending : tail' = [] ∨ tail' = tail) : Cut segments' tail' := by
  induction cut generalizing segments' with
  | done =>
    cases rewritten
    obtain rfl : tail' = [] := by simpa using ending
    exact .done
  | unclosed unclosed =>
    cases rewritten
    rcases ending with rfl | rfl
    · exact .done
    · exact .unclosed unclosed
  | tag tag _ ih =>
    cases rewritten with
    | cons first others =>
      rcases first with rfl | rfl
      · exact .tag tag (ih others ending)
      · exact .tag tag.oneLine (ih others ending)
  | text nonempty plain starts cut ih =>
    cases rewritten with
    | @cons _ new _ rest' first others =>
      obtain rfl : new = .text _ := by simpa [Rewritten, Segment.oneLine] using first
      obtain ⟨same, starts⟩ := rewritten_head others starts ending
      exact .text nonempty (plain.of_head same) starts (ih others ending)

/-- Rewriting does not change what it does not change in any single segment. -/
theorem rewritten_map {α : Type} {f : Segment → α} (kept : ∀ segment, f segment.oneLine = f segment)
    (rewritten : List.Forall₂ Rewritten segments segments') : segments'.map f = segments.map f := by
  induction rewritten with
  | nil => rfl
  | cons first _ ih =>
    rw [List.map_cons, List.map_cons, ih]
    rcases first with rfl | rfl
    · rfl
    · rw [kept]

/-- The segment is a stretch of text. -/
def isText : Segment → Bool
  | .text _ => true
  | .tag _ _ _ => false

theorem endInText_eq (segments : List Segment) :
    endInText segments = ((segments.map isText).getLast? == some true) := by
  rw [List.getLast?_map, endInText]
  cases segments.getLast? with
  | none => rfl
  | some segment => cases segment <;> rfl

theorem rewritten_endInText (rewritten : List.Forall₂ Rewritten segments segments') :
    endInText segments' = endInText segments := by
  have kept : ∀ segment : Segment, segment.oneLine.isText = segment.isText := by
    intro segment
    cases segment <;> rfl
  rw [endInText_eq, endInText_eq, rewritten_map kept rewritten]

theorem toToken_written (isTag : kind ≠ .text) (index : LineIndex) (offset : Nat) :
    (toToken index offset (.tag kind body joined)).written =
      source (oneLine (.tag kind body joined)) := by
  have contents : (String.ofList (Text.fold body)).toList = Text.fold body := String.toList_ofList
  cases kind with
  | text => exact absurd rfl isTag
  | _ => simp [Token.written, toToken, source, oneLine, contents]

/-- The tokens of segments are written as the segments in one line. -/
theorem toTokens_written (cut : Cut segments tail) (index : LineIndex) (offset : Nat) :
    (toTokens index offset segments).flatMap Token.written = sources (segments.map oneLine) := by
  induction cut generalizing offset with
  | done => rfl
  | unclosed => rfl
  | @tag kind body joined _ _ tag _ ih =>
    have first : (toToken index offset (.tag kind body joined)).written = _ :=
      toToken_written tag.isTag index offset
    simp only [toTokens, List.flatMap_cons, List.map_cons, sources, first, ih]
  | @text chars _ _ _ _ _ _ ih =>
    have first : Token.written (toToken index offset (.text chars)) = chars := String.toList_ofList
    simp only [toTokens, List.flatMap_cons, List.map_cons, sources, first, ih]
    rfl

end Segment

/-- What a parser reads of the tokens of a source that is put together from segments and a tail. -/
theorem tokenize_read {segments : List Segment} {tail : List Char} (cut : Segment.Cut segments tail) :
    (tokenize (String.ofList (Segment.sources segments ++ tail))).map Token.read =
      segments.map Segment.read ++
        if Segment.endInText segments || (tail.isEmpty && !segments.isEmpty) then []
        else [(.text, "")] := by
  have found : Segment.split (String.ofList (Segment.sources segments ++ tail)).toList =
      (segments, tail) := by
    rw [String.toList_ofList]
    exact cut.split
  rw [tokenize_eq found, List.map_append, Segment.toTokens_read, tailToken]
  split <;> rfl

/-- Tags put into one line are read like before, wherever they stand in a source. -/
theorem tokenize_rewritten {segments segments' : List Segment} {tail : List Char}
    (cut : Segment.Cut segments tail)
    (rewritten : List.Forall₂ Segment.Rewritten segments segments') :
    (tokenize (String.ofList (Segment.sources segments' ++ tail))).map Token.read =
      (tokenize (String.ofList (Segment.sources segments ++ tail))).map Token.read := by
  have reads := Segment.rewritten_map Segment.oneLine_read rewritten
  have sizes : segments'.isEmpty = segments.isEmpty := by
    cases rewritten <;> rfl
  rw [tokenize_read (cut.rewritten rewritten (.inr rfl)), tokenize_read cut, reads, sizes,
    Segment.rewritten_endInText rewritten]

/-- The tokens of a source are written as its segments in one line. -/
theorem unlex_tokenize {source : String} {segments : List Segment} {tail : List Char}
    (found : Segment.split source.toList = (segments, tail)) :
    unlex (tokenize source) = String.ofList (Segment.sources (segments.map Segment.oneLine)) := by
  obtain ⟨cut, -⟩ := Segment.split_eq_iff.mp found
  have silent : (tailToken (LineIndex.ofSource source.toList) segments tail).toList.flatMap
      Token.written = [] := by
    rw [tailToken]
    split <;> rfl
  rw [tokenize_eq found, unlex, List.flatMap_append, silent, List.append_nil,
    Segment.toTokens_written cut]

section Dropped

variable {segments : List Segment} {tail : List Char}

/-- A tail that is not empty is an opener that is never closed. -/
theorem Segment.Cut.unclosed_of_tail (cut : Segment.Cut segments tail) (left : tail ≠ []) :
    Segment.Unclosed tail := by
  induction cut with
  | done => exact absurd rfl left
  | unclosed unclosed => exact unclosed
  | tag _ _ ih => exact ih left
  | text _ _ _ _ ih => exact ih left

/-- The token of a tail is an empty text. -/
theorem tailToken_read {index : LineIndex} {token : Token}
    (found : tailToken index segments tail = some token) : token.read = (.text, "") := by
  rw [tailToken] at found
  split at found
  · cases found
  · cases found
    rfl

/-- Without segments there is the token of the tail alone. -/
theorem tailToken_alone (index : LineIndex) (tail : List Char) :
    ∃ token, tailToken index [] tail = some token ∧ token.read = (.text, "") := by
  have spoken : (Segment.endInText [] || (tail.isEmpty && !([] : List Segment).isEmpty)) = false := by
    simp [Segment.endInText]
  rw [tailToken, spoken]
  exact ⟨_, rfl, rfl⟩

/-- No segment reads like the token of a tail. -/
theorem Segment.Cut.read_ne (cut : Segment.Cut segments tail) :
    (.text, "") ∉ segments.map Segment.read := by
  intro member
  obtain ⟨segment, member, read⟩ := List.mem_map.mp member
  have isText : segment.kind = .text := by rw [← Segment.read_kind, read]
  obtain ⟨chars, nonempty, rfl⟩ := cut.text_of_kind member isText
  have contents : String.ofList chars = String.ofList [] := congrArg Prod.snd read
  exact nonempty (String.ofList_injective contents)

/-- Behind segments the token of the tail is an empty text that follows a tag. -/
theorem tailToken_follows (cut : Segment.Cut segments tail) (nonempty : segments ≠ [])
    (index : LineIndex) :
    (tailToken index segments tail).isSome ↔ ∃ earlier tag empty,
      Segment.toTokens index 0 segments ++ (tailToken index segments tail).toList =
        earlier ++ [tag, empty] ∧ tag.kind ≠ .text ∧ empty.read = (.text, "") := by
  constructor
  · intro spoken
    obtain ⟨empty, found⟩ := Option.isSome_iff_exists.mp spoken
    have read := tailToken_read found
    have kinds := Segment.toTokens_kind index 0 segments
    rcases List.eq_nil_or_concat (Segment.toTokens index 0 segments) with none | ⟨earlier, tag, tokens⟩
    · rw [none] at kinds
      exact absurd (List.map_eq_nil_iff.mp kinds.symm) nonempty
    · refine ⟨earlier, tag, empty, ?_, ?_, read⟩
      · rw [tokens, found]
        simp
      · have alternates := tailToken_alternates cut index
        rw [← kinds, tokens, found] at alternates
        have neighbours := (List.isChain_append.mp alternates).2.2 tag.kind (by simp) empty.kind rfl
        exact fun same => neighbours same (congrArg Prod.fst read)
  · rintro ⟨earlier, tag, empty, tokens, -, read⟩
    by_contra silent
    rw [Option.not_isSome_iff_eq_none.mp silent, Option.toList_none, List.append_nil] at tokens
    have reads := Segment.toTokens_read index 0 segments
    refine cut.read_ne ?_
    rw [← reads, tokens, ← read]
    simp

end Dropped

/-- Tokens that are written back are read again. The tokens of a source come again with the same kinds and
contents, except for the empty text of an opener that directly follows a tag and is never closed,
which disappears. Any tags of a source, wherever they stand, can be put into one line, and the
source has tokens of the same kinds and contents. -/
theorem tokenize_unlex (source : String) :
    (∃ (kept : List Token) (dropped : Option Token),
      tokenize source = kept ++ dropped.toList ∧
      (tokenize (unlex (tokenize source))).map Token.read = kept.map Token.read ∧
      (dropped.isSome ↔ ∃ earlier tag empty, tokenize source = earlier ++ [tag, empty] ∧
        tag.kind ≠ .text ∧ empty.read = (.text, "")) ∧
      ∀ token ∈ dropped, ∃ before tail, source.toList = before ++ tail ∧
        Segment.Unclosed tail ∧ Swallows source.toList tail token) ∧
    ∀ segments', List.Forall₂ Segment.Rewritten (Segment.split source.toList).1 segments' →
      (tokenize (String.ofList
        (Segment.sources segments' ++ (Segment.split source.toList).2))).map Token.read =
        (tokenize source).map Token.read := by
  cases found : Segment.split source.toList with
  | mk segments tail =>
  obtain ⟨cut, whole⟩ := Segment.split_eq_iff.mp found
  have tokens := tokenize_eq found
  refine ⟨?_, fun segments' rewritten => ?_⟩
  · have lines : List.Forall₂ Segment.Rewritten segments (segments.map Segment.oneLine) := by
      rw [List.forall₂_map_right_iff]
      exact List.forall₂_same.mpr fun _ _ => .inr rfl
    have again := tokenize_read (cut.rewritten lines (.inl rfl))
    rw [List.append_nil, ← unlex_tokenize found,
      Segment.rewritten_map Segment.oneLine_read lines] at again
    by_cases nonempty : segments = []
    · -- Nothing was closed, and the only token is the one of the tail.
      subst nonempty
      obtain ⟨token, alone, read⟩ := tailToken_alone (LineIndex.ofSource source.toList) tail
      have single : tokenize source = [token] := by
        simpa [alone, Segment.toTokens] using tokens
      refine ⟨[token], none, single, ?_, ⟨?_, ?_⟩, ?_⟩
      · rw [again, List.map_singleton, read]
        rfl
      · rintro ⟨⟩
      · rintro ⟨earlier, tag, empty, two, -⟩
        rw [single] at two
        have lengths := congrArg List.length two
        simp at lengths
      · rintro _ ⟨⟩
    · refine ⟨_, _, tokens, ?_, ?_, fun token member => ?_⟩
      · rw [again, Segment.toTokens_read]
        simp [nonempty]
      · rw [tokens]
        exact tailToken_follows cut nonempty _
      · have spoken : (tailToken (LineIndex.ofSource source.toList) segments tail).isSome :=
          Option.isSome_of_mem member
        rcases (tailToken_isSome cut _).mp spoken with empty | ⟨left, -⟩
        · exact absurd (cut.eq_nil empty) nonempty
        · exact ⟨_, tail, whole.symm, cut.unclosed_of_tail left, (tailToken_swallows whole token member).1⟩
  · have same := tokenize_rewritten cut rewritten
    rw [whole, String.ofList_toList] at same
    exact same

end TextTemplate
