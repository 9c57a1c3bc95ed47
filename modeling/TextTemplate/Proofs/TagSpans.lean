import TextTemplate.Proofs.Tokenizing

/-! The spans of tags. A span takes in the body of the tag without the whitespace of any script at its
ends; from the contents folding takes only blanks and line feeds away there. The two agree unless
other whitespace, such as a no-break space, stands at an end of the body: the contents keep
it, and the span leaves it out. -/
namespace TextTemplate

theorem Text.isSpace_of_isBlank {c : Char} (blank : Text.isBlank c) : Text.isSpace c := by
  obtain (rfl | rfl) | rfl : (c = ' ' ∨ c = '\t') ∨ c = '\r' := by simpa [Text.isBlank] using blank
  all_goals decide

/-- A span is empty if it takes nothing in. -/
theorem Covers.isEmpty_iff {source part : List Char} {span : Span} (covers : Covers source span part) :
    span.isEmpty ↔ part = [] := by
  obtain ⟨_, _, -, starts, stops⟩ := covers.slice
  rw [Span.isEmpty, beq_iff_eq]
  cases part with
  | nil =>
    rw [byteLength_nil] at stops
    simp only [iff_true]
    omega
  | cons c part =>
    have size := c.utf8Size_pos
    rw [byteLength_cons] at stops
    simp only [reduceCtorEq, iff_false]
    omega

/-- A token has a tag of the source, and its span takes in one part of the body. The rest of the body, on
the left and on the right, is whitespace. -/
structure TagExtent (source : List Char) (token : Token) (left part right : List Char) : Prop where
  place : ∃ before joined after,
    source = before ++ (Segment.tag token.kind (left ++ part ++ right) joined).source ++ after ∧
    Segment.IsTag token.kind (left ++ part ++ right) joined ∧
    token.span.start.offset = byteLength before + 2 + byteLength left
  covers : Covers source token.span part
  contents : token.contents = String.ofList (Text.fold (left ++ part ++ right))
  spaces : ∀ c ∈ left ++ right, Text.isSpace c
  trimmed : Text.Trimmed Text.isSpace part

namespace TagExtent

/-- Every token but a text has such a tag. -/
theorem of_token {source : String} {token : Token} (member : token ∈ tokenize source)
    (markup : token.kind ≠ .text) :
    ∃ left part right, TagExtent source.toList token left part right := by
  obtain ⟨before, body, joined, after, whole, isTag, made⟩ := tag_of_token member markup
  obtain ⟨span, left, right, shape, parts, spaces, starts, covers⟩ := Segment.toToken_tag whole
  rw [shape] at made
  obtain rfl : token.span = span := congrArg Token.span made
  rw [parts] at whole isTag made
  exact ⟨left, Text.trim body, right, ⟨before, joined, after, whole, isTag, starts⟩, covers,
    congrArg Token.contents made, spaces, Text.trimWith_trimmed _ body⟩

variable {source left part right : List Char} {token : Token}

/-- The contents are what the span takes in, folded, unless whitespace that folding keeps is left out. -/
theorem contents_iff (extent : TagExtent source token left part right) :
    token.contents = String.ofList (Text.fold part) ↔ Text.ink (left ++ right) = [] := by
  rw [extent.contents, String.ofList_inj, Text.fold_ends_iff, Text.ink_append, List.append_eq_nil_iff]

/-- The contents are empty if both the span and what folding keeps of the rest are. -/
theorem contents_empty (extent : TagExtent source token left part right) :
    token.contents = "" ↔ token.span.isEmpty ∧ Text.ink (left ++ right) = [] := by
  have empty : token.contents = "" ↔ Text.fold (left ++ part ++ right) = [] := by
    rw [extent.contents]
    exact String.ofList_inj
  rw [empty, Text.fold_eq_nil_iff_ink, extent.covers.isEmpty_iff]
  simp only [Text.ink_append, List.append_eq_nil_iff]
  constructor
  · rintro ⟨⟨before, inside⟩, behind⟩
    refine ⟨?_, before, behind⟩
    cases part with
    | nil => rfl
    | cons c part =>
      -- Folding leaves nothing of `c`, but trimming would have taken a blank or a line feed away.
      have visible := extent.trimmed.first c rfl
      rcases Text.ink_eq_nil.mp inside c List.mem_cons_self with blank | rfl
      · exact absurd (Text.isSpace_of_isBlank blank) visible
      · exact absurd rfl visible
  · rintro ⟨rfl, before, behind⟩
    exact ⟨⟨before, rfl⟩, behind⟩

end TagExtent

/-- What the span of a tag takes in. The body of the tag is whitespace, the slice of the source between the
offsets of the span, and whitespace. The contents are that slice folded if the whitespace is blanks
and line feeds, and not if there is any other; they are empty if the slice is, and the whitespace
is blanks and line feeds. -/
theorem tag_span (source : String) (token : Token) (member : token ∈ tokenize source)
    (markup : token.kind ≠ .text) :
    let part := (String.Pos.Raw.extract source ⟨token.span.start.offset⟩
      ⟨token.span.stop.offset⟩).toList
    ∃ left right, TagExtent source.toList token left part right ∧
      (token.contents = String.ofList (Text.fold part) ↔
        ∀ c ∈ left ++ right, Text.isBlank c ∨ c = '\n') ∧
      (token.contents = "" ↔
        token.span.isEmpty ∧ ∀ c ∈ left ++ right, Text.isBlank c ∨ c = '\n') := by
  obtain ⟨left, part, right, extent⟩ := TagExtent.of_token member markup
  obtain ⟨-, -, taken⟩ := extent.covers.slice.extract
  simp only [taken, String.toList_ofList, ← Text.ink_eq_nil]
  exact ⟨left, right, extent, extent.contents_iff, extent.contents_empty⟩

/-- A carriage return, a line feed and a tab behind the contents are left out by folding too. -/
theorem tag_span_lines :
    let source := "\x7b\x7b x\r\n\t\x7d\x7d"
    let token : Token := ⟨.output, "x", ⟨⟨3, 1, 4⟩, ⟨4, 1, 5⟩⟩⟩
    token ∈ tokenize source ∧ token.kind ≠ .text ∧ ∃ left right,
      TagExtent source.toList token left ['x'] right ∧
      ∀ c ∈ left ++ right, Text.isBlank c ∨ c = '\n' := by
  intro source token
  have member : token ∈ tokenize source := by decide +kernel
  have markup : token.kind ≠ .text := by decide
  have part : (String.Pos.Raw.extract source ⟨3⟩ ⟨4⟩).toList = ['x'] := by decide +kernel
  obtain ⟨left, right, extent, folded, -⟩ := tag_span source token member markup
  rw [part] at extent folded
  exact ⟨member, markup, left, right, extent, folded.mp (by decide +kernel)⟩

/-- An output with a no-break space alone has contents, and its span is empty. -/
theorem tag_span_leaves_out :
    let source := "\x7b\x7b \u00a0 \x7d\x7d"
    let token : Token := ⟨.output, "\u00a0", ⟨⟨2, 1, 3⟩, ⟨2, 1, 3⟩⟩⟩
    token ∈ tokenize source ∧
      token.contents ≠ String.ofList (Text.fold (String.Pos.Raw.extract source
        ⟨token.span.start.offset⟩ ⟨token.span.stop.offset⟩).toList) ∧
      ¬ (token.span.isEmpty ↔ token.contents = "") := by
  decide +kernel

end TextTemplate
