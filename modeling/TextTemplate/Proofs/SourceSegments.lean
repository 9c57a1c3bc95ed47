import TextTemplate.Token.Segment

/-! The cutting of a source, said without the scan. The segments and the tail follow each other without
gaps, text holds no opener, a tag ends with the first closer outside of its quotes, and only an
opener that has no such closer at all starts a tail. A source is cut in one way only, and the
scan finds it. -/
namespace TextTemplate

namespace TokenKind

/-- The quote that the text is inside of after a character. -/
def quoteStep (kind : TokenKind) : Option Char → Char → Option Char
  | some quote, c => if c = quote then none else some quote
  | none, c => if kind.honoursQuotes && isQuote c then some c else none

/-- The quote that the text is inside of after more of it. -/
def quoteAfter (kind : TokenKind) (quote : Option Char) (cs : List Char) : Option Char :=
  cs.foldl kind.quoteStep quote

/-- A text goes on with a closer that is not inside of quotes. -/
structure ClosesAt (kind : TokenKind) (quote : Option Char) (cs before after : List Char) :
    Prop where
  here : cs = before ++ kind.closeMarker :: '\x7d' :: after
  unquoted : kind.quoteAfter quote before = none

/-- If a closer follows the text, it is the first one that is not inside of quotes. -/
structure Reaches (kind : TokenKind) (quote : Option Char) (body : List Char) : Prop where
  unquoted : kind.quoteAfter quote body = none
  first : ∀ before after,
    kind.ClosesAt quote (body ++ [kind.closeMarker, '\x7d']) before after → after = []

theorem ofMarker_eq_some {c : Char} {kind : TokenKind} :
    ofMarker? c = some kind ↔ kind ≠ .text ∧ c = kind.openMarker := by
  constructor
  · intro found
    unfold ofMarker? at found
    split at found
    · cases found; exact ⟨nofun, ‹_›⟩
    · split at found
      · cases found; exact ⟨nofun, ‹_›⟩
      · split at found
        · cases found; exact ⟨nofun, ‹_›⟩
        · cases found
  · rintro ⟨isTag, rfl⟩
    cases kind with
    | text => exact absurd rfl isTag
    | _ => rfl

theorem quoteStep_openMarker (kind : TokenKind) : kind.quoteStep none kind.openMarker = none := by
  cases kind <;> rfl

@[simp] theorem quoteAfter_cons (kind : TokenKind) (quote : Option Char) (c : Char)
    (cs : List Char) : kind.quoteAfter quote (c :: cs) = kind.quoteAfter (kind.quoteStep quote c) cs :=
  rfl

variable {kind : TokenKind} {quote : Option Char} {c : Char} {cs body rest : List Char}

/-- A text starts with a closer, or the closers of it are those of the rest. -/
theorem closesAt_cons {before after : List Char} :
    kind.ClosesAt quote (c :: cs) before after ↔
      (before = [] ∧ quote = none ∧ c = kind.closeMarker ∧ cs = '\x7d' :: after) ∨
        ∃ more, before = c :: more ∧ kind.ClosesAt (kind.quoteStep quote c) cs more after := by
  constructor
  · rintro ⟨here, unquoted⟩
    cases before with
    | nil =>
      obtain ⟨first, rest⟩ := List.cons.inj here
      exact .inl ⟨rfl, unquoted, first, rest⟩
    | cons d more =>
      obtain ⟨rfl, rest⟩ := List.cons.inj here
      exact .inr ⟨more, rfl, rest, unquoted⟩
  · rintro (⟨rfl, rfl, rfl, rfl⟩ | ⟨more, rfl, here, unquoted⟩)
    · exact ⟨rfl, rfl⟩
    · exact ⟨congrArg (c :: ·) here, unquoted⟩

theorem not_closesAt_nil {before after : List Char} : ¬ kind.ClosesAt quote [] before after := by
  rintro ⟨here, -⟩
  simp at here

theorem reaches_nil : kind.Reaches quote [] ↔ quote = none := by
  constructor
  · exact fun reaches => reaches.unquoted
  · rintro rfl
    refine ⟨rfl, fun before after closes => ?_⟩
    have lengths := congrArg List.length closes.here
    simp only [List.nil_append, List.length_append, List.length_cons, List.length_nil] at lengths
    exact List.length_eq_zero_iff.mp (by omega)

/-- The first closer of a text is the first one after its first character, unless it starts there. -/
theorem reaches_cons : kind.Reaches quote (c :: body) ↔
    ¬ (quote = none ∧ c = kind.closeMarker ∧ (body ++ [kind.closeMarker]).head? = some '\x7d') ∧
      kind.Reaches (kind.quoteStep quote c) body := by
  constructor
  · intro ⟨unquoted, first⟩
    refine ⟨?_, unquoted, fun before after closes => ?_⟩
    · rintro ⟨rfl, rfl, next⟩
      obtain ⟨after, starts⟩ : ∃ after, body ++ [kind.closeMarker] = '\x7d' :: after :=
        List.head?_eq_some_iff.mp next
      have closes : kind.ClosesAt none (kind.closeMarker :: body ++ [kind.closeMarker, '\x7d']) []
          (after ++ ['\x7d']) := by
        refine ⟨?_, rfl⟩
        have whole := congrArg (· ++ ['\x7d']) starts
        simpa using whole
      simpa using first _ _ closes
    · exact first (c :: before) after (closesAt_cons.mpr (.inr ⟨before, rfl, closes⟩))
  · rintro ⟨starts, unquoted, first⟩
    refine ⟨unquoted, fun before after closes => ?_⟩
    rcases closesAt_cons.mp closes with ⟨-, outside, same, rest⟩ | ⟨more, -, closes⟩
    · refine absurd ⟨outside, same, ?_⟩ starts
      cases body with
      | nil => simpa using congrArg List.head? rest
      | cons d body => simpa using congrArg List.head? rest
    · exact first _ _ closes

end TokenKind

namespace Segment

/-- An opener starts the text. -/
def Opens (cs : List Char) : Prop :=
  ∃ kind rest, kind ≠ TokenKind.text ∧ cs = '\x7b' :: kind.openMarker :: rest

/-- No opener starts inside the text, not even one that takes its last character from what follows. -/
def Plain (chars next : List Char) : Prop :=
  ∀ rest, rest <:+ chars → rest ≠ [] → ¬ Opens (rest ++ next)

/-- An opener starts the text whose tag is never closed. -/
def Unclosed (cs : List Char) : Prop :=
  ∃ kind rest, kind ≠ TokenKind.text ∧ cs = '\x7b' :: kind.openMarker :: rest ∧
    ∀ before after, ¬ kind.ClosesAt none (kind.openMarker :: rest) before after

/-- A tag of a source. The closer is the first one outside quotes. It is looked for from the second
character of the opener on, and a tag in which it starts there has no body. -/
structure IsTag (kind : TokenKind) (body : List Char) (joined : Bool) : Prop where
  isTag : kind ≠ .text
  reaches : kind.Reaches none (if joined then [] else kind.openMarker :: body)
  overlaps : joined → body = [] ∧ kind.openMarker = kind.closeMarker

/-- The characters that segments take up one after the other. -/
def sources (segments : List Segment) : List Char := segments.flatMap Segment.source

/-- Segments and a tail that a source can be cut into. -/
inductive Cut : List Segment → List Char → Prop
  | done : Cut [] []
  | unclosed {tail : List Char} : Unclosed tail → Cut [] tail
  | tag {kind : TokenKind} {body : List Char} {joined : Bool} {segments : List Segment}
      {tail : List Char} : IsTag kind body joined → Cut segments tail →
      Cut (.tag kind body joined :: segments) tail
  | text {chars : List Char} {segments : List Segment} {tail : List Char} : chars ≠ [] →
      Plain chars (sources segments ++ tail) → (∀ others, segments.head? ≠ some (.text others)) →
      Cut segments tail → Cut (.text chars :: segments) tail

section Closers

variable {kind : TokenKind} {quote : Option Char} {c : Char} {cs body rest : List Char}

/-- The scan for the closer takes a character in, unless the closer starts there. -/
theorem splitCloser_cons : splitCloser kind quote (c :: cs) =
    if quote = none ∧ c = kind.closeMarker ∧ cs.head? = some '\x7d' then some ([], cs.tail)
    else (splitCloser kind (kind.quoteStep quote c) cs).map fun (body, rest) => (c :: body, rest) := by
  cases quote with
  | some q => simp [splitCloser, TokenKind.quoteStep]
  | none =>
    by_cases quotes : kind.honoursQuotes && isQuote c
    · have other : c ≠ kind.closeMarker := by
        rintro rfl
        cases kind <;> cases quotes
      simp [splitCloser, TokenKind.quoteStep, quotes, other]
    · simp [splitCloser, TokenKind.quoteStep, quotes]

/-- The scan finds the first closer outside quotes. -/
theorem splitCloser_eq_some : splitCloser kind quote cs = some (body, rest) ↔
    cs = body ++ kind.closeMarker :: '\x7d' :: rest ∧ kind.Reaches quote body := by
  induction cs generalizing quote body with
  | nil => simp [splitCloser]
  | cons c cs ih =>
    rw [splitCloser_cons]
    split
    · rename_i starts
      obtain ⟨rfl, rfl, next⟩ := starts
      obtain ⟨after, rfl⟩ := List.head?_eq_some_iff.mp next
      constructor
      · rintro ⟨⟩
        exact ⟨rfl, TokenKind.reaches_nil.mpr rfl⟩
      · rintro ⟨same, reaches⟩
        cases body with
        | nil => cases same; rfl
        | cons d body =>
          obtain ⟨rfl, behind⟩ := List.cons.inj same
          refine absurd ⟨rfl, rfl, ?_⟩ (TokenKind.reaches_cons.mp reaches).1
          have head := congrArg List.head? behind
          cases body <;> simpa [eq_comm] using head
    · rename_i starts
      simp only [Option.map_eq_some_iff, Prod.exists, Prod.mk.injEq]
      constructor
      · rintro ⟨more, rest, found, rfl, rfl⟩
        obtain ⟨rfl, reaches⟩ := ih.mp found
        refine ⟨rfl, TokenKind.reaches_cons.mpr ⟨fun here => starts ?_, reaches⟩⟩
        obtain ⟨rfl, rfl, next⟩ := here
        refine ⟨rfl, rfl, ?_⟩
        cases more <;> simpa using next
      · rintro ⟨same, reaches⟩
        cases body with
        | nil =>
          obtain ⟨rfl, rfl⟩ := List.cons.inj same
          exact absurd ⟨TokenKind.reaches_nil.mp reaches, rfl, rfl⟩ starts
        | cons d body =>
          obtain ⟨rfl, rfl⟩ := List.cons.inj same
          exact ⟨body, rest, ih.mpr ⟨rfl, (TokenKind.reaches_cons.mp reaches).2⟩, rfl, rfl⟩

/-- The scan fails only where there is no closer outside quotes. -/
theorem splitCloser_eq_none :
    splitCloser kind quote cs = none ↔ ∀ before after, ¬ kind.ClosesAt quote cs before after := by
  constructor
  · intro failed before after closes
    induction cs generalizing quote before with
    | nil => exact TokenKind.not_closesAt_nil closes
    | cons c cs ih =>
      rw [splitCloser_cons] at failed
      split at failed
      · cases failed
      · rename_i starts
        rcases TokenKind.closesAt_cons.mp closes with ⟨-, rfl, rfl, rfl⟩ | ⟨more, -, closes⟩
        · exact starts ⟨rfl, rfl, rfl⟩
        · exact ih (Option.map_eq_none_iff.mp failed) more closes
  · intro never
    cases found : splitCloser kind quote cs with
    | none => rfl
    | some result =>
      obtain ⟨here, reaches⟩ := splitCloser_eq_some.mp found
      exact absurd ⟨here, reaches.unquoted⟩ (never _ _)

/-- The closer of a tag is looked for from the second character of its opener on. -/
theorem splitTag_eq : splitTag kind rest =
    (splitCloser kind none (kind.openMarker :: rest)).map fun (inside, after) =>
      (.tag kind inside.tail inside.isEmpty, after) := by
  rw [splitTag, splitCloser_cons, TokenKind.quoteStep_openMarker]
  by_cases joined : kind.openMarker = kind.closeMarker ∧ rest.head? = some '\x7d'
  · simp [joined]
  · have apart : ¬ (kind.openMarker = kind.closeMarker && rest.head? = some '\x7d') := by
      simpa using joined
    simp only [apart, joined]
    simp [Function.comp_def]

/-- The tags that the scan finds are the tags of the source. -/
theorem splitTag_eq_some {segment : Segment} {after : List Char} (isTag : kind ≠ .text) :
    splitTag kind rest = some (segment, after) ↔ ∃ body joined, IsTag kind body joined ∧
      segment = .tag kind body joined ∧ '\x7b' :: kind.openMarker :: rest = segment.source ++ after := by
  simp only [splitTag_eq, Option.map_eq_some_iff, Prod.exists, Prod.mk.injEq, splitCloser_eq_some]
  constructor
  · rintro ⟨inside, after, ⟨here, reaches⟩, rfl, rfl⟩
    cases inside with
    | nil =>
      obtain ⟨overlap, rfl⟩ := List.cons.inj here
      exact ⟨[], true, ⟨isTag, reaches, fun _ => ⟨rfl, overlap⟩⟩, rfl, rfl⟩
    | cons d body =>
      obtain ⟨rfl, rfl⟩ := List.cons.inj here
      refine ⟨body, false, ⟨isTag, reaches, nofun⟩, rfl, ?_⟩
      simp [Segment.source]
  · rintro ⟨body, joined, tag, rfl, here⟩
    cases joined with
    | true =>
      obtain ⟨rfl, overlap⟩ := tag.overlaps rfl
      refine ⟨[], after, ⟨?_, tag.reaches⟩, rfl, rfl⟩
      have rest := (List.cons.inj (List.cons.inj here).2).2
      rw [rest, overlap]
      rfl
    | false =>
      refine ⟨kind.openMarker :: body, after, ⟨?_, tag.reaches⟩, rfl, rfl⟩
      have rest := (List.cons.inj here).2
      simpa [Segment.source] using rest

theorem splitTag_eq_none (isTag : kind ≠ .text) :
    splitTag kind rest = none ↔ Unclosed ('\x7b' :: kind.openMarker :: rest) := by
  rw [splitTag_eq, Option.map_eq_none_iff, splitCloser_eq_none]
  constructor
  · exact fun never => ⟨kind, rest, isTag, rfl, never⟩
  · rintro ⟨other, rest', -, same, never⟩
    obtain ⟨marker, rfl⟩ := List.cons.inj (List.cons.inj same).2
    obtain rfl : kind = other := by
      cases kind <;> cases other <;> first | rfl | exact absurd marker (by decide)
    exact never

end Closers

section Openers

variable {kind : TokenKind} {c : Char} {cs chars next rest : List Char}

theorem not_opens_single : ¬ Opens [c] := by
  rintro ⟨kind, rest, -, same⟩
  cases (List.cons.inj same).2

/-- Whether an opener starts a text is settled by its first two characters. -/
theorem opens_cons_cons {d : Char} :
    Opens (c :: d :: rest) ↔ c = '\x7b' ∧ ∃ kind, TokenKind.ofMarker? d = some kind := by
  constructor
  · rintro ⟨kind, rest, isTag, same⟩
    obtain ⟨rfl, behind⟩ := List.cons.inj same
    exact ⟨rfl, kind, TokenKind.ofMarker_eq_some.mpr ⟨isTag, (List.cons.inj behind).1⟩⟩
  · rintro ⟨rfl, kind, marked⟩
    obtain ⟨isTag, rfl⟩ := TokenKind.ofMarker_eq_some.mp marked
    exact ⟨kind, rest, isTag, rfl⟩

theorem plain_nil : Plain [] next := by
  intro rest suffix nonempty
  exact absurd (List.suffix_nil.mp suffix) nonempty

theorem plain_cons : Plain (c :: chars) next ↔ ¬ Opens (c :: chars ++ next) ∧ Plain chars next := by
  constructor
  · intro plain
    refine ⟨plain _ (List.suffix_refl _) (List.cons_ne_nil _ _), fun rest suffix => ?_⟩
    exact plain rest (List.suffix_cons_iff.mpr (.inr suffix))
  · rintro ⟨here, later⟩ rest suffix nonempty
    rcases List.suffix_cons_iff.mp suffix with rfl | suffix
    · exact here
    · exact later rest suffix nonempty

/-- Of what follows a text at most the first character has a part in whether the text holds an opener. -/
theorem Plain.of_head {next' : List Char} (plain : Plain chars next)
    (same : next' = [] ∨ next'.head? = next.head?) : Plain chars next' := by
  intro rest suffix nonempty opens
  refine plain rest suffix nonempty ?_
  match rest, nonempty with
  | c :: d :: more, _ => exact opens_cons_cons.mpr (opens_cons_cons.mp opens)
  | [c], _ =>
    cases next' with
    | nil => exact absurd opens not_opens_single
    | cons d later =>
      obtain same : (d :: later).head? = next.head? := by simpa using same
      obtain ⟨later', rfl⟩ := List.head?_eq_some_iff.mp same.symm
      exact opens_cons_cons.mpr (opens_cons_cons.mp opens)

theorem splitOpener_opens (isTag : kind ≠ .text) :
    splitOpener ('\x7b' :: kind.openMarker :: rest) = ([], some (kind, rest)) := by
  have marked := TokenKind.ofMarker_eq_some.mpr ⟨isTag, rfl⟩
  simp only [splitOpener, if_true, marked]

theorem splitOpener_cons (plain : ¬ Opens (c :: cs)) :
    splitOpener (c :: cs) = (c :: (splitOpener cs).1, (splitOpener cs).2) := by
  cases cs with
  | nil => rfl
  | cons d rest =>
    have unmarked : (if c = '\x7b' then TokenKind.ofMarker? d else none) = none := by
      split
      · rename_i brace
        rw [Option.eq_none_iff_forall_ne_some]
        exact fun kind marked => plain (opens_cons_cons.mpr ⟨brace, kind, marked⟩)
      · rfl
    simp only [splitOpener, unmarked]

/-- The scan for an opener passes over text. -/
theorem splitOpener_plain (plain : Plain chars next) :
    splitOpener (chars ++ next) = (chars ++ (splitOpener next).1, (splitOpener next).2) := by
  induction chars with
  | nil => rfl
  | cons c chars ih =>
    obtain ⟨here, later⟩ := plain_cons.mp plain
    have passed := splitOpener_cons here
    rw [List.append_eq, ih later] at passed
    exact passed

/-- Every source is text and then an opener, or text alone. -/
theorem exists_plain (cs : List Char) :
    ∃ chars next, cs = chars ++ next ∧ Plain chars next ∧ (next = [] ∨ Opens next) := by
  induction cs with
  | nil => exact ⟨[], [], rfl, plain_nil, .inl rfl⟩
  | cons c cs ih =>
    by_cases opens : Opens (c :: cs)
    · exact ⟨[], c :: cs, rfl, plain_nil, .inr opens⟩
    · obtain ⟨chars, next, rfl, plain, ends⟩ := ih
      exact ⟨c :: chars, next, rfl, plain_cons.mpr ⟨opens, plain⟩, ends⟩

end Openers

section Cutting

variable {kind : TokenKind} {body chars next rest tail : List Char} {joined : Bool}
  {segments : List Segment}

/-- The scan takes text and a tag off and goes on behind it, unless it comes to the end of the source or
to a tag that is never closed. -/
theorem split_eq (cs : List Char) : split cs =
    match splitOpener cs with
    | (chars, none) => (ofText chars, [])
    | (chars, some (kind, rest)) =>
      match splitTag kind rest with
      | none => (ofText chars, '\x7b' :: kind.openMarker :: rest)
      | some (segment, after) => (ofText chars ++ segment :: (split after).1, (split after).2) := by
  rw [split]
  cases found : splitOpener cs with
  | mk chars opened =>
    split
    · simp_all
    · rename_i kind rest opens
      obtain rfl : opened = some (kind, rest) := opens
      dsimp only
      cases splitTag kind rest <;> rfl

theorem split_nil : split [] = ([], []) := by
  rw [split_eq]
  rfl

theorem split_opener (isTag : kind ≠ .text) : split ('\x7b' :: kind.openMarker :: rest) =
    match splitTag kind rest with
    | none => ([], '\x7b' :: kind.openMarker :: rest)
    | some (segment, after) => (segment :: (split after).1, (split after).2) := by
  rw [split_eq, splitOpener_opens isTag]
  rfl

/-- Before an opener and at the end of the source a text is a segment of its own. -/
theorem split_text (nonempty : chars ≠ []) (plain : Plain chars next)
    (ends : next = [] ∨ Opens next) :
    split (chars ++ next) = (.text chars :: (split next).1, (split next).2) := by
  have kept : ofText chars = [.text chars] := by simp [ofText, nonempty]
  rw [split_eq, splitOpener_plain plain]
  rcases ends with rfl | ⟨kind, rest, isTag, rfl⟩
  · rw [split_nil, splitOpener, List.append_nil]
    simp only [kept]
  · rw [split_opener isTag, splitOpener_opens isTag, List.append_nil]
    simp only [kept]
    cases splitTag kind rest <;> rfl

theorem IsTag.split (tag : IsTag kind body joined) (after : List Char) :
    Segment.split (source (.tag kind body joined) ++ after) =
      (.tag kind body joined :: (Segment.split after).1, (Segment.split after).2) := by
  obtain ⟨rest, opened⟩ : ∃ rest, source (.tag kind body joined) ++ after =
      '\x7b' :: kind.openMarker :: rest := ⟨_, rfl⟩
  have found := (splitTag_eq_some tag.isTag).mpr ⟨body, joined, tag, rfl, opened.symm⟩
  rw [opened, split_opener tag.isTag, found]

theorem Unclosed.split (unclosed : Unclosed tail) : Segment.split tail = ([], tail) := by
  obtain ⟨kind, rest, isTag, rfl, never⟩ := unclosed
  have failed := (splitTag_eq_none isTag).mpr ⟨kind, rest, isTag, rfl, never⟩
  rw [split_opener isTag, failed]

/-- What follows a text is nothing or starts with an opener. -/
theorem Cut.opens (cut : Cut segments tail) (ends : ∀ others, segments.head? ≠ some (.text others)) :
    sources segments ++ tail = [] ∨ Opens (sources segments ++ tail) := by
  cases cut with
  | done => exact .inl rfl
  | unclosed unclosed =>
    obtain ⟨kind, rest, isTag, same, -⟩ := unclosed
    exact .inr ⟨kind, rest, isTag, same⟩
  | tag tag cut => exact .inr ⟨_, _, tag.isTag, rfl⟩
  | text => exact absurd rfl (ends _)

/-- Every segment takes up characters. -/
theorem Cut.eq_nil (cut : Cut segments tail) (empty : sources segments ++ tail = []) :
    segments = [] := by
  cases cut with
  | done => rfl
  | unclosed => rfl
  | tag => simp [sources, source] at empty
  | text nonempty => simp [sources, source, nonempty] at empty

/-- The scan finds the segments and the tail that a source is put together from. -/
theorem Cut.split (cut : Cut segments tail) :
    Segment.split (sources segments ++ tail) = (segments, tail) := by
  induction cut with
  | done => exact split_nil
  | unclosed unclosed => exact unclosed.split
  | tag tag cut ih =>
    simp only [sources, List.flatMap_cons, List.append_assoc] at ih ⊢
    rw [tag.split, ih]
  | text nonempty plain ends cut ih =>
    simp only [sources, List.flatMap_cons, List.append_assoc, source] at ih plain ⊢
    rw [split_text nonempty plain (cut.opens ends), ih]

/-- Every source is cut into segments and a tail. -/
theorem exists_cut (cs : List Char) :
    ∃ segments tail, Cut segments tail ∧ sources segments ++ tail = cs := by
  induction size : cs.length using Nat.strongRecOn generalizing cs with
  | _ length ih =>
    -- What starts with an opener is a tag and a shorter source, or it is all tail.
    have opened : ∀ next, Opens next → next.length ≤ length → ∃ segments tail, Cut segments tail ∧
        sources segments ++ tail = next ∧ ∀ others, segments.head? ≠ some (.text others) := by
      rintro _ ⟨kind, rest, isTag, rfl⟩ le
      cases found : splitTag kind rest with
      | none =>
        exact ⟨[], _, .unclosed ((splitTag_eq_none isTag).mp found), rfl, nofun⟩
      | some result =>
        obtain ⟨segment, after⟩ := result
        obtain ⟨body, joined, tag, rfl, here⟩ := (splitTag_eq_some isTag).mp found
        have shorter := splitTag_length kind rest _ after found
        have fits : rest.length + 1 + 1 ≤ length := le
        obtain ⟨segments, tail, cut, rfl⟩ := ih after.length (by omega) after rfl
        refine ⟨_, tail, .tag tag cut, ?_, nofun⟩
        rw [here]
        simp [sources]
    obtain ⟨chars, next, rfl, plain, ends⟩ := exists_plain cs
    have rest : ∃ segments tail, Cut segments tail ∧ sources segments ++ tail = next ∧
        ∀ others, segments.head? ≠ some (.text others) := by
      rcases ends with rfl | opens
      · exact ⟨[], [], .done, rfl, nofun⟩
      · exact opened next opens (by rw [← size, List.length_append]; omega)
    obtain ⟨segments, tail, cut, rfl, starts⟩ := rest
    by_cases nonempty : chars = []
    · rw [nonempty]
      exact ⟨segments, tail, cut, rfl⟩
    · refine ⟨.text chars :: segments, tail, .text nonempty plain starts cut, ?_⟩
      simp [sources, source]

/-- The scan gives the one way in which a source is cut. -/
theorem split_eq_iff {cs : List Char} :
    Segment.split cs = (segments, tail) ↔ Cut segments tail ∧ sources segments ++ tail = cs := by
  constructor
  · intro found
    obtain ⟨segments', tail', cut, rfl⟩ := exists_cut cs
    rw [cut.split] at found
    cases found
    exact ⟨cut, rfl⟩
  · rintro ⟨cut, rfl⟩
    exact cut.split

end Cutting

end Segment

end TextTemplate
