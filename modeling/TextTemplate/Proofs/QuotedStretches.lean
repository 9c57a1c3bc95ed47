import TextTemplate.Proofs.WritingBack
import TextTemplate.Template.Parse

/-! Quotes are seen alike by both scans. The one that cuts a source ends an output or a tag outside of
quotes only, and neither folding nor the cut behind the keyword takes a quote away. The one that
reads lexemes meets a quote only where a string starts and passes to where it ends. So a text
that the first one leaves closed holds no string that the second one finds open. -/
namespace TextTemplate

/-- Every quote that opens a stretch of the text has the one that closes it. -/
def Closed (cs : List Char) : Prop := TokenKind.output.quoteAfter none cs = none

section Closed

variable {c : Char} {cs taken after : List Char}

theorem quoteAfter_tag (quote : Option Char) (cs : List Char) :
    TokenKind.tag.quoteAfter quote cs = TokenKind.output.quoteAfter quote cs := by
  induction cs generalizing quote with
  | nil => rfl
  | cons c cs ih =>
    rw [TokenKind.quoteAfter_cons, TokenKind.quoteAfter_cons, ih]
    cases quote <;> rfl

theorem closed_cons (plain : ¬ isQuote c) : Closed (c :: cs) ↔ Closed cs := by
  rw [Closed, TokenKind.quoteAfter_cons]
  simp [TokenKind.quoteStep, plain, Closed]

theorem unquoted_of_all (none : cs.all fun c => !isQuote c) : ∀ c ∈ cs, ¬ isQuote c := by
  simpa using none

/-- Text without quotes may be put before a text and taken away again. -/
theorem closed_append (plain : ∀ c ∈ taken, ¬ isQuote c) : Closed (taken ++ after) ↔ Closed after := by
  induction taken with
  | nil => rfl
  | cons c taken ih =>
    obtain ⟨first, others⟩ := List.forall_mem_cons.mp plain
    rw [List.cons_append, closed_cons first, ih others]

theorem closed_dropWhile {p : Char → Bool} (plain : ∀ c ∈ cs.takeWhile p, ¬ isQuote c) :
    Closed (cs.dropWhile p) ↔ Closed cs := by
  rw [← closed_append plain, List.takeWhile_append_dropWhile]

/-- No quote is in a class of characters that neither of the two is in. -/
theorem not_quote {p : Char → Bool} (double : p '"' = false) (single : p '\'' = false) (member : p c) :
    ¬ isQuote c := by
  intro quotes
  simp only [isQuote, Bool.or_eq_true, decide_eq_true_eq] at quotes
  rcases quotes with rfl | rfl <;> exact absurd member (by simp [double, single])

theorem isSpace_not_quote (blank : Text.isSpace c) : ¬ isQuote c :=
  not_quote (by decide) (by decide) blank

theorem closed_trimStart : Closed (Text.trimStart cs) ↔ Closed cs := by
  refine closed_dropWhile fun c member => isSpace_not_quote ?_
  exact List.all_eq_true.mp List.all_takeWhile c member

end Closed

/-! The texts that expressions are read from -/

namespace Segment

variable {kind : TokenKind} {body : List Char} {joined : Bool}

/-- The contents of a tag leave a quote open only if the tag is of a kind that does not look at quotes. -/
theorem IsTag.fold_unquoted (tag : IsTag kind body joined) :
    kind.quoteAfter none (Text.fold body) = none :=
  (quoteAfter_congr (Text.fold_ink body)).trans tag.unquoted

end Segment

/-- The contents of an output or a tag open no quote that they do not close. -/
theorem contents_closed {source : String} {token : Token} (member : token ∈ tokenize source)
    (markup : token.kind = .output ∨ token.kind = .tag) : Closed token.contents.toList := by
  obtain ⟨_, body, joined, _, -, tag, made⟩ :=
    tag_of_token member (by rcases markup with kind | kind <;> simp [kind])
  have folded : token.contents.toList = Text.fold body := by
    rw [made]
    exact String.toList_ofList
  rw [folded]
  rcases markup with kind | kind
  · rw [kind] at tag
    exact tag.fold_unquoted
  · rw [kind] at tag
    exact (quoteAfter_tag none _).symm.trans tag.fold_unquoted

/-- Behind a keyword without quotes the arguments of a tag open none that they do not close. -/
theorem Token.arguments_closed {token : Token} (contents : Closed token.contents.toList)
    (plain : ∀ c ∈ token.keyword.toList, ¬ isQuote c) : Closed token.arguments.toList := by
  rw [Token.keyword, String.toList_ofList] at plain
  rw [Token.arguments, String.toList_ofList]
  exact closed_trimStart.mpr ((closed_dropWhile plain).mpr (closed_trimStart.mpr contents))

/-! The reading of lexemes -/

namespace Lexeme

variable {c : Char} {cs rest : List Char}

/-- A quote that is open is closed where the string behind it ends. -/
theorem quoteAfter_splitQuote (quote : Char) (cs : List Char) :
    TokenKind.output.quoteAfter (some quote) cs =
      match splitQuote quote cs with
      | some (_, after) => TokenKind.output.quoteAfter none after
      | none => some quote := by
  induction cs with
  | nil => rfl
  | cons c rest ih =>
    rw [TokenKind.quoteAfter_cons, TokenKind.quoteStep, splitQuote]
    split
    · rfl
    · rw [ih]
      cases splitQuote quote rest <;> rfl

/-- A lexeme is read without an open string, and what it takes of the text holds no quotes. -/
def Unquoted (rest : List Char) (read : Except Fault (Lexeme × List Char)) : Prop :=
  read ≠ .error .unbalancedQuotes ∧ ∀ l after, read = .ok (l, after) →
    ∃ taken, rest = taken ++ after ∧ ∀ c ∈ taken, ¬ isQuote c

theorem unquoted_ok {read : Lexeme × List Char} {taken : List Char} (parts : rest = taken ++ read.2)
    (plain : ∀ c ∈ taken, ¬ isQuote c) : Unquoted rest (.ok read) := by
  refine ⟨nofun, ?_⟩
  rintro l after ⟨rfl⟩
  exact ⟨taken, parts, plain⟩

theorem unquoted_error {fault : Fault} (other : fault ≠ .unbalancedQuotes) :
    Unquoted rest (.error fault) :=
  ⟨fun same => other (Except.error.inj same), nofun⟩

theorem splitNumber_append (pointed : Bool) (cs : List Char) :
    (splitNumber pointed cs).1 ++ (splitNumber pointed cs).2 = cs := by
  induction cs generalizing pointed with
  | nil => rfl
  | cons c rest ih =>
    rw [splitNumber]
    split
    · rw [List.cons_append, ih]
    · split
      · rw [List.cons_append, ih]
      · rfl

theorem splitNumber_unquoted (pointed : Bool) (cs : List Char) :
    ∀ c ∈ (splitNumber pointed cs).1, ¬ isQuote c := by
  induction cs generalizing pointed with
  | nil => exact List.forall_mem_nil _
  | cons c rest ih =>
    rw [splitNumber]
    split
    · rename_i digit
      exact List.forall_mem_cons.mpr ⟨not_quote rfl rfl digit, ih pointed⟩
    · split
      · rename_i point
        simp only [Bool.and_eq_true, decide_eq_true_eq] at point
        obtain rfl := point.1.1
        exact List.forall_mem_cons.mpr ⟨by decide, ih true⟩
      · exact List.forall_mem_nil _

theorem continuesIdentifier_not_quote (continues : continuesIdentifier c) : ¬ isQuote c :=
  not_quote (by decide +kernel) (by decide +kernel) continues

theorem next_unquoted (plain : ¬ isQuote c) (rest : List Char) : Unquoted rest (next c rest) := by
  have bare (l : Lexeme) : Unquoted rest (.ok (l, rest)) :=
    unquoted_ok (List.nil_append rest).symm (List.forall_mem_nil _)
  have sign : ∀ c ∈ ['='], ¬ isQuote c := unquoted_of_all (by decide)
  apply next_cases
  case bare => exact fun l _ => bare l
  case equals =>
    intro op fault member
    unfold withEquals
    split
    · exact unquoted_ok rfl sign
    · refine unquoted_error ?_
      rintro rfl
      simp at member
  case relation =>
    intro alone orEqual
    unfold relational
    split
    · exact unquoted_ok rfl sign
    · exact bare _
  case string => exact fun quotes => absurd quotes plain
  case number =>
    exact fun _ => unquoted_ok (splitNumber_append false rest).symm (splitNumber_unquoted false rest)
  case word =>
    refine fun _ => unquoted_ok List.takeWhile_append_dropWhile.symm fun c member => ?_
    exact continuesIdentifier_not_quote (List.all_eq_true.mp List.all_takeWhile c member)
  case unexpected => exact unquoted_error nofun

theorem next_quote (quotes : isQuote c) (rest : List Char) : next c rest = stringAfter c rest := by
  simp only [isQuote, Bool.or_eq_true, decide_eq_true_eq] at quotes
  rcases quotes with rfl | rfl <;> rfl

/-- The first lexeme of closed text is no open string, and what follows it is closed. -/
theorem next_closed (closed : Closed (c :: rest)) : next c rest ≠ .error .unbalancedQuotes ∧
    ∀ l after, next c rest = .ok (l, after) → Closed after := by
  by_cases quotes : isQuote c
  · have inside : TokenKind.output.quoteAfter (some c) rest = none := by
      rw [Closed, TokenKind.quoteAfter_cons] at closed
      simpa [TokenKind.quoteStep, TokenKind.honoursQuotes, quotes] using closed
    rw [quoteAfter_splitQuote] at inside
    rw [next_quote quotes, stringAfter]
    cases ends : splitQuote c rest with
    | none =>
      rw [ends] at inside
      cases inside
    | some parts =>
      rw [ends] at inside
      constructor
      · intro same
        cases same
      · rintro l _ ⟨rfl⟩
        exact inside
  · obtain ⟨balanced, taken⟩ := next_unquoted quotes rest
    refine ⟨balanced, fun l after read => ?_⟩
    obtain ⟨_, rfl, plain⟩ := taken l after read
    exact (closed_append plain).mp ((closed_cons quotes).mp closed)

/-- Closed text is read without an open string. -/
theorem ofText_closed (closed : Closed cs) : ofText cs ≠ .error .unbalancedQuotes := by
  induction cs using ofText.induct with
  | case1 => simp [ofText_nil]
  | case2 c rest blank ih =>
    rw [ofText_space blank]
    exact ih ((closed_cons (isSpace_not_quote blank)).mp closed)
  | case3 c rest visible fault failed =>
    rw [ofText_fault visible failed]
    intro same
    exact (next_closed closed).1 (failed.trans (congrArg _ (Except.error.inj same)))
  | case4 c rest visible l after found ih =>
    have later := ih ((next_closed closed).2 l after found)
    rw [ofText_next visible found]
    intro same
    cases read : ofText after with
    | error fault =>
      simp only [read, Except.map, Except.error.injEq] at same
      exact later (read.trans (congrArg _ same))
    | ok others => simp [read, Except.map] at same

end Lexeme

/-- The scans for tags and for lexemes agree on quotes. Whatever the source, the expression in an output is
read without an open string, and so are the arguments of a tag whose keyword holds no quote, which
is the case of every built-in tag. -/
theorem quotes_agree (source : String) (token : Token) (member : token ∈ tokenize source) :
    (token.kind = .output → Lexeme.ofText token.contents.toList ≠ .error .unbalancedQuotes) ∧
    (token.kind = .tag → (∀ c ∈ token.keyword.toList, ¬ isQuote c) →
      Lexeme.ofText token.arguments.toList ≠ .error .unbalancedQuotes) ∧
    (token.kind = .tag → token.keyword ∈ builtinTags ++ innerKeywords →
      Lexeme.ofText token.arguments.toList ≠ .error .unbalancedQuotes) := by
  have arguments (kind : token.kind = .tag) (plain : ∀ c ∈ token.keyword.toList, ¬ isQuote c) :
      Lexeme.ofText token.arguments.toList ≠ .error .unbalancedQuotes :=
    Lexeme.ofText_closed (token.arguments_closed (contents_closed member (.inr kind)) plain)
  refine ⟨fun kind => Lexeme.ofText_closed (contents_closed member (.inl kind)), arguments,
    fun kind builtin => arguments kind ?_⟩
  have unquoted : (builtinTags ++ innerKeywords).all fun keyword =>
      keyword.toList.all fun c => !isQuote c := by decide
  exact unquoted_of_all (List.all_eq_true.mp unquoted _ builtin)

/-- A closer and the other quote inside of quotes, and a tag over two lines. -/
theorem quotes_agree_closers :
    let source := "\x7b\x7b 'a\x7d\x7d \"b' \x7d\x7d\x7b% include\n 'c%\x7d' only %\x7d"
    ∃ output ∈ tokenize source, ∃ tag ∈ tokenize source,
      output.kind = .output ∧ output.contents = "'a\x7d\x7d \"b'" ∧
      Lexeme.ofText output.contents.toList ≠ .error .unbalancedQuotes ∧
      tag.kind = .tag ∧ tag.arguments = "'c%\x7d' only" ∧ (∀ c ∈ tag.keyword.toList, ¬ isQuote c) ∧
      tag.keyword ∈ builtinTags ++ innerKeywords ∧
      Lexeme.ofText tag.arguments.toList ≠ .error .unbalancedQuotes := by
  intro source
  let output : Token := ⟨.output, "'a\x7d\x7d \"b'", ⟨⟨3, 1, 4⟩, ⟨11, 1, 12⟩⟩⟩
  let tag : Token := ⟨.tag, "include 'c%\x7d' only", ⟨⟨17, 1, 18⟩, ⟨36, 2, 12⟩⟩⟩
  have tokens : tokenize source = [output, tag] := by decide +kernel
  have first : output ∈ tokenize source := by simp [tokens]
  have second : tag ∈ tokenize source := by simp [tokens]
  have plain : ∀ c ∈ tag.keyword.toList, ¬ isQuote c := unquoted_of_all (by decide +kernel)
  have builtin : tag.keyword ∈ builtinTags ++ innerKeywords := by decide +kernel
  have read := quotes_agree source tag second
  refine ⟨output, first, tag, second, rfl, rfl, (quotes_agree source output first).1 rfl, rfl, ?_, plain,
    builtin, read.2.2 rfl builtin⟩
  decide +kernel

end TextTemplate
