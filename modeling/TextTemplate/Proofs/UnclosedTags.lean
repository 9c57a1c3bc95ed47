import TextTemplate.Proofs.GrammarParsing

/-! Templates that are cut off. Which tags a stretch of tokens leaves open is a matter of the tokens alone:
a conditional, a loop or a block is open from its first token up to its own end, whatever parts lie
between. The reading keeps just these tags on its stack, so of a template that is read the
beginning is a template too, or it misses the end of the innermost tag that it leaves open. -/
namespace TextTemplate

/-- The keywords of the tags that have an end. -/
def pairedTags : List String := ["if", "for", "block"]

namespace Token

/-- The token starts a tag that has an end. -/
def isStart (token : Token) : Bool := token.kind = .tag && pairedTags.contains token.keyword

/-- The token is the end of the tag that another one starts. -/
def isEndOf (token start : Token) : Bool :=
  token.kind = .tag && token.keyword = "end" ++ start.keyword

end Token

/-- The first tokens of the tags that are open behind a token, the innermost first, given those that are
open before it. -/
def openBehind (opened : List Token) (token : Token) : List Token :=
  if token.isStart then token :: opened
  else match opened with
    | [] => []
    | start :: outer => if token.isEndOf start then outer else start :: outer

/-- The first tokens of the tags that some tokens leave open, the innermost first. -/
def unclosed (tokens : List Token) : List Token := tokens.foldl openBehind []

/-- The keyword of the tag that a part belongs to. -/
def OpenPart.keyword : OpenPart → String
  | .thenPart _ | .elifPart _ _ _ _ _ | .elsePart _ _ _ => "if"
  | .loopPart _ | .emptyPart _ _ => "for"
  | .blockPart _ => "block"
  | .customPart _ _ => ""

section Tokens

variable {token start : Token} {opened outer : List Token}

theorem openBehind_start (kind : token.kind = .tag) (paired : token.keyword ∈ pairedTags) :
    openBehind opened token = token :: opened := by
  simp [openBehind, Token.isStart, kind, paired]

theorem openBehind_end (kind : token.kind = .tag) (paired : start.keyword ∈ pairedTags)
    (ends : token.keyword = "end" ++ start.keyword) : openBehind (start :: outer) token = outer := by
  have apart : ∀ keyword ∈ pairedTags, "end" ++ keyword ∉ pairedTags := by decide
  simp [openBehind, Token.isStart, Token.isEndOf, kind, ends, apart _ paired]

/-- Tags that neither start nor end anything with an end. -/
theorem openBehind_other (paired : ∀ start ∈ opened, start.keyword ∈ pairedTags)
    (other : token.kind = .tag → token.keyword ∈ ["include", "extends", "elif", "else", "empty"]) :
    openBehind opened token = opened := by
  have apart : ∀ keyword ∈ ["include", "extends", "elif", "else", "empty"],
      keyword ∉ pairedTags ∧ ∀ start ∈ pairedTags, keyword ≠ "end" ++ start := by
    decide
  by_cases kind : token.kind = .tag
  · obtain ⟨single, noEnd⟩ := apart _ (other kind)
    cases opened with
    | nil => simp [openBehind, Token.isStart, single]
    | cons start outer =>
      have inside := noEnd _ (paired start List.mem_cons_self)
      simp [openBehind, Token.isStart, Token.isEndOf, single, inside]
  · cases opened <;> simp [openBehind, Token.isStart, Token.isEndOf, kind]

end Tokens

namespace Parsing

variable {s s' : Parsing} {token : Token} {next : Option Token}

theorem Stands.keyword {n : Node} (node : Stands .empty token next n) (kind : token.kind = .tag) :
    token.keyword = "include" := by
  cases node with
  | text other | comment other | output other => simp [kind] at other
  | inclusion _ keyword => exact keyword
  | custom _ _ found => cases found

theorem Opens.keyword {blocks : Table Block} {part : OpenPart} (opens : Opens .empty blocks token next part) :
    token.keyword = part.keyword ∧ part.keyword ∈ pairedTags := by
  cases opens with
  | conditional keyword | loop keyword | block keyword =>
    exact ⟨keyword, by simp [OpenPart.keyword, pairedTags]⟩
  | custom _ found => cases found

theorem Continues.keyword {body : List Node} {part part' : OpenPart}
    (more : Continues body token part part') :
    part'.keyword = part.keyword ∧ token.keyword ∈ ["elif", "else", "empty"] := by
  cases more with
  | firstBranch keyword | branch keyword | onlyElse keyword | lastElse keyword =>
    exact ⟨rfl, by simp [keyword]⟩
  | otherwise keyword => rcases keyword with keyword | keyword <;> exact ⟨rfl, by simp [keyword]⟩

theorem Ends.keyword {start : Token} {body : List Node} {part : OpenPart} {n : Node}
    (node : Ends start body token part n) (paired : part.keyword ∈ pairedTags) :
    token.keyword = "end" ++ part.keyword := by
  cases node with
  | customPart => simp [OpenPart.keyword, pairedTags] at paired
  | thenPart keyword | elifPart keyword | elsePart keyword | loopPart keyword | emptyPart keyword
  | blockPart keyword => exact keyword

/-- The stack of a reading holds the tags that the tokens leave open. -/
structure Holds (s : Parsing) (tokens : List Token) : Prop where
  tokens : s.opened.map OpenTag.token = unclosed tokens
  parts : ∀ inner ∈ s.opened, inner.token.keyword = inner.part.keyword ∧
    inner.part.keyword ∈ pairedTags

theorem holds_start : Holds {} [] := ⟨rfl, nofun⟩

theorem Holds.paired {ts : List Token} (holds : s.Holds ts) :
    ∀ start ∈ unclosed ts, start.keyword ∈ pairedTags := by
  intro start member
  rw [← holds.tokens] at member
  obtain ⟨inner, among, rfl⟩ := List.mem_map.mp member
  obtain ⟨same, paired⟩ := holds.parts inner among
  exact same ▸ paired

theorem unclosed_snoc (ts : List Token) (token : Token) :
    unclosed (ts ++ [token]) = openBehind (unclosed ts) token := by
  simp [unclosed]

/-- A token that is neither the first nor the last of a tag leaves the stack alone. -/
theorem Holds.passed {ts : List Token} (holds : s.Holds ts)
    (other : token.kind = .tag → token.keyword ∈ ["include", "extends", "elif", "else", "empty"]) :
    s.opened.map OpenTag.token = unclosed (ts ++ [token]) := by
  rw [unclosed_snoc, openBehind_other holds.paired other]
  exact holds.tokens

/-- The end of the innermost tag takes it off the stack. -/
theorem Holds.left {ts : List Token} {inner : OpenTag} {outer : List OpenTag} {n : Node}
    (holds : s.Holds ts) (kind : token.kind = .tag) (innermost : s.opened = inner :: outer)
    (node : Ends inner.token s.nodes.reverse token inner.part n) (nodes : List Node)
    (blocks : Table Block) :
    Holds { s with nodes := nodes, opened := outer, blocks := blocks } (ts ++ [token]) := by
  have parts := holds.parts
  rw [innermost] at parts
  obtain ⟨⟨same, paired⟩, others⟩ := List.forall_mem_cons.mp parts
  have ends := node.keyword paired
  rw [← same] at ends paired
  refine ⟨?_, others⟩
  rw [unclosed_snoc, ← holds.tokens, innermost, List.map_cons, openBehind_end kind paired ends]

theorem Step.holds {ts : List Token} (step : Step .empty s token next s') (holds : s.Holds ts) :
    s'.Holds (ts ++ [token]) := by
  cases step with
  | stands free node =>
    exact ⟨holds.passed fun kind => by simp [node.keyword kind], holds.parts⟩
  | parent kind keyword => exact ⟨holds.passed fun _ => by simp [keyword], holds.parts⟩
  | opens kind free part =>
    obtain ⟨same, paired⟩ := part.keyword
    refine ⟨?_, List.forall_mem_cons.mpr ⟨⟨same, paired⟩, holds.parts⟩⟩
    rw [unclosed_snoc, openBehind_start kind (same ▸ paired), ← holds.tokens]
    rfl
  | @continues outer o inner kind innermost part =>
    obtain ⟨same, among⟩ := part.keyword
    have tokens := holds.passed fun _ => List.mem_cons_of_mem _ (.tail _ among)
    have parts := holds.parts
    rw [innermost] at tokens parts
    rw [List.forall_mem_cons, ← same] at parts
    exact ⟨tokens, List.forall_mem_cons.mpr parts⟩
  | ends kind innermost node unnamed => exact holds.left kind innermost node _ _
  | declares kind innermost node block fresh => exact holds.left kind innermost node _ _

theorem holds_run {known ts : List Token} (holds : s.Holds known) (read : run .empty s ts = .ok s') :
    s'.Holds (known ++ ts) := by
  induction ts generalizing s known with
  | nil =>
    cases read
    simpa using holds
  | cons token rest ih =>
    obtain ⟨middle, step, later⟩ := run_cons read
    have whole := ih (step.holds holds) later
    simpa only [List.append_assoc, List.singleton_append] using whole

/-- What is read down to its end is read down to every place before. -/
theorem run_beginning {ts us : List Token} (read : run .empty s (ts ++ us) = .ok s') :
    ∃ middle, run .empty s ts = .ok middle := by
  induction ts generalizing s with
  | nil => exact ⟨s, rfl⟩
  | cons token rest ih =>
    obtain ⟨next, step, later⟩ := run_cons read
    obtain ⟨middle, beginning⟩ := ih later
    exact ⟨middle, (run_of_step step.alone).trans beginning⟩

/-- The end of a tag is among the keywords that its present part may end with. -/
theorem end_expected {part : OpenPart} (paired : part.keyword ∈ pairedTags) :
    "end" ++ part.keyword ∈ part.terminators := by
  cases part with
  | customPart => simp [OpenPart.keyword, pairedTags] at paired
  | thenPart | elifPart | elsePart | loopPart | emptyPart | blockPart =>
    simp [OpenPart.keyword, OpenPart.terminators]

end Parsing

/-- A reading that leaves a tag open misses the end of the innermost one. -/
theorem ofTokens_unfinished {tags : Table Tag} {name source : String} {tokens : List Token}
    {s : Parsing} {inner : OpenTag} {outer : List OpenTag} (read : Parsing.run tags {} tokens = .ok s)
    (opened : s.opened = inner :: outer) :
    Template.ofTokens tags name source tokens =
      .error (.spanned (.missingEnd inner.token.keyword inner.part.terminators) inner.token.span) := by
  simp [Template.ofTokens, read, bind, Except.bind, Parsing.finish, opened]

/-- A template that is cut off between two tokens misses the end of the innermost tag that is open there,
whichever of its parts the cut lies in, and nothing else is found wrong before. A cut outside of all
tags with an end leaves a template. -/
theorem cut_blames_innermost (name source : String) (before after : List Token) (t : Template)
    (accepted : Template.ofTokens .empty name source (before ++ after) = .ok t) :
    match unclosed before with
    | [] => ∃ shorter, Template.ofTokens .empty name source before = .ok shorter
    | start :: _ => ∃ expected, "end" ++ start.keyword ∈ expected ∧
        let e : Error := .spanned (.missingEnd start.keyword expected) start.span
        Template.ofTokens .empty name source before = .error e ∧
        e.message = "missing end tag for '" ++ start.keyword ++ "', expected " ++
          Fault.alternatives expected ∧
        e.display = "parse error" ++ e.place.text ++ ": " ++ e.message := by
  obtain ⟨s, read, -⟩ := ofTokens_iff.mp accepted
  obtain ⟨middle, beginning⟩ := Parsing.run_beginning read
  have holds : middle.Holds before := Parsing.holds_run Parsing.holds_start beginning
  rw [← holds.tokens]
  cases opened : middle.opened with
  | nil => exact ⟨_, ofTokens_iff.mpr ⟨middle, beginning, opened, rfl⟩⟩
  | cons inner outer =>
    obtain ⟨same, paired⟩ := holds.parts inner (by simp [opened])
    have expected := Parsing.end_expected paired
    rw [← same] at expected
    exact ⟨_, expected, ofTokens_unfinished beginning opened, rfl, rfl⟩

/-- A conditional with a second branch, in the body of a loop with an empty part. -/
def nestedSource : String :=
  "\x7b% for x in xs %\x7d\x7b% if a %\x7db\x7b% elif c %\x7dd\x7b% endif %\x7d" ++
    "\x7b% empty %\x7de\x7b% endfor %\x7df"

/-- Cut off in the second branch it misses the end of the conditional, which starts at offset 20. -/
theorem cut_blames_innermost_nested :
    let tokens := tokenize nestedSource
    let place : Span := ⟨⟨20, 1, 21⟩, ⟨24, 1, 25⟩⟩
    ∃ t expected, Template.ofTokens .empty "page" nestedSource (tokens.take 5 ++ tokens.drop 5) = .ok t ∧
      Template.ofTokens .empty "page" nestedSource (tokens.take 5) =
        .error (.spanned (.missingEnd "if" expected) place) := by
  intro tokens place
  let start : Token := ⟨.tag, "if a", place⟩
  have checked : (Template.ofTokens .empty "page" nestedSource tokens).toOption.isSome := by decide +kernel
  have innermost : unclosed (tokens.take 5) =
      [start, ⟨.tag, "for x in xs", ⟨⟨3, 1, 4⟩, ⟨14, 1, 15⟩⟩⟩] := by
    decide +kernel
  have keyword : start.keyword = "if" := by decide +kernel
  rw [List.take_append_drop]
  cases made : Template.ofTokens .empty "page" nestedSource tokens with
  | error e => simp [made, Except.toOption] at checked
  | ok t =>
    have blamed := cut_blames_innermost "page" nestedSource (tokens.take 5) (tokens.drop 5) t
      (by rw [List.take_append_drop, made])
    rw [innermost] at blamed
    obtain ⟨expected, -, missing, -⟩ := blamed
    exact ⟨t, expected, rfl, keyword ▸ missing⟩

end TextTemplate
