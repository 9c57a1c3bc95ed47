import Mathlib.Tactic.SplitIfs
import TextTemplate.Template.Parse

/-! What the reading of one token does to a reading, said once. A token stands for a node by itself,
declares the parent, opens a tag, continues the innermost open tag with another part, or ends
it. Everything that holds of a template because of the way it was read is derived from these. -/
namespace TextTemplate

/-- A token that is no tag in the sense that the declaration of a parent may come after it. -/
def Token.isContent (token : Token) : Bool := token.kind = .text || token.kind = .comment

/-- The end of a block says the name of the block or none. -/
def Token.closesBlock (token : Token) (name : String) : Bool :=
  match token.components with
  | [_] => true
  | [_, closing] => closing = name
  | _ => false

/-- The block that a node is. -/
def Node.block? : Node → Option Block
  | .block span name body => some ⟨span, name, body⟩
  | _ => none

namespace Parsing

/-- A keyword that is neither missing nor built in. -/
def isForeign (keyword : String) : Bool := keyword ≠ "" && !isBuiltinTag keyword

/-- The node that a token makes by itself. -/
inductive Stands (tags : Table Tag) (token : Token) (next : Option Token) : Node → Prop where
  | text (kind : token.kind = .text) : Stands tags token next (.text token.span token.contents)
  | comment (kind : token.kind = .comment) :
      Stands tags token next (.comment token.span token.contents)
  | output (kind : token.kind = .output) (written : token.contents ≠ "")
      (read : Pipeline.ofText token.span token.contents = .ok p) :
      Stands tags token next (.output token.span token.contents p)
  | inclusion (kind : token.kind = .tag) (keyword : token.keyword = "include")
      (read : readInclude token = .ok header) :
      Stands tags token next (.inclusion token.span header)
  | custom (kind : token.kind = .tag) (foreign : isForeign token.keyword)
      (found : Table.get? tags token.keyword = some tag)
      (started : tag.start token next = .ok ⟨action, none⟩) :
      Stands tags token next (.custom token.span token.keyword action [])

/-- The first part of the tag that a token opens. -/
inductive Opens (tags : Table Tag) (blocks : Table Block) (token : Token) (next : Option Token) :
    OpenPart → Prop where
  | conditional (keyword : token.keyword = "if") (read : tagCondition token = .ok condition) :
      Opens tags blocks token next (.thenPart condition)
  | loop (keyword : token.keyword = "for")
      (read : inArguments token (readWhole (readLoopHeader token.span) token.arguments) = .ok header) :
      Opens tags blocks token next (.loopPart header)
  | block (keyword : token.keyword = "block") (named : token.components = [word, name])
      (valid : isBlockName name) (fresh : Table.contains blocks name = false) :
      Opens tags blocks token next (.blockPart name)
  | custom (foreign : isForeign token.keyword) (found : Table.get? tags token.keyword = some tag)
      (started : tag.start token next = .ok ⟨action, some terminator⟩) :
      Opens tags blocks token next (.customPart action terminator)

/-- The part that a terminator puts in the place of one with the given nodes. -/
inductive Continues (body : List Node) (token : Token) : OpenPart → OpenPart → Prop where
  | firstBranch (keyword : token.keyword = "elif") (read : tagCondition token = .ok next) :
      Continues body token (.thenPart condition) (.elifPart condition body [] token next)
  | branch (keyword : token.keyword = "elif") (read : tagCondition token = .ok next) :
      Continues body token (.elifPart condition thenBody branches start current)
        (.elifPart condition thenBody (.mk (start.span.through token.span) current body :: branches)
          token next)
  | onlyElse (keyword : token.keyword = "else") (bare : token.isBare) :
      Continues body token (.thenPart condition) (.elsePart condition body [])
  | lastElse (keyword : token.keyword = "else") (bare : token.isBare) :
      Continues body token (.elifPart condition thenBody branches start current)
        (.elsePart condition thenBody
          (.mk (start.span.through token.span) current body :: branches))
  | otherwise (keyword : token.keyword = "empty" ∨ token.keyword = "else") (bare : token.isBare) :
      Continues body token (.loopPart header) (.emptyPart header body)

/-- The node of a tag that ends with the given nodes in its present part. -/
inductive Ends (start : Token) (body : List Node) (token : Token) : OpenPart → Node → Prop where
  | thenPart (keyword : token.keyword = "endif") (bare : token.isBare) :
      Ends start body token (.thenPart condition)
        (.conditional (start.span.through token.span) condition body [] none)
  | elifPart (keyword : token.keyword = "endif") (bare : token.isBare) :
      Ends start body token (.elifPart condition thenBody branches branchStart current)
        (.conditional (start.span.through token.span) condition thenBody
          (Branch.mk (branchStart.span.through token.span) current body :: branches).reverse none)
  | elsePart (keyword : token.keyword = "endif") (bare : token.isBare) :
      Ends start body token (.elsePart condition thenBody branches)
        (.conditional (start.span.through token.span) condition thenBody branches.reverse (some body))
  | loopPart (keyword : token.keyword = "endfor") (bare : token.isBare) :
      Ends start body token (.loopPart header)
        (.loop (start.span.through token.span) header body none)
  | emptyPart (keyword : token.keyword = "endfor") (bare : token.isBare) :
      Ends start body token (.emptyPart header loopBody)
        (.loop (start.span.through token.span) header loopBody (some body))
  | blockPart (keyword : token.keyword = "endblock") (named : token.closesBlock name) :
      Ends start body token (.blockPart name)
        (.block (start.span.through token.span) name body)
  | customPart (keyword : token.keyword = terminator) (named : terminator ≠ "") :
      Ends start body token (.customPart action terminator)
        (.custom start.span start.keyword action body)

/-- The reading after the declaration of a parent. -/
def inheriting (s : Parsing) (token : Token) (p : Pipeline) : Parsing :=
  { s with
    nodes := .inheritance token.span p :: s.nodes
    anyTag := true
    parent := some ⟨token.span, p⟩ }

/-- A token ends no part of the innermost open tag. -/
def Free (s : Parsing) (token : Token) : Prop :=
  token.kind = .tag → s.innermostEndedBy token = none

/-- What the reading of one token does. -/
inductive Step (tags : Table Tag) (s : Parsing) (token : Token) (next : Option Token) :
    Parsing → Prop where
  | stands (free : s.Free token) (node : Stands tags token next n) :
      Step tags s token next { s with nodes := n :: s.nodes, anyTag := s.anyTag || !token.isContent }
  | parent (kind : token.kind = .tag) (keyword : token.keyword = "extends")
      (first : s.anyTag = false) (outermost : s.opened = []) (unset : s.parent = none)
      (read : inArguments token (Pipeline.ofText token.span token.arguments) = .ok p) :
      Step tags s token next (s.inheriting token p)
  | opens (kind : token.kind = .tag) (free : s.Free token) (part : Opens tags s.blocks token next o) :
      Step tags s token next ({ s with anyTag := true }.enter token o)
  | continues {inner : OpenTag} (kind : token.kind = .tag) (innermost : s.opened = inner :: outer)
      (part : Continues s.nodes.reverse token inner.part o) :
      Step tags s token next (s.continueWith inner outer o)
  | ends {inner : OpenTag} (kind : token.kind = .tag) (innermost : s.opened = inner :: outer)
      (node : Ends inner.token s.nodes.reverse token inner.part n) (unnamed : n.block? = none) :
      Step tags s token next (s.leave inner outer n)
  | declares {inner : OpenTag} (kind : token.kind = .tag) (innermost : s.opened = inner :: outer)
      (node : Ends inner.token s.nodes.reverse token inner.part n) (block : n.block? = some b)
      (fresh : Table.contains s.blocks b.name = false) :
      Step tags s token next
        { s.leave inner outer n with blocks := Table.insert s.blocks b.name b }

variable {tags : Table Tag} {s s' : Parsing} {token : Token} {next : Option Token}

/-! Every reading that succeeds is such a step -/

theorem requireBare_ok (passed : requireBare token = .ok ()) : token.isBare := by
  unfold requireBare at passed
  split at passed
  · assumption
  · cases passed

theorem requireFresh_ok {name : String} (passed : s.requireFresh token name = .ok ()) :
    Table.contains s.blocks name = false := by
  unfold requireFresh at passed
  split at passed
  · cases passed
  · rename_i fresh
    simpa using fresh

theorem endBlock_eq (inner : OpenTag) (outer : List OpenTag) (name : String) :
    s.endBlock inner outer token name =
      if !token.closesBlock name then .error (.spanned (.mismatchedEnd token.contents name) token.span)
      else (s.requireFresh inner.token name).bind fun _ =>
        .ok { s with
          nodes := .block (inner.token.span.through token.span) name s.nodes.reverse :: inner.before
          opened := outer
          blocks := Table.insert s.blocks name
            ⟨inner.token.span.through token.span, name, s.nodes.reverse⟩ } :=
  rfl

theorem ended_innermost {inner : OpenTag} {outer : List OpenTag}
    (ended : s.innermostEndedBy token = some (inner, outer)) :
    s.opened = inner :: outer ∧ token.keyword ∈ inner.part.terminators := by
  unfold innermostEndedBy at ended
  split at ended
  · cases ended
  · rename_i present
    split at ended
    · rename_i among
      cases ended
      exact ⟨present, by simpa using among⟩
    · cases ended

/-- A node that stands by itself goes to the end of the innermost list. -/
theorem Step.pushed {n : Node} {anyTag : Bool} (free : s.Free token)
    (node : Stands tags token next n) (counts : (s.anyTag || !token.isContent) = anyTag) :
    Step tags s token next { s with nodes := n :: s.nodes, anyTag := anyTag } := by
  subst counts
  exact .stands free node

theorem startCustom_cases (kind : token.kind = .tag) (free : s.Free token) {tag : Tag}
    (foreign : isForeign token.keyword) (found : Table.get? tags token.keyword = some tag)
    (read : { s with anyTag := true }.startCustom token next tag = .ok s') :
    Step tags s token next s' := by
  obtain ⟨⟨action, terminator⟩, started, rest⟩ := bind_ok read
  cases terminator with
  | none =>
    cases rest
    exact .pushed free (.custom kind foreign found started) (by simp [Token.isContent, kind])
  | some terminator =>
    cases rest
    exact .opens kind free (.custom foreign found started)

theorem startTag_cases (kind : token.kind = .tag) (named : token.keyword ≠ "") (free : s.Free token)
    (read : startTag tags { s with anyTag := true } token next (!s.anyTag) = .ok s') :
    Step tags s token next s' := by
  unfold startTag at read
  split_ifs at read with isIf isFor isBlock isExtends isInclude
  · obtain ⟨condition, tested, rest⟩ := bind_ok read
    cases rest
    exact .opens kind free (.conditional isIf tested)
  · obtain ⟨header, headed, rest⟩ := bind_ok read
    cases rest
    exact .opens kind free (.loop isFor headed)
  · unfold startBlock at read
    split at read
    · rename_i word name words
      split_ifs at read with invalid
      obtain ⟨_, fresh, rest⟩ := bind_ok read
      cases rest
      exact .opens kind free (.block isBlock words (by simpa using invalid) (requireFresh_ok fresh))
    · cases read
  · unfold declareParent at read
    split_ifs at read with repeated late
    obtain ⟨p, written, rest⟩ := bind_ok read
    cases rest
    simp only [Bool.not_not, Bool.or_eq_true, Bool.not_eq_eq_eq_not, Bool.not_true, not_or,
      Bool.not_eq_true, List.isEmpty_iff, Bool.not_eq_false] at late
    exact .parent kind isExtends late.1 late.2 (by simpa using repeated) written
  · obtain ⟨header, headed, rest⟩ := bind_ok read
    cases rest
    exact .pushed free (.inclusion kind isInclude headed) (by simp [Token.isContent, kind])
  · split at read
    · rename_i tag found
      refine startCustom_cases kind free ?_ found read
      simp [isForeign, isBuiltinTag, builtinTags, *]
    · cases read

theorem terminate_cases {inner : OpenTag} {outer : List OpenTag} (kind : token.kind = .tag)
    (named : token.keyword ≠ "") (present : s.opened = inner :: outer)
    (among : token.keyword ∈ inner.part.terminators) (read : s.terminate inner outer token = .ok s') :
    Step tags s token next s' := by
  obtain ⟨start, part, before⟩ := inner
  cases part with
  | thenPart condition =>
    unfold terminate endConditionalPart at read
    dsimp only at read
    split_ifs at read with isElif isElse
    · obtain ⟨current, tested, rest⟩ := bind_ok read
      cases rest
      exact .continues kind present (.firstBranch isElif tested)
    · obtain ⟨_, bare, rest⟩ := bind_ok read
      cases rest
      exact .continues kind present (.onlyElse isElse (requireBare_ok bare))
    · obtain ⟨_, bare, rest⟩ := bind_ok read
      cases rest
      refine .ends kind present (.thenPart ?_ (requireBare_ok bare)) rfl
      simpa [OpenPart.terminators, isElif, isElse] using among
  | elifPart condition thenBody branches branchStart current =>
    unfold terminate endConditionalPart at read
    dsimp only at read
    split_ifs at read with isElif isElse
    · obtain ⟨later, tested, rest⟩ := bind_ok read
      cases rest
      exact .continues kind present (.branch isElif tested)
    · obtain ⟨_, bare, rest⟩ := bind_ok read
      cases rest
      exact .continues kind present (.lastElse isElse (requireBare_ok bare))
    · obtain ⟨_, bare, rest⟩ := bind_ok read
      cases rest
      refine .ends kind present (.elifPart ?_ (requireBare_ok bare)) rfl
      simpa [OpenPart.terminators, isElif, isElse] using among
  | elsePart condition thenBody branches =>
    obtain ⟨_, bare, rest⟩ := bind_ok read
    cases rest
    refine .ends kind present (.elsePart ?_ (requireBare_ok bare)) rfl
    simpa [OpenPart.terminators] using among
  | loopPart header =>
    unfold terminate at read
    obtain ⟨_, bare, rest⟩ := bind_ok read
    split_ifs at rest with isEnd
    · cases rest
      exact .ends kind present (.loopPart isEnd (requireBare_ok bare)) rfl
    · cases rest
      refine .continues kind present (.otherwise ?_ (requireBare_ok bare))
      simpa [OpenPart.terminators, isEnd] using among
  | emptyPart header loopBody =>
    obtain ⟨_, bare, rest⟩ := bind_ok read
    cases rest
    refine .ends kind present (.emptyPart ?_ (requireBare_ok bare)) rfl
    simpa [OpenPart.terminators] using among
  | blockPart name =>
    unfold terminate at read
    dsimp only at read
    rw [endBlock_eq] at read
    split_ifs at read with unnamed
    obtain ⟨_, fresh, rest⟩ := bind_ok read
    cases rest
    refine .declares kind present (.blockPart ?_ (by simpa using unnamed)) rfl (requireFresh_ok fresh)
    simpa [OpenPart.terminators] using among
  | customPart action terminator =>
    cases read
    have same : token.keyword = terminator := by simpa [OpenPart.terminators] using among
    exact .ends kind present (.customPart same (same ▸ named)) rfl

theorem step_cases (read : s.step tags token next = .ok s') : Step tags s token next s' := by
  unfold step at read
  split at read
  · rename_i kind
    cases read
    exact .pushed (by simp [Free, kind]) (.text kind) (by simp [Token.isContent, kind])
  · rename_i kind
    cases read
    exact .pushed (by simp [Free, kind]) (.comment kind) (by simp [Token.isContent, kind])
  · rename_i kind
    unfold readOutput at read
    split_ifs at read with nothing
    split at read
    · rename_i p written
      cases read
      exact .pushed (by simp [Free, kind]) (.output kind nothing written)
        (by simp [Token.isContent, kind])
    · cases read
  · rename_i kind
    split_ifs at read with unnamed
    split at read
    · rename_i inner outer ended
      obtain ⟨present, among⟩ := ended_innermost ended
      exact terminate_cases kind unnamed present among read
    · rename_i free
      exact startTag_cases kind unnamed (fun _ => free) read

/-! Every such step is a reading that succeeds -/

theorem innermost_ended {inner : OpenTag} {outer : List OpenTag} (present : s.opened = inner :: outer)
    (among : token.keyword ∈ inner.part.terminators) :
    s.innermostEndedBy token = some (inner, outer) := by
  unfold innermostEndedBy
  simp [present, among]

theorem foreign_cases (foreign : isForeign token.keyword) :
    token.keyword ≠ "" ∧ token.keyword ≠ "if" ∧ token.keyword ≠ "for" ∧ token.keyword ≠ "block" ∧
      token.keyword ≠ "extends" ∧ token.keyword ≠ "include" := by
  simpa [isForeign, isBuiltinTag, builtinTags] using foreign

theorem step_free (kind : token.kind = .tag) (free : s.Free token) (named : token.keyword ≠ "") :
    s.step tags token next = startTag tags { s with anyTag := true } token next (!s.anyTag) := by
  unfold step
  simp [kind, named, free kind]

theorem step_ended {inner : OpenTag} {outer : List OpenTag} (kind : token.kind = .tag)
    (named : token.keyword ≠ "") (present : s.opened = inner :: outer)
    (among : token.keyword ∈ inner.part.terminators) :
    s.step tags token next = s.terminate inner outer token := by
  unfold step
  simp [kind, named, innermost_ended present among]

theorem requireBare_of_isBare (bare : token.isBare) : requireBare token = .ok () := if_pos bare

theorem requireFresh_of_fresh {name : String} (fresh : Table.contains s.blocks name = false) :
    s.requireFresh token name = .ok () := by
  simp [requireFresh, fresh]

theorem Stands.step {n : Node} (free : s.Free token) (node : Stands tags token next n) :
    s.step tags token next =
      .ok { s with nodes := n :: s.nodes, anyTag := s.anyTag || !token.isContent } := by
  cases node with
  | text kind => simp [Parsing.step, kind, push, Token.isContent]
  | comment kind => simp [Parsing.step, kind, push, Token.isContent]
  | output kind written read =>
    simp [Parsing.step, readOutput, kind, written, read, push, Token.isContent]
  | inclusion kind keyword read =>
    rw [step_free kind free (by simp [keyword])]
    simp [startTag, keyword, read, bind, Except.bind, push, Token.isContent, kind]
  | custom kind foreign found started =>
    obtain ⟨named, notIf, notFor, notBlock, notExtends, notInclude⟩ := foreign_cases foreign
    rw [step_free kind free named]
    simp [startTag, startCustom, notIf, notFor, notBlock, notExtends, notInclude, found, started, bind,
      Except.bind, push, Token.isContent, kind]

theorem Opens.step {o : OpenPart} (kind : token.kind = .tag) (free : s.Free token)
    (part : Opens tags s.blocks token next o) :
    s.step tags token next = .ok ({ s with anyTag := true }.enter token o) := by
  cases part with
  | conditional keyword read =>
    rw [step_free kind free (by simp [keyword])]
    simp [startTag, keyword, read, bind, Except.bind]
  | loop keyword read =>
    rw [step_free kind free (by simp [keyword])]
    simp [startTag, keyword, read, bind, Except.bind]
  | block keyword named valid fresh =>
    rw [step_free kind free (by simp [keyword])]
    simp [startTag, startBlock, keyword, named, valid, requireFresh, fresh, bind, Except.bind]
  | custom foreign found started =>
    obtain ⟨named, notIf, notFor, notBlock, notExtends, notInclude⟩ := foreign_cases foreign
    rw [step_free kind free named]
    simp [startTag, startCustom, notIf, notFor, notBlock, notExtends, notInclude, found, started, bind,
      Except.bind]

theorem Continues.terminate {inner : OpenTag} {outer : List OpenTag} {o : OpenPart}
    (part : Continues s.nodes.reverse token inner.part o) :
    token.keyword ∈ inner.part.terminators ∧ token.keyword ≠ "" ∧
      s.terminate inner outer token = .ok (s.continueWith inner outer o) := by
  obtain ⟨start, present, before⟩ := inner
  dsimp only at part
  cases part with
  | firstBranch keyword read =>
    refine ⟨by simp [OpenPart.terminators, keyword], by simp [keyword], ?_⟩
    simp [Parsing.terminate, endConditionalPart, keyword, read, bind, Except.bind]
  | branch keyword read =>
    refine ⟨by simp [OpenPart.terminators, keyword], by simp [keyword], ?_⟩
    simp [Parsing.terminate, endConditionalPart, keyword, read, bind, Except.bind]
  | onlyElse keyword bare =>
    refine ⟨by simp [OpenPart.terminators, keyword], by simp [keyword], ?_⟩
    simp [Parsing.terminate, endConditionalPart, keyword, requireBare_of_isBare bare, bind, Except.bind]
  | lastElse keyword bare =>
    refine ⟨by simp [OpenPart.terminators, keyword], by simp [keyword], ?_⟩
    simp [Parsing.terminate, endConditionalPart, keyword, requireBare_of_isBare bare, bind, Except.bind]
  | otherwise keyword bare =>
    rcases keyword with keyword | keyword
    · refine ⟨by simp [OpenPart.terminators, keyword], by simp [keyword], ?_⟩
      simp [Parsing.terminate, keyword, requireBare_of_isBare bare, bind, Except.bind]
    · refine ⟨by simp [OpenPart.terminators, keyword], by simp [keyword], ?_⟩
      simp [Parsing.terminate, keyword, requireBare_of_isBare bare, bind, Except.bind]

theorem Ends.terminator {start : Token} {body : List Node} {o : OpenPart} {n : Node}
    (node : Ends start body token o n) : token.keyword ∈ o.terminators ∧ token.keyword ≠ "" := by
  cases node with
  | customPart keyword named => exact ⟨by simp [OpenPart.terminators, keyword], keyword ▸ named⟩
  | thenPart keyword | elifPart keyword | elsePart keyword | loopPart keyword | emptyPart keyword
  | blockPart keyword => exact ⟨by simp [OpenPart.terminators, keyword], by simp [keyword]⟩

theorem Ends.terminate {inner : OpenTag} {outer : List OpenTag} {n : Node}
    (node : Ends inner.token s.nodes.reverse token inner.part n) :
    (n.block? = none → s.terminate inner outer token = .ok (s.leave inner outer n)) ∧
      ∀ b, n.block? = some b → Table.contains s.blocks b.name = false →
        s.terminate inner outer token =
          .ok { s.leave inner outer n with blocks := Table.insert s.blocks b.name b } := by
  obtain ⟨start, present, before⟩ := inner
  dsimp only at node
  cases node with
  | thenPart keyword bare =>
    refine ⟨fun _ => ?_, nofun⟩
    simp [Parsing.terminate, endConditionalPart, keyword, requireBare_of_isBare bare, bind, Except.bind]
  | elifPart keyword bare =>
    refine ⟨fun _ => ?_, nofun⟩
    simp [Parsing.terminate, endConditionalPart, keyword, requireBare_of_isBare bare, bind, Except.bind]
  | elsePart keyword bare =>
    refine ⟨fun _ => ?_, nofun⟩
    simp [Parsing.terminate, requireBare_of_isBare bare, bind, Except.bind]
  | loopPart keyword bare =>
    refine ⟨fun _ => ?_, nofun⟩
    simp [Parsing.terminate, keyword, requireBare_of_isBare bare, bind, Except.bind]
  | emptyPart keyword bare =>
    refine ⟨fun _ => ?_, nofun⟩
    simp [Parsing.terminate, requireBare_of_isBare bare, bind, Except.bind]
  | blockPart keyword named =>
    refine ⟨nofun, fun b block fresh => ?_⟩
    cases block
    simp [Parsing.terminate, endBlock_eq, named, requireFresh_of_fresh fresh, Except.bind, leave]
  | customPart keyword named => exact ⟨fun _ => rfl, nofun⟩

/-- The steps are exactly the readings that succeed. -/
theorem step_iff : s.step tags token next = .ok s' ↔ Step tags s token next s' := by
  refine ⟨step_cases, fun step => ?_⟩
  cases step with
  | stands free node => exact node.step free
  | parent kind keyword first outermost unset read =>
    have free : s.Free token := fun _ => by simp [innermostEndedBy, outermost]
    rw [step_free kind free (by simp [keyword])]
    simp [startTag, declareParent, keyword, first, outermost, unset, read, bind, Except.bind, push,
      inheriting]
  | opens kind free part => exact part.step kind free
  | continues kind innermost part =>
    obtain ⟨among, named, read⟩ := part.terminate
    exact (step_ended kind named innermost among).trans read
  | ends kind innermost node unnamed =>
    obtain ⟨among, named⟩ := node.terminator
    exact (step_ended kind named innermost among).trans (node.terminate.1 unnamed)
  | declares kind innermost node block fresh =>
    obtain ⟨among, named⟩ := node.terminator
    exact (step_ended kind named innermost among).trans (node.terminate.2 _ block fresh)

/-! Whole readings -/

theorem run_cons {tokens : List Token} (read : run tags s (token :: tokens) = .ok s') :
    ∃ middle, Step tags s token tokens.head? middle ∧ run tags middle tokens = .ok s' := by
  obtain ⟨middle, first, rest⟩ := bind_ok read
  exact ⟨middle, step_cases first, rest⟩

/-- What every step with one of the tokens keeps holds when the tokens have been read. -/
theorem run_keeps {kept : Parsing → Prop} {tokens : List Token}
    (keeps : ∀ token ∈ tokens, ∀ s next s', Step tags s token next s' → kept s → kept s')
    (start : kept s) (read : run tags s tokens = .ok s') : kept s' := by
  induction tokens generalizing s with
  | nil =>
    cases read
    exact start
  | cons token rest ih =>
    obtain ⟨middle, first, later⟩ := run_cons read
    have next := keeps token List.mem_cons_self _ _ _ first start
    exact ih (fun other member => keeps other (List.mem_cons_of_mem token member)) next later

end Parsing

variable {tags : Table Tag} {name source : String} {t : Template}

/-- A template is a reading that left no tag open. -/
theorem ofTokens_iff {tokens : List Token} :
    Template.ofTokens tags name source tokens = .ok t ↔
      ∃ s, Parsing.run tags {} tokens = .ok s ∧ s.opened = [] ∧
        t = ⟨name, source, s.nodes.reverse, s.parent, s.blocks⟩ := by
  constructor
  · intro made
    obtain ⟨s, read, ended⟩ := bind_ok made
    refine ⟨s, read, ?_⟩
    unfold Parsing.finish at ended
    split at ended
    · rename_i none
      cases ended
      exact ⟨none, rfl⟩
    · cases ended
  · rintro ⟨s, read, none, rfl⟩
    simp [Template.ofTokens, read, bind, Except.bind, Parsing.finish, none]

/-- A template that was read from its source was read from the tokens of the source. -/
theorem ofSource_tokens (made : Template.ofSource tags name source = .ok t) :
    Template.ofTokens tags name source (tokenize source) = .ok t := by
  unfold Template.ofSource at made
  split at made
  · cases made
    assumption
  · cases made

end TextTemplate
