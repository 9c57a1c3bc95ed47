import TextTemplate.Proofs.DeclaredBlocks
import TextTemplate.Proofs.TagGrammar

/-! Reading accepts exactly what the grammar derives. What has been read of an open tag is no derivation
yet; it is described by what it becomes with whatever may still follow. A step adds to the
innermost list, or exchanges one such promise for another or for the node that it was made for. In the
other direction a derivation is read piece by piece, whatever tags are open around it. -/
namespace TextTemplate

namespace Parsing

/-! What is accepted is derived -/

/-- The tokens that may follow the present nodes of an open tag, with the node that the tag becomes. -/
inductive Completes (start : Token) : List Node → OpenPart → List Token → Node → Prop where
  | ends (kind : last.kind = .tag) (node : Ends start body last part n) :
      Completes start body part [last] n
  | continues (kind : token.kind = .tag) (next : Continues body token part part')
      (inner : Derives (.body body') ts) (rest : Completes start body' part' us n) :
      Completes start body part (token :: ts ++ us) n

/-- The same in terms of the grammar. -/
def Owes (start : Token) (body : List Node) (us : List Token) (n : Node) : OpenPart → Prop
  | .thenPart condition => ∃ first last bs elseBody, Derives (.branches first last bs elseBody) us ∧
      n = .conditional (start.span.through last.span) condition body bs elseBody
  | .elifPart condition thenBody branches branchStart current => ∃ first last bs elseBody,
      Derives (.branches first last bs elseBody) us ∧
      n = .conditional (start.span.through last.span) condition thenBody
        (branches.reverse ++ .mk (branchStart.span.through first.span) current body :: bs) elseBody
  | .elsePart condition thenBody branches => ∃ last, us = [last] ∧ last.IsBareTag "endif" ∧
      n = .conditional (start.span.through last.span) condition thenBody branches.reverse (some body)
  | .loopPart header => ∃ last, last.IsBareTag "endfor" ∧
      ((us = [last] ∧ n = .loop (start.span.through last.span) header body none) ∨
        ∃ middle emptyBody ts, us = middle :: ts ++ [last] ∧
          (middle.IsBareTag "empty" ∨ middle.IsBareTag "else") ∧ Derives (.body emptyBody) ts ∧
          n = .loop (start.span.through last.span) header body (some emptyBody))
  | .emptyPart header loopBody => ∃ last, us = [last] ∧ last.IsBareTag "endfor" ∧
      n = .loop (start.span.through last.span) header loopBody (some body)
  | .blockPart name => ∃ last, us = [last] ∧ last.IsTag "endblock" ∧ last.closesBlock name ∧
      n = .block (start.span.through last.span) name body
  | .customPart _ _ => True

theorem Completes.owes {start : Token} {body : List Node} {part : OpenPart} {us : List Token}
    {n : Node} (completes : Completes start body part us n) : Owes start body us n part := by
  induction completes with
  | ends kind node =>
    cases node with
    | thenPart keyword bare =>
      exact ⟨_, _, [], none, .noElse ⟨⟨kind, keyword⟩, bare⟩, rfl⟩
    | elifPart keyword bare =>
      exact ⟨_, _, [], none, .noElse ⟨⟨kind, keyword⟩, bare⟩, by rw [List.reverse_cons]⟩
    | elsePart keyword bare => exact ⟨_, rfl, ⟨⟨kind, keyword⟩, bare⟩, rfl⟩
    | loopPart keyword bare => exact ⟨_, ⟨⟨kind, keyword⟩, bare⟩, .inl ⟨rfl, rfl⟩⟩
    | emptyPart keyword bare => exact ⟨_, rfl, ⟨⟨kind, keyword⟩, bare⟩, rfl⟩
    | blockPart keyword named => exact ⟨_, rfl, ⟨kind, keyword⟩, named, rfl⟩
    | customPart => trivial
  | continues kind next inner rest ih =>
    cases next with
    | firstBranch keyword read =>
      obtain ⟨first, last, bs, elseBody, others, rfl⟩ := ih
      exact ⟨_, last, _, elseBody, .branch ⟨kind, keyword⟩ read inner others, rfl⟩
    | branch keyword read =>
      obtain ⟨first, last, bs, elseBody, others, rfl⟩ := ih
      refine ⟨_, last, _, elseBody, .branch ⟨kind, keyword⟩ read inner others, ?_⟩
      rw [List.reverse_cons, List.append_assoc, List.singleton_append]
    | onlyElse keyword bare =>
      obtain ⟨last, rfl, ends, rfl⟩ := ih
      exact ⟨_, last, [], _, .elsePart ⟨⟨kind, keyword⟩, bare⟩ inner ends, rfl⟩
    | lastElse keyword bare =>
      obtain ⟨last, rfl, ends, rfl⟩ := ih
      exact ⟨_, last, [], _, .elsePart ⟨⟨kind, keyword⟩, bare⟩ inner ends, by rw [List.reverse_cons]⟩
    | otherwise keyword bare =>
      obtain ⟨last, rfl, ends, rfl⟩ := ih
      exact ⟨last, ends, .inr ⟨_, _, _, rfl, keyword.imp (⟨⟨kind, ·⟩, bare⟩) (⟨⟨kind, ·⟩, bare⟩),
        inner, rfl⟩⟩

variable {s s' : Parsing} {token : Token} {next : Option Token}

/-- Tokens that make up a node of the grammar with the nodes after them and what completes the tag. -/
def Promises (start : Token) (part : OpenPart) (ts : List Token) : Prop :=
  ∀ body us vs n, Derives (.body body) us → Completes start body part vs n →
    Derives (.piece n) (ts ++ us ++ vs)

theorem Opens.promises {blocks : Table Block} {part : OpenPart} (kind : token.kind = .tag)
    (opens : Opens .empty blocks token next part) : Promises token part [token] := by
  intro body us vs n inner completes
  have owed := completes.owes
  rw [List.cons_append, List.nil_append]
  cases opens with
  | conditional keyword read =>
    obtain ⟨first, last, bs, elseBody, rest, rfl⟩ := owed
    exact .conditional ⟨kind, keyword⟩ read inner rest
  | loop keyword read =>
    rcases owed with ⟨last, ends, ⟨rfl, rfl⟩ | ⟨middle, emptyBody, ts, rfl, otherwise, rest, rfl⟩⟩
    · exact .loop ⟨kind, keyword⟩ read inner ends
    · have derived := Derives.loopOrEmpty ⟨kind, keyword⟩ read inner otherwise rest ends
      simpa only [List.append_assoc, List.cons_append] using derived
  | block keyword named valid fresh =>
    obtain ⟨last, rfl, ends, closes, rfl⟩ := owed
    exact .block ⟨kind, keyword⟩ named valid inner ends closes
  | custom foreign found => cases found

/-- A further part keeps the promise of the part before it. -/
theorem Promises.continues {start : Token} {part part' : OpenPart} {body : List Node}
    {ts us : List Token} (promise : Promises start part ts) (inner : Derives (.body body) us)
    (kind : token.kind = .tag) (more : Continues body token part part') :
    Promises start part' (ts ++ us ++ [token]) := by
  intro body' vs ws n inner' completes
  have whole := promise _ _ _ n inner (.continues kind more inner' completes)
  simpa only [List.append_assoc, List.cons_append, List.nil_append] using whole

/-- A token that stands for a node by itself is a node of the grammar. -/
theorem Stands.derives {n : Node} (node : Stands .empty token next n) : Derives (.piece n) [token] := by
  cases node with
  | text kind => exact .text kind
  | comment kind => exact .comment kind
  | output kind written read => exact .output kind written read
  | inclusion kind keyword read => exact .inclusion ⟨kind, keyword⟩ read
  | custom kind foreign found => cases found

/-- The tokens of a reading that is under way: derived so far, and in each open tag good for a node
together with whatever completes the tag. -/
inductive Viable (parent : Option Parent) : List OpenTag → List Node → List Token → Prop where
  | outermost (root : DerivesRoot ts parent ns.reverse) : Viable parent [] ns ts
  | within (around : Viable parent outer before ts) (promise : Promises start part us)
      (inner : Derives (.body ns.reverse) vs) :
      Viable parent (⟨start, part, before⟩ :: outer) ns (ts ++ us ++ vs)

/-- A part begins without any nodes. -/
theorem Viable.begin {parent : Option Parent} {outer : List OpenTag} {before : List Node}
    {ts us : List Token} {start : Token} {part : OpenPart} (around : Viable parent outer before ts)
    (promise : Promises start part us) :
    Viable parent (⟨start, part, before⟩ :: outer) [] (ts ++ us) := by
  have none : Derives (.body ([] : List Node).reverse) [] := .nil
  have begun := Viable.within around promise none
  rwa [List.append_nil] at begun

theorem Viable.snoc {parent : Option Parent} {outer : List OpenTag} {ns : List Node}
    {ts us : List Token} {n : Node} (viable : Viable parent outer ns ts)
    (piece : Derives (.piece n) us) : Viable parent outer (n :: ns) (ts ++ us) := by
  cases viable with
  | outermost root =>
    refine .outermost ?_
    rw [List.reverse_cons]
    exact root.snoc piece
  | within around promise inner =>
    rw [List.append_assoc]
    refine .within around promise ?_
    rw [List.reverse_cons]
    exact inner.snoc piece

/-- The end of the innermost tag redeems its promise. -/
theorem Viable.left {parent : Option Parent} {ts : List Token} {inner : OpenTag}
    {outer : List OpenTag} {n : Node} (viable : Viable parent s.opened s.nodes ts)
    (innermost : s.opened = inner :: outer) (kind : token.kind = .tag)
    (node : Ends inner.token s.nodes.reverse token inner.part n) :
    Viable parent outer (n :: inner.before) (ts ++ [token]) := by
  rw [innermost] at viable
  cases viable with
  | within around promise collected =>
    have piece := promise _ _ _ n collected (.ends kind node)
    have left := around.snoc piece
    simpa only [List.append_assoc] using left

/-- Tokens read so far, before which only a tag can have been met. -/
structure Follows (s : Parsing) (ts : List Token) : Prop where
  viable : Viable s.parent s.opened s.nodes ts
  content : s.anyTag = false → s.opened = [] ∧ s.parent = none ∧ ∀ token ∈ ts, token.isContent

theorem follows_start : Follows {} [] :=
  ⟨.outermost (.plain .nil), fun _ => ⟨rfl, rfl, nofun⟩⟩

theorem Step.follows {ts : List Token} (step : Step .empty s token next s') (known : s.Follows ts) :
    s'.Follows (ts ++ [token]) := by
  obtain ⟨viable, content⟩ := known
  -- A tag is only open where one has been met.
  have met : ∀ inner outer, s.opened = inner :: outer → s.anyTag ≠ false := by
    intro inner outer innermost untouched
    have outermost := (content untouched).1
    rw [innermost] at outermost
    cases outermost
  cases step with
  | stands free node =>
    refine ⟨viable.snoc node.derives, fun untouched => ?_⟩
    simp only [Bool.or_eq_false_iff, Bool.not_eq_eq_eq_not, Bool.not_false] at untouched
    obtain ⟨outermost, unset, before⟩ := content untouched.1
    refine ⟨outermost, unset, fun other member => ?_⟩
    rcases List.mem_append.mp member with among | here
    · exact before other among
    · exact List.mem_singleton.mp here ▸ untouched.2
  | parent kind keyword first outermost unset read =>
    rw [outermost, unset] at viable
    refine ⟨?_, fun untouched => Bool.noConfusion untouched⟩
    cases viable with
    | outermost root =>
      cases root with
      | plain before =>
        simp only [inheriting, outermost]
        refine .outermost ?_
        rw [List.reverse_cons]
        exact .extending before (content first).2.2 ⟨kind, keyword⟩ read .nil
  | opens kind free part =>
    exact ⟨viable.begin (part.promises kind), fun untouched => Bool.noConfusion untouched⟩
  | continues kind innermost part =>
    refine ⟨?_, fun untouched => absurd untouched (met _ _ innermost)⟩
    rw [innermost] at viable
    cases viable with
    | within around promise collected =>
      have continued := around.begin (promise.continues collected kind part)
      simp only [List.append_assoc] at continued ⊢
      exact continued
  | ends kind innermost node unnamed =>
    refine ⟨?_, fun untouched => absurd untouched (met _ _ innermost)⟩
    exact viable.left innermost kind node
  | declares kind innermost node block fresh =>
    refine ⟨?_, fun untouched => absurd untouched (met _ _ innermost)⟩
    exact viable.left innermost kind node

/-- The parent and the tree of a reading that leaves no tag open are derived. -/
theorem follows_run {ts : List Token} {known : List Token} (follows : s.Follows known)
    (read : run .empty s ts = .ok s') : s'.Follows (known ++ ts) := by
  induction ts generalizing s known with
  | nil =>
    cases read
    simpa using follows
  | cons token rest ih =>
    obtain ⟨middle, step, later⟩ := run_cons read
    have whole := ih (step.follows follows) later
    simpa only [List.append_assoc, List.singleton_append] using whole

/-! What is derived is accepted -/

/-- Without tags of a host no token looks at the one after it. -/
theorem step_ahead (s : Parsing) (token : Token) (next : Option Token) :
    s.step .empty token next = s.step .empty token none := rfl

theorem Step.alone (step : Step .empty s token next s') : Step .empty s token none s' :=
  step_iff.mp ((step_ahead s token next).symm.trans (step_iff.mpr step))

theorem run_of_step {ts : List Token} (step : Step .empty s token none s') :
    run .empty s (token :: ts) = run .empty s' ts := by
  simp only [run, step_ahead s token ts.head?, step_iff.mpr step, bind, Except.bind]

theorem run_of_run {ts us : List Token} (read : run .empty s ts = .ok s') :
    run .empty s (ts ++ us) = run .empty s' us := by
  induction ts generalizing s with
  | nil =>
    cases read
    rfl
  | cons token rest ih =>
    obtain ⟨middle, step, later⟩ := run_cons read
    rw [List.cons_append, run_of_step step.alone]
    exact ih later

/-- The innermost open tag is a built-in one. -/
def InBuiltin (s : Parsing) : Prop :=
  ∀ inner outer, s.opened = inner :: outer → ∀ keyword ∈ inner.part.terminators,
    keyword ∈ innerKeywords

theorem InBuiltin.free (builtin : s.InBuiltin) (other : token.keyword ∉ innerKeywords) :
    s.Free token := by
  intro _
  unfold innermostEndedBy
  split
  · rfl
  · rename_i inner outer innermost
    rw [if_neg fun among => other (builtin inner outer innermost _ (List.contains_iff_mem.mp among))]

theorem Opens.builtin {blocks : Table Block} {part : OpenPart}
    (opens : Opens .empty blocks token next part) : ∀ keyword ∈ part.terminators, keyword ∈ innerKeywords := by
  cases opens with
  | conditional | loop | block => simp [OpenPart.terminators, innerKeywords]
  | custom foreign found => cases found

/-- A reading that can take in blocks with the given names: they are new, and different from each other. -/
structure Ready (s : Parsing) (bs : List Block) : Prop where
  builtin : s.InBuiltin
  declares : s.Declares
  distinct : ((bs ++ declared s.pending).map Block.name).Nodup

/-- What has been read is part of what was to be read. -/
theorem Ready.after {bs cs : List Block} (ready : s.Ready (bs ++ cs)) (builtin : s'.InBuiltin)
    (declares : s'.Declares) (same : (declared s'.pending).Perm (bs ++ declared s.pending)) :
    s'.Ready cs := by
  refine ⟨builtin, declares, ?_⟩
  have order : (cs ++ declared s'.pending).Perm (bs ++ cs ++ declared s.pending) := by
    refine (same.append_left cs).trans ?_
    rw [← List.append_assoc]
    exact List.perm_append_comm.append_right _
  exact (order.map _).nodup_iff.mpr ready.distinct

theorem Ready.left {bs cs : List Block} (ready : s.Ready (bs ++ cs)) : s.Ready bs := by
  refine ⟨ready.builtin, ready.declares, ready.distinct.sublist (.map _ ?_)⟩
  exact (List.sublist_append_left bs cs).append_right _

theorem Ready.perm {bs cs : List Block} (ready : s.Ready bs) (same : bs.Perm cs) : s.Ready cs :=
  ⟨ready.builtin, ready.declares, ((same.append_right _).map _).nodup_iff.mp ready.distinct⟩

theorem Ready.fresh {b : Block} {bs : List Block} (ready : s.Ready (b :: bs)) :
    Table.contains s.blocks b.name = false := by
  cases found : Table.get? s.blocks b.name with
  | none => simp [Table.contains, found]
  | some other =>
    obtain ⟨member, named⟩ := (ready.declares.table b.name other).mp found
    have distinct := ready.distinct
    rw [List.cons_append, List.map_cons, List.nodup_cons] at distinct
    refine absurd (List.mem_map.mpr ⟨other, ?_, named⟩) distinct.1
    exact List.mem_append_right _ member

theorem Continues.builtin {body : List Node} {part part' : OpenPart}
    (more : Continues body token part part') : ∀ keyword ∈ part'.terminators, keyword ∈ innerKeywords := by
  cases more with
  | firstBranch | branch | onlyElse | lastElse | otherwise =>
    simp [OpenPart.terminators, innerKeywords]

/-- A reading in which nodes have been added to the innermost list. -/
structure Grows (s s' : Parsing) (ns : List Node) : Prop where
  nodes : s'.nodes = ns.reverse ++ s.nodes
  opened : s'.opened = s.opened
  parent : s'.parent = s.parent

theorem Grows.builtin {ns : List Node} (grows : Grows s s' ns) (builtin : s.InBuiltin) :
    s'.InBuiltin := by
  intro inner outer innermost
  rw [grows.opened] at innermost
  exact builtin inner outer innermost

theorem Grows.pending {ns : List Node} (grows : Grows s s' ns) :
    (declared s'.pending).Perm (declared ns ++ declared s.pending) := by
  simp only [Parsing.pending, grows.nodes, grows.opened, declared_append, List.append_assoc]
  exact (declared_perm (List.reverse_perm _)).append_right _

/-- The branches that an open conditional has when a token ends its present part, with its first part. -/
def branchesAt? (body : List Node) (token : Token) : OpenPart →
    Option (Condition × List Node × List Branch)
  | .thenPart condition => some (condition, body, [])
  | .elifPart condition thenBody branches start current =>
    some (condition, thenBody, .mk (start.span.through token.span) current body :: branches)
  | _ => none

section Branches

variable {start : Token} {body thenBody : List Node} {part : OpenPart} {condition : Condition}
  {branches : List Branch}
  (known : branchesAt? body token part = some (condition, thenBody, branches))
include known

theorem continues_branch {current : Condition} (tag : token.IsTag "elif")
    (read : tagCondition token = .ok current) :
    Continues body token part (.elifPart condition thenBody branches token current) := by
  cases part with
  | thenPart =>
    cases known
    exact .firstBranch tag.named read
  | elifPart =>
    cases known
    exact .branch tag.named read
  | _ => cases known

theorem continues_else (tag : token.IsBareTag "else") :
    Continues body token part (.elsePart condition thenBody branches) := by
  cases part with
  | thenPart =>
    cases known
    exact .onlyElse tag.named tag.bare
  | elifPart =>
    cases known
    exact .lastElse tag.named tag.bare
  | _ => cases known

theorem ends_conditional (tag : token.IsBareTag "endif") :
    Ends start body token part
      (.conditional (start.span.through token.span) condition thenBody branches.reverse none) := by
  cases part with
  | thenPart =>
    cases known
    exact .thenPart tag.named tag.bare
  | elifPart =>
    cases known
    exact .elifPart tag.named tag.bare
  | _ => cases known

end Branches

/-- Tokens are read as the phrase that they are derived as: nodes are added to the innermost list, and
what follows the first part of a conditional ends the innermost tag with it. -/
def Accepts (ts : List Token) : Phrase → Prop
  | .body ns => ∀ s : Parsing, s.Ready (declared ns) → ∃ s', run .empty s ts = .ok s' ∧ Grows s s' ns ∧
      ((∀ token ∈ ts, token.isContent) → s'.anyTag = s.anyTag)
  | .piece n => ∀ s : Parsing, s.Ready (declared [n]) → ∃ s', run .empty s ts = .ok s' ∧ Grows s s' [n] ∧
      ((∀ token ∈ ts, token.isContent) → s'.anyTag = s.anyTag)
  | .branches first last bs elseBody =>
    ∀ (s : Parsing) inner outer condition thenBody branches, s.opened = inner :: outer →
      branchesAt? s.nodes.reverse first inner.part = some (condition, thenBody, branches) →
      s.Ready ((bs.map Branch.body ++ elseBody.toList).flatMap declared) →
      ∃ s', run .empty s ts = .ok s' ∧ s'.opened = outer ∧ s'.parent = s.parent ∧
        s'.nodes = .conditional (inner.token.span.through last.span) condition thenBody
          (branches.reverse ++ bs) elseBody :: inner.before

theorem declares_run {ts : List Token} (read : run .empty s ts = .ok s') (known : s.Declares) :
    s'.Declares :=
  run_keeps (fun _ _ _ _ _ step => step.keeps_declared) known read

/-- A node that is a single token is read. -/
theorem Stands.accepts {n : Node} (node : Stands .empty token none n) (other : token.keyword ∉ innerKeywords ∨
    token.kind ≠ .tag) : Accepts [token] (.piece n) := by
  intro s ready
  have free : s.Free token := by
    rcases other with other | other
    · exact ready.builtin.free other
    · exact fun kind => absurd kind other
  refine ⟨_, (run_of_step (.stands free node)).trans rfl, ⟨rfl, rfl, rfl⟩, fun content => ?_⟩
  simp [content token (List.mem_singleton.mpr rfl)]

/-- A part has begun without changing what is declared, and its nodes are read. -/
theorem Accepts.part {body : List Node} {ts : List Token} {cs : List Block} {inner : OpenTag}
    {outer : List OpenTag} (accepts : Accepts ts (.body body)) (ready : s.Ready (declared body ++ cs))
    (begun : Step .empty s token none s') (empty : s'.nodes = []) (opened : s'.opened = inner :: outer)
    (builtin : ∀ keyword ∈ inner.part.terminators, keyword ∈ innerKeywords)
    (parent : s'.parent = s.parent) (same : (declared s'.pending).Perm (declared s.pending)) :
    ∃ s'', run .empty s (token :: ts) = .ok s'' ∧ s''.nodes = body.reverse ∧ s''.opened = inner :: outer ∧
      s''.parent = s.parent ∧ s''.Ready cs := by
  have inside : s'.InBuiltin := by
    intro first rest innermost
    obtain ⟨rfl, -⟩ := List.cons.inj (opened.symm.trans innermost)
    exact builtin
  have ready' : s'.Ready (declared body ++ cs) :=
    @Ready.after s s' [] _ ready inside (begun.keeps_declared ready.declares) same
  obtain ⟨s'', read, grows, -⟩ := accepts s' ready'.left
  refine ⟨s'', (run_of_step begun).trans read, ?_, grows.opened.trans opened,
    grows.parent.trans parent, ?_⟩
  · rw [grows.nodes, empty, List.append_nil]
  · exact ready'.after (grows.builtin inside) (declares_run read ready'.declares) grows.pending

/-- A tag is opened, and the nodes of its first part are read. -/
theorem Opens.reads {part : OpenPart} {body : List Node} {ts : List Token} {cs : List Block}
    (kind : token.kind = .tag) (other : token.keyword ∉ innerKeywords)
    (opens : Opens .empty s.blocks token none part) (ready : s.Ready (declared body ++ cs))
    (accepts : Accepts ts (.body body)) :
    ∃ s', run .empty s (token :: ts) = .ok s' ∧ s'.nodes = body.reverse ∧
      s'.opened = ⟨token, part, s.nodes⟩ :: s.opened ∧ s'.parent = s.parent ∧ s'.Ready cs :=
  accepts.part ready (.opens kind (ready.builtin.free other) opens) rfl rfl opens.builtin rfl
    (.of_eq (congrArg declared (opens.pending { s with anyTag := true })))

/-- A further part begins, and its nodes are read. -/
theorem Continues.reads {inner : OpenTag} {outer : List OpenTag} {part : OpenPart} {body : List Node}
    {ts : List Token} {cs : List Block} (kind : token.kind = .tag)
    (innermost : s.opened = inner :: outer)
    (more : Continues s.nodes.reverse token inner.part part) (ready : s.Ready (declared body ++ cs))
    (accepts : Accepts ts (.body body)) :
    ∃ s', run .empty s (token :: ts) = .ok s' ∧ s'.nodes = body.reverse ∧
      s'.opened = ⟨inner.token, part, inner.before⟩ :: outer ∧ s'.parent = s.parent ∧ s'.Ready cs :=
  accepts.part ready (.continues kind innermost more) rfl rfl more.builtin rfl
    (declared_perm (more.pending innermost))

/-- The innermost tag is ended. -/
theorem Ends.reads {inner : OpenTag} {outer : List OpenTag} {n : Node} (kind : token.kind = .tag)
    (innermost : s.opened = inner :: outer) (node : Ends inner.token s.nodes.reverse token inner.part n)
    (ready : s.Ready n.block?.toList) :
    ∃ s', run .empty s [token] = .ok s' ∧ s'.nodes = n :: inner.before ∧ s'.opened = outer ∧
      s'.parent = s.parent := by
  cases block : n.block? with
  | none => exact ⟨_, (run_of_step (.ends kind innermost node block)).trans rfl, rfl, rfl, rfl⟩
  | some b =>
    rw [block] at ready
    exact ⟨_, (run_of_step (.declares kind innermost node block ready.fresh)).trans rfl, rfl, rfl, rfl⟩

theorem IsTag.not_content {keyword : String} {ts : List Token} {a b : Bool}
    (tag : token.IsTag keyword) : (∀ other ∈ token :: ts, other.isContent) → a = b := by
  intro content
  have impossible := content token List.mem_cons_self
  simp [Token.isContent, tag.kind] at impossible

/-- A derivation is read as what it derives. -/
theorem Derives.accepts {phrase : Phrase} {ts : List Token} (derives : Derives phrase ts) :
    Accepts ts phrase := by
  induction derives with
  | nil => exact fun s _ => ⟨s, rfl, ⟨rfl, rfl, rfl⟩, fun _ => rfl⟩
  | cons _ _ first rest =>
    intro s ready
    rw [declared_cons] at ready
    obtain ⟨s₁, read₁, grows₁, touched₁⟩ := first s ready.left
    have ready₁ := ready.after (grows₁.builtin ready.builtin) (declares_run read₁ ready.declares)
      grows₁.pending
    obtain ⟨s₂, read₂, grows₂, touched₂⟩ := rest s₁ ready₁
    refine ⟨s₂, (run_of_run read₁).trans read₂, ⟨?_, grows₂.opened.trans grows₁.opened,
      grows₂.parent.trans grows₁.parent⟩, fun content => ?_⟩
    · rw [grows₂.nodes, grows₁.nodes]
      simp
    · rw [touched₂ fun token member => content token (List.mem_append_right _ member),
        touched₁ fun token member => content token (List.mem_append_left _ member)]
  | text kind => exact Stands.accepts (.text kind) (.inr (by simp [kind]))
  | comment kind => exact Stands.accepts (.comment kind) (.inr (by simp [kind]))
  | output kind written read =>
    exact Stands.accepts (.output kind written read) (.inr (by simp [kind]))
  | inclusion tag read =>
    exact Stands.accepts (.inclusion tag.kind tag.named read)
      (.inl (by simp [tag.named, innerKeywords]))
  | conditional tag read _ _ inner rest =>
    intro s ready
    rw [declared_single] at ready
    obtain ⟨s₁, read₁, nodes₁, opened₁, parent₁, ready₁⟩ := Opens.reads tag.kind
      (by simp [tag.named, innerKeywords]) (.conditional tag.named read) ready inner
    obtain ⟨s₂, read₂, opened₂, parent₂, nodes₂⟩ := rest s₁ _ _ _ _ _ opened₁
      (by rw [nodes₁, List.reverse_reverse]; rfl) ready₁
    exact ⟨s₂, (run_of_run read₁).trans read₂, ⟨nodes₂, opened₂, parent₂.trans parent₁⟩,
      IsTag.not_content tag⟩
  | branch tag read _ _ inner rest =>
    intro s started outer condition thenBody branches innermost known ready
    obtain ⟨s₁, read₁, nodes₁, opened₁, parent₁, ready₁⟩ := Continues.reads tag.kind innermost
      (continues_branch known tag read) ready inner
    obtain ⟨s₂, read₂, opened₂, parent₂, nodes₂⟩ := rest s₁ _ _ _ _ _ opened₁
      (by rw [nodes₁, List.reverse_reverse]; rfl) ready₁
    refine ⟨s₂, (run_of_run read₁).trans read₂, opened₂, parent₂.trans parent₁, ?_⟩
    rw [nodes₂, List.reverse_cons, List.append_assoc, List.singleton_append]
    rfl
  | elsePart tag _ ends inner =>
    intro s started outer condition thenBody branches innermost known ready
    obtain ⟨s₁, read₁, nodes₁, opened₁, parent₁, ready₁⟩ := Continues.reads tag.kind innermost
      (continues_else known tag) ready inner
    obtain ⟨s₂, read₂, nodes₂, opened₂, parent₂⟩ := Ends.reads ends.kind opened₁
      (.elsePart ends.named ends.bare) ready₁
    rw [nodes₁, List.reverse_reverse] at nodes₂
    refine ⟨s₂, (run_of_run read₁).trans read₂, opened₂, parent₂.trans parent₁, ?_⟩
    rw [nodes₂, List.append_nil]
  | noElse ends =>
    intro s started outer condition thenBody branches innermost known ready
    obtain ⟨s₁, read₁, nodes₁, opened₁, parent₁⟩ := Ends.reads ends.kind innermost
      (ends_conditional known ends) ready
    refine ⟨s₁, read₁, opened₁, parent₁, ?_⟩
    rw [nodes₁, List.append_nil]
  | loop tag read _ ends inner =>
    intro s ready
    rw [declared_single] at ready
    obtain ⟨s₁, read₁, nodes₁, opened₁, parent₁, ready₁⟩ := Opens.reads tag.kind
      (by simp [tag.named, innerKeywords]) (.loop tag.named read) ready inner
    obtain ⟨s₂, read₂, nodes₂, opened₂, parent₂⟩ := Ends.reads ends.kind opened₁
      (.loopPart ends.named ends.bare) ready₁
    rw [nodes₁, List.reverse_reverse] at nodes₂
    exact ⟨s₂, (run_of_run read₁).trans read₂, ⟨nodes₂, opened₂, parent₂.trans parent₁⟩,
      IsTag.not_content tag⟩
  | loopOrEmpty tag read _ otherwise _ ends inner rest =>
    intro s ready
    rw [declared_single] at ready
    obtain ⟨s₁, read₁, nodes₁, opened₁, parent₁, ready₁⟩ := Opens.reads tag.kind
      (by simp [tag.named, innerKeywords]) (.loop tag.named read) ready inner
    obtain ⟨s₂, read₂, nodes₂, opened₂, parent₂, ready₂⟩ := Continues.reads
      (otherwise.elim (·.kind) (·.kind)) opened₁
      (.otherwise (otherwise.imp (·.named) (·.named)) (otherwise.elim (·.bare) (·.bare))) ready₁ rest
    obtain ⟨s₃, read₃, nodes₃, opened₃, parent₃⟩ := Ends.reads ends.kind opened₂
      (.emptyPart ends.named ends.bare) ready₂
    rw [nodes₁, nodes₂, List.reverse_reverse, List.reverse_reverse] at nodes₃
    exact ⟨s₃, (run_of_run ((run_of_run read₁).trans read₂)).trans read₃,
      ⟨nodes₃, opened₃, parent₃.trans (parent₂.trans parent₁)⟩, IsTag.not_content tag⟩
  | block tag named valid _ ends closes inner =>
    intro s ready
    rw [declared_single] at ready
    have fresh := ready.fresh
    have inside := ready.perm List.perm_append_comm
    simp only [Node.bodies, List.flatMap_cons, List.flatMap_nil, List.append_nil] at inside
    obtain ⟨s₁, read₁, nodes₁, opened₁, parent₁, ready₁⟩ := Opens.reads tag.kind
      (by simp [tag.named, innerKeywords]) (.block tag.named named valid fresh) inside inner
    obtain ⟨s₂, read₂, nodes₂, opened₂, parent₂⟩ := Ends.reads ends.kind opened₁
      (.blockPart ends.named closes) (by rw [nodes₁, List.reverse_reverse]; exact ready₁)
    rw [nodes₁, List.reverse_reverse] at nodes₂
    exact ⟨s₂, (run_of_run read₁).trans read₂, ⟨nodes₂, opened₂, parent₂.trans parent₁⟩,
      IsTag.not_content tag⟩

theorem ready_start {bs : List Block} (distinct : (bs.map Block.name).Nodup) : Ready {} bs := by
  refine ⟨fun inner outer innermost => (nomatch innermost), declares_start, ?_⟩
  have none : declared (pending {}) = [] := rfl
  rwa [none, List.append_nil]

theorem declared_inheritance (ms ns : List Node) (place : Span) (p : Pipeline) :
    declared (ms ++ .inheritance place p :: ns) = declared ms ++ declared ns := by
  have nothing : declared [.inheritance place p] = [] := declared_single _
  rw [declared_append, declared_cons, nothing, List.nil_append]

/-- The declaration of a parent comes after text and comments alone. -/
theorem parent_read {p : Pipeline} {ms ns : List Node} {ts us : List Token}
    (before : Derives (.body ms) ts) (content : ∀ token ∈ ts, token.isContent)
    (tag : token.IsTag "extends") (read : token.pipeline = .ok p) (after : Derives (.body ns) us)
    (distinct : ((declared ms ++ declared ns).map Block.name).Nodup) :
    ∃ s, run .empty {} (ts ++ token :: us) = .ok s ∧ s.opened = [] ∧ s.parent = some ⟨token.span, p⟩ ∧
      s.nodes = (ms ++ .inheritance token.span p :: ns).reverse := by
  have ready := ready_start distinct
  obtain ⟨s₁, read₁, grows₁, touched⟩ := Derives.accepts before {} ready.left
  have step : Step .empty s₁ token none (s₁.inheriting token p) :=
    .parent tag.kind tag.named (touched content) grows₁.opened grows₁.parent read
  have same := (List.Perm.of_eq (inheriting_declared s₁ token p)).trans grows₁.pending
  have ready₂ : (s₁.inheriting token p).Ready (declared ns) :=
    ready.after (fun _ _ innermost => nomatch grows₁.opened.symm.trans innermost)
      (step.keeps_declared (declares_run read₁ ready.declares)) same
  obtain ⟨s₂, read₂, grows₂, -⟩ := Derives.accepts after _ ready₂
  refine ⟨s₂, ?_, grows₂.opened.trans grows₁.opened, grows₂.parent, ?_⟩
  · rw [run_of_run read₁, run_of_step step, read₂]
  · rw [grows₂.nodes, inheriting, grows₁.nodes]
    simp

/-- The derivation of a template is read as what it derives. -/
theorem DerivesRoot.reads {ts : List Token} {parent : Option Parent} {ns : List Node}
    (derives : DerivesRoot ts parent ns) (distinct : ((declared ns).map Block.name).Nodup) :
    ∃ s, run .empty {} ts = .ok s ∧ s.opened = [] ∧ s.parent = parent ∧ s.nodes = ns.reverse := by
  cases derives with
  | plain body =>
    obtain ⟨s, read, grows, -⟩ := Derives.accepts body {} (ready_start distinct)
    exact ⟨s, read, grows.opened, grows.parent, grows.nodes.trans (List.append_nil _)⟩
  | extending before content tag read after =>
    rw [declared_inheritance] at distinct
    exact parent_read before content tag read after distinct

end Parsing

/-- Reading without tags of a host accepts exactly what the grammar derives with distinct block names, and
makes the parent and the tree of the derivation. The tree keeps every token, once and in order. -/
theorem ofTokens_derives (name source : String) (tokens : List Token) :
    (∀ parent nodes, (∃ t, Template.ofTokens .empty name source tokens = .ok t ∧ t.parent = parent ∧
        t.root = nodes) ↔
      DerivesRoot tokens parent nodes ∧ ((declared nodes).map Block.name).Nodup) ∧
    ∀ t, Template.ofTokens .empty name source tokens = .ok t →
      tokens.map Token.mark? = (marksOf t.root).map some := by
  have sound : ∀ t, Template.ofTokens .empty name source tokens = .ok t →
      DerivesRoot tokens t.parent t.root := by
    intro t made
    obtain ⟨s, read, none, rfl⟩ := ofTokens_iff.mp made
    have viable := (Parsing.follows_run Parsing.follows_start read).viable
    rw [none, List.nil_append] at viable
    cases viable with
    | outermost root => exact root
  refine ⟨fun parent nodes => ⟨?_, ?_⟩, fun t made => (sound t made).marks⟩
  · rintro ⟨t, made, rfl, rfl⟩
    exact ⟨sound t made, (ofTokens_declares made).1⟩
  · rintro ⟨derives, distinct⟩
    obtain ⟨s, read, none, parent_read, nodes_read⟩ := Parsing.DerivesRoot.reads derives distinct
    refine ⟨_, ofTokens_iff.mpr ⟨s, read, none, rfl⟩, parent_read, ?_⟩
    rw [nodes_read, List.reverse_reverse]

end TextTemplate
