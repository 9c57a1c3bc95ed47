import TextTemplate.Proofs.DeclaredBlocks

/-! Where the parts of a template stand. Every pipeline carries the span of the output or the tag that it is
written in, and a tag of a host that of its own; so all places in the tree of a template are
those of outputs and tags of its source. An error of the reading is placed at one of them too. -/
namespace TextTemplate

/-! Pipelines carry the span that they are read with -/

/-- All pipelines of a condition carry a span for which something holds. -/
def Condition.Sited (site : Span → Prop) (c : Condition) : Prop := ∀ p ∈ c.pipelines, site p.span

variable {span : Span} {ls rest : List Lexeme} {site : Span → Prop} {c : Condition}

theorem readPipeline_span {p : Pipeline} (read : readPipeline span ls = .ok (p, rest)) :
    p.span = span := by
  unfold readPipeline at read
  split at read
  · cases read
  · obtain ⟨filters, -, rfl⟩ := Reading.map_eq_ok.mp read
    rfl

section Conditions
variable (here : site span)
include here

theorem readComparison_sited (read : readComparison span ls = .ok (c, rest)) : c.Sited site := by
  have placed : ∀ {p ls rest}, readPipeline span ls = .ok (p, rest) → site p.span := fun read => by
    rwa [readPipeline_span read]
  unfold readComparison at read
  split at read
  · cases read
  · rename_i lhs found
    cases read
    simpa [Condition.Sited, Condition.pipelines] using placed found
  · rename_i lhs l after found
    split at read
    · obtain ⟨rhs, second, rfl⟩ := Reading.map_eq_ok.mp read
      simpa [Condition.Sited, Condition.pipelines] using ⟨placed found, placed second⟩
    · cases read
      simpa [Condition.Sited, Condition.pipelines] using placed found

theorem readNegation_sited (read : readNegation span ls = .ok (c, rest)) : c.Sited site := by
  induction ls generalizing c with
  | nil =>
    unfold readNegation at read
    exact readComparison_sited here read
  | cons l ls ih =>
    unfold readNegation at read
    split at read
    · rename_i word after same
      cases same
      split at read
      · obtain ⟨inner, negated, rfl⟩ := Reading.map_eq_ok.mp read
        have sited : inner.Sited site := ih negated
        exact sited
      · exact readComparison_sited here read
    · exact readComparison_sited here read

theorem readConjuncts_sited {lhs : Condition} (first : lhs.Sited site)
    (read : readConjuncts span lhs ls = .ok (c, rest)) : c.Sited site := by
  induction lhs, ls using readConjuncts.induct span with
  | case1 lhs after stuck found =>
    rw [readConjuncts, if_pos rfl, found] at read
    cases read
  | case2 lhs after rhs later found ih =>
    rw [readConjuncts, if_pos rfl, found] at read
    refine ih (fun p member => ?_) read
    rcases List.mem_append.mp member with left | right
    · exact first p left
    · exact readNegation_sited here found p right
  | case3 lhs word after other =>
    rw [readConjuncts, if_neg other] at read
    cases read
    exact first
  | case4 lhs after other =>
    rw [readConjuncts] at read
    · cases read
      exact first
    · exact other

theorem readConjunction_sited (read : readConjunction span ls = .ok (c, rest)) : c.Sited site := by
  unfold readConjunction at read
  split at read
  · cases read
  · rename_i lhs after found
    exact readConjuncts_sited here (readNegation_sited here found) read

theorem readDisjuncts_sited {lhs : Condition} (first : lhs.Sited site)
    (read : readDisjuncts span lhs ls = .ok (c, rest)) : c.Sited site := by
  induction lhs, ls using readDisjuncts.induct span with
  | case1 lhs after stuck found =>
    rw [readDisjuncts, if_pos rfl, found] at read
    cases read
  | case2 lhs after rhs later found ih =>
    rw [readDisjuncts, if_pos rfl, found] at read
    refine ih (fun p member => ?_) read
    rcases List.mem_append.mp member with left | right
    · exact first p left
    · exact readConjunction_sited here found p right
  | case3 lhs word after other =>
    rw [readDisjuncts, if_neg other] at read
    cases read
    exact first
  | case4 lhs after other =>
    rw [readDisjuncts] at read
    · cases read
      exact first
    · exact other

theorem readCondition_sited (read : readCondition span ls = .ok (c, rest)) : c.Sited site := by
  unfold readCondition at read
  split at read
  · cases read
  · rename_i lhs after found
    exact readDisjuncts_sited here (readConjunction_sited here found) read

end Conditions

/-- What is read from a whole text is read from its lexemes. -/
theorem readWhole_ok {α : Type} {reader : List Lexeme → Reading α} {text : String} {a : α}
    (read : readWhole reader text = .ok a) :
    ∃ ls, Lexeme.ofText text.toList = .ok ls ∧ reader ls = .ok (a, []) := by
  unfold readWhole at read
  split at read
  · cases read
  · rename_i lexed
    split at read
    · cases read
    · rename_i found
      cases read
      exact ⟨_, lexed, found⟩
    · cases read

theorem inArguments_ok {α : Type} {token : Token} {read : Except Fault α} {a : α}
    (ended : inArguments token read = .ok a) : read = .ok a := by
  unfold inArguments at ended
  split at ended
  · cases ended
    rfl
  · cases ended

/-- The pipelines of a loop's header. -/
structure LoopHeader.Sited (site : Span → Prop) (header : LoopHeader) : Prop where
  iterable : site header.iterable.span
  selection : ∀ c, header.selection = some c → c.Sited site

/-- The pipelines of the header of an inclusion. -/
structure IncludeHeader.Sited (site : Span → Prop) (header : IncludeHeader) : Prop where
  template : site header.template.span
  data : ∀ p, header.data = some p → site p.span

theorem pipeline_span {text : String} {p : Pipeline} (read : Pipeline.ofText span text = .ok p) :
    p.span = span := by
  obtain ⟨ls, -, found⟩ := readWhole_ok read
  exact readPipeline_span found

theorem tagCondition_sited {token : Token} (here : site token.span) (read : tagCondition token = .ok c) :
    c.Sited site := by
  unfold tagCondition at read
  split at read
  · cases read
  · obtain ⟨ls, -, found⟩ := readWhole_ok (inArguments_ok read)
    exact readCondition_sited here found

theorem readLoopHeader_sited {header : LoopHeader} (here : site span)
    (read : readLoopHeader span ls = .ok (header, rest)) : header.Sited site := by
  obtain ⟨⟨names, behind⟩, -, read⟩ := bind_ok read
  obtain ⟨⟨_, behind⟩, -, read⟩ := bind_ok read
  obtain ⟨⟨iterable, behind⟩, walked, read⟩ := bind_ok read
  have placed : site iterable.span := by rwa [readPipeline_span walked]
  dsimp only at read
  split at read
  · obtain ⟨⟨selection, behind⟩, selected, read⟩ := bind_ok read
    cases read
    refine ⟨placed, fun c same => ?_⟩
    cases same
    exact readCondition_sited here selected
  · cases read
    exact ⟨placed, nofun⟩

theorem readIncludeHeader_sited {header : IncludeHeader} (here : site span)
    (read : readIncludeHeader span ls = .ok (header, rest)) : header.Sited site := by
  obtain ⟨⟨template, behind⟩, named, read⟩ := bind_ok read
  have placed : site template.span := by rwa [readPipeline_span named]
  have ends : ∀ {data : Option Pipeline} {behind : List Lexeme}, (∀ p, data = some p → site p.span) →
      (if startsWith "only" behind then .ok (⟨template, data, .isolated⟩, behind.tail)
        else .ok (⟨template, data, .inherited⟩, behind) : Except Stuck _) = .ok (header, rest) →
      header.Sited site := by
    intro data behind held ended
    split at ended
    · cases ended
      exact ⟨placed, held⟩
    · cases ended
      exact ⟨placed, held⟩
  dsimp only at read
  split at read
  · obtain ⟨⟨data, behind⟩, given, ended⟩ := bind_ok read
    obtain ⟨p, written, rfl⟩ := Reading.map_eq_ok.mp given
    refine ends ?_ ended
    intro q same
    rwa [← Option.some.inj same, readPipeline_span written]
  · refine ends ?_ read
    exact nofun

theorem readInclude_sited {token : Token} {header : IncludeHeader} (here : site token.span)
    (read : readInclude token = .ok header) : header.Sited site := by
  unfold readInclude at read
  split at read
  · cases read
  · obtain ⟨ls, -, found⟩ := readWhole_ok (inArguments_ok read)
    exact readIncludeHeader_sited here found

/-! The tree -/

/-- The pipelines of what a tag of a host does. -/
def TagAction.Sited (site : Span → Prop) : TagAction → Prop
  | .iterate count => site count.span
  | .write _ | .fail _ | .filter _ => True

/-- All places that a node may blame by itself are such that something holds for them. -/
def Node.Sited (site : Span → Prop) : Node → Prop
  | .output _ _ p => site p.span
  | .conditional _ condition _ branches _ =>
    condition.Sited site ∧ ∀ b ∈ branches, b.condition.Sited site
  | .loop _ header _ _ => header.Sited site
  | .inclusion span header => site span ∧ header.Sited site
  | .custom span _ action _ => site span ∧ action.Sited site
  | .text _ _ | .comment _ _ | .inheritance _ _ | .block _ _ _ => True

/-- All nodes of a list are sited, at any depth. -/
def AllSited (site : Span → Prop) (body : List Node) : Prop :=
  ∀ n ∈ body, ∀ m : Node, m.Inside n → m.Sited site

/-- The conditions and headers of an open tag are sited. -/
def OpenPart.Sited (site : Span → Prop) : OpenPart → Prop
  | .thenPart condition => condition.Sited site
  | .elifPart condition _ branches _ current =>
    condition.Sited site ∧ (∀ b ∈ branches, b.condition.Sited site) ∧ current.Sited site
  | .elsePart condition _ branches => condition.Sited site ∧ ∀ b ∈ branches, b.condition.Sited site
  | .loopPart header | .emptyPart header _ => header.Sited site
  | .blockPart _ => True
  | .customPart action _ => action.Sited site

/-- A list of nodes is sited if its nodes are, and the lists inside them. -/
theorem allSited_of_bodies {body : List Node} (own : ∀ n ∈ body, n.Sited site)
    (inner : ∀ n ∈ body, ∀ inner ∈ n.bodies, AllSited site inner) : AllSited site body := by
  intro n member m inside
  cases inside with
  | self => exact own n member
  | nested listed among inside => exact inner n member _ listed _ among m inside

theorem AllSited.perm {first second : List Node} (left : AllSited site first)
    (same : second.Perm first) : AllSited site second := fun n member =>
  left n (same.mem_iff.mp member)

namespace Parsing

variable {tags : Table Tag} {s s' : Parsing} {token : Token} {next : Option Token}

theorem start_sited {tag : Tag} {start : TagStart} (here : site token.span)
    (started : tag.start token next = .ok start) : start.action.Sited site := by
  unfold Tag.start at started
  split at started
  · split at started
    · cases started
      trivial
    · cases started
  · split at started
    · rename_i count read
      cases started
      simpa only [TagAction.Sited, pipeline_span read] using here
    · cases started
  · split at started
    · cases started
      trivial
    · cases started
      trivial
  · cases started
    trivial
  · cases started

theorem Stands.sited {n : Node} (node : Stands tags token next n)
    (here : token.kind = .output ∨ token.kind = .tag → site token.span) : AllSited site [n] := by
  refine allSited_of_bodies (fun m member => ?_) fun m member inner listed => ?_
  · rw [List.mem_singleton.mp member]
    cases node with
    | text | comment => trivial
    | output kind written read => simpa only [Node.Sited, pipeline_span read] using here (.inl kind)
    | inclusion kind keyword read => exact ⟨here (.inr kind), readInclude_sited (here (.inr kind)) read⟩
    | custom kind foreign found started =>
      have tag := here (.inr kind)
      exact ⟨tag, start_sited tag started⟩
  · rw [List.mem_singleton.mp member] at listed
    cases node with
    | custom =>
      rw [List.mem_singleton.mp listed]
      exact nofun
    | text | comment | output | inclusion => cases listed

theorem Opens.sited {blocks : Table Block} {o : OpenPart} (part : Opens tags blocks token next o)
    (here : site token.span) : o.Sited site := by
  cases part with
  | conditional keyword read => exact tagCondition_sited here read
  | loop keyword read =>
    obtain ⟨ls, -, found⟩ := readWhole_ok (inArguments_ok read)
    exact readLoopHeader_sited here found
  | block => trivial
  | custom foreign found started => exact start_sited here started

theorem Continues.sited {body : List Node} {o o' : OpenPart} (part : Continues body token o o')
    (here : site token.span) (known : o.Sited site) : o'.Sited site := by
  cases part with
  | firstBranch keyword read => exact ⟨known, nofun, tagCondition_sited here read⟩
  | branch keyword read =>
    refine ⟨known.1, fun b member => ?_, tagCondition_sited here read⟩
    rcases List.mem_cons.mp member with rfl | earlier
    · exact known.2.2
    · exact known.2.1 b earlier
  | onlyElse => exact ⟨known, nofun⟩
  | lastElse =>
    refine ⟨known.1, fun b member => ?_⟩
    rcases List.mem_cons.mp member with rfl | earlier
    · exact known.2.2
    · exact known.2.1 b earlier
  | otherwise => exact known

/-- The lists inside a tag that ends are made of the nodes that were collected for it. -/
theorem Ends.bodies {start : Token} {body : List Node} {o : OpenPart} {n : Node}
    (node : Ends start body token o n) :
    ∀ inner ∈ n.bodies, ∀ child ∈ inner, child ∈ body ++ o.nodes := by
  intro inner listed child among
  rw [List.mem_append]
  cases node with
  | elifPart | elsePart =>
    simp only [Node.bodies, OpenPart.nodes, List.map_reverse, List.map_cons, List.mem_cons,
      List.mem_append, List.mem_reverse, List.mem_map, List.mem_flatMap, Option.mem_toList,
      List.cons_append, Branch.body] at listed ⊢
    grind
  | thenPart | loopPart | emptyPart | blockPart | customPart =>
    simp only [Node.bodies, OpenPart.nodes, List.mem_cons, Option.mem_toList, List.mem_append] at listed ⊢
    grind

theorem Ends.sited {start : Token} {body : List Node} {o : OpenPart} {n : Node}
    (node : Ends start body token o n) (began : site start.span) (known : o.Sited site)
    (collected : AllSited site (body ++ o.nodes)) : AllSited site [n] := by
  refine allSited_of_bodies (fun m member => ?_) fun m member inner listed child among => ?_
  · rw [List.mem_singleton.mp member]
    cases node with
    | thenPart => exact ⟨known, nofun⟩
    | elifPart =>
      refine ⟨known.1, fun b member => ?_⟩
      rcases List.mem_cons.mp (List.mem_reverse.mp member) with rfl | earlier
      · exact known.2.2
      · exact known.2.1 b earlier
    | elsePart => exact ⟨known.1, fun b member => known.2 b (List.mem_reverse.mp member)⟩
    | loopPart | emptyPart => exact known
    | blockPart => trivial
    | customPart => exact ⟨began, known⟩
  · rw [List.mem_singleton.mp member] at listed
    exact collected child (node.bodies inner listed child among)

/-- All places in what has been read so far are such that something holds for them: those of the nodes, of
the open tags and of the declaration of a parent. -/
structure Sited (site : Span → Prop) (s : Parsing) : Prop where
  pending : AllSited site s.pending
  opened : ∀ inner ∈ s.opened, site inner.token.span ∧ inner.part.Sited site
  parent : ∀ p, s.parent = some p → site p.span ∧ site p.name.span

theorem sited_start : Sited site {} := by
  refine ⟨?_, nofun, nofun⟩
  intro n member
  cases member

/-- The nodes around a tag that ends are still pending, and so is what it is made of. -/
theorem sited_leave {inner : OpenTag} {outer : List OpenTag} {n : Node} (known : s.Sited site)
    (innermost : s.opened = inner :: outer)
    (node : Ends inner.token s.nodes.reverse token inner.part n) : (s.leave inner outer n).Sited site := by
  have pending := known.pending
  have held := known.opened inner (by simp [innermost])
  simp only [Parsing.pending, innermost, List.flatMap_cons] at pending
  have collected : AllSited site (s.nodes.reverse ++ inner.part.nodes) := fun m member => by
    apply pending m
    simp only [List.mem_append, List.mem_reverse] at member ⊢
    grind
  refine ⟨fun m member => ?_, fun other member => ?_, known.parent⟩
  · simp only [Parsing.pending, leave, List.cons_append, List.mem_cons, List.mem_append] at member
    rcases member with rfl | around | further
    · exact node.sited held.1 held.2 collected m (List.mem_singleton_self m)
    · exact pending m (by simp [around])
    · exact pending m (by simp [further])
  · exact known.opened other (by simp [innermost, show other ∈ outer from member])

/-- A step keeps what has been read sited if its token is. -/
theorem Step.keeps_sited (step : Step tags s token next s')
    (here : token.kind = .output ∨ token.kind = .tag → site token.span) (known : s.Sited site) :
    s'.Sited site := by
  cases step with
  | stands free node =>
    refine ⟨?_, known.opened, known.parent⟩
    intro m member
    simp only [Parsing.pending, List.cons_append, List.mem_cons] at member
    rcases member with rfl | earlier
    · exact node.sited here m (List.mem_singleton_self m)
    · exact known.pending m earlier
  | parent kind keyword first outermost unset read =>
    have tag := here (.inr kind)
    refine ⟨?_, known.opened, fun p same => ?_⟩
    · intro m member k inside
      simp only [Parsing.pending, inheriting, List.cons_append, List.mem_cons] at member
      rcases member with rfl | earlier
      · cases inside with
        | self => trivial
        | nested listed => cases listed
      · exact known.pending m earlier k inside
    · cases same
      exact ⟨tag, by rwa [pipeline_span (inArguments_ok read)]⟩
  | opens kind free part =>
    have tag := here (.inr kind)
    refine ⟨?_, fun inner member => ?_, known.parent⟩
    · rw [part.pending]
      exact known.pending
    · rcases List.mem_cons.mp member with rfl | outer
      · exact ⟨tag, part.sited tag⟩
      · exact known.opened inner outer
  | continues kind innermost part =>
    have tag := here (.inr kind)
    refine ⟨known.pending.perm (part.pending innermost), fun other member => ?_, known.parent⟩
    rcases List.mem_cons.mp member with rfl | outer
    · have held := known.opened _ (by rw [innermost]; exact List.mem_cons_self)
      exact ⟨held.1, part.sited tag held.2⟩
    · exact known.opened other (by rw [innermost]; exact List.mem_cons_of_mem _ outer)
  | ends kind innermost node unnamed => exact sited_leave known innermost node
  | declares kind innermost node block fresh =>
    have left := sited_leave known innermost node
    exact ⟨left.pending, left.opened, left.parent⟩

/-- What is read from sited tokens is sited. -/
theorem run_sited {tokens : List Token}
    (here : ∀ token ∈ tokens, token.kind = .output ∨ token.kind = .tag → site token.span)
    (known : s.Sited site) (read : run tags s tokens = .ok s') : s'.Sited site :=
  run_keeps (fun token member _ _ _ step => step.keeps_sited (here token member)) known read

end Parsing

/-- All places in a template are such that something holds for them: those of its tree, of the blocks that it
declares and of its parent. -/
structure Template.Sited (site : Span → Prop) (t : Template) : Prop where
  root : AllSited site t.root
  blocks : ∀ name b, t.block? name = some b → AllSited site b.body
  parent : ∀ p, t.parent = some p → site p.span ∧ site p.name.span

/-- Something stands at the place of an output or a tag of a source. -/
def MarkupAt (source : String) (span : Span) : Prop :=
  ∃ token ∈ tokenize source, (token.kind = .output ∨ token.kind = .tag) ∧ token.span = span

/-- All places in a template are those of outputs and tags of its source. -/
theorem ofSource_sited {tags : Table Tag} {name source : String} {t : Template}
    (made : Template.ofSource tags name source = .ok t) :
    t.name = name ∧ t.Sited (MarkupAt source) := by
  obtain ⟨s, read, none, rfl⟩ := ofTokens_iff.mp (ofSource_tokens made)
  have sited : s.Sited (MarkupAt source) :=
    Parsing.run_sited (fun token member kind => ⟨token, member, kind, rfl⟩) Parsing.sited_start read
  have root : AllSited (MarkupAt source) s.nodes.reverse := fun n member =>
    sited.pending n (by simpa [Parsing.pending, none] using member)
  refine ⟨rfl, root, fun block b found n member m inside => ?_, sited.parent⟩
  obtain ⟨outer, listed, stands⟩ := contains_of_block made found member inside
  exact root outer listed m stands

/-! Errors of a reading -/

/-- Every tag in a table says where it fails when it is read. -/
def Tag.Placed (tags : Table Tag) : Prop :=
  ∀ keyword tag, Table.get? tags keyword = some tag → tag ≠ .reject

theorem Tag.standard_placed : Tag.Placed Tag.standard := by
  intro keyword tag found
  have only : Tag.standard = Table.insert .empty "filter" .filter := rfl
  simp only [only, Table.get?_insert, Table.get?_empty, Option.ite_none_right_eq_some, Option.some.injEq] at found
  rw [← found.2]
  decide

/-- What is placed in an unknown template is attributed to the template that it leaves. -/
theorem Error.At.inTemplate {e : Error} (placed : e.At span) (name : String) :
    (e.inTemplate name).place = ⟨some span, some name⟩ := by
  cases e with
  | raised fault place =>
    obtain rfl : place = ⟨some span, none⟩ := placed
    rfl
  | causedBy fault place cause =>
    obtain rfl : place = ⟨some span, none⟩ := placed
    rfl
  | notFound => cases placed

/-- A computation fails only with errors that are placed where something holds. -/
def BlamesOnly {α : Type} (site : Span → Prop) (x : Except Error α) : Prop :=
  ∀ e, x = .error e → ∃ span, e.At span ∧ site span

section Blame
variable {α β : Type} {x : Except Error α} {f : α → Except Error β}

theorem blames_ok (a : α) : BlamesOnly site (.ok a) := nofun

theorem blames_spanned {fault : Fault} (here : site span) :
    BlamesOnly site (.error (.spanned fault span) : Except Error α) := by
  intro e same
  cases same
  exact ⟨span, rfl, here⟩

theorem blames_bind (first : BlamesOnly site x) (next : ∀ a, x = .ok a → BlamesOnly site (f a)) :
    BlamesOnly site (x >>= f) :=
  bind_errors first next

end Blame

namespace Parsing

variable {tags : Table Tag} {s s' : Parsing} {token : Token} {next : Option Token}

theorem inArguments_blames {α : Type} {read : Except Fault α} (here : site token.span) :
    BlamesOnly site (inArguments token read) := by
  unfold inArguments
  split
  · exact blames_ok _
  · exact blames_spanned here

theorem tagCondition_blames (here : site token.span) : BlamesOnly site (tagCondition token) := by
  unfold tagCondition
  split
  · exact blames_spanned here
  · exact inArguments_blames here

theorem requireBare_blames (here : site token.span) : BlamesOnly site (requireBare token) := by
  unfold requireBare
  split
  · exact blames_ok _
  · exact blames_spanned here

theorem requireFresh_blames (here : site token.span) (name : String) :
    BlamesOnly site (s.requireFresh token name) := by
  unfold requireFresh
  split
  · exact blames_spanned here
  · exact blames_ok _

theorem endConditionalPart_blames (here : site token.span) (inner : OpenTag) (outer : List OpenTag)
    (condition : Condition) (thenBody : List Node) (branches : List Branch) :
    BlamesOnly site (s.endConditionalPart inner outer token condition thenBody branches) := by
  unfold endConditionalPart
  split
  · exact blames_bind (tagCondition_blames here) fun _ _ => blames_ok _
  · refine blames_bind (requireBare_blames here) fun _ _ => ?_
    split <;> exact blames_ok _

/-- The end of a tag is blamed on the tag or on its end. -/
theorem terminate_blames {inner : OpenTag} (outer : List OpenTag) (here : site token.span)
    (began : site inner.token.span) : BlamesOnly site (s.terminate inner outer token) := by
  unfold terminate
  dsimp only
  split
  · exact endConditionalPart_blames here _ _ _ _ _
  · exact endConditionalPart_blames here _ _ _ _ _
  · exact blames_bind (requireBare_blames here) fun _ _ => blames_ok _
  · refine blames_bind (requireBare_blames here) fun _ _ => ?_
    split <;> exact blames_ok _
  · exact blames_bind (requireBare_blames here) fun _ _ => blames_ok _
  · rw [endBlock_eq]
    split
    · exact blames_spanned here
    · exact blames_bind (requireFresh_blames began _) fun _ _ => blames_ok _
  · exact blames_ok _

/-- A tag of a host that does not fail without a place is blamed on itself. -/
theorem startCustom_blames {tag : Tag} (here : site token.span) (placed : tag ≠ .reject) :
    BlamesOnly site (s.startCustom token next tag) := by
  refine blames_bind ?_ fun start _ => ?_
  · unfold Tag.start
    split
    · split
      · exact blames_ok _
      · exact blames_spanned here
    · split
      · exact blames_ok _
      · exact blames_spanned here
    · split <;> exact blames_ok _
    · exact blames_ok _
    · exact absurd rfl placed
  · split <;> exact blames_ok _

theorem unknown_blames (here : site token.span) :
    BlamesOnly site (.error (s.unknown token) : Except Error Parsing) := by
  unfold unknown
  dsimp only
  split
  · exact blames_spanned here
  · split <;> exact blames_spanned here

theorem startTag_blames (here : site token.span) (first : Bool)
    (placed : Tag.Placed tags) :
    BlamesOnly site (startTag tags s token next first) := by
  unfold startTag
  split_ifs
  · exact blames_bind (tagCondition_blames here) fun _ _ => blames_ok _
  · exact blames_bind (inArguments_blames here) fun _ _ => blames_ok _
  · unfold startBlock
    split
    · split
      · exact blames_spanned here
      · exact blames_bind (requireFresh_blames here _) fun _ _ => blames_ok _
    · exact blames_spanned here
  · unfold declareParent
    split_ifs
    · exact blames_spanned here
    · exact blames_spanned here
    · exact blames_bind (inArguments_blames here) fun _ _ => blames_ok _
  · refine blames_bind ?_ fun _ _ => blames_ok _
    unfold readInclude
    split
    · exact blames_spanned here
    · exact inArguments_blames here
  · split
    · rename_i tag found
      exact startCustom_blames here (placed _ tag found)
    · exact unknown_blames here

theorem step_blames (placed : Tag.Placed tags)
    (here : token.kind = .output ∨ token.kind = .tag → site token.span) (known : s.Sited site) :
    BlamesOnly site (s.step tags token next) := by
  unfold step
  split
  · exact blames_ok _
  · exact blames_ok _
  · rename_i kind
    unfold readOutput
    split
    · exact blames_spanned (here (.inl kind))
    · split
      · exact blames_ok _
      · exact blames_spanned (here (.inl kind))
  · rename_i kind
    have tag := here (.inr kind)
    split
    · exact blames_spanned tag
    · split
      · rename_i inner outer ended
        have present := (ended_innermost ended).1
        exact terminate_blames outer tag (known.opened inner (by simp [present])).1
      · exact startTag_blames tag _ placed

theorem run_blames (placed : Tag.Placed tags) {tokens : List Token}
    (here : ∀ token ∈ tokens, token.kind = .output ∨ token.kind = .tag → site token.span)
    (known : s.Sited site) : BlamesOnly site (run tags s tokens) := by
  induction tokens generalizing s with
  | nil => exact blames_ok _
  | cons token rest ih =>
    have first := here token (.head rest)
    refine blames_bind (step_blames placed first known) fun middle read => ?_
    exact ih (fun other member => here other (.tail token member))
      ((step_cases read).keeps_sited first known)

end Parsing

/-- An error of a reading names the template, and is placed at an output or a tag of its source. -/
theorem ofSource_error {tags : Table Tag} {name source : String} {e : Error}
    (placed : Tag.Placed tags)
    (stuck : Template.ofSource tags name source = .error e) :
    ∃ span, e.place = ⟨some span, some name⟩ ∧ MarkupAt source span := by
  have here : ∀ token ∈ tokenize source, token.kind = .output ∨ token.kind = .tag →
      MarkupAt source token.span := fun token member kind => ⟨token, member, kind, rfl⟩
  have blames : BlamesOnly (MarkupAt source) (Template.ofTokens tags name source (tokenize source)) := by
    refine blames_bind (Parsing.run_blames placed here Parsing.sited_start) fun s read => ?_
    have known := Parsing.run_sited here Parsing.sited_start read
    unfold Parsing.finish
    split
    · exact blames_ok _
    · rename_i inner outer present
      exact blames_spanned (known.opened inner (by simp [present])).1
  unfold Template.ofSource at stuck
  split at stuck
  · cases stuck
  · rename_i e' failed
    obtain ⟨span, placed, site⟩ := blames e' failed
    cases stuck
    exact ⟨span, placed.inTemplate name, site⟩

end TextTemplate
