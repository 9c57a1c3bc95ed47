import TextTemplate.Environment
import TextTemplate.Proofs.NodeTree
import TextTemplate.Proofs.ParsingSteps

/-! The blocks that a template declares are those that stand in its tree, at any depth, and no two of them
have the same name. While a template is read this holds of the nodes collected so far: those of
the innermost list, and those in the open tags around it. -/
namespace TextTemplate

/-- What a function picks out among nodes and inside them, in the order of the source. -/
def gathered {α : Type} (pick : Node → Option α) (ns : List Node) : List α :=
  ns.flatMap fun n => n.within.filterMap pick

section Gathered

variable {α : Type} (pick : Node → Option α)

@[simp] theorem gathered_nil : gathered pick [] = [] := rfl

theorem gathered_append (ms ns : List Node) :
    gathered pick (ms ++ ns) = gathered pick ms ++ gathered pick ns := List.flatMap_append

theorem gathered_cons (n : Node) (ns : List Node) :
    gathered pick (n :: ns) = gathered pick [n] ++ gathered pick ns := gathered_append pick [n] ns

theorem gathered_single (n : Node) :
    gathered pick [n] = (pick n).toList ++ n.bodies.flatMap (gathered pick) := by
  have inner : (n.bodies.flatMap fun body => body.flatMap Node.within).filterMap pick =
      n.bodies.flatMap (gathered pick) := by
    simp only [List.filterMap_flatMap]
    rfl
  have own : ∀ rest, (n :: rest).filterMap pick = (pick n).toList ++ rest.filterMap pick := fun rest => by
    cases found : pick n <;> simp [found]
  simp only [gathered, List.flatMap_cons, List.flatMap_nil, List.append_nil] at inner ⊢
  rw [Node.within_eq, own, inner]

theorem gathered_perm {ms ns : List Node} (same : ms.Perm ns) :
    (gathered pick ms).Perm (gathered pick ns) :=
  same.flatMap_right _

theorem mem_gathered {a : α} {ns : List Node} :
    a ∈ gathered pick ns ↔ ∃ n ∈ ns, ∃ m : Node, m.Inside n ∧ pick m = some a := by
  simp only [gathered, List.mem_flatMap, List.mem_filterMap, Node.mem_within]

end Gathered

/-- The blocks among nodes and inside them, in the order of the source. -/
def declared (ns : List Node) : List Block :=
  ns.flatMap fun n => n.within.filterMap Node.block?

@[simp] theorem declared_nil : declared [] = [] := rfl

@[simp] theorem declared_append (ms ns : List Node) :
    declared (ms ++ ns) = declared ms ++ declared ns := gathered_append _ ms ns

theorem declared_cons (n : Node) (ns : List Node) :
    declared (n :: ns) = declared [n] ++ declared ns := gathered_cons _ n ns

theorem declared_single (n : Node) :
    declared [n] = n.block?.toList ++ n.bodies.flatMap declared := gathered_single _ n

theorem declared_perm {ms ns : List Node} (same : ms.Perm ns) : (declared ms).Perm (declared ns) :=
  gathered_perm _ same

/-- A declared block stands somewhere in the nodes. -/
theorem mem_declared {b : Block} {ns : List Node} :
    b ∈ declared ns ↔ ∃ n ∈ ns, (Node.block b.span b.name b.body).Inside n := by
  have stands : ∀ m : Node, m.block? = some b ↔ m = .block b.span b.name b.body := fun m => by
    cases m with
    | block span name body =>
      constructor
      · intro same
        cases same
        rfl
      · intro same
        cases same
        rfl
    | _ => simp [Node.block?]
  refine (mem_gathered Node.block?).trans (exists_congr fun n => and_congr_right fun member => ?_)
  constructor
  · rintro ⟨m, inside, same⟩
    exact (stands m).mp same ▸ inside
  · exact fun inside => ⟨_, inside, rfl⟩

/-- The nodes that the earlier parts of an open tag hold. -/
def OpenPart.nodes : OpenPart → List Node
  | .elifPart _ thenBody branches _ _ | .elsePart _ thenBody branches =>
    thenBody ++ branches.flatMap Branch.body
  | .emptyPart _ body => body
  | .thenPart _ | .loopPart _ | .blockPart _ | .customPart _ _ => []

namespace Parsing

/-- The nodes read so far that are not inside another one yet. -/
def pending (s : Parsing) : List Node :=
  s.nodes ++ s.opened.flatMap fun inner => inner.part.nodes ++ inner.before

variable {tags : Table Tag} {s s' : Parsing} {token : Token} {next : Option Token} {α : Type}
  (pick : Node → Option α)

/-- A token that stands for a node by itself has nothing inside it. -/
theorem Stands.gathers {n : Node} (node : Stands tags token next n) :
    gathered pick [n] = (pick n).toList := by
  rw [gathered_single]
  cases node <;> simp [Node.bodies]

theorem Stands.block {n : Node} (node : Stands tags token next n) : n.block? = none := by
  cases node <;> rfl

theorem Opens.nodes {blocks : Table Block} {o : OpenPart} (part : Opens tags blocks token next o) :
    o.nodes = [] := by
  cases part <;> rfl

/-- A further part holds what the parts before it held. -/
theorem Continues.nodes {body : List Node} {o o' : OpenPart} (part : Continues body token o o') :
    o'.nodes.Perm (body ++ o.nodes) := by
  cases part with
  | firstBranch => simp [OpenPart.nodes]
  | branch =>
    simp only [OpenPart.nodes, List.flatMap_cons]
    exact List.perm_append_comm_assoc _ _ _
  | onlyElse => simp [OpenPart.nodes]
  | lastElse =>
    simp only [OpenPart.nodes, List.flatMap_cons]
    exact List.perm_append_comm_assoc _ _ _
  | otherwise => simp [OpenPart.nodes]

theorem branches_reverse (branches : List Branch) :
    ((branches.reverse.map Branch.body).flatMap (gathered pick)).Perm
      (gathered pick (branches.flatMap Branch.body)) := by
  have same : gathered pick (branches.flatMap Branch.body) =
      (branches.map Branch.body).flatMap (gathered pick) := by
    simp [gathered, List.flatMap_assoc, List.flatMap_map]
  rw [same, List.map_reverse]
  exact (List.reverse_perm _).flatMap_right _

/-- A tag that ends holds what its parts do, and is itself one more node. -/
theorem Ends.gathers {start : Token} {body : List Node} {o : OpenPart} {n : Node}
    (node : Ends start body token o n) :
    (gathered pick [n]).Perm ((pick n).toList ++ gathered pick (body ++ o.nodes)) := by
  have swap : ∀ first second : List α, (first ++ second).Perm (second ++ first) :=
    fun _ _ => List.perm_append_comm
  rw [gathered_single]
  refine List.Perm.append_left _ ?_
  cases node with
  | thenPart | loopPart | blockPart | customPart => simp [Node.bodies, OpenPart.nodes]
  | @elifPart condition thenBody branches branchStart current =>
    have others := branches_reverse pick
      (.mk (branchStart.span.through token.span) current body :: branches)
    simp only [Node.bodies, Option.toList_none, List.append_nil, List.flatMap_cons, OpenPart.nodes,
      gathered_append] at others ⊢
    exact (others.append_left _).trans (List.perm_append_comm_assoc _ _ _)
  | @elsePart condition thenBody branches =>
    have others := branches_reverse pick branches
    simp only [Node.bodies, Option.toList_some, List.cons_append, List.flatMap_cons,
      List.flatMap_append, List.flatMap_nil, List.append_nil, OpenPart.nodes, gathered_append]
    refine ((others.append_right _).append_left _).trans ?_
    rw [← List.append_assoc]
    exact swap _ _
  | emptyPart =>
    simp only [Node.bodies, Option.toList_some, List.flatMap_cons, List.flatMap_nil, List.append_nil,
      OpenPart.nodes, gathered_append]
    exact swap _ _

/-- The nodes read so far hold what they did before, and the tag that the step ends is one more. -/
theorem Ends.pending {inner : OpenTag} {outer : List OpenTag} {n : Node}
    (innermost : s.opened = inner :: outer)
    (node : Ends inner.token s.nodes.reverse token inner.part n) :
    (gathered pick (s.leave inner outer n).pending).Perm
      ((pick n).toList ++ gathered pick s.pending) := by
  simp only [Parsing.pending, leave, innermost, List.flatMap_cons, List.cons_append]
  rw [gathered_cons]
  refine ((node.gathers pick).append_right _).trans ?_
  simp only [gathered_append, List.append_assoc]
  exact ((gathered_perm _ (List.reverse_perm _)).append_right _).append_left _

theorem Continues.pending {inner : OpenTag} {outer : List OpenTag} {o : OpenPart}
    (innermost : s.opened = inner :: outer) (part : Continues s.nodes.reverse token inner.part o) :
    (s.continueWith inner outer o).pending.Perm s.pending := by
  have collected := (part.nodes.append_right inner.before).append_right
    (outer.flatMap fun inner => inner.part.nodes ++ inner.before)
  simp only [Parsing.pending, continueWith, innermost, List.nil_append, List.flatMap_cons]
  refine collected.trans ?_
  rw [List.append_assoc, List.append_assoc, List.append_assoc]
  exact (List.reverse_perm _).append_right _

theorem Opens.pending {blocks : Table Block} {o : OpenPart} (part : Opens tags blocks token next o)
    (s : Parsing) : (s.enter token o).pending = s.pending := by
  simp [Parsing.pending, enter, part.nodes]

/-- At the end the nodes read are those of the outermost list. -/
theorem pending_perm (none : s.opened = []) : s.nodes.reverse.Perm s.pending := by
  simp only [Parsing.pending, none, List.flatMap_nil, List.append_nil]
  exact List.reverse_perm _

theorem inheriting_declared (s : Parsing) (token : Token) (p : Pipeline) :
    declared (s.inheriting token p).pending = declared s.pending := by
  have nothing : declared [.inheritance token.span p] = [] := declared_single _
  simp only [Parsing.pending, inheriting, List.cons_append]
  rw [declared_cons, nothing, List.nil_append]

/-- A step declares nothing, or the block that it ends. -/
theorem Step.declared (step : Step tags s token next s') :
    (s'.blocks = s.blocks ∧ (declared s'.pending).Perm (declared s.pending)) ∨
      ∃ b : Block, Table.contains s.blocks b.name = false ∧
        s'.blocks = Table.insert s.blocks b.name b ∧
        (declared s'.pending).Perm (b :: declared s.pending) := by
  cases step with
  | stands free node =>
    refine .inl ⟨rfl, .of_eq ?_⟩
    have nothing : TextTemplate.declared [_] = [] := (node.gathers _).trans (by rw [node.block]; rfl)
    simp only [pending, List.cons_append]
    rw [declared_cons, nothing, List.nil_append]
  | parent => exact .inl ⟨rfl, .of_eq (inheriting_declared s token _)⟩
  | opens kind free part =>
    exact .inl ⟨rfl, .of_eq (congrArg TextTemplate.declared (part.pending { s with anyTag := true }))⟩
  | continues kind innermost part => exact .inl ⟨rfl, declared_perm (part.pending innermost)⟩
  | ends kind innermost node unnamed =>
    have same := node.pending Node.block? innermost
    rw [unnamed] at same
    exact .inl ⟨rfl, same⟩
  | declares kind innermost node block fresh =>
    have more := node.pending Node.block? innermost
    rw [block] at more
    exact .inr ⟨_, fresh, rfl, more⟩

/-- The blocks declared so far are those of the nodes read so far, each under its own name. -/
structure Declares (s : Parsing) : Prop where
  distinct : ((TextTemplate.declared s.pending).map Block.name).Nodup
  table : ∀ name b, Table.get? s.blocks name = some b ↔
    b ∈ TextTemplate.declared s.pending ∧ b.name = name

theorem declares_start : Declares {} := by
  refine ⟨List.nodup_nil, fun name b => ?_⟩
  simp [pending]

theorem Step.keeps_declared (step : Step tags s token next s') (known : s.Declares) : s'.Declares := by
  rcases step.declared with ⟨blocks, same⟩ | ⟨b, fresh, blocks, more⟩
  · refine ⟨(same.map _).nodup_iff.mpr known.distinct, fun name b => ?_⟩
    rw [blocks, known.table, same.mem_iff]
  · have unused : ∀ c ∈ TextTemplate.declared s.pending, c.name ≠ b.name := by
      intro c member same
      have found := (known.table b.name c).mpr ⟨member, same⟩
      simp [Table.contains, found] at fresh
    refine ⟨(more.map _).nodup_iff.mpr ?_, fun name c => ?_⟩
    · rw [List.map_cons, List.nodup_cons]
      refine ⟨fun among => ?_, known.distinct⟩
      obtain ⟨c, member, same⟩ := List.mem_map.mp among
      exact unused c member same
    · rw [blocks, Table.get?_insert, more.mem_iff, List.mem_cons]
      by_cases same : b.name = name
      · rw [if_pos same]
        constructor
        · intro found
          cases found
          exact ⟨.inl rfl, same⟩
        · rintro ⟨rfl | member, named⟩
          · rfl
          · exact absurd (named.trans same.symm) (unused c member)
      · rw [if_neg same, known.table]
        constructor
        · rintro ⟨member, named⟩
          exact ⟨.inr member, named⟩
        · rintro ⟨rfl | member, named⟩
          · exact absurd named same
          · exact ⟨member, named⟩

end Parsing

variable {tags : Table Tag} {name source : String} {t : Template}

/-- The blocks of a template are those of its tree, whose names are distinct. -/
theorem ofTokens_declares {tokens : List Token}
    (made : Template.ofTokens tags name source tokens = .ok t) :
    ((declared t.root).map Block.name).Nodup ∧
      ∀ name b, t.block? name = some b ↔ b ∈ declared t.root ∧ b.name = name := by
  obtain ⟨s, read, none, rfl⟩ := ofTokens_iff.mp made
  have known := Parsing.run_keeps (fun _ _ _ _ _ step => step.keeps_declared) Parsing.declares_start read
  have same := declared_perm (Parsing.pending_perm none)
  refine ⟨(same.map _).nodup_iff.mpr known.distinct, fun name b => ?_⟩
  rw [same.mem_iff]
  exact known.table name b

/-- A template that is loaded was read from a source. -/
theorem template_of_load {env : Environment} (found : env.load name = .ok t) :
    ∃ source, env.template name source = .ok t := by
  unfold Environment.load at found
  split at found
  · cases found
  · split at found
    · cases found
    · exact ⟨_, found⟩

/-- A template that is loaded has the name that it was asked for by. -/
theorem name_of_load {env : Environment} (loaded : env.load name = .ok t) : t.name = name := by
  obtain ⟨source, made⟩ := template_of_load loaded
  obtain ⟨s, -, -, rfl⟩ := ofTokens_iff.mp (ofSource_tokens made)
  rfl

/-- What stands in a declared block stands in the tree of the template. -/
theorem contains_of_block (made : Template.ofSource tags name source = .ok t) {block : String} {b : Block}
    (found : t.block? block = some b) {m n : Node} (member : n ∈ b.body) (inside : m.Inside n) :
    t.Contains m := by
  have known := ofTokens_declares (ofSource_tokens made)
  obtain ⟨outer, listed, stands⟩ := mem_declared.mp ((known.2 block b).mp found).1
  have nested : m.Inside (.block b.span b.name b.body) :=
    .nested (List.mem_singleton.mpr rfl) member inside
  exact ⟨outer, listed, nested.trans stands⟩

end TextTemplate
