import Mathlib.Data.List.Dedup
import TextTemplate.Proofs.DeclaredBlocks
import TextTemplate.Proofs.RenderMoments
import TextTemplate.Proofs.TableEntries

/-! Blocks that nest. A definition may hold blocks that a more derived template overrides, with
definitions that hold further blocks. Yet without `super` no block is ever rendered inside itself:
a block inside a definition is defined first in the same template, as a smaller part of it, or in a
more derived one. So each block has a rank in its chain, which falls from a block to those in
its definition. -/
namespace TextTemplate

/-! Ranks -/

theorem sublist_flatMap {α β : Type} {f : α → List β} {a : α} {l : List α} (member : a ∈ l) :
    (f a).Sublist (l.flatMap f) :=
  List.sublist_flatten_of_mem (List.mem_map_of_mem member)

theorem Node.Inside.within_sublist {m n : Node} (inside : m.Inside n) :
    m.within.Sublist n.within := by
  induction inside with
  | self => exact .refl _
  | nested listed member _ ih =>
    refine ((ih.trans (sublist_flatMap member)).trans (sublist_flatMap listed)).trans ?_
    rw [Node.within_eq]
    exact List.sublist_cons_self _ _

/-- A block holds fewer blocks than what it stands in. -/
theorem declared_length_lt {span : Span} {name : String} {body ns : List Node} {n : Node}
    (member : n ∈ ns) (inside : (Node.block span name body).Inside n) :
    (declared body).length < (declared ns).length := by
  have parts : ((Node.block span name body).within.filterMap Node.block?).Sublist (declared ns) :=
    (inside.within_sublist.filterMap Node.block?).trans
      (sublist_flatMap (f := fun n => n.within.filterMap Node.block?) member)
  have own : declared [Node.block span name body] = ⟨span, name, body⟩ :: declared body := by
    rw [declared_single]
    simp [Node.block?, Node.bodies]
  have sizes := parts.length_le
  simp only [declared, List.flatMap_cons, List.flatMap_nil, List.append_nil] at own
  rw [own, List.length_cons] at sizes
  exact sizes

/-- The rank of a block in a chain: the number of blocks in its first definition and in the templates
before that. -/
def blockRank (name : String) : List Template → Nat
  | [] => 0
  | t :: rest =>
    match t.block? name with
    | some b => (declared b.body).length
    | none => (declared t.root).length + blockRank name rest

/-- A template that was read from a source with the tags of a setting. -/
def Environment.Reads (env : Environment) (t : Template) : Prop :=
  ∃ name source, env.template name source = .ok t

section Ranks

variable {env : Environment} {t : Template} {chain : List Template} {name inner : String} {b : Block}
  {span : Span} {body : List Node} {m : Node}

/-- A template declares the blocks that stand in its tree. -/
theorem block?_iff (read : env.Reads t) : t.block? name = some b ↔
    b.name = name ∧ t.Contains (.block b.span b.name b.body) := by
  obtain ⟨title, source, made⟩ := read
  rw [(ofTokens_declares (ofSource_tokens made)).2 name b, mem_declared, and_comm]
  rfl

/-- A block in the first definition of another one has a lower rank. -/
theorem blockRank_lt (read : ∀ u ∈ chain, env.Reads u) {d : Definition} {less : List Definition}
    {active : List ActiveBlock} (found : Frame.definitions ⟨chain, active⟩ name = d :: less)
    (member : m ∈ d.body) (inside : (Node.block span inner body).Inside m) :
    blockRank inner chain < blockRank name chain := by
  induction chain with
  | nil => cases found
  | cons t rest ih =>
    have own := read t List.mem_cons_self
    cases declared : t.block? name with
    | some b =>
      simp only [Frame.definitions, List.filterMap_cons, declared, Option.map_some] at found
      obtain ⟨rfl, -⟩ := List.cons.inj found
      obtain ⟨title, source, made⟩ := own
      have nested : t.block? inner = some ⟨span, inner, body⟩ :=
        (block?_iff ⟨title, source, made⟩).mpr ⟨rfl, contains_of_block made declared member inside⟩
      simp only [blockRank, declared, nested]
      exact declared_length_lt member inside
    | none =>
      have lower := ih (fun u later => read u (List.mem_cons_of_mem t later)) (by
        simpa [Frame.definitions, declared] using found)
      simp only [blockRank, declared]
      cases earlier : t.block? inner with
      | some b =>
        obtain ⟨-, n, listed, stands⟩ := (block?_iff own).mp earlier
        have smaller := declared_length_lt listed stands
        simp only
        omega
      | none =>
        simp only
        omega

end Ranks

/-! Frames -/

/-- A node is inherited content. -/
def Node.isInherited : Node → Bool
  | .output _ _ p => p.isSuper
  | _ => false

/-- No definition of a block along the chain uses `super`. -/
def superFree (chain : List Template) : Bool :=
  chain.all fun t => (Table.toList t.blocks).all fun entry => entry.2.body.all fun n =>
    n.within.all fun m => !m.isInherited

/-- The names of the blocks along a chain, each of them once. -/
def chainNames (chain : List Template) : List String := (chain.flatMap Template.blockNames).dedup

/-- Blocks that are active in a frame have distinct names, and are no more than the chain has names of
blocks, unless its definitions use `super`. -/
def Frame.nestsOnce (f : Frame) : Bool :=
  !superFree f.chain || decide (f.active.map ActiveBlock.name).Nodup &&
    decide (f.active.length ≤ (chainNames f.chain).length)

/-- The frames at a moment of a render, and those inside a block that the render has come to, which holds
perhaps no nodes. -/
def framesSeen (n : Node) (frames : List Frame) : List (List Frame) :=
  match n with
  | .block _ name _ => [frames, Render.activated ⟨name, 0⟩ frames]
  | _ => [frames]

/-- In no frame of the moment a block is active inside itself. -/
def momentNestsOnce (n : Node) (frames : List Frame) : Bool :=
  (framesSeen n frames).all fun frames => frames.all Frame.nestsOnce

section Frames

variable {env : Environment} {f : Frame} {frames : List Frame} {n m : Node}

theorem superFree_iff {chain : List Template} : superFree chain ↔
    ∀ t ∈ chain, ∀ entry ∈ Table.toList t.blocks, ∀ n ∈ entry.2.body, ∀ m : Node, m.Inside n →
      m.isInherited = false := by
  simp [superFree, List.all_eq_true, Node.mem_within]

/-- The ranks of the active blocks rise from the innermost one outwards, and all of them are blocks of the
chain. -/
structure Frame.Descends (f : Frame) : Prop where
  ranks : (f.active.map fun b => blockRank b.name f.chain).Pairwise (· < ·)
  named : ∀ b ∈ f.active, b.name ∈ chainNames f.chain

/-- What is rendered in a frame stands in the first definition of the innermost active block, or in a
template of the chain if there is none. -/
def Frame.Holds (f : Frame) (n : Node) : Prop :=
  match f.active with
  | [] => ∃ t ∈ f.chain, t.Contains n
  | b :: _ => ∃ d less, f.definitions b.name = d :: less ∧ ∃ m ∈ d.body, n.Inside m

/-- Blocks of falling ranks are not active twice. -/
theorem Frame.Descends.nestsOnce (descends : superFree f.chain → f.Descends) : f.nestsOnce := by
  unfold Frame.nestsOnce
  cases free : superFree f.chain with
  | false => rfl
  | true =>
    obtain ⟨ranks, named⟩ := descends free
    have distinct : (f.active.map ActiveBlock.name).Nodup := by
      rw [List.Nodup, List.pairwise_map]
      refine (List.pairwise_map.mp ranks).imp fun lower same => ?_
      rw [same] at lower
      exact Nat.lt_irrefl _ lower
    have few : f.active.length ≤ (chainNames f.chain).length := by
      have among : f.active.map ActiveBlock.name ⊆ chainNames f.chain := fun name member => by
        obtain ⟨b, active, rfl⟩ := List.mem_map.mp member
        exact named b active
      simpa using (distinct.subperm among).length_le
    simp [distinct, few]

theorem mem_chainNames {chain : List Template} {t : Template} {name : String} {b : Block}
    (listed : t ∈ chain) (declared : t.block? name = some b) : name ∈ chainNames chain :=
  List.mem_dedup.mpr (List.mem_flatMap.mpr ⟨t, listed, Table.mem_keys_of_get? declared⟩)

theorem Frame.Holds.inside (holds : f.Holds n) (inside : m.Inside n) : f.Holds m := by
  unfold Frame.Holds at *
  split
  · rename_i none
    simp only [none] at holds
    obtain ⟨t, listed, k, root, stands⟩ := holds
    exact ⟨t, listed, k, root, inside.trans stands⟩
  · rename_i b passed standing
    simp only [standing] at holds
    obtain ⟨d, less, found, k, member, stands⟩ := holds
    exact ⟨d, less, found, k, member, inside.trans stands⟩

/-- What is rendered in a frame stands in some template of the chain. -/
theorem Frame.Holds.contains (read : ∀ t ∈ f.chain, env.Reads t) (holds : f.Holds n) :
    ∃ t ∈ f.chain, t.Contains n := by
  unfold Frame.Holds at holds
  split at holds
  · exact holds
  · obtain ⟨d, less, found, m, member, inside⟩ := holds
    obtain ⟨t, listed, b, declared, rfl⟩ := mem_definitions (found ▸ List.mem_cons_self)
    obtain ⟨name, source, made⟩ := read t listed
    exact ⟨t, listed, contains_of_block made declared member inside⟩

/-- Inside a definition that does without `super` there is no inherited content. -/
theorem Frame.Holds.uninherited {b : ActiveBlock} {passed : List ActiveBlock} (holds : f.Holds n)
    (free : superFree f.chain) (standing : f.active = b :: passed) : n.isInherited = false := by
  simp only [Frame.Holds, standing] at holds
  obtain ⟨d, less, found, m, member, inside⟩ := holds
  obtain ⟨t, listed, block, declared, rfl⟩ := mem_definitions (found ▸ List.mem_cons_self)
  exact superFree_iff.mp free t listed _ (Table.mem_of_get? declared) m member n inside

/-- A block that is rendered in a frame has a lower rank than all blocks that are active in it. -/
theorem Frame.Descends.enter {span : Span} {name : String} {body : List Node}
    (read : ∀ t ∈ f.chain, env.Reads t) (descends : f.Descends)
    (holds : f.Holds (.block span name body)) (level : Nat) :
    Frame.Descends ⟨f.chain, ⟨name, level⟩ :: f.active⟩ := by
  obtain ⟨t, listed, stands⟩ := holds.contains read
  have declared := (block?_iff (b := ⟨span, name, body⟩) (read t listed)).mpr ⟨rfl, stands⟩
  refine ⟨List.pairwise_cons.mpr ⟨fun rank among => ?_, descends.ranks⟩,
    List.forall_mem_cons.mpr ⟨mem_chainNames listed declared, descends.named⟩⟩
  obtain ⟨chain, active⟩ := f
  cases active with
  | nil => cases among
  | cons b passed =>
    obtain ⟨d, less, found, m, member, inside⟩ := holds
    have lower := blockRank_lt read found member inside
    have rising := (List.pairwise_cons.mp descends.ranks).1
    rcases List.mem_cons.mp among with rfl | outer
    · exact lower
    · exact Nat.lt_trans lower (rising rank outer)

/-- At a moment of a render: chains of templates that have been read, and in those that do without
`super` active blocks of falling ranks, in the innermost of which the render stands. -/
structure Orderly (env : Environment) (n : Node) (frames : List Frame) : Prop where
  read : ∀ f ∈ frames, ∀ t ∈ f.chain, env.Reads t
  descends : ∀ f ∈ frames, superFree f.chain → f.Descends
  holds : ∀ f ∈ frames.head?, superFree f.chain → f.Holds n

/-- The blocks descend also inside a block that the render has come to. -/
theorem Orderly.enter {span : Span} {name : String} {body : List Node}
    (orderly : Orderly env (.block span name body) frames) :
    ∀ f ∈ Render.activated ⟨name, 0⟩ frames, superFree f.chain → f.Descends := by
  cases frames with
  | nil => exact nofun
  | cons frame outer =>
    refine List.forall_mem_cons.mpr ⟨fun free => ?_, fun f member =>
      orderly.descends f (List.mem_cons_of_mem frame member)⟩
    exact (orderly.descends frame List.mem_cons_self free).enter (orderly.read frame List.mem_cons_self)
      (orderly.holds frame rfl free) 0

theorem Orderly.nestsOnce (orderly : Orderly env n frames) : momentNestsOnce n frames := by
  have here : frames.all Frame.nestsOnce := List.all_eq_true.mpr fun f member =>
    Frame.Descends.nestsOnce (orderly.descends f member)
  unfold momentNestsOnce framesSeen
  split
  · have inside := List.all_eq_true.mpr fun f member =>
      Frame.Descends.nestsOnce (orderly.enter f member)
    simp [here, inside]
  · simp [here]

theorem activated_read {b : ActiveBlock} (read : ∀ f ∈ frames, ∀ t ∈ f.chain, env.Reads t) :
    ∀ f ∈ Render.activated b frames, ∀ t ∈ f.chain, env.Reads t := by
  cases frames with
  | nil => exact nofun
  | cons frame outer =>
    exact List.forall_mem_cons.mpr ⟨read frame List.mem_cons_self, fun f member =>
      read f (List.mem_cons_of_mem frame member)⟩

/-- A render enters a template with no block active. -/
theorem Orderly.entered {t : Template} {scopes : Scopes} {depth : Nat} {chain : List Template}
    (own : env.Reads t) (resolved : env.resolveChain scopes depth t = .ok chain)
    (read : ∀ f ∈ frames, ∀ t ∈ f.chain, env.Reads t)
    (descends : ∀ f ∈ frames, superFree f.chain → f.Descends)
    (member : m ∈ (chain.getLastD t).root) : Orderly env m (⟨chain, []⟩ :: frames) where
  read := by
    have loads : ∀ name u, env.load name = .ok u → env.Reads u := fun name _ loaded =>
      ⟨name, template_of_load loaded⟩
    exact List.forall_mem_cons.mpr ⟨forall_mem_chain own loads resolved, read⟩
  descends := List.forall_mem_cons.mpr ⟨fun _ => ⟨.nil, nofun⟩, descends⟩
  holds frame innermost _ := by
    cases innermost
    exact ⟨chain.getLastD t, last_mem_chain resolved, m, member, .self⟩

/-- Every moment of a render is orderly if the one before it is. -/
theorem Orderly.next {inner : List Frame} (orderly : Orderly env n frames)
    (next : Render.Next env n frames m inner) : Orderly env m inner := by
  cases next with
  | child listed member =>
    exact ⟨orderly.read, orderly.descends, fun f innermost free =>
      (orderly.holds f innermost free).inside (.nested listed member .self)⟩
  | @defined span name body frame outer d less m block innermost found member =>
    subst block innermost
    refine ⟨activated_read orderly.read, orderly.enter, fun f same free => ?_⟩
    cases same
    exact ⟨d, less, found, m, member, .self⟩
  | @inherited span source p frame outer b passed d m output inherits innermost standing found member =>
    subst output innermost
    -- In a chain without `super` the render is not inside of a block here.
    have uses : ¬ superFree frame.chain := fun free => by
      have plain := (orderly.holds frame rfl free).uninherited free standing
      simp [Node.isInherited, inherits] at plain
    refine ⟨activated_read orderly.read, ?_, fun f same free => ?_⟩
    · exact List.forall_mem_cons.mpr ⟨fun free => absurd free uses, fun f member =>
        orderly.descends f (List.mem_cons_of_mem frame member)⟩
    · cases same
      exact absurd free uses
  | included loaded resolved member =>
    exact .entered ⟨_, template_of_load loaded⟩ resolved orderly.read orderly.descends member

end Frames

/-- Without `super` blocks never re-enter themselves. Whatever the templates are that a render comes to, in
no frame whose chain does without `super` in its definitions two active blocks have one name, and
so never more blocks are active than the chain has names of blocks: a render under a watch for
it is the render without the watch, whatever the alarm does. -/
theorem blocks_nest_once {env : Environment} {name source : String} {t : Template}
    (made : env.template name source = .ok t) (bound : Nat) (data : Value) (alarm : Render.Walk) :
    env.renderWith (Render.watched env momentNestsOnce alarm bound) t data = env.render bound t data :=
  Environment.renderWith_watched (fun _ _ => Orderly.nestsOnce) (fun _ _ _ _ => Orderly.next)
    (fun _ _ _ resolved _ member => .entered ⟨name, source, made⟩ resolved nofun nofun member) bound data

/-- Blocks inside each other, of which the inner one is overridden by one that holds a further block. -/
def Environment.overriding : Environment :=
  .pair "{% block a %}[{% block b %}{% endblock %}]{% endblock %}"
    ("\x7b% extends 'base' %\x7d" ++ "{% block b %}({% block c %}x{% endblock %}){% endblock %}")

/-- Three blocks deep in a chain without `super`. -/
theorem blocks_nest_once_overriding : ∃ child source,
    Environment.overriding.template "child" source = .ok child ∧
    (Environment.overriding.resolveChain ⟨[], .empty⟩ 1 child).toOption.any superFree ∧
    Environment.overriding.render 4 child .null = .ok "[(x)]" ∧
    ∀ alarm, Environment.overriding.renderWith
      (Render.watched Environment.overriding momentNestsOnce alarm 4) child .null = .ok "[(x)]" := by
  have checked : (Environment.overriding.load "child").toOption.any (fun child =>
      (Environment.overriding.resolveChain ⟨[], .empty⟩ 1 child).toOption.any superFree &&
        decide ((Environment.overriding.render 4 child .null).toOption = some "[(x)]")) = true := by
    decide +kernel
  cases read : Environment.overriding.load "child" with
  | error e => simp [read, Except.toOption] at checked
  | ok child =>
    obtain ⟨source, made⟩ := template_of_load read
    simp only [read, Except.toOption, Option.any_some, Bool.and_eq_true] at checked
    obtain ⟨free, rendered⟩ := checked
    cases ended : Environment.overriding.render 4 child .null with
    | error stop => simp [ended] at rendered
    | ok out =>
      obtain rfl : out = "[(x)]" := by simpa [ended] using rendered
      exact ⟨child, source, made, free, ended, fun alarm =>
        (blocks_nest_once made 4 .null alarm).trans ended⟩

end TextTemplate
