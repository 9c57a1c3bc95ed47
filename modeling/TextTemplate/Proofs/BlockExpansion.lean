import Mathlib.Data.Fintype.Card
import Mathlib.Data.Set.Finite.Lattice
import Mathlib.Data.Set.Finite.List
import Mathlib.Logic.Relation
import TextTemplate.Proofs.NodeTree
import TextTemplate.Proofs.RenderEffect
import TextTemplate.Proofs.TableEntries

/-! Inheritance as a substitution on trees. In the tree of the last ancestor every block is
replaced by its most derived definition, and `super` in a definition by the next less derived
one, until neither is left. The substitution need not end: definitions may lead back into
each other. For the finitely many definitions of a chain it ends exactly where no
definition that the tree leads to leads back to itself, and then one depth suffices. A render
stands at a place of this substitution at each moment. -/
namespace TextTemplate

/-- The definitions of each block, the most derived first. -/
abbrev Overrides := String → List Definition

/-- The next less derived definition of the same block. -/
def ActiveBlock.next (b : ActiveBlock) : ActiveBlock := ⟨b.name, b.level + 1⟩

/-- The nodes of one definition of a block. -/
def Overrides.bodyAt (defs : Overrides) (b : ActiveBlock) : Option (List Node) :=
  (defs b.name)[b.level]?.map Definition.body

/-- Changes the nodes of a branch. -/
def Branch.mapBody (f : List Node → Option (List Node)) : Branch → Option Branch
  | .mk span condition body => (f body).map (.mk span condition)

/-- Changes every list of nodes directly inside a node, if each of them can be changed. -/
def Node.mapBodies (f : List Node → Option (List Node)) : Node → Option Node
  | .conditional span condition thenBody branches elseBody => do
    let thenBody ← f thenBody
    let branches ← branches.mapM (Branch.mapBody f)
    let elseBody ← elseBody.mapM f
    some (.conditional span condition thenBody branches elseBody)
  | .loop span header body emptyBody => do
    let body ← f body
    let emptyBody ← emptyBody.mapM f
    some (.loop span header body emptyBody)
  | .block span name body => (f body).map (.block span name)
  | .custom span keyword action body => (f body).map (.custom span keyword action)
  | n => some n

namespace Overrides

variable (defs : Overrides)

/-- What `super` is replaced by at a place: nothing outside of every block and in a least derived
definition. -/
def expandSuper (expand : Option ActiveBlock → List Node → Option (List Node)) :
    Option ActiveBlock → Option (List Node)
  | none => some []
  | some b =>
    match defs.bodyAt b.next with
    | none => some []
    | some body => expand (some b.next) body

/-- Inherited content in the place of an output: as it is, or inside a tag with the filters of the
output. -/
def refilter (p : Pipeline) (body : List Node) : List Node :=
  if p.filters.isEmpty then body else [.custom p.span "filter" (.filter p.filters) body]

/-- What a node is replaced by at a place, which is outside of every block or in one definition of a
block. -/
def expandNode (expand : Option ActiveBlock → List Node → Option (List Node))
    (place : Option ActiveBlock) : Node → Option (List Node)
  | .output span source p =>
    if p.isSuper then (expandSuper defs expand place).map (refilter p)
    else some [.output span source p]
  | .block _ name body =>
    match defs.bodyAt ⟨name, 0⟩ with
    | some outermost => expand (some ⟨name, 0⟩) outermost
    | none => expand place body
  | n => (n.mapBodies (expand place)).map fun n => [n]

/-- Replaces each of some nodes and joins the results, if each of them can be replaced. -/
def expandEach (f : Node → Option (List Node)) : List Node → Option (List Node)
  | [] => some []
  | n :: rest => do
    let first ← f n
    let others ← expandEach f rest
    some (first ++ others)

/-- The expansion of nodes at a place; `none` if it nests beyond `depth`. -/
def expand : Nat → Option ActiveBlock → List Node → Option (List Node)
  | 0, _, _ => none
  | depth + 1, place, body => expandEach (defs.expandNode (expand depth) place) body

/-- A node at a place leads to the definitions that replace parts of it. -/
inductive LeadsTo (place : Option ActiveBlock) : Node → ActiveBlock → Prop where
  | block (defined : (defs.bodyAt ⟨name, 0⟩).isSome) :
      LeadsTo place (.block span name body) ⟨name, 0⟩
  | undefined (missing : defs.bodyAt ⟨name, 0⟩ = none) (member : child ∈ body)
      (leads : LeadsTo place child b) : LeadsTo place (.block span name body) b
  | inherited (inherits : Pipeline.isSuper p = true) (standing : place = some b)
      (defined : (defs.bodyAt b.next).isSome) : LeadsTo place (.output span source p) b.next
  | nested (plain : n.isPlain) (listed : body ∈ Node.bodies n) (member : child ∈ body)
      (leads : LeadsTo place child b) : LeadsTo place n b

/-- One definition leads to another one. -/
def Leads (b c : ActiveBlock) : Prop :=
  ∃ body, defs.bodyAt b = some body ∧ ∃ n ∈ body, defs.LeadsTo (some b) n c

/-- A tree leads to a definition, at once or through others. -/
def Reaches (root : List Node) (b : ActiveBlock) : Prop :=
  ∃ n ∈ root, ∃ a, defs.LeadsTo none n a ∧ Relation.ReflTransGen defs.Leads a b

/-- No definition that a tree leads to leads back to itself. -/
def Unlooped (root : List Node) : Prop :=
  ∀ b, defs.Reaches root b → ¬ Relation.TransGen defs.Leads b b

end Overrides

/-! Changing the lists of nodes inside a node -/

section Bodies

variable {f g : List Node → Option (List Node)}

theorem mapM_eq_some_iff {α β : Type} {f : α → Option β} {l : List α} {l' : List β} :
    l.mapM f = some l' ↔ List.Forall₂ (fun a b => f a = some b) l l' := by
  induction l generalizing l' with
  | nil => cases l' <;> simp
  | cons a rest ih =>
    cases l' with
    | nil => simp [Option.bind_eq_some_iff]
    | cons b rest' => simp [Option.bind_eq_some_iff, ← ih]

theorem optionMapM_eq_some_iff {e e' : Option (List Node)} :
    e.mapM f = some e' ↔ Option.Rel (fun b b' => f b = some b') e e' := by
  cases e <;> cases e' <;> simp

theorem mapBody_eq_some_iff {b b' : Branch} :
    b.mapBody f = some b' ↔ Branch.Matches (fun b b' => f b = some b') b b' := by
  obtain ⟨place, test, body⟩ := b
  constructor
  · intro mapped
    obtain ⟨tree, done, rfl⟩ := Option.map_eq_some_iff.mp mapped
    exact .mk done
  · rintro ⟨related⟩
    simp [Branch.mapBody, related]

/-- A node can be changed into the nodes of its shape whose bodies are the changed ones. -/
theorem mapBodies_eq_some_iff {n n' : Node} :
    n.mapBodies f = some n' ↔ Node.Matches (fun b b' => f b = some b') n n' := by
  constructor
  · intro mapped
    cases n with
    | conditional place test first bs e =>
      simp only [Node.mapBodies, Option.bind_eq_bind, Option.bind_eq_some_iff, mapM_eq_some_iff,
        optionMapM_eq_some_iff, Option.some.injEq] at mapped
      obtain ⟨first', related, bs', others, e', last, rfl⟩ := mapped
      exact .conditional related (others.imp fun _ _ held => mapBody_eq_some_iff.mp held) last
    | loop place header first e =>
      simp only [Node.mapBodies, Option.bind_eq_bind, Option.bind_eq_some_iff,
        optionMapM_eq_some_iff, Option.some.injEq] at mapped
      obtain ⟨first', related, e', last, rfl⟩ := mapped
      exact .loop related last
    | block place name first =>
      obtain ⟨tree, related, rfl⟩ := Option.map_eq_some_iff.mp mapped
      exact .block related
    | custom place keyword action first =>
      obtain ⟨tree, related, rfl⟩ := Option.map_eq_some_iff.mp mapped
      exact .custom related
    | text => cases mapped; exact .text
    | output => cases mapped; exact .output
    | comment => cases mapped; exact .comment
    | inclusion => cases mapped; exact .inclusion
    | inheritance => cases mapped; exact .inheritance
  · intro matched
    cases matched with
    | conditional related others last =>
      have others := mapM_eq_some_iff.mpr (others.imp fun _ _ held => mapBody_eq_some_iff.mpr held)
      simp [Node.mapBodies, related, others, optionMapM_eq_some_iff.mpr last]
    | loop related last => simp [Node.mapBodies, related, optionMapM_eq_some_iff.mpr last]
    | block related => simp [Node.mapBodies, related]
    | custom related => simp [Node.mapBodies, related]
    | _ => rfl

theorem related_of_member {α β : Type} {r : α → β → Prop} {l : List α} {l' : List β} {a : α}
    (related : List.Forall₂ r l l') (member : a ∈ l) : ∃ b ∈ l', r a b := by
  induction related with
  | nil => cases member
  | @cons first second _ _ held _ ih =>
    rcases List.mem_cons.mp member with rfl | among
    · exact ⟨second, List.mem_cons_self, held⟩
    · obtain ⟨b, listed, found⟩ := ih among
      exact ⟨b, List.mem_cons_of_mem _ listed, found⟩

/-- Every list of nodes inside a changed node has been changed. -/
theorem mapBodies_inside {n n' : Node} {body : List Node} (mapped : n.mapBodies f = some n')
    (listed : body ∈ n.bodies) : ∃ tree, f body = some tree := by
  obtain ⟨tree, -, done⟩ := related_of_member (mapBodies_eq_some_iff.mp mapped).bodies listed
  exact ⟨tree, done⟩

theorem mapBodies_mono {n n' : Node} (grows : ∀ body tree, f body = some tree → g body = some tree)
    (mapped : n.mapBodies f = some n') : n.mapBodies g = some n' :=
  mapBodies_eq_some_iff.mpr ((mapBodies_eq_some_iff.mp mapped).imp grows)

theorem mapM_defined {α β : Type} {f : α → Option β} {l : List α}
    (defined : ∀ a ∈ l, ∃ b, f a = some b) : ∃ l', l.mapM f = some l' := by
  induction l with
  | nil => exact ⟨[], rfl⟩
  | cons a rest ih =>
    obtain ⟨b, first⟩ := defined a (by simp)
    obtain ⟨rest', others⟩ := ih fun a member => defined a (by simp [member])
    exact ⟨b :: rest', by simp [first, others]⟩

theorem optionMapM_defined {e : Option (List Node)}
    (defined : ∀ body ∈ e, ∃ tree, f body = some tree) : ∃ e', e.mapM f = some e' := by
  cases e with
  | none => exact ⟨none, rfl⟩
  | some body =>
    obtain ⟨tree, done⟩ := defined body rfl
    exact ⟨some tree, by simp [done]⟩

/-- A node can be changed if all lists of nodes directly inside it can. -/
theorem mapBodies_defined {n : Node} (defined : ∀ body ∈ n.bodies, ∃ tree, f body = some tree) :
    ∃ n', n.mapBodies f = some n' := by
  cases n with
  | conditional place test first bs e =>
    obtain ⟨first', head⟩ := defined first (by simp [Node.bodies])
    obtain ⟨bs', others⟩ : ∃ bs', bs.mapM (Branch.mapBody f) = some bs' := by
      refine mapM_defined fun b member => ?_
      obtain ⟨place, test, body⟩ := b
      obtain ⟨tree, done⟩ := defined body (by
        simp only [Node.bodies, List.cons_append, List.mem_cons, List.mem_append, List.mem_map]
        exact .inr (.inl ⟨_, member, rfl⟩))
      exact ⟨.mk place test tree, by simp [Branch.mapBody, done]⟩
    obtain ⟨e', last⟩ := optionMapM_defined (e := e) fun body present =>
      defined body (by simp [Node.bodies, Option.mem_def.mp present])
    exact ⟨.conditional place test first' bs' e', by simp [Node.mapBodies, head, others, last]⟩
  | loop place header first e =>
    obtain ⟨first', head⟩ := defined first (by simp [Node.bodies])
    obtain ⟨e', last⟩ := optionMapM_defined (e := e) fun body present =>
      defined body (by simp [Node.bodies, Option.mem_def.mp present])
    exact ⟨.loop place header first' e', by simp [Node.mapBodies, head, last]⟩
  | block place name first =>
    obtain ⟨tree, done⟩ := defined first (by simp [Node.bodies])
    exact ⟨.block place name tree, by simp [Node.mapBodies, done]⟩
  | custom place keyword action first =>
    obtain ⟨tree, done⟩ := defined first (by simp [Node.bodies])
    exact ⟨.custom place keyword action tree, by simp [Node.mapBodies, done]⟩
  | _ => exact ⟨_, rfl⟩

end Bodies

namespace Overrides

variable {defs : Overrides} {place : Option ActiveBlock}

theorem expandNode_plain {f : Option ActiveBlock → List Node → Option (List Node)} {n : Node}
    (plain : n.isPlain) :
    defs.expandNode f place n = (n.mapBodies (f place)).map fun n => [n] := by
  cases n with
  | output span source p =>
    have ordinary : p.isSuper = false := by simpa [Node.isPlain] using plain
    simp [expandNode, ordinary, Node.mapBodies]
  | block span name body => simp [Node.isPlain] at plain
  | _ => rfl

theorem expandNode_super {f : Option ActiveBlock → List Node → Option (List Node)} {span : Span}
    {source : String} {p : Pipeline} (inherits : p.isSuper) :
    defs.expandNode f place (.output span source p) =
      (defs.expandSuper f place).map (refilter p) := by
  simp only [expandNode, inherits, if_true]

theorem expandEach_cons {f : Node → Option (List Node)} {n : Node} {rest tree : List Node} :
    expandEach f (n :: rest) = some tree ↔
      ∃ first others, f n = some first ∧ expandEach f rest = some others ∧ first ++ others = tree := by
  simp only [expandEach, Option.bind_eq_bind, Option.bind_eq_some_iff, Option.some.injEq]
  constructor
  · rintro ⟨first, done, others, restDone, joined⟩
    exact ⟨first, others, done, restDone, joined⟩
  · rintro ⟨first, others, done, restDone, joined⟩
    exact ⟨first, done, others, restDone, joined⟩

/-! A greater depth gives the same expansion -/

theorem expandNode_mono {f g : Option ActiveBlock → List Node → Option (List Node)}
    (grows : ∀ place body tree, f place body = some tree → g place body = some tree)
    {n : Node} {tree : List Node} (expanded : defs.expandNode f place n = some tree) :
    defs.expandNode g place n = some tree := by
  rcases n.plain_cases with plain | ⟨span, source, p, inherits, rfl⟩ | ⟨span, name, body, rfl⟩
  · rw [expandNode_plain plain] at expanded ⊢
    obtain ⟨n', mapped, rfl⟩ := Option.map_eq_some_iff.mp expanded
    exact Option.map_eq_some_iff.mpr ⟨n', mapBodies_mono (grows place) mapped, rfl⟩
  · rw [expandNode_super inherits] at expanded ⊢
    obtain ⟨body, done, rfl⟩ := Option.map_eq_some_iff.mp expanded
    refine Option.map_eq_some_iff.mpr ⟨body, ?_, rfl⟩
    cases place with
    | none => exact done
    | some b =>
      simp only [expandSuper] at done ⊢
      split at done
      · exact done
      · exact grows _ _ _ done
  · simp only [expandNode] at expanded ⊢
    split at expanded
    · exact grows _ _ _ expanded
    · exact grows _ _ _ expanded

theorem expandEach_mono {f g : Node → Option (List Node)}
    (grows : ∀ n tree, f n = some tree → g n = some tree) {body tree : List Node}
    (expanded : expandEach f body = some tree) : expandEach g body = some tree := by
  induction body generalizing tree with
  | nil => exact expanded
  | cons n rest ih =>
    obtain ⟨first, others, done, restDone, joined⟩ := expandEach_cons.mp expanded
    exact expandEach_cons.mpr ⟨first, others, grows n first done, ih restDone, joined⟩

/-- Nodes are replaced one by one. -/
theorem expandEach_member {f : Node → Option (List Node)} {body tree : List Node} {n : Node}
    (expanded : expandEach f body = some tree) (member : n ∈ body) : ∃ part, f n = some part := by
  induction body generalizing tree with
  | nil => cases member
  | cons first rest ih =>
    obtain ⟨part, others, done, restDone, -⟩ := expandEach_cons.mp expanded
    rcases List.mem_cons.mp member with rfl | among
    · exact ⟨part, done⟩
    · exact ih restDone among

/-- Within an expansion every node is replaced by an expansion of less depth. -/
theorem expand_member {depth : Nat} {body tree : List Node} {n : Node}
    (expanded : defs.expand depth place body = some tree) (member : n ∈ body) :
    ∃ less part, depth = less + 1 ∧ defs.expandNode (defs.expand less) place n = some part := by
  cases depth with
  | zero => cases expanded
  | succ less =>
    obtain ⟨part, replaced⟩ := expandEach_member expanded member
    exact ⟨less, part, rfl, replaced⟩

theorem expand_mono {depth more : Nat} (le : depth ≤ more) {body tree : List Node}
    (expanded : defs.expand depth place body = some tree) :
    defs.expand more place body = some tree := by
  induction depth generalizing more place body tree with
  | zero => cases expanded
  | succ depth ih =>
    obtain ⟨more, rfl⟩ : ∃ k, more = k + 1 := ⟨more - 1, by omega⟩
    exact expandEach_mono (fun _ _ done => expandNode_mono
      (fun _ _ _ inner => ih (by omega) inner) done) expanded

/-! No block and no inherited content is left -/

theorem expandEach_origin {f : Node → Option (List Node)} {body tree : List Node} {n : Node}
    (expanded : expandEach f body = some tree) (member : n ∈ tree) :
    ∃ origin ∈ body, ∃ part, f origin = some part ∧ n ∈ part := by
  induction body generalizing tree with
  | nil =>
    cases expanded
    cases member
  | cons first rest ih =>
    obtain ⟨part, others, done, restDone, rfl⟩ := expandEach_cons.mp expanded
    rcases List.mem_append.mp member with here | later
    · exact ⟨first, List.mem_cons_self, part, done, here⟩
    · obtain ⟨origin, among, found⟩ := ih restDone later
      exact ⟨origin, List.mem_cons_of_mem _ among, found⟩

/-- All nodes of an expansion, at every depth, are plain. -/
theorem expand_plain {depth : Nat} : ∀ {place body tree}, defs.expand depth place body = some tree →
    ∀ n ∈ tree, ∀ m : Node, m.Inside n → m.isPlain := by
  induction depth with
  | zero => exact fun expanded => nomatch expanded
  | succ depth ih =>
    intro place body tree expanded n member m inside
    obtain ⟨origin, -, part, replaced, listed⟩ := expandEach_origin expanded member
    rcases origin.plain_cases with plain | ⟨span, source, p, inherits, rfl⟩ | ⟨span, name, body, rfl⟩
    · rw [expandNode_plain plain] at replaced
      obtain ⟨n', mapped, rfl⟩ := Option.map_eq_some_iff.mp replaced
      obtain rfl := List.mem_singleton.mp listed
      have matched := mapBodies_eq_some_iff.mp mapped
      cases inside with
      | self => exact matched.plain plain
      | nested among child within =>
        obtain ⟨inner, -, done⟩ := related_of_member matched.bodies.flip among
        exact ih done _ child m within
    · rw [expandNode_super inherits] at replaced
      obtain ⟨inner, done, rfl⟩ := Option.map_eq_some_iff.mp replaced
      have below : ∀ n ∈ inner, ∀ m : Node, m.Inside n → m.isPlain := by
        unfold expandSuper at done
        split at done
        · cases done
          exact fun _ nothing => nomatch nothing
        · split at done
          · cases done
            exact fun _ nothing => nomatch nothing
          · exact ih done
      unfold refilter at listed
      split at listed
      · exact below n listed m inside
      · obtain rfl := List.mem_singleton.mp listed
        cases inside with
        | self => rfl
        | nested among child within =>
          obtain rfl := List.mem_singleton.mp among
          exact below _ child m within
    · simp only [expandNode] at replaced
      split at replaced
      · exact ih replaced n listed m inside
      · exact ih replaced n listed m inside

/-! Expansions end where no definition leads back to itself -/

/-- The expansion of some nodes is finite. -/
def Expands (defs : Overrides) (place : Option ActiveBlock) (body : List Node) : Prop :=
  ∃ depth tree, defs.expand depth place body = some tree

theorem common_depth {bodies : List (List Node)}
    (finite : ∀ body ∈ bodies, defs.Expands place body) :
    ∃ depth, ∀ body ∈ bodies, ∃ tree, defs.expand depth place body = some tree := by
  induction bodies with
  | nil => exact ⟨0, by simp⟩
  | cons body rest ih =>
    obtain ⟨first, tree, done⟩ := finite body (by simp)
    obtain ⟨others, all⟩ := ih fun body member => finite body (by simp [member])
    refine ⟨max first others, fun other member => ?_⟩
    rcases List.mem_cons.mp member with rfl | among
    · exact ⟨tree, expand_mono (Nat.le_max_left _ _) done⟩
    · obtain ⟨tree, done⟩ := all other among
      exact ⟨tree, expand_mono (Nat.le_max_right _ _) done⟩

theorem expands_of_each {body : List Node}
    (finite : ∀ n ∈ body, ∃ depth tree, defs.expandNode (defs.expand depth) place n = some tree) :
    defs.Expands place body := by
  induction body with
  | nil => exact ⟨1, [], rfl⟩
  | cons n rest ih =>
    obtain ⟨depth, first, done⟩ := finite n (by simp)
    obtain ⟨others, tree, restDone⟩ := ih fun n member => finite n (by simp [member])
    refine ⟨max depth others + 1, first ++ tree, ?_⟩
    have head := expandNode_mono (g := defs.expand (max depth others))
      (fun _ _ _ inner => expand_mono (Nat.le_max_left _ _) inner) done
    have tail := expand_mono (show others ≤ max depth others + 1 by omega) restDone
    exact expandEach_cons.mpr ⟨first, tree, head, tail, rfl⟩

/-- A node can be replaced if the definitions that it leads to have finite expansions. -/
theorem node_expands (n : Node)
    (targets : ∀ b body, defs.LeadsTo place n b → defs.bodyAt b = some body →
      defs.Expands (some b) body) :
    ∃ depth tree, defs.expandNode (defs.expand depth) place n = some tree := by
  induction n using Node.tree_induction with
  | step n ih =>
    have inside : ∀ body ∈ n.bodies,
        (∀ child ∈ body, ∀ b, defs.LeadsTo place child b → defs.LeadsTo place n b) →
        defs.Expands place body := fun body listed passes =>
      expands_of_each fun child member => ih body listed child member fun b body leads found =>
        targets b body (passes child member b leads) found
    rcases n.plain_cases with plain | ⟨span, source, p, inherits, rfl⟩ | ⟨span, name, body, rfl⟩
    · obtain ⟨depth, all⟩ := common_depth fun body listed =>
        inside body listed fun child member b leads => .nested plain listed member leads
      obtain ⟨n', mapped⟩ := mapBodies_defined all
      exact ⟨depth, [n'], by simp [expandNode_plain plain, mapped]⟩
    · cases place with
      | none => exact ⟨0, refilter p [], by simp [expandNode, inherits, expandSuper]⟩
      | some b =>
        cases found : defs.bodyAt b.next with
        | none => exact ⟨0, refilter p [], by simp [expandNode, inherits, expandSuper, found]⟩
        | some body =>
          obtain ⟨depth, tree, done⟩ :=
            targets b.next body (.inherited inherits rfl (by simp [found])) found
          exact ⟨depth, refilter p tree, by simp [expandNode, inherits, expandSuper, found, done]⟩
    · cases found : defs.bodyAt ⟨name, 0⟩ with
      | none =>
        obtain ⟨depth, tree, done⟩ := inside body (by simp [Node.bodies]) fun child member b leads =>
          .undefined found member leads
        exact ⟨depth, tree, by simp [expandNode, found, done]⟩
      | some outermost =>
        obtain ⟨depth, tree, done⟩ := targets _ outermost (.block (by simp [found])) found
        exact ⟨depth, tree, by simp [expandNode, found, done]⟩

/-- The expansion of a tree is finite if it has finitely many definitions and none that the tree leads to
leads back to itself. -/
theorem expands_of_unlooped {root : List Node}
    (finite : {b | (defs.bodyAt b).isSome}.Finite) (unlooped : defs.Unlooped root) :
    defs.Expands none root := by
  let Position := {b // (defs.bodyAt b).isSome ∧ defs.Reaches root b}
  have : Finite Position := (finite.subset fun b position => position.1).to_subtype
  let follows : Position → Position → Prop := fun c b => Relation.TransGen defs.Leads b.1 c.1
  have : IsTrans Position follows := ⟨fun _ _ _ first second => second.trans first⟩
  have : Std.Irrefl follows := ⟨fun b => unlooped b.1 b.2.2⟩
  -- Definitions that are followed by nothing come first: only finitely many can follow each other.
  have placed : ∀ b : Position, ∀ body, defs.bodyAt b.1 = some body →
      defs.Expands (some b.1) body := by
    intro b
    induction b using (Finite.wellFounded_of_trans_of_irrefl follows).induction with
    | h b ih =>
      intro body found
      refine expands_of_each fun n member => node_expands n fun c inner leads known => ?_
      have edge : defs.Leads b.1 c := ⟨body, found, n, member, leads⟩
      obtain ⟨first, among, a, start, path⟩ := b.2.2
      exact ih ⟨c, by simp [known], first, among, a, start, path.tail edge⟩ (.single edge) inner known
  exact expands_of_each fun n member => node_expands n fun b body leads found =>
    placed ⟨b, by simp [found], n, member, b, leads, .refl⟩ body found

/-- What a node of a finite expansion leads to has an expansion of less depth. -/
theorem leadsTo_expands {n : Node} {b : ActiveBlock} (leads : defs.LeadsTo place n b) :
    ∀ {depth body tree}, defs.expand depth place body = some tree → n ∈ body →
      ∃ less < depth, ∃ inner part, defs.bodyAt b = some inner ∧
        defs.expand less (some b) inner = some part := by
  induction leads with
  | @block name span body defined =>
    intro depth outer tree expanded member
    obtain ⟨less, part, rfl, replaced⟩ := expand_member expanded member
    obtain ⟨inner, found⟩ := Option.isSome_iff_exists.mp defined
    simp only [expandNode, found] at replaced
    exact ⟨less, Nat.lt_succ_self less, inner, part, found, replaced⟩
  | @undefined name body child b span missing member leads ih =>
    intro depth outer tree expanded among
    obtain ⟨depth, part, rfl, replaced⟩ := expand_member expanded among
    simp only [expandNode, missing] at replaced
    obtain ⟨less, lt, found⟩ := ih replaced member
    exact ⟨less, lt.trans (Nat.lt_succ_self depth), found⟩
  | @inherited p b span source inherits standing defined =>
    intro depth outer tree expanded member
    obtain ⟨less, whole, rfl, replaced⟩ := expand_member expanded member
    obtain ⟨inner, found⟩ := Option.isSome_iff_exists.mp defined
    rw [expandNode_super inherits] at replaced
    obtain ⟨part, done, -⟩ := Option.map_eq_some_iff.mp replaced
    simp only [expandSuper, standing, found] at done
    exact ⟨less, Nat.lt_succ_self less, inner, part, found, done⟩
  | @nested n body child b plain listed member leads ih =>
    intro depth outer tree expanded among
    obtain ⟨depth, part, rfl, replaced⟩ := expand_member expanded among
    rw [expandNode_plain plain] at replaced
    obtain ⟨n', mapped, -⟩ := Option.map_eq_some_iff.mp replaced
    obtain ⟨inner, done⟩ := mapBodies_inside mapped listed
    obtain ⟨less, lt, found⟩ := ih done member
    exact ⟨less, lt.trans (Nat.lt_succ_self depth), found⟩

/-- A definition whose expansion is finite does not lead back to itself. -/
theorem not_looped_of_expands {depth : Nat} : ∀ {b inner tree}, defs.bodyAt b = some inner →
    defs.expand depth (some b) inner = some tree → ¬ Relation.TransGen defs.Leads b b := by
  induction depth using Nat.strong_induction_on with
  | _ depth ih =>
    intro b inner tree found expanded looped
    obtain ⟨c, ⟨body, known, n, member, leads⟩, path⟩ := Relation.TransGen.head'_iff.mp looped
    obtain rfl : body = inner := Option.some.inj (known.symm.trans found)
    obtain ⟨less, lt, next, part, defined, done⟩ := leadsTo_expands leads expanded member
    exact ih less lt defined done
      (.trans_right path (.single ⟨body, known, n, member, leads⟩))

/-- Whatever a tree with a finite expansion leads to has a finite expansion. -/
theorem reached_expands {root : List Node} (finite : defs.Expands none root) {b : ActiveBlock}
    (reached : defs.Reaches root b) :
    ∃ inner, defs.bodyAt b = some inner ∧ defs.Expands (some b) inner := by
  obtain ⟨n, member, a, start, path⟩ := reached
  induction path with
  | refl =>
    obtain ⟨depth, tree, expanded⟩ := finite
    obtain ⟨less, -, inner, part, found, done⟩ := leadsTo_expands start expanded member
    exact ⟨inner, found, less, part, done⟩
  | tail _ edge ih =>
    obtain ⟨inner, found, depth, tree, expanded⟩ := ih
    obtain ⟨body, known, child, among, leads⟩ := edge
    obtain rfl : body = inner := Option.some.inj (known.symm.trans found)
    obtain ⟨less, -, next, part, defined, done⟩ := leadsTo_expands leads expanded among
    exact ⟨next, defined, less, part, done⟩

theorem unlooped_of_expands {root : List Node} (finite : defs.Expands none root) :
    defs.Unlooped root := by
  intro b reached
  obtain ⟨inner, found, depth, tree, done⟩ := reached_expands finite reached
  exact not_looped_of_expands found done

/-- The expansion of a tree by finitely many definitions is finite exactly if no definition that the tree
leads to leads back to itself. -/
theorem expands_iff_unlooped {root : List Node}
    (finite : {b | (defs.bodyAt b).isSome}.Finite) :
    defs.Expands none root ↔ defs.Unlooped root :=
  ⟨unlooped_of_expands, expands_of_unlooped finite⟩

end Overrides

/-! The definitions of a frame -/

/-- What stands outside of every block of the templates of a chain does not matter to its definitions. -/
theorem Frame.definitions_of_roots (chain : List Template) (other : Template → List Node) :
    Frame.definitions ⟨chain.map fun t => { t with root := other t }, []⟩ =
      Frame.definitions ⟨chain, []⟩ := by
  funext name
  simp only [Frame.definitions, List.filterMap_map]
  rfl

/-- A chain has finitely many definitions: no more levels of a block than templates, and only of the
names that its templates declare. -/
theorem Frame.finite_definitions (f : Frame) :
    {b | (Overrides.bodyAt f.definitions b).isSome}.Finite := by
  let named := f.chain.flatMap Template.blockNames
  have bounded := (named.finite_toSet.prod (Set.finite_lt_nat f.chain.length)).image
    fun entry => (⟨entry.1, entry.2⟩ : ActiveBlock)
  refine bounded.subset fun b defined => ?_
  obtain ⟨body, found⟩ := Option.isSome_iff_exists.mp defined
  obtain ⟨d, at_level, -⟩ := Option.map_eq_some_iff.mp found
  obtain ⟨within, rfl⟩ := List.getElem?_eq_some_iff.mp at_level
  obtain ⟨t, among, declared⟩ := List.mem_filterMap.mp (List.getElem_mem within)
  obtain ⟨block, entry, -⟩ := Option.map_eq_some_iff.mp declared
  refine ⟨⟨b.name, b.level⟩, ⟨?_, ?_⟩, rfl⟩
  · exact List.mem_flatMap.mpr ⟨t, among, Table.mem_keys_of_get? entry⟩
  · exact within.trans_le (List.length_filterMap_le _ _)

/-! Where a render stands -/

/-- A render is in a frame with the given definitions, at a place: outside of every block, or in one
definition of a block. -/
structure StandsAt (defs : Overrides) (place : Option ActiveBlock) (s : RenderState) : Prop where
  framed : s.frames ≠ []
  definitions : s.definitions = defs
  place : s.place = place

namespace StandsAt

variable {defs : Overrides} {place : Option ActiveBlock} {s : RenderState}

theorem push (stands : StandsAt defs place s) (scope : Members) :
    StandsAt defs place (s.push scope) :=
  ⟨stands.framed, stands.definitions, stands.place⟩

/-- A new frame is entered outside of every block. -/
theorem entered (s : RenderState) (chain : List Template) :
    StandsAt (Frame.definitions ⟨chain, []⟩) none (s.entered chain) :=
  ⟨List.cons_ne_nil _ _, rfl, rfl⟩

theorem inBlock (stands : StandsAt defs place s) (b : ActiveBlock) :
    StandsAt defs (some b) (Render.mapActive (b :: ·) s) := by
  obtain ⟨framed, same, -⟩ := stands
  cases frames : s.frames with
  | nil => exact absurd frames framed
  | cons frame outer =>
    simp only [Render.mapActive, frames]
    refine ⟨List.cons_ne_nil _ _, ?_, rfl⟩
    rw [← same]
    funext name
    simp only [RenderState.definitions, frames, Frame.definitions]

theorem inBlock_depth (s : RenderState) (b : ActiveBlock) :
    (Render.mapActive (b :: ·) s).depth = s.depth := by
  unfold Render.mapActive
  split <;> rfl

theorem inBlock_scopes (s : RenderState) (b : ActiveBlock) :
    (Render.mapActive (b :: ·) s).scopes = s.scopes := by
  unfold Render.mapActive
  split <;> rfl

end StandsAt

end TextTemplate
