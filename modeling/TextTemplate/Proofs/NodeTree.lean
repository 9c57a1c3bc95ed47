import Mathlib.Data.List.Forall2
import TextTemplate.Template

/-! The tree of a template as a whole: the lists of nodes directly inside a node, the nodes at any
depth, induction over them, and trees of the same shape. -/
namespace TextTemplate

/-- The pipelines of a condition. -/
def Condition.pipelines : Condition → List Pipeline
  | .value p => [p]
  | .compare _ lhs rhs => [lhs, rhs]
  | .not condition => condition.pipelines
  | .and lhs rhs | .or lhs rhs => lhs.pipelines ++ rhs.pipelines

/-- The lists of nodes directly inside a node, in the order of the source. -/
def Node.bodies : Node → List (List Node)
  | .conditional _ _ thenBody branches elseBody =>
    thenBody :: branches.map Branch.body ++ elseBody.toList
  | .loop _ _ body emptyBody => body :: emptyBody.toList
  | .block _ _ body | .custom _ _ _ body => [body]
  | .text _ _ | .output _ _ _ | .comment _ _ | .inclusion _ _ | .inheritance _ _ => []

/-- The bodies of the branches of a conditional stand directly inside it, beside their conditions. -/
theorem Node.bodies_of_part {span : Span} {condition : Condition} {thenBody : List Node}
    {branches : List Branch} {elseBody : Option (List Node)} {part : Condition × List Node}
    (member : part ∈ (condition, thenBody) :: branches.map fun b => (b.condition, b.body)) :
    part.2 ∈ (Node.conditional span condition thenBody branches elseBody).bodies := by
  rw [Node.bodies, List.mem_append]
  left
  have bodies := List.mem_map_of_mem (f := Prod.snd) member
  simpa [Function.comp_def] using bodies

/-- A node that means the same in every chain: neither a block nor inherited content. -/
def Node.isPlain : Node → Bool
  | .block _ _ _ => false
  | .output _ _ p => !p.isSuper
  | _ => true

/-- A node is plain, inherited content or a block. -/
theorem Node.plain_cases (n : Node) :
    n.isPlain ∨ (∃ span source p, Pipeline.isSuper p = true ∧ n = .output span source p) ∨
      ∃ span name body, n = .block span name body := by
  cases n with
  | output span source p =>
    by_cases inherits : p.isSuper = true
    · exact .inr (.inl ⟨span, source, p, inherits, rfl⟩)
    · exact .inl (by simpa [isPlain] using inherits)
  | block span name body => exact .inr (.inr ⟨span, name, body, rfl⟩)
  | _ => exact .inl rfl

/-- A node is another one or stands somewhere inside it. -/
inductive Node.Inside (m : Node) : Node → Prop where
  | self : Inside m m
  | nested (listed : body ∈ Node.bodies n) (member : child ∈ body) (inside : Inside m child) :
      Inside m n

/-- A template has a node somewhere in its tree. -/
def Template.Contains (t : Template) (m : Node) : Prop := ∃ n ∈ t.root, m.Inside n

theorem Node.Inside.trans {l m n : Node} (first : l.Inside m) (second : m.Inside n) :
    l.Inside n := by
  induction second with
  | self => exact first
  | nested listed member _ ih => exact .nested listed member ih

theorem size_of_child {n child : Node} {body : List Node} (listed : body ∈ n.bodies)
    (member : child ∈ body) : sizeOf child < sizeOf n := by
  have inner := List.sizeOf_lt_of_mem member
  cases n with
  | conditional span condition thenBody branches elseBody =>
    simp only [Node.bodies, List.cons_append, List.mem_cons, List.mem_append, List.mem_map,
      Option.mem_toList] at listed
    rcases listed with rfl | ⟨⟨branchSpan, branchCondition, branchBody⟩, among, rfl⟩ | present
    · simp only [Node.conditional.sizeOf_spec]
      omega
    · have outer := List.sizeOf_lt_of_mem among
      simp only [Branch.mk.sizeOf_spec, Branch.body, Node.conditional.sizeOf_spec] at *
      omega
    · cases present
      simp only [Node.conditional.sizeOf_spec, Option.some.sizeOf_spec]
      omega
  | loop span header loopBody emptyBody =>
    simp only [Node.bodies, List.mem_cons, Option.mem_toList] at listed
    rcases listed with rfl | present
    · simp only [Node.loop.sizeOf_spec]
      omega
    · cases present
      simp only [Node.loop.sizeOf_spec, Option.some.sizeOf_spec]
      omega
  | block span name blockBody =>
    simp only [Node.bodies, List.mem_singleton] at listed
    subst listed
    simp only [Node.block.sizeOf_spec]
    omega
  | custom span keyword action customBody =>
    simp only [Node.bodies, List.mem_singleton] at listed
    subst listed
    simp only [Node.custom.sizeOf_spec]
    omega
  | _ => simp [Node.bodies] at listed

/-- Induction over the tree: what holds of a node if it holds of all nodes directly inside it holds of
every node. -/
theorem Node.tree_induction {motive : Node → Prop}
    (step : ∀ n : Node, (∀ body ∈ n.bodies, ∀ child ∈ body, motive child) → motive n) (n : Node) :
    motive n :=
  step n fun _ listed child member =>
    have := size_of_child listed member
    tree_induction step child
termination_by sizeOf n

/-- A node and all nodes inside it, each before those inside it. -/
def Node.within (n : Node) : List Node :=
  n :: n.bodies.attach.flatMap fun body => body.val.attach.flatMap fun child =>
    have := size_of_child body.property child.property
    child.val.within
termination_by sizeOf n

theorem Node.within_eq (n : Node) :
    n.within = n :: n.bodies.flatMap fun body => body.flatMap Node.within := by
  have each : ∀ body : List Node, body.attach.flatMap (fun child => child.val.within) =
      body.flatMap Node.within := fun body => by
    rw [List.flatMap_subtype fun _ _ => rfl, List.unattach_attach]
  rw [Node.within, List.flatMap_subtype fun body _ => each body, List.unattach_attach]

theorem Node.mem_within {m n : Node} : m ∈ n.within ↔ m.Inside n := by
  constructor
  · intro member
    induction n using Node.tree_induction with
    | step n ih =>
      rw [Node.within_eq] at member
      rcases List.mem_cons.mp member with rfl | deeper
      · exact .self
      · obtain ⟨body, listed, among⟩ := List.mem_flatMap.mp deeper
        obtain ⟨child, here, inside⟩ := List.mem_flatMap.mp among
        exact .nested listed here (ih body listed child here inside)
  · intro inside
    induction inside with
    | self =>
      rw [Node.within_eq]
      exact List.mem_cons_self
    | nested listed here _ ih =>
      rw [Node.within_eq]
      exact List.mem_cons_of_mem _
        (List.mem_flatMap.mpr ⟨_, listed, List.mem_flatMap.mpr ⟨_, here, ih⟩⟩)

/-- A node and all nodes inside it pass a check, and they nest less deeply than a bound. -/
def Node.passes (check : Node → Bool) : Nat → Node → Bool
  | 0, _ => false
  | depth + 1, n => check n && n.bodies.all fun body => body.all (Node.passes check depth)

theorem Node.check_of_passes {check : Node → Bool} {depth : Nat} {m n : Node}
    (passed : n.passes check depth) (inside : m.Inside n) : check m := by
  induction inside generalizing depth with
  | self =>
    cases depth with
    | zero => cases passed
    | succ depth => exact (Bool.and_eq_true_iff.mp passed).1
  | nested listed member _ ih =>
    cases depth with
    | zero => cases passed
    | succ depth =>
      have inner := List.all_eq_true.mp (Bool.and_eq_true_iff.mp passed).2 _ listed
      exact ih (List.all_eq_true.mp inner _ member)

/-! Trees of the same shape -/

variable {r : List Node → List Node → Prop}

/-- Two branches are the same, their nodes apart, which are related. -/
inductive Branch.Matches (r : List Node → List Node → Prop) : Branch → Branch → Prop where
  | mk (related : r first second) : Matches r (.mk place test first) (.mk place test second)

/-- Two nodes are the same, the lists of nodes directly inside them apart, which are related one by
one. -/
inductive Node.Matches (r : List Node → List Node → Prop) : Node → Node → Prop where
  | text : Matches r (.text place written) (.text place written)
  | output : Matches r (.output place source p) (.output place source p)
  | comment : Matches r (.comment place written) (.comment place written)
  | conditional (related : r first second) (others : List.Forall₂ (Branch.Matches r) bs bs')
      (last : Option.Rel r e e') :
      Matches r (.conditional place test first bs e) (.conditional place test second bs' e')
  | loop (related : r first second) (last : Option.Rel r e e') :
      Matches r (.loop place header first e) (.loop place header second e')
  | inclusion : Matches r (.inclusion place header) (.inclusion place header)
  | inheritance : Matches r (.inheritance place parent) (.inheritance place parent)
  | block (related : r first second) : Matches r (.block place name first) (.block place name second)
  | custom (related : r first second) :
      Matches r (.custom place keyword action first) (.custom place keyword action second)

theorem Branch.Matches.flip {b c : Branch} (matched : Branch.Matches r b c) :
    Branch.Matches (flip r) c b := by
  cases matched with
  | mk related => exact .mk related

theorem Branch.Matches.bodies {b c : Branch} (matched : Branch.Matches r b c) :
    r b.body c.body := by
  cases matched with
  | mk related => exact related

theorem optionRel_flip {a b : Option (List Node)} (related : Option.Rel r a b) :
    Option.Rel (flip r) b a := by
  cases related with
  | some held => exact .some held
  | none => exact .none

theorem Node.Matches.flip {m n : Node} (matched : Node.Matches r m n) :
    Node.Matches (flip r) n m := by
  cases matched with
  | conditional related others last =>
    exact .conditional related
      (List.Forall₂.flip (others.imp fun _ _ held => held.flip)) (optionRel_flip last)
  | loop related last => exact .loop related (optionRel_flip last)
  | block related => exact .block related
  | custom related => exact .custom related
  | text => exact .text
  | output => exact .output
  | comment => exact .comment
  | inclusion => exact .inclusion
  | inheritance => exact .inheritance

/-- A node has its own shape. -/
theorem Node.Matches.refl (same : ∀ body, r body body) (n : Node) : Node.Matches r n n := by
  have option : ∀ e, Option.Rel r e e
    | none => .none
    | some body => .some (same body)
  cases n with
  | conditional place test first bs e =>
    have branch : ∀ b, Branch.Matches r b b
      | .mk _ _ body => .mk (same body)
    exact .conditional (same first) (List.forall₂_same.mpr fun b _ => branch b) (option e)
  | loop place header first e => exact .loop (same first) (option e)
  | block place name first => exact .block (same first)
  | custom place keyword action first => exact .custom (same first)
  | text => exact .text
  | output => exact .output
  | comment => exact .comment
  | inclusion => exact .inclusion
  | inheritance => exact .inheritance

theorem Node.Matches.imp {q : List Node → List Node → Prop} {m n : Node}
    (weaker : ∀ body body', r body body' → q body body') (matched : Node.Matches r m n) :
    Node.Matches q m n := by
  have option : ∀ {e e'}, Option.Rel r e e' → Option.Rel q e e'
    | _, _, .none => .none
    | _, _, .some held => .some (weaker _ _ held)
  cases matched with
  | conditional related others last =>
    refine .conditional (weaker _ _ related) (others.imp fun _ _ held => ?_) (option last)
    cases held with
    | mk related => exact .mk (weaker _ _ related)
  | loop related last => exact .loop (weaker _ _ related) (option last)
  | block related => exact .block (weaker _ _ related)
  | custom related => exact .custom (weaker _ _ related)
  | text => exact .text
  | output => exact .output
  | comment => exact .comment
  | inclusion => exact .inclusion
  | inheritance => exact .inheritance

/-- Nodes of one shape are of one kind. -/
theorem Node.Matches.plain {m n : Node} (matched : Node.Matches r m n) (plain : m.isPlain) :
    n.isPlain := by
  cases matched with
  | block => cases plain
  | output => exact plain
  | _ => rfl

/-- Related bodies stand at the same positions. -/
theorem Node.Matches.bodies {m n : Node} (matched : Node.Matches r m n) :
    List.Forall₂ r m.bodies n.bodies := by
  have option : ∀ {e e'}, Option.Rel r e e' → List.Forall₂ r e.toList e'.toList
    | _, _, .none => .nil
    | _, _, .some held => .cons held .nil
  cases matched with
  | conditional related others last =>
    refine .cons related (List.rel_append ?_ (option last))
    rw [List.forall₂_map_left_iff, List.forall₂_map_right_iff]
    exact others.imp fun _ _ held => held.bodies
  | loop related last => exact .cons related (option last)
  | block related => exact .cons related .nil
  | custom related => exact .cons related .nil
  | _ => exact .nil

end TextTemplate
