import Mathlib
import TextTemplate.Proofs.EvaluationErrors

/-! The order of values. Equality and order are computed apart, and numbers come in two kinds, but every two
numbers are compared by their places among the doubles and every two texts by those among the texts.
Both are linear orders, so the comparisons of three numbers or of three texts agree with each other
as those of a total preorder. No other values have an order, while equality answers for all. -/
namespace TextTemplate

/-! The places of numbers -/

namespace Binary64

/-- The place of a double between the infinities. What is not a number has none of its own. -/
def rank : Binary64 → WithBot (WithTop Int)
  | .finite d => ((d.units : WithTop Int) : WithBot (WithTop Int))
  | .infinite true => ⊥
  | .infinite false => ⊤
  | .nan => ⊥

theorem rank_infinite_lt (d : Double) :
    rank (.infinite true) < rank (.finite d) ∧ rank (.finite d) < rank (.infinite false) :=
  ⟨WithBot.bot_lt_coe _, WithBot.coe_lt_coe.mpr (WithTop.coe_lt_top _)⟩

theorem compare?_rank {x y : Binary64} (first : x ≠ .nan) (second : y ≠ .nan) :
    x.compare? y = some (cmp x.rank y.rank) := by
  have least : rank (.infinite true) < rank (.infinite false) := bot_lt_top
  cases x with
  | nan => exact absurd rfl first
  | finite d =>
    obtain ⟨above, below⟩ := rank_infinite_lt d
    cases y with
    | nan => exact absurd rfl second
    | finite e =>
      have inner : StrictMono fun i : Int => ((i : WithTop Int) : WithBot (WithTop Int)) :=
        WithBot.coe_strictMono.comp WithTop.coe_strictMono
      rw [rank, rank, compare?, ← cmp_eq_compare, ← inner.cmp_map_eq]
    | infinite negative =>
      cases negative with
      | false => rw [(cmp_eq_lt_iff _ _).mpr below, compare?, if_neg Bool.false_ne_true]
      | true => rw [(cmp_eq_gt_iff _ _).mpr above, compare?, if_pos rfl]
  | infinite negative =>
    cases y with
    | nan => exact absurd rfl second
    | finite e =>
      obtain ⟨above, below⟩ := rank_infinite_lt e
      cases negative with
      | false => rw [(cmp_eq_gt_iff _ _).mpr below, compare?, if_neg Bool.false_ne_true]
      | true => rw [(cmp_eq_lt_iff _ _).mpr above, compare?, if_pos rfl]
    | infinite other =>
      cases negative <;> cases other
      · rw [cmp_self_eq_eq]; rfl
      · rw [(cmp_eq_gt_iff _ _).mpr least]; rfl
      · rw [(cmp_eq_lt_iff _ _).mpr least]; rfl
      · rw [cmp_self_eq_eq]; rfl

theorem assemble_ne_nan (negative : Bool) (significand : Nat) (exponent : Int) :
    assemble negative significand exponent ≠ .nan := by
  unfold assemble
  split
  split <;> exact Binary64.noConfusion

theorem ofRatio_ne_nan (negative : Bool) (num den : Nat) : ofRatio negative num den ≠ .nan := by
  unfold ofRatio
  split
  · nofun
  · exact assemble_ne_nan _ _ _

end Binary64

/-- Every number is taken as a double, or as an infinity. -/
theorem Number.toBinary64_ne_nan (n : Number) : n.toBinary64 ≠ .nan := by
  cases n with
  | integer i => exact Binary64.ofRatio_ne_nan _ _ _
  | double d => nofun

/-- The place of a number, whichever its kind, among the doubles. -/
def Number.rank (n : Number) : WithBot (WithTop Int) := n.toBinary64.rank

/-! Comparing by places in a linear order -/

/-- The relation of two members of a linear order that an operator other than membership asks for. -/
def Operator.Asks {α : Type} [LinearOrder α] (op : Operator) (x y : α) : Prop :=
  match op with
  | .equal => x = y
  | .notEqual => x ≠ y
  | .less => x < y
  | .lessOrEqual => x ≤ y
  | .greater => y < x
  | .greaterOrEqual => y ≤ x
  | .within => False

namespace Value

/-- A comparison is answered, and it holds. -/
def Holds (op : Operator) (a b : Value) : Prop := compare op a b = .ok true

instance (op : Operator) (a b : Value) : Decidable (Holds op a b) :=
  inferInstanceAs (Decidable (compare op a b = .ok true))

/-- Two values that have an order: two numbers of either kind, or two texts. -/
inductive Comparable : Value → Value → Prop
  | numbers (m n : Number) : Comparable (.number m) (.number n)
  | texts (s t : String) : Comparable (.string s) (.string t)

/-- Two values are compared as two members of a linear order are. -/
def ComparedAs {α : Type} [LinearOrder α] (a b : Value) (x y : α) : Prop :=
  ∀ op ≠ .within, ∃ answer, compare op a b = .ok answer ∧ (answer = true ↔ op.Asks x y)

section ComparedAs

variable {α : Type} [LinearOrder α] {a b : Value} {x y : α}

/-- Equality and order together decide every comparison. -/
theorem comparedAs_of_order (ordered : order a b = .ok (cmp x y))
    (equal : a.equals b = decide (x = y)) : ComparedAs a b x y := by
  have answered (f : Ordering → Bool) : (order a b).map f = .ok (f (cmp x y)) := by
    rw [ordered]
    rfl
  intro op relation
  cases op with
  | within => exact absurd rfl relation
  | equal => exact ⟨_, rfl, by rw [equal, decide_eq_true_iff]; rfl⟩
  | notEqual => exact ⟨_, rfl, by rw [equal, Bool.not_eq_true', decide_eq_false_iff_not]; rfl⟩
  | less => exact ⟨_, answered _, by rw [Ordering.isLT_iff_eq_lt, cmp_eq_lt_iff]; rfl⟩
  | greater => exact ⟨_, answered _, by rw [Ordering.isGT_iff_eq_gt, cmp_eq_gt_iff]; rfl⟩
  | lessOrEqual =>
    exact ⟨_, answered _, by rw [Ordering.isLE_iff_ne_gt, cmp_eq_gt_iff, not_lt]; rfl⟩
  | greaterOrEqual =>
    exact ⟨_, answered _, by rw [Ordering.isGE_iff_ne_lt, cmp_eq_lt_iff, not_lt]; rfl⟩

theorem ComparedAs.holds_iff (compared : ComparedAs a b x y) (op : Operator) (relation : op ≠ .within) :
    Holds op a b ↔ op.Asks x y := by
  obtain ⟨answer, answered, asked⟩ := compared op relation
  rw [Holds, answered, Except.ok.injEq, asked]

end ComparedAs

theorem numbers_order (m n : Number) :
    order (.number m) (.number n) = .ok (cmp m.rank n.rank) := by
  rw [order, Binary64.compare?_rank m.toBinary64_ne_nan n.toBinary64_ne_nan]
  rfl

theorem numbers_comparedAs (m n : Number) : ComparedAs (.number m) (.number n) m.rank n.rank := by
  apply comparedAs_of_order (numbers_order m n)
  rw [equals, Binary64.equals, Binary64.compare?_rank m.toBinary64_ne_nan n.toBinary64_ne_nan,
    Bool.eq_iff_iff, beq_iff_eq, Option.some.injEq, decide_eq_true_iff]
  exact cmp_eq_eq_iff _ _

theorem texts_comparedAs (s t : String) : ComparedAs (.string s) (.string t) s t := by
  apply comparedAs_of_order
  · rw [order, cmp_eq_compare]
  · exact beq_eq_decide s t

/-! The laws -/

/-- What the comparisons of three values say together if they are those of a total preorder. -/
structure OrderLaws (a b c : Value) : Prop where
  answered : ∀ op ≠ .within, ∃ answer, compare op a b = .ok answer
  one : Holds .less a b ∧ ¬Holds .equal a b ∧ ¬Holds .greater a b ∨
    ¬Holds .less a b ∧ Holds .equal a b ∧ ¬Holds .greater a b ∨
    ¬Holds .less a b ∧ ¬Holds .equal a b ∧ Holds .greater a b
  lessOrEqual : Holds .lessOrEqual a b ↔ Holds .less a b ∨ Holds .equal a b
  greaterOrEqual : Holds .greaterOrEqual a b ↔ Holds .lessOrEqual b a
  greater : Holds .greater a b ↔ Holds .less b a
  notEqual : Holds .notEqual a b ↔ ¬Holds .equal a b
  equal_symm : Holds .equal a b → Holds .equal b a
  less_trans : Holds .less a b → Holds .less b c → Holds .less a c
  equal_trans : Holds .equal a b → Holds .equal b c → Holds .equal a c
  lessOrEqual_trans : Holds .lessOrEqual a b → Holds .lessOrEqual b c → Holds .lessOrEqual a c

/-- Values that are compared as three members of a linear order obey its laws. -/
theorem orderLaws_of_comparedAs {α : Type} [LinearOrder α] {a b c : Value} {x y z : α}
    (ab : ComparedAs a b x y) (ba : ComparedAs b a y x) (bc : ComparedAs b c y z)
    (ac : ComparedAs a c x z) : OrderLaws a b c := by
  have less := ab.holds_iff .less nofun
  have equal := ab.holds_iff .equal nofun
  have greater := ab.holds_iff .greater nofun
  constructor
  case answered => exact fun op relation => (ab op relation).imp fun answer => And.left
  case one =>
    rw [less, equal, greater]
    rcases lt_trichotomy x y with lt | eq | gt
    · exact .inl ⟨lt, lt.ne, lt.not_gt⟩
    · exact .inr (.inl ⟨eq.not_lt, eq, eq.not_gt⟩)
    · exact .inr (.inr ⟨gt.not_gt, gt.ne', gt⟩)
  case lessOrEqual =>
    rw [ab.holds_iff .lessOrEqual nofun, less, equal]
    exact le_iff_lt_or_eq
  case greaterOrEqual =>
    rw [ab.holds_iff .greaterOrEqual nofun, ba.holds_iff .lessOrEqual nofun]
    rfl
  case greater =>
    rw [greater, ba.holds_iff .less nofun]
    rfl
  case notEqual =>
    rw [ab.holds_iff .notEqual nofun, equal]
    rfl
  case equal_symm =>
    rw [equal, ba.holds_iff .equal nofun]
    exact Eq.symm
  case less_trans =>
    rw [less, bc.holds_iff .less nofun, ac.holds_iff .less nofun]
    exact lt_trans
  case equal_trans =>
    rw [equal, bc.holds_iff .equal nofun, ac.holds_iff .equal nofun]
    exact Eq.trans
  case lessOrEqual_trans =>
    rw [ab.holds_iff .lessOrEqual nofun, bc.holds_iff .lessOrEqual nofun, ac.holds_iff .lessOrEqual nofun]
    exact le_trans

variable {a b c : Value}

theorem Comparable.orderLaws (first : Comparable a b) (second : Comparable b c) : OrderLaws a b c := by
  cases first with
  | numbers m n =>
    cases second with
    | numbers _ k =>
      exact orderLaws_of_comparedAs (numbers_comparedAs m n) (numbers_comparedAs n m)
        (numbers_comparedAs n k) (numbers_comparedAs m k)
  | texts s t =>
    cases second with
    | texts _ u =>
      exact orderLaws_of_comparedAs (texts_comparedAs s t) (texts_comparedAs t s)
        (texts_comparedAs t u) (texts_comparedAs s u)

theorem order_incomparable (other : ¬Comparable a b) : order a b = .error .incomparable := by
  unfold order
  split
  · exact absurd (.numbers _ _) other
  · exact absurd (.texts _ _) other
  · rfl

theorem order_ne_unordered (a b : Value) : order a b ≠ .error .unorderedNumbers := by
  by_cases comparable : Comparable a b
  · cases comparable with
    | numbers m n =>
      rw [numbers_order]
      nofun
    | texts s t =>
      rw [order]
      nofun
  · rw [order_incomparable comparable]
    nofun

/-- No comparison meets numbers without an order. -/
theorem compare_ne_unordered (op : Operator) (a b : Value) :
    compare op a b ≠ .error .unorderedNumbers := by
  have ordered (f : Ordering → Bool) : (order a b).map f ≠ .error .unorderedNumbers := by
    intro failed
    cases found : order a b with
    | ok ordering =>
      rw [found] at failed
      cases failed
    | error fault =>
      rw [found] at failed
      cases failed
      exact order_ne_unordered a b found
  cases op with
  | equal | notEqual =>
    rw [compare]
    nofun
  | less | lessOrEqual | greater | greaterOrEqual => exact ordered _
  | within =>
    rw [compare]
    unfold isWithin
    split <;> nofun

/-- Three numbers of any kinds, or three texts, are compared as in a total preorder, and always with an
answer. Values of other kinds have no order but are equal or not; and nowhere do numbers turn out to
have no order. -/
theorem compare_preorder (a b c : Value) :
    (Comparable a b → Comparable b c → OrderLaws a b c) ∧
      (¬Comparable a b →
        (∀ op ∈ [.less, .lessOrEqual, .greater, .greaterOrEqual],
          compare op a b = .error .incomparable) ∧
        ∃ answer, compare .equal a b = .ok answer) ∧
      ∀ op, compare op a b ≠ .error .unorderedNumbers := by
  refine ⟨Comparable.orderLaws, fun other => ⟨fun op member => ?_, _, rfl⟩, fun op => compare_ne_unordered op a b⟩
  have failed (f : Ordering → Bool) : (order a b).map f = .error .incomparable := by
    rw [order_incomparable other]
    rfl
  simp only [List.mem_cons, List.not_mem_nil, or_false] at member
  rcases member with rfl | rfl | rfl | rfl <;> exact failed _

/-- A zero with a sign, the integer zero, and the greatest integer there can be, which is none of the
doubles. -/
theorem compare_preorder_mixed :
    let a : Value := .number (.double (.zero true))
    let b : Value := .number (.integer 0)
    let c : Value := .number (.integer (2 ^ 64 - 1))
    Comparable a b ∧ Comparable b c ∧ OrderLaws a b c ∧ Holds .equal a b ∧ Holds .less b c := by
  intro a b c
  obtain ⟨laws, -, -⟩ := compare_preorder a b c
  have first : Comparable a b := .numbers _ _
  have second : Comparable b c := .numbers _ _
  exact ⟨first, second, laws first second, by decide +kernel, by decide +kernel⟩

end Value

end TextTemplate
