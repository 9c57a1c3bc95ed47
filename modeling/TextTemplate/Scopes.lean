import TextTemplate.Expr

/-! The variables that a template sees: a stack of scopes over a base scope that is never removed. A
name means what the innermost scope that has it says. From its value a path goes on by
members, by indices that count from the end when negative, and by the words `count`,
`first` and `last` for arrays and text. -/
namespace TextTemplate

/-- A stack of scopes, the innermost first, over the base scope. -/
structure Scopes where
  inner : List Members := []
  base : Members

namespace Scopes

/-- The scopes of data: the members of an object, or nothing for data of another kind. -/
def ofData : Value → Scopes
  | .object members => ⟨[], members⟩
  | _ => ⟨[], .empty⟩

/-- The number of scopes, the base included. -/
def depth (s : Scopes) : Nat := s.inner.length + 1

/-- The value of a name in the innermost scope that has it. -/
def lookup (s : Scopes) (name : String) : Option Value :=
  match s.inner.findSome? fun scope => Table.get? scope name with
  | some value => some value
  | none => Table.get? s.base name

/-- Adds an innermost scope. -/
def push (s : Scopes) (scope : Members) : Scopes := { s with inner := scope :: s.inner }

/-- Takes off the innermost scope, unless only the base is left. -/
def pop (s : Scopes) : Option Members × Scopes :=
  match s.inner with
  | [] => (none, s)
  | scope :: outer => (some scope, { s with inner := outer })

/-- Takes off scopes until at most `depth` are left, the base always being kept. -/
def truncate (s : Scopes) (depth : Nat) : Scopes :=
  { s with inner := s.inner.drop (s.depth - depth) }

/-- Runs a body with a scope added, and takes off what is above the former depth afterwards. -/
def withScope {α : Type} (s : Scopes) (scope : Members) (body : Scopes → α × Scopes) :
    α × Scopes :=
  let (result, after) := body (s.push scope)
  (result, after.truncate s.depth)

variable (s : Scopes) (scope : Members)

/-- A pushed scope hides what is around it. -/
theorem lookup_push (name : String) :
    (s.push scope).lookup name = (Table.get? scope name).or (s.lookup name) := by
  simp only [lookup, push, List.findSome?_cons]
  cases Table.get? scope name <;> rfl

/-- The outermost scopes do not change when one is added. -/
theorem truncate_push {depth : Nat} (below : depth ≤ s.depth) :
    (s.push scope).truncate depth = s.truncate depth := by
  have one : s.inner.length + 1 + 1 - depth = s.inner.length + 1 - depth + 1 := by
    simp only [Scopes.depth] at below
    omega
  simp only [truncate, push, Scopes.depth, List.length_cons, one, List.drop_succ_cons]

theorem truncate_self : s.truncate s.depth = s := by
  simp [truncate]

/-! The scopes as one list -/

/-- All scopes in one list, the base first and the innermost last. -/
def layers : List Members := s.base :: s.inner.reverse

theorem length_layers : s.layers.length = s.depth := by
  simp [layers, depth]

theorem lookup_layers (name : String) :
    s.lookup name = s.layers.reverse.findSome? fun layer => Table.get? layer name := by
  simp only [lookup, layers, List.reverse_cons, List.reverse_reverse, List.findSome?_append,
    List.findSome?_singleton]
  cases s.inner.findSome? fun layer => Table.get? layer name <;> rfl

/-- A pushed scope stands at the end. -/
theorem layers_push : (s.push scope).layers = s.layers ++ [scope] := by
  simp [layers, push]

/-- What is popped is the last scope of several; a single one stays. -/
theorem layers_pop : (s.pop.1, s.pop.2.layers) =
    if 1 < s.layers.length then (s.layers.getLast?, s.layers.dropLast) else (none, s.layers) := by
  obtain ⟨inner, base⟩ := s
  cases inner with
  | nil => rfl
  | cons innermost outer =>
    have pushed : (⟨innermost :: outer, base⟩ : Scopes).layers = layers ⟨outer, base⟩ ++ [innermost] :=
      layers_push ⟨outer, base⟩ innermost
    rw [pushed, if_pos (by simp [layers]), List.getLast?_concat, List.dropLast_concat]
    rfl

/-- What is left by truncation are the first scopes. -/
theorem layers_truncate {depth : Nat} (pos : 0 < depth) :
    (s.truncate depth).layers = s.layers.take depth := by
  cases depth with
  | zero => cases pos
  | succ kept =>
    have left : s.inner.length - (s.depth - (kept + 1)) = min kept s.inner.reverse.length := by
      simp only [Scopes.depth, List.length_reverse]
      omega
    rw [truncate, layers, layers, List.take_succ_cons, List.reverse_drop, left, ← List.take_eq_take_min]

end Scopes

/-- The place that an index means among `length` items: counted from the end if it is negative. -/
def resolveIndex (length : Nat) (index : Int) : Option Nat :=
  if 0 ≤ index then
    if index.toNat < length then some index.toNat else none
  else if index.natAbs ≤ length then some (length - index.natAbs)
  else none

/-- The item that a step means in an array. -/
def stepIntoArray (items : List Value) : PathSegment → Option Value
  | .index i => (resolveIndex items.length i).bind (items[·]?)
  | .key name =>
    if name = "count" then some (.ofNat items.length)
    else if name = "first" then items.head?
    else if name = "last" then items.getLast?
    else none

/-- The character that a step means in a text. -/
def stepIntoText (cs : List Char) : PathSegment → Option Value
  | .index i => ((resolveIndex cs.length i).bind (cs[·]?)).map Value.ofChar
  | .key name =>
    if name = "count" then some (.ofNat cs.length)
    else if name = "first" then cs.head?.map Value.ofChar
    else if name = "last" then cs.getLast?.map Value.ofChar
    else none

/-- The value that a step leads to. A member of an object is named by a key or by an index in digits. -/
def Value.step (value : Value) (step : PathSegment) : Option Value :=
  match value with
  | .object members => Table.get? members step.text
  | .array items => stepIntoArray items step
  | .string s => stepIntoText s.toList step
  | _ => none

/-- The value that steps lead to one after the other. -/
def Value.follow (value : Value) : List PathSegment → Option Value
  | [] => some value
  | step :: rest => (value.step step).bind (·.follow rest)

/-- The value of a path, if it has one. -/
def Scopes.resolve (s : Scopes) (path : Path) : Option Value :=
  (s.lookup path.name).bind (·.follow path.steps)

end TextTemplate
