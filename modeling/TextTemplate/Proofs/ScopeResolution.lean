import TextTemplate.Proofs.RenderComparison
import TextTemplate.Proofs.Sessions
import TextTemplate.Proofs.TableEntries

/-! What a render sees of its scopes. It asks them for the values of names and adds further scopes, and that
is all: where two stacks of scopes give every name the same value, they do so with the same scope
added to both, and so through every loop and inclusion. In particular it makes no difference
whether variables lie in several scopes or in a single one into which those have been merged. -/
namespace TextTemplate

/-- A table with the entries of another one stored over its own. -/
def Table.overlay {α : Type} (top below : Table α) : Table α :=
  insertAll below (toList top)

theorem Table.get?_overlay {α : Type} (top below : Table α) (key : String) :
    get? (overlay top below) key = (get? top key).or (get? below key) := by
  rw [overlay, get?_insertAll, lookup_reverse_toList]

namespace Scopes

/-- Two stacks of scopes give every name the same value. -/
def Alike (s t : Scopes) : Prop := ∀ name, t.lookup name = s.lookup name

/-- The scopes merged into a single one, in which a name has the value of the innermost scope that has
it. -/
def merged (s : Scopes) : Members := s.inner.foldr Table.overlay s.base

variable {s t : Scopes}

theorem lookup_single (members : Members) (name : String) :
    lookup ⟨[], members⟩ name = Table.get? members name := rfl

theorem merged_push (s : Scopes) (scope : Members) :
    (s.push scope).merged = Table.overlay scope s.merged := rfl

theorem Alike.push (alike : s.Alike t) (scope : Members) : (s.push scope).Alike (t.push scope) := by
  intro name
  rw [lookup_push, lookup_push, alike name]

theorem Alike.resolve (alike : s.Alike t) (path : Path) : t.resolve path = s.resolve path := by
  rw [Scopes.resolve, Scopes.resolve, alike path.name]

/-- Merging leaves to every name its value. -/
theorem alike_merged (s : Scopes) : s.Alike ⟨[], s.merged⟩ := by
  obtain ⟨inner, base⟩ := s
  intro name
  induction inner with
  | nil => rfl
  | cons scope outer ih =>
    have pushed := lookup_push ⟨outer, base⟩ scope name
    have merged := merged_push ⟨outer, base⟩ scope
    simp only [push] at pushed merged
    rw [pushed, ← ih, lookup_single, lookup_single, merged, Table.get?_overlay]

end Scopes

/-- Any stop of a render. -/
abbrev Halt.Any : Halt → Prop := fun _ => True

namespace Environment

variable (env : Environment) {scopes scopes' : Scopes}

theorem evalExpr_alike (alike : scopes.Alike scopes') (span : Span) (tolerant : Bool) (e : Expr) :
    Kept Halt.Any (env.evalExpr scopes span tolerant e) (env.evalExpr scopes' span tolerant e) := by
  cases e with
  | literal value => exact .refl _
  | lookup path =>
    simp only [evalExpr, alike.resolve]
    exact .refl _

/-- A setting evaluates alike in scopes that give every name the same value. -/
theorem alike_agrees : Agreement Halt.Any env env Scopes.Alike where
  pushed alike scope := alike.push scope
  isolated _ _ := rfl
  piped alike tolerant p :=
    evalPipelineWith_kept rfl (env.evalExpr_alike alike p.span tolerant p.head)
      fun _ _ arg _ => env.evalExpr_alike alike p.span false arg
  filtered alike span _ value :=
    applyFilters_kept rfl (fun _ _ arg _ => env.evalExpr_alike alike span false arg) value
  loaded _ _ _ := .refl _
  written _ _ := rfl
  spanned _ _ := id

theorem alike_accord : Accord Halt.Any env env Scopes.Alike Eq where
  toAgreement := env.alike_agrees
  deeper := congrArg (· + 1)
  opened := by
    rintro scopes scopes' depth _ alike rfl t
    exact env.alike_agrees.opening (fun _ _ => id) alike rfl depth t
  orphaned _ := .refl _
  named _ _ := id

end Environment

namespace Render

variable {keeps : Halt → Prop} {C : Comparison keeps} {env env' : Environment}
  {alike : Scopes → Scopes → Prop} {level : Nat → Nat → Prop} {s t : RenderState}

/-- Whatever is rendered carries over between two settings in accord, in states that are near each
other. -/
theorem rendering_accords (accord : Accord keeps env env' alike level) (near : Near alike level s t)
    (bound : Nat) (r : Rendering) : Carries C (r.act env bound) (fun _ => r.act env' bound) s t := by
  have walks : ∀ {s t}, Near alike level s t → ∀ n,
      Carries C (node env bound n) (fun _ => node env' bound n) s t := node_accords accord bound
  cases r with
  | template u =>
    exact bind_carries (template_accords accord walks near.depth near.scopes u) fun _ => pure_carries ""
  | nodes body => exact bind_carries (body_carries walks near body) fun _ => pure_carries ""
  | collect body => exact capture_carries (body_carries walks near body)

end Render

/-- A render depends on its scopes only through the values that they give to names. Where two stacks of
scopes give every name the same value, a template, nodes and nodes whose text is collected aside come
to the same result in both and write the same text, whatever templates and blocks they are nested in.
A stack gives every name the value that it has in the single scope into which the stack is merged. -/
theorem render_by_lookups (env : Environment) (bound : Nat) :
    (∀ scopes scopes' : Scopes, scopes.Alike scopes' →
      ∀ (r : Rendering) (s : RenderState) (output : String),
        let first : RenderState := { s with scopes := scopes }
        let second : RenderState := { s with scopes := scopes', output := output }
        ∃ result text, r.act env bound first = (result, first.wrote text) ∧
          r.act env bound second = (result, second.wrote text)) ∧
    ∀ scopes : Scopes, scopes.Alike ⟨[], scopes.merged⟩ := by
  refine ⟨fun scopes scopes' alike r s output => ?_, Scopes.alike_merged⟩
  intro first second
  have near : Near Scopes.Alike Eq first second := ⟨rfl, alike, rfl⟩
  have tidy := r.act_tidy env bound
  have carries := Render.rendering_accords (C := .eventually Halt.Any) env.alike_accord near bound r
  obtain ⟨enough, same⟩ := carries.carry fun _ _ => trivial
  refine ⟨_, _, tidy.run first, ?_⟩
  rw [tidy.run second, same enough (Nat.le_refl enough)]

/-- A loop whose variable hides a variable that itself hides one further out. -/
theorem render_by_lookups_hiding :
    let stack : Scopes :=
      ⟨[.ofList [("x", .string "a")]], .ofList [("x", .string "b"), ("y", .string "cd")]⟩
    let single : Scopes := ⟨[], .ofList [("x", .string "a"), ("y", .string "cd")]⟩
    let shown := Node.output {} "" ⟨{}, .lookup ⟨"x", []⟩, []⟩
    let r := Rendering.nodes [.loop {} ⟨["x"], ⟨{}, .lookup ⟨"y", []⟩, []⟩, none⟩ [shown] none, shown]
    stack.Alike single ∧ (r.act .standard 3 { scopes := stack }).2.output = "cda" ∧
      (r.act .standard 3 { scopes := single }).2.output = "cda" := by
  intro stack single shown r
  obtain ⟨resolves, merges⟩ := render_by_lookups .standard 3
  have alike : stack.Alike single := merges stack
  obtain ⟨result, text, left, right⟩ := resolves stack single alike r { scopes := stack } ""
  -- The states are spelled as above, or comparing them would run the renders.
  change r.act .standard 3 { scopes := stack } = _ at left
  change r.act .standard 3 { scopes := single } = _ at right
  have written : (r.act .standard 3 { scopes := stack }).2.output = "cda" := by decide +kernel
  rw [left] at written
  refine ⟨alike, ?_, ?_⟩
  · rw [left]
    exact written
  · rw [right]
    exact written

end TextTemplate
