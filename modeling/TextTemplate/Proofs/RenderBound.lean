import TextTemplate.Proofs.RenderComparison

/-! The bound on nesting. What a render comes to without running out of its bound it comes to under every
greater bound, and it depends on the depth, the scopes and the innermost frame alone. So there
is one render without a bound, which the bounded ones approach: it renders each node by
the nodes inside it, and it runs out only where every bounded one does. -/
namespace TextTemplate

/-- Two states agree in all that a render depends on. -/
abbrev SameTop := Near Eq Eq

namespace Render

variable {keeps : Halt → Prop} {env : Environment} {walk : Walk} {walk' : Nat → Walk}
  {s t : RenderState}

/-- A template depends on the depth and the scopes alone. -/
theorem template_carries {C : Comparison keeps}
    (named : ∀ name e, keeps (.failed (e.map (Error.inTemplate name))) → keeps (.failed e))
    (walks : ∀ {s t}, SameTop s t → ∀ n, Carries C (walk n) (fun k => walk' k n) s t)
    (depth : s.depth = t.depth) (scopes : s.scopes = t.scopes) (u : Template) :
    Carries C (template env walk u) (fun k => template env (walk' k) u) s t :=
  template_opens named walks (fun _ => ⟨congrArg (· + 1) depth, scopes, rfl⟩)
    (.of_eq (by rw [depth, scopes]))

/-- One level of nodes carries over between states with the same top if the levels inside it do. -/
theorem step_same (env : Environment)
    (walks : ∀ {s t}, SameTop s t → ∀ n,
      Carries (.eventually (· ≠ .exhausted)) (walk n) (fun k => walk' k n) s t)
    (same : SameTop s t) (n : Node) :
    Carries (.eventually (· ≠ .exhausted)) (step env walk n) (fun k => step env (walk' k) n) s t :=
  step_accords (.same (fun _ _ _ => nofun) env fun _ _ _ => nofun) walks same n

/-- What a node comes to within a bound it comes to under all great bounds, in every state with the same
top. -/
theorem node_carries (env : Environment) (bound : Nat) : ∀ {s t}, SameTop s t → ∀ n,
    Carries (.eventually (· ≠ .exhausted)) (node env bound n) (fun k => node env k n) s t := by
  induction bound with
  | zero =>
    refine fun _ n => ⟨node_tidy env 0 n, fun k => node_tidy env k n, fun counts => ?_⟩
    exact absurd rfl (counts .exhausted (congrArg Effect.result (exhaust_acts.effect_eq _)))
  | succ bound ih =>
    intro s t same n
    exact .later (node_tidy env 0 n)
      (step_same env ih same n)

theorem node_settled (env : Environment) {bound other : Nat} {n : Node}
    (ended : ((node env bound n).effect s).result ≠ .error .exhausted)
    (ended' : ((node env other n).effect s).result ≠ .error .exhausted) :
    (node env bound n).effect s = (node env other n).effect s := by
  obtain ⟨first, same⟩ := (node_carries env bound (.refl s) n).carry fun _ stopped exhausted =>
    ended (by rw [stopped, exhausted])
  obtain ⟨second, same'⟩ := (node_carries env other (.refl s) n).carry fun _ stopped exhausted =>
    ended' (by rw [stopped, exhausted])
  rw [← same (max first second) (by omega), same' (max first second) (by omega)]

open Classical in
/-- What a node comes to without a bound: what it comes to under a bound that suffices, or running out if
none does. -/
noncomputable def outcome (env : Environment) (n : Node) (s : RenderState) : Effect Unit :=
  if enough : ∃ bound, ((node env bound n).effect s).result ≠ .error .exhausted then
    (node env enough.choose n).effect s
  else ⟨.error .exhausted, ""⟩

/-- Renders a node without a bound. -/
noncomputable def unbounded (env : Environment) : Walk := fun n s =>
  ((outcome env n s).result, s.wrote (outcome env n s).text)

theorem unbounded_acts (env : Environment) (n : Node) : Acts (unbounded env n) (outcome env n) :=
  fun _ _ => rfl

theorem unbounded_tidy (env : Environment) (n : Node) : Tidy (unbounded env n) :=
  (unbounded_acts env n).tidy

theorem outcome_of_ended {bound : Nat} {n : Node}
    (ended : ((node env bound n).effect s).result ≠ .error .exhausted) :
    outcome env n s = (node env bound n).effect s := by
  have enough : ∃ bound, ((node env bound n).effect s).result ≠ .error .exhausted :=
    ⟨bound, ended⟩
  rw [outcome, dif_pos enough]
  exact node_settled env enough.choose_spec ended

/-- The bounded renders of a node approach the one without a bound. -/
theorem unbounded_carries (env : Environment) (same : SameTop s t) (n : Node) :
    Carries (.eventually (· ≠ .exhausted)) (unbounded env n) (fun k => node env k n) s t := by
  refine ⟨unbounded_tidy env n, fun k => node_tidy env k n, fun counts => ?_⟩
  rw [(unbounded_acts env n).effect_eq] at counts ⊢
  by_cases enough : ∃ bound, ((node env bound n).effect s).result ≠ .error .exhausted
  · obtain ⟨bound, ended⟩ := enough
    rw [outcome_of_ended ended] at counts ⊢
    exact (node_carries env bound same n).carry counts
  · rw [outcome, dif_neg enough] at counts
    exact absurd rfl (counts .exhausted rfl)

/-- What a node comes to within a bound it comes to without one. -/
theorem bounded_carries (env : Environment) (bound : Nat) (same : SameTop s t) (n : Node) :
    Carries (.eventually (· ≠ .exhausted)) (node env bound n) (fun _ => unbounded env n) s t := by
  refine ⟨node_tidy env bound n, fun _ => unbounded_tidy env n, fun counts => ⟨0, fun _ _ => ?_⟩⟩
  obtain ⟨enough, settled⟩ := (node_carries env bound same n).carry counts
  have reached := settled enough (Nat.le_refl enough)
  rw [(unbounded_acts env n).effect_eq, ← reached]
  refine outcome_of_ended fun stopped => ?_
  exact counts .exhausted (by rw [← reached, stopped]) rfl

theorem unbounded_same (env : Environment) (same : SameTop s t) (n : Node) :
    Carries (.eventually (· ≠ .exhausted)) (unbounded env n) (fun _ => unbounded env n) s t := by
  refine ⟨unbounded_tidy env n, fun _ => unbounded_tidy env n, fun counts => ⟨0, fun _ _ => ?_⟩⟩
  obtain ⟨bound, settled⟩ := (unbounded_carries env (.refl s) n).carry counts
  have reached := settled bound (Nat.le_refl bound)
  rw [← reached] at counts ⊢
  obtain ⟨start, carried⟩ := (bounded_carries env bound same n).carry counts
  exact carried start (Nat.le_refl start)

/-- A node runs out only if rendering it by the nodes inside it does. -/
theorem unbounded_of_step {n : Node}
    (ended : ((step env (unbounded env) n).effect s).result ≠ .error .exhausted) :
    (unbounded env n).effect s = (step env (unbounded env) n).effect s := by
  have stepped : Carries (.eventually (· ≠ .exhausted)) (step env (unbounded env) n)
      (fun k => step env (node env k) n) s s :=
    step_same env (unbounded_carries env) (.refl s) n
  obtain ⟨bound, same⟩ := stepped.carry fun _ stopped exhausted => ended (by rw [stopped, exhausted])
  have within : (node env (bound + 1) n).effect s = (step env (unbounded env) n).effect s :=
    same bound (Nat.le_refl bound)
  rw [(unbounded_acts env n).effect_eq, outcome_of_ended (within ▸ ended), within]

/-- A node that does not run out is rendered by the nodes inside it. -/
theorem step_of_unbounded {n : Node}
    (ended : ((unbounded env n).effect s).result ≠ .error .exhausted) :
    (step env (unbounded env) n).effect s = (unbounded env n).effect s := by
  have counts : ∀ halt, ((unbounded env n).effect s).result = .error halt → halt ≠ .exhausted :=
    fun _ stopped exhausted => ended (by rw [stopped, exhausted])
  obtain ⟨bound, settled⟩ := (unbounded_carries env (.refl s) n).carry counts
  have reached : (step env (node env bound) n).effect s = (unbounded env n).effect s :=
    settled (bound + 1) (Nat.le_succ bound)
  have stepped : Carries (.eventually (· ≠ .exhausted)) (step env (node env bound) n)
      (fun _ => step env (unbounded env) n) s s :=
    step_same env (bounded_carries env bound) (.refl s) n
  obtain ⟨start, same⟩ := stepped.carry (by rwa [reached])
  rw [same start (Nat.le_refl start), reached]

/-- A template that is rendered without a bound and does not run out is rendered alike under all great
bounds. -/
theorem template_settles {u : Template}
    (ended : ((template env (unbounded env) u).effect s).result ≠ .error .exhausted) :
    ∃ bound, ∀ more ≥ bound,
      (template env (node env more) u).effect s = (template env (unbounded env) u).effect s :=
  (template_carries (fun _ _ _ => nofun) (unbounded_carries env) rfl rfl u).carry
    fun _ stopped exhausted => ended (by rw [stopped, exhausted])

end Render

end TextTemplate
