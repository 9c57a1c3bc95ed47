import TextTemplate.Scopes

/-! Programs on scopes. What runs with a scope added may itself add scopes and take scopes off, also some
that were there before it. Afterwards as many scopes are taken off as are above the former depth. So
the scopes are again what they were unless the program came below that depth on its way; and even
then those are left that it never came below, the base among them. -/
namespace TextTemplate

/-- A finite program that works on scopes and gives a value. How it goes on may depend on what it has
seen of them. -/
inductive ScopeProgram : Type → Type 1
  | done {α : Type} (value : α) : ScopeProgram α
  | push {α : Type} (scope : Members) (next : ScopeProgram α) : ScopeProgram α
  | pop {α : Type} (next : Option Members → ScopeProgram α) : ScopeProgram α
  | lookup {α : Type} (name : String) (next : Option Value → ScopeProgram α) : ScopeProgram α
  | depth {α : Type} (next : Nat → ScopeProgram α) : ScopeProgram α
  | withScope {α β : Type} (scope : Members) (body : ScopeProgram β) (next : β → ScopeProgram α) :
      ScopeProgram α

namespace ScopeProgram

variable {α : Type}

/-- Runs a program. -/
def run : {α : Type} → ScopeProgram α → Scopes → α × Scopes
  | _, done value => fun s => (value, s)
  | _, push scope next => fun s => next.run (s.push scope)
  | _, pop next => fun s => (next s.pop.1).run s.pop.2
  | _, lookup name next => fun s => (next (s.lookup name)).run s
  | _, depth next => fun s => (next s.depth).run s
  | _, withScope scope body next => fun s =>
    let (value, after) := s.withScope scope body.run
    (next value).run after

/-- The scopes at every moment of a run, those within the bodies of `withScope` included. -/
def moments : {α : Type} → ScopeProgram α → Scopes → List Scopes
  | _, done _ => fun s => [s]
  | _, push scope next => fun s => s :: next.moments (s.push scope)
  | _, pop next => fun s => s :: (next s.pop.1).moments s.pop.2
  | _, lookup name next => fun s => s :: (next (s.lookup name)).moments s
  | _, depth next => fun s => s :: (next s.depth).moments s
  | _, withScope scope body next => fun s =>
    let (value, after) := s.withScope scope body.run
    s :: (body.moments (s.push scope) ++ (next value).moments after)

end ScopeProgram

namespace Scopes

variable {s : Scopes} {scope : Members} {low high : Nat}

theorem depth_pos (s : Scopes) : 0 < s.depth := Nat.succ_pos _

/-- The outermost scopes do not change when another one is taken off. -/
theorem truncate_pop (below : low ≤ s.pop.2.depth) : s.pop.2.truncate low = s.truncate low := by
  obtain ⟨inner, base⟩ := s
  cases inner with
  | nil => rfl
  | cons scope outer => exact (truncate_push ⟨outer, base⟩ scope below).symm

theorem pop_base (s : Scopes) : s.pop.2.base = s.base := by
  unfold pop
  split <;> rfl

/-- The outermost scopes do not change when others are taken off. -/
theorem truncate_truncate (le : low ≤ high) (pos : 0 < high) :
    (s.truncate high).truncate low = s.truncate low := by
  have same : (s.inner.length + 1 - high) + ((s.inner.length - (s.inner.length + 1 - high)) + 1 - low) =
      s.inner.length + 1 - low := by omega
  simp only [truncate, depth, List.drop_drop, List.length_drop, same]

theorem depth_truncate_le (s : Scopes) (pos : 0 < high) : (s.truncate high).depth ≤ high := by
  simp only [truncate, depth, List.length_drop]
  omega

theorem truncate_of_le (le : s.depth ≤ high) : s.truncate high = s := by
  simp only [truncate, Nat.sub_eq_zero_of_le le, List.drop_zero]

end Scopes

namespace ScopeProgram

variable {α : Type} {s : Scopes} {low : Nat}

theorem start_mem_moments (p : ScopeProgram α) (s : Scopes) : s ∈ p.moments s := by
  cases p <;> exact .head _

/-- The scopes after a run are those of its last moment. -/
theorem run_mem_moments (p : ScopeProgram α) (s : Scopes) : (p.run s).2 ∈ p.moments s := by
  induction p generalizing s with
  | done value => exact .head _
  | push scope next ih => exact .tail _ (ih _)
  | pop next ih => exact .tail _ (ih _ _)
  | lookup name next ih => exact .tail _ (ih _ _)
  | depth next ih => exact .tail _ (ih _ _)
  | withScope scope body next _ ih => exact .tail _ (List.mem_append_right _ (ih _ _))

theorem withScope_base {body : ScopeProgram α} {scope base : Members}
    (same : ∀ t ∈ body.moments (s.push scope), t.base = base) :
    (s.withScope scope body.run).2.base = base := by
  have last := same _ (body.run_mem_moments (s.push scope))
  simpa only [Scopes.withScope, Scopes.truncate] using last

/-- The base scope is never removed. -/
theorem moments_base (p : ScopeProgram α) (s : Scopes) : ∀ t ∈ p.moments s, t.base = s.base := by
  induction p generalizing s with
  | done value => simp [moments]
  | push scope next ih => exact List.forall_mem_cons.mpr ⟨rfl, ih (s.push scope)⟩
  | pop next ih =>
    refine List.forall_mem_cons.mpr ⟨rfl, fun t member => ?_⟩
    rw [ih _ _ t member, s.pop_base]
  | lookup name next ih => exact List.forall_mem_cons.mpr ⟨rfl, ih _ s⟩
  | depth next ih => exact List.forall_mem_cons.mpr ⟨rfl, ih _ s⟩
  | withScope scope body next inside ih =>
    refine List.forall_mem_cons.mpr ⟨rfl, List.forall_mem_append.mpr ⟨inside (s.push scope), ?_⟩⟩
    exact fun t member => (ih _ _ t member).trans (withScope_base (inside (s.push scope)))

/-- A run leaves the outermost scopes alone that it never comes below. -/
theorem run_keeps (p : ScopeProgram α) (s : Scopes) (above : ∀ t ∈ p.moments s, low ≤ t.depth) :
    (p.run s).2.truncate low = s.truncate low := by
  induction p generalizing s with
  | done value => rfl
  | push scope next ih =>
    obtain ⟨here, later⟩ := List.forall_mem_cons.mp above
    exact (ih _ later).trans (s.truncate_push scope here)
  | pop next ih =>
    obtain ⟨-, later⟩ := List.forall_mem_cons.mp above
    exact (ih _ _ later).trans (Scopes.truncate_pop (later _ (start_mem_moments _ _)))
  | lookup name next ih => exact ih _ s (List.forall_mem_cons.mp above).2
  | depth next ih => exact ih _ s (List.forall_mem_cons.mp above).2
  | withScope scope body next inside ih =>
    obtain ⟨here, rest⟩ := List.forall_mem_cons.mp above
    obtain ⟨within, later⟩ := List.forall_mem_append.mp rest
    calc ((next _).run _).2.truncate low
        = ((body.run (s.push scope)).2.truncate s.depth).truncate low := ih _ _ later
      _ = (body.run (s.push scope)).2.truncate low := Scopes.truncate_truncate here s.depth_pos
      _ = (s.push scope).truncate low := inside _ within
      _ = s.truncate low := s.truncate_push scope here

end ScopeProgram

/-- A scope is taken off again with all that its program has left above it. The scopes are then what they
were before, provided that the program never came below their number; otherwise as many of the
outermost ones are left as it never came below, and there are no more than before. The base scope is
there at every moment. -/
theorem withScope_restores {α : Type} (s : Scopes) (scope : Members) (body : ScopeProgram α) :
    let after := (s.withScope scope body.run).2
    let moments := body.moments (s.push scope)
    ((∀ t ∈ moments, s.depth ≤ t.depth) → after = s) ∧
      after.depth ≤ s.depth ∧
      (∀ low ≤ s.depth, (∀ t ∈ moments, low ≤ t.depth) → after.truncate low = s.truncate low) ∧
      after.base = s.base ∧ ∀ t ∈ moments, t.base = s.base := by
  intro after moments
  have shallow : after.depth ≤ s.depth := Scopes.depth_truncate_le _ s.depth_pos
  have outermost : ∀ low ≤ s.depth, (∀ t ∈ moments, low ≤ t.depth) →
      after.truncate low = s.truncate low := by
    intro low le above
    have kept := body.run_keeps (s.push scope) above
    rw [s.truncate_push scope le] at kept
    exact (Scopes.truncate_truncate le s.depth_pos).trans kept
  have based := body.moments_base (s.push scope)
  refine ⟨fun above => ?_, shallow, outermost, ScopeProgram.withScope_base based, based⟩
  have whole := outermost s.depth (Nat.le_refl _) above
  rwa [Scopes.truncate_of_le shallow, s.truncate_self] at whole

/-- A body that leaves scopes behind, and takes the one of a body inside it off before its time. -/
theorem withScope_restores_untidy :
    let s : Scopes := ⟨[.ofList [("a", .bool true)]], .empty⟩
    let inner : ScopeProgram Unit :=
      .pop fun _ => .push (.ofList [("a", .null)]) (.push .empty (.done ()))
    let body : ScopeProgram (Option Value) :=
      .push .empty (.withScope (.ofList [("a", .bool false)]) inner fun _ => .lookup "a" .done)
    (∀ t ∈ body.moments (s.push .empty), s.depth ≤ t.depth) ∧
      s.withScope .empty body.run = (some (.bool true), s) := by
  intro s inner body
  have above : ∀ t ∈ body.moments (s.push .empty), s.depth ≤ t.depth := by decide
  have restored := (withScope_restores s .empty body).1 above
  exact ⟨above, Prod.ext rfl restored⟩

/-- A body that takes off more than the scope that was added for it. -/
theorem withScope_loses :
    ¬∀ (s : Scopes) (scope : Members) (body : ScopeProgram Unit), (s.withScope scope body.run).2 = s := by
  intro restores
  have same := restores ⟨[.ofList [("a", .bool true)]], .empty⟩ (.ofList [("b", .bool true)])
    (.pop fun _ => .pop fun _ => .done ())
  exact absurd (congrArg Scopes.depth same) (by decide)

end TextTemplate
