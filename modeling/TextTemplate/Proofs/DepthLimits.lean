import TextTemplate.Proofs.ChainResolution
import TextTemplate.Proofs.Isolation

/-! The limit on depth. It is looked at where a template is entered and where a chain grows, and nothing
else depends on it. So two renders under different limits stay in step until the lower limit
stops one of them: a render that it does not stop comes to the same under every higher limit. -/
namespace TextTemplate

/-- An error about the limit is reported in one of two wordings. -/
theorem Error.OverLimit.reported {e : Error} (beyond : e.OverLimit) : ∃ limit : Nat,
    e.message = "maximum template depth of " ++ toString limit ++ " exceeded" ∨
      e.message = "extends chain exceeds maximum depth of " ++ toString limit := by
  cases beyond with
  | entered limit place => exact ⟨limit, .inl rfl⟩
  | linked limit place => exact ⟨limit, .inr rfl⟩

/-- Anything but an error about the limit. -/
def WithinLimit {α : Type} (result : Except Halt α) : Prop :=
  ∀ e, result = .error (.failed (.reported e)) → ¬ e.OverLimit

theorem WithinLimit.halt {α : Type} {result : Except Halt α} (within : WithinLimit result) {halt : Halt}
    (stopped : result = .error halt) : halt.WithinLimit := by
  rintro e rfl
  exact within e stopped

namespace Environment

variable {env : Environment} {bound limit higher : Nat} {t : Template} {data : Value}

/-- The same depth leaves at least as much room below a higher limit. -/
theorem roomAtMost_of_le (le : limit ≤ higher) (depth : Nat) :
    (env.withMaxDepth limit).RoomAtMost higher depth depth := by
  simp only [RoomAtMost, withMaxDepth]
  omega

theorem template_higher (le : limit ≤ higher) (s : RenderState)
    (within : WithinLimit ((Render.template (env.withMaxDepth limit)
      (Render.node (env.withMaxDepth limit) bound) t).effect s).result) :
    (Render.template (env.withMaxDepth higher) (Render.node (env.withMaxDepth higher) bound) t).effect s =
      (Render.template (env.withMaxDepth limit) (Render.node (env.withMaxDepth limit) bound) t).effect s :=
  have room : (env.withMaxDepth limit).RoomAtMost higher s.depth s.depth := roomAtMost_of_le le s.depth
  Render.template_room s s room rfl fun _ => within.halt

theorem render_higher (le : limit ≤ higher) {result : Except Halt String} (within : WithinLimit result)
    (ended : (env.withMaxDepth limit).render bound t data = result) :
    (env.withMaxDepth higher).render bound t data = result := by
  subst ended
  simp only [render_eq] at within ⊢
  rw [template_higher le]
  -- The name that a leaving error is given does not make it one about the limit.
  intro e failed beyond
  refine within (e.inTemplate t.name) ?_ (beyond.mapPlace _)
  simp only [Effect.captured, Effect.mapError, failed, Failure.map, Except.map]

/-- A template that was read or loaded first is the same under every limit. -/
theorem found_higher (le : limit ≤ higher) {result : Except Halt String} (within : WithinLimit result)
    (found : Except Error Template) :
    (match found with
      | .error e => .error (.failed (.reported e))
      | .ok t => (env.withMaxDepth limit).render bound t data) = result →
    (match found with
      | .error e => .error (.failed (.reported e))
      | .ok t => (env.withMaxDepth higher).render bound t data) = result := by
  cases found with
  | error e => exact id
  | ok t => exact render_higher le within

end Environment

/-- Raising the limit on depth changes no render that the lower limit does not stop: the same text is
written and the render ends alike, whether a template is rendered inside others or by itself, and
whether it is given as such, by its name or by its source. -/
theorem raised_limit_agrees (env : Environment) (bound : Nat) {limit higher : Nat} (le : limit ≤ higher) :
    (∀ t s,
      let run := fun limit : Nat => Render.template (env.withMaxDepth limit)
        (Render.node (env.withMaxDepth limit) bound) t s
      WithinLimit (run limit).1 → run higher = run limit) ∧
    (∀ data result, WithinLimit result →
      (∀ t, (env.withMaxDepth limit).render bound t data = result →
        (env.withMaxDepth higher).render bound t data = result) ∧
      (∀ name, (env.withMaxDepth limit).renderNamed bound name data = result →
        (env.withMaxDepth higher).renderNamed bound name data = result) ∧
      ∀ source, (env.withMaxDepth limit).renderText bound source data = result →
        (env.withMaxDepth higher).renderText bound source data = result) ∧
    ∀ e, Error.OverLimit e → ∃ limit : Nat,
      e.message = "maximum template depth of " ++ toString limit ++ " exceeded" ∨
        e.message = "extends chain exceeds maximum depth of " ++ toString limit := by
  refine ⟨fun t s => ?_, fun data result within => ⟨fun t => Environment.render_higher le within,
    fun name => Environment.found_higher le within (env.load name),
    fun source => Environment.found_higher le within (env.template Environment.inlineName source)⟩,
    fun e beyond => beyond.reported⟩
  intro run within
  have ran := fun env => (Render.template_tidy env (Render.node_tidy env bound) t).run s
  simp only [run, ran] at within ⊢
  rw [Environment.template_higher le s within]

/-- A chain of two templates needs a limit of two, and no higher one changes what it writes. -/
theorem raised_limit_agrees_extending : 2 ≤ 64 ∧
    (Environment.extending.withMaxDepth 2).renderNamed 5 "child" (.object .nil) = .ok "[xy]" ∧
    (Environment.extending.withMaxDepth 64).renderNamed 5 "child" (.object .nil) = .ok "[xy]" := by
  have given : ((Environment.extending.withMaxDepth 2).renderNamed 5 "child" (.object .nil)).toOption =
      some "[xy]" := by
    decide +kernel
  cases ended : (Environment.extending.withMaxDepth 2).renderNamed 5 "child" (.object .nil) with
  | error stop => simp [ended, Except.toOption] at given
  | ok out =>
    obtain rfl : out = "[xy]" := by simpa [ended, Except.toOption] using given
    have within : WithinLimit (.ok "[xy]" : Except Halt String) := by
      intro e failed
      cases failed
    exact ⟨by decide, rfl,
      ((raised_limit_agrees .extending 5 (by decide)).2.1 _ _ within).2.1 "child" ended⟩

end TextTemplate
