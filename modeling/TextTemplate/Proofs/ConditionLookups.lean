import TextTemplate.Proofs.EvaluationErrors
import TextTemplate.Proofs.StrictLookups

/-! Undefined lookups in conditions. In strict mode a pipeline of a condition may start from something
undefined, but an argument of a filter may not be: arguments are looked up in conditions as they
are elsewhere. So a condition comes to the same in both modes, unless in strict mode it stops
at such an argument. -/
namespace TextTemplate

/-- An error that an argument of a filter in the condition has no value. -/
def Condition.MissesArgument (c : Condition) (scopes : Scopes) (e : Error) : Prop :=
  ∃ p ∈ c.pipelines, ∃ call ∈ p.filters, ∃ path, Expr.lookup path ∈ call.args ∧
    scopes.resolve path = none ∧ e = .spanned (.undefinedVariable path) p.span

theorem Condition.MissesArgument.undefined {c : Condition} {scopes : Scopes} {e : Error}
    (misses : c.MissesArgument scopes e) : e.Undefined := by
  obtain ⟨p, -, call, -, path, -, -, rfl⟩ := misses
  exact .lookup path _

namespace Environment

variable (env : Environment) (scopes : Scopes)

/-- Without strict mode nothing that is undefined makes a condition fail. -/
theorem evalCondition_tolerates (c : Condition) {e : Error}
    (failed : (env.withStrict false).evalCondition scopes c = .error (.reported e)) :
    ¬ e.Undefined := by
  intro undefined
  obtain ⟨p, -, failure | ⟨fault, kind, same⟩⟩ := evalCondition_error c _ failed
  · cases failure with
    | undefined path strict => cases strict
    | unknown | failed => cases undefined
  · cases same
    cases undefined <;> simp [Value.comparisonFaults] at kind

/-- A condition comes to the same with strict and with tolerant lookups, its errors included and whatever
its pipelines start from, exactly if in strict mode it does not stop at an argument of one of its
filters that has no value. -/
theorem condition_strict_iff (c : Condition) :
    (env.withStrict true).evalCondition scopes c = (env.withStrict false).evalCondition scopes c ↔
      ∀ e, (env.withStrict true).evalCondition scopes c = .error (.reported e) →
        ¬ c.MissesArgument scopes e := by
  constructor
  · intro same e failed misses
    exact env.evalCondition_tolerates scopes c (same ▸ failed) misses.undefined
  · intro present
    have kept : Kept (fun halt => ∀ e, halt = .failed (.reported e) → ¬ c.MissesArgument scopes e)
        ((env.withStrict true).evalCondition scopes c)
        ((env.withStrict false).evalCondition scopes c) := by
      refine evalCondition_kept fun p member => ?_
      refine env.evalPipelineWith_strict nofun fun call called path argument missing counts => ?_
      exact counts _ rfl ⟨p, member, call, called, path, argument, missing, rfl⟩
    refine (kept ?_).symm
    rintro _ failed e ⟨⟩
    exact present e failed

/-- The condition `x|default(y)` without any data: nothing to start from is no error, but nothing to put in
its place is one. -/
theorem condition_argument_strict :
    let c : Condition := .value ⟨{}, .lookup ⟨"x", []⟩, [⟨"default", [.lookup ⟨"y", []⟩]⟩]⟩
    let outcome := fun strict : Bool =>
      (builtin.withStrict strict).evalCondition (.ofData (.object .nil)) c
    outcome true = .error (.reported (.spanned (.undefinedVariable ⟨"y", []⟩) {})) ∧
      outcome false = .ok false :=
  ⟨rfl, rfl⟩

end Environment

end TextTemplate
