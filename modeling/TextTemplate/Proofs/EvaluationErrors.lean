import TextTemplate.Proofs.NodeTree
import TextTemplate.Render

/-! The failures of evaluation. A pipeline fails at a path without a value if lookups are strict, at a
filter that is not known, or at one that fails itself; a comparison fails by the kinds of its values.
In each case the error stands at the pipeline, and nothing else is ever wrong with a condition. Only a
filter breaks down, so nothing does where all filters are total. -/
namespace TextTemplate

/-- A filter gives a value or an error, whatever it is applied to. -/
def Filter.Total (filter : Filter) : Prop := ∀ value args, filter value args ≠ .error .breakdown

/-- All filters of a catalogue are total. -/
def FilterCatalog.Total (catalog : FilterCatalog) : Prop :=
  ∀ name entry, Table.get? catalog name = some entry → entry.apply.Total

theorem Filter.total_of_ok {filter : Filter} {f : Value → List Value → Value}
    (gives : ∀ value args, filter value args = .ok (f value args)) : filter.Total := by
  intro value args broken
  rw [gives] at broken
  cases broken

theorem FilterCatalog.builtin_total : builtin.Total := by
  intro name entry found
  simp only [builtin, addBuiltin, register, registerSafe, Table.get?_insert, Table.get?_empty] at found
  split at found
  · cases found
    exact Filter.total_of_ok fun _ _ => rfl
  · split at found
    · cases found
      exact Filter.total_of_ok fun _ _ => rfl
    · cases found

/-- The failures of a pipeline that stands at a span. -/
inductive EvaluationFailure (env : Environment) (scopes : Scopes) (span : Span) : Failure → Prop
  | undefined (path : Path) (strict : env.options.strictUndefined = true)
      (missing : scopes.resolve path = none) :
      EvaluationFailure env scopes span (.reported (.spanned (.undefinedVariable path) span))
  | unknown (name : String) (absent : Table.get? env.filters name = none) :
      EvaluationFailure env scopes span (.reported (.spanned (.unknownFilter name) span))
  | failed (name : String) (cause : Error) :
      EvaluationFailure env scopes span
        (.reported (.caused (.filterFailed name cause.message) span cause))
  | brokenDown {name : String} {entry : FilterEntry} {value : Value} {args : List Value}
      (found : Table.get? env.filters name = some entry)
      (broke : entry.apply value args = .error .breakdown) :
      EvaluationFailure env scopes span .breakdown

/-- The faults of comparisons. -/
def Value.comparisonFaults : List Fault := [.unorderedNumbers, .incomparable, .notAContainer]

theorem Value.order_fault {left right : Value} {fault : Fault} (failed : left.order right = .error fault) :
    fault ∈ comparisonFaults := by
  unfold Value.order at failed
  split at failed
  · split at failed
    · cases failed
    · cases failed
      exact .head _
  · cases failed
  · cases failed
    exact .tail _ (.head _)

theorem Value.isWithin_fault {needle container : Value} {fault : Fault}
    (failed : needle.isWithin container = .error fault) : fault ∈ comparisonFaults := by
  unfold Value.isWithin at failed
  split at failed
  case h_5 =>
    cases failed
    exact .tail _ (.tail _ (.head _))
  all_goals cases failed

theorem Value.compare_fault {op : Operator} {left right : Value} {fault : Fault}
    (failed : left.compare op right = .error fault) : fault ∈ comparisonFaults := by
  have ordered {f : Ordering → Bool} (failed : (left.order right).map f = .error fault) :
      fault ∈ comparisonFaults := by
    cases order : left.order right with
    | error other =>
      rw [order] at failed
      cases failed
      exact order_fault order
    | ok ordering =>
      rw [order] at failed
      cases failed
  cases op with
  | equal | notEqual => cases failed
  | less | lessOrEqual | greater | greaterOrEqual => exact ordered failed
  | within => exact isWithin_fault failed

namespace Environment

variable {env : Environment} {scopes : Scopes} {span : Span}

theorem evalExpr_error (tolerant : Bool) (expr : Expr) :
    ∀ e, env.evalExpr scopes span tolerant expr = .error e → EvaluationFailure env scopes span e := by
  cases expr with
  | literal value => nofun
  | lookup path =>
    simp only [evalExpr]
    cases missing : scopes.resolve path with
    | some value => nofun
    | none =>
      intro e failed
      by_cases strict : (env.options.strictUndefined && !tolerant) = true
      · simp only [if_pos strict, Except.error.injEq] at failed
        rw [← failed]
        exact .undefined path (Bool.and_eq_true_iff.mp strict).1 missing
      · simp only [if_neg strict] at failed
        cases failed

theorem evalArgs_error (args : List Expr) :
    ∀ e, env.evalArgs scopes span args = .error e → EvaluationFailure env scopes span e := by
  induction args with
  | nil => nofun
  | cons arg rest ih =>
    exact bind_errors (evalExpr_error false arg) fun _ _ => bind_errors ih fun _ _ => nofun

theorem applyFilter_error (call : FilterCall) (value : Value) :
    ∀ e, env.applyFilter scopes span call value = .error e → EvaluationFailure env scopes span e := by
  unfold applyFilter
  split
  · rename_i absent
    rintro _ ⟨⟩
    exact .unknown call.name absent
  · rename_i entry found
    refine bind_errors (evalArgs_error call.args) fun args _ e failed => ?_
    split at failed
    · cases failed
    · rename_i failure broke
      cases failed
      cases failure with
      | reported cause => exact .failed call.name cause
      | breakdown => exact .brokenDown found broke

theorem applyFilters_error (calls : List FilterCall) (value : Value) :
    ∀ e, env.applyFilters scopes span calls value = .error e → EvaluationFailure env scopes span e := by
  induction calls generalizing value with
  | nil => nofun
  | cons call rest ih => exact bind_errors (applyFilter_error call value) fun next _ => ih next

theorem evalPipelineWith_error (tolerant : Bool) (p : Pipeline) :
    ∀ e, env.evalPipelineWith scopes tolerant p = .error e → EvaluationFailure env scopes p.span e :=
  bind_errors (evalExpr_error tolerant p.head) fun head _ => applyFilters_error p.filters head

/-- A condition fails at one of its pipelines. -/
theorem evalCondition_error (c : Condition) :
    ∀ e, env.evalCondition scopes c = .error e → ∃ p ∈ c.pipelines,
      EvaluationFailure env scopes p.span e ∨
        ∃ fault ∈ Value.comparisonFaults, e = .reported (.spanned fault p.span) := by
  induction c with
  | value p =>
    refine bind_errors (fun e failed => ?_) fun _ _ => nofun
    exact ⟨p, .head _, .inl (evalPipelineWith_error true p e failed)⟩
  | compare op lhs rhs =>
    refine bind_errors (fun e failed => ?_) fun left _ => ?_
    · exact ⟨lhs, .head _, .inl (evalPipelineWith_error true lhs e failed)⟩
    refine bind_errors (fun e failed => ?_) fun right _ e failed => ?_
    · exact ⟨rhs, .tail _ (.head _), .inl (evalPipelineWith_error true rhs e failed)⟩
    split at failed
    · cases failed
    · rename_i fault compared
      cases failed
      exact ⟨lhs, .head _, .inr ⟨fault, Value.compare_fault compared, rfl⟩⟩
  | not inner ih => exact bind_errors ih fun _ _ => nofun
  | and lhs rhs first second =>
    refine bind_errors (fun e failed => ?_) fun holds _ e failed => ?_
    · obtain ⟨p, member, error⟩ := first e failed
      exact ⟨p, List.mem_append_left _ member, error⟩
    · split at failed
      · obtain ⟨p, member, error⟩ := second e failed
        exact ⟨p, List.mem_append_right _ member, error⟩
      · cases failed
  | or lhs rhs first second =>
    refine bind_errors (fun e failed => ?_) fun holds _ e failed => ?_
    · obtain ⟨p, member, error⟩ := first e failed
      exact ⟨p, List.mem_append_left _ member, error⟩
    · split at failed
      · cases failed
      · obtain ⟨p, member, error⟩ := second e failed
        exact ⟨p, List.mem_append_right _ member, error⟩

end Environment

/-! Failures at places -/

/-- A failure at one of the spans for which something holds: an error that is placed there, or the breakdown
of a filter. -/
inductive FailureAt (env : Environment) (site : Span → Prop) : Failure → Prop
  | error {e : Error} {span : Span} (placed : e.At span) (here : site span) :
      FailureAt env site (.reported e)
  | breakdown {name : String} {entry : FilterEntry} {value : Value} {args : List Value}
      (found : Table.get? env.filters name = some entry)
      (broke : entry.apply value args = .error .breakdown) : FailureAt env site .breakdown

/-- A computation fails only at such spans. -/
def FailsAt {α : Type} (env : Environment) (site : Span → Prop) (x : Except Failure α) : Prop :=
  ∀ e, x = .error e → FailureAt env site e

section Places

variable {env : Environment} {scopes : Scopes} {span : Span} {site : Span → Prop} {α β : Type}

theorem failsAt_ok (a : α) : FailsAt env site (.ok a) := nofun

theorem failsAt_spanned {fault : Fault} (here : site span) :
    FailsAt env site (.error (.reported (.spanned fault span)) : Except Failure α) := by
  rintro _ ⟨⟩
  exact .error rfl here

theorem failsAt_bind {x : Except Failure α} {f : α → Except Failure β} (first : FailsAt env site x)
    (next : ∀ a, x = .ok a → FailsAt env site (f a)) : FailsAt env site (x >>= f) :=
  bind_errors first next

theorem EvaluationFailure.placed {e : Failure} (failure : EvaluationFailure env scopes span e)
    (here : site span) : FailureAt env site e := by
  cases failure with
  | undefined | unknown | failed => exact .error rfl here
  | brokenDown found broke => exact .breakdown found broke

theorem applyFilters_failsAt (here : site span) (calls : List FilterCall) (value : Value) :
    FailsAt env site (env.applyFilters scopes span calls value) := fun e failed =>
  (Environment.applyFilters_error calls value e failed).placed here

theorem evalPipeline_failsAt {p : Pipeline} (here : site p.span) :
    FailsAt env site (env.evalPipeline scopes p) := fun e failed =>
  (Environment.evalPipelineWith_error _ p e failed).placed here

/-- A condition fails at one of its pipelines. -/
theorem evalCondition_failsAt {c : Condition} (here : ∀ p ∈ c.pipelines, site p.span) :
    FailsAt env site (env.evalCondition scopes c) := by
  intro e failed
  obtain ⟨p, member, failure | ⟨fault, -, rfl⟩⟩ := Environment.evalCondition_error c e failed
  · exact failure.placed (here p member)
  · exact .error rfl (here p member)

theorem evalTemplateName_failsAt {p : Pipeline} (here : site p.span) :
    FailsAt env site (env.evalTemplateName scopes p) := by
  refine failsAt_bind (evalPipeline_failsAt here) fun value _ => ?_
  split
  · split
    · exact failsAt_spanned here
    · exact failsAt_ok _
  · exact failsAt_spanned here

theorem handedOn_failsAt {data : Option Pipeline} (here : ∀ p, data = some p → site p.span) :
    FailsAt env site (Render.handedOn env scopes data) := by
  cases data with
  | none => exact failsAt_ok _
  | some p =>
    refine failsAt_bind (evalPipeline_failsAt (here p rfl)) fun value _ => ?_
    split
    · exact failsAt_ok _
    · exact failsAt_ok _
    · exact failsAt_spanned (here p rfl)

theorem select_failsAt {header : LoopHeader} (iterable : site header.iterable.span)
    (selection : ∀ c, header.selection = some c → ∀ p ∈ c.pipelines, site p.span) (items : List Value) :
    FailsAt env site (Render.select env scopes header items) := by
  induction items with
  | nil => exact failsAt_ok _
  | cons item rest ih =>
    unfold Render.select
    split
    · exact failsAt_spanned iterable
    · dsimp only
      split
      · exact failsAt_bind (failsAt_ok true) fun _ _ => failsAt_bind ih fun _ _ => failsAt_ok _
      · rename_i condition same
        exact failsAt_bind (evalCondition_failsAt (selection condition same)) fun _ _ =>
          failsAt_bind ih fun _ _ => failsAt_ok _

end Places

end TextTemplate
