import Mathlib.Data.List.DropRight
import TextTemplate.Proofs.DeclaredBlocks
import TextTemplate.Proofs.MarkupFree
import TextTemplate.Proofs.RenderDiscipline

/-! Escaping keeps markup that stands in the data out of the output. Text reaches the output from the
templates, escaped from an output, and unescaped from a filter tag or from inherited content
that filters have changed. The last two are free of markup because what goes into them is, unless a
filter among them inserts an argument from the data and nothing after it escapes. -/
namespace TextTemplate

/-- A literal without markup. What a lookup gives comes from the data. -/
def Expr.IsFree : Expr → Prop
  | .literal value => value.Free
  | .lookup _ => False

instance : DecidablePred Expr.IsFree
  | .literal value => inferInstanceAs (Decidable value.Free)
  | .lookup _ => inferInstanceAs (Decidable False)

namespace FilterCall

/-- A call that inserts nothing from the data. -/
def Guarded (call : FilterCall) : Prop :=
  ∀ i ∈ FilterCatalog.inserts call.name, ∀ arg ∈ call.args[i]?, arg.IsFree

instance : DecidablePred Guarded := fun call =>
  inferInstanceAs (Decidable (∀ i ∈ FilterCatalog.inserts call.name, ∀ arg ∈ call.args[i]?, arg.IsFree))

/-- The calls after the last `escape`. -/
def afterEscape (calls : List FilterCall) : List FilterCall :=
  calls.rtakeWhile fun call => call.name ≠ "escape"

end FilterCall

/-- A node brings no markup in by itself: its text has none, its pipeline does not end in a safe filter,
and where filtered text is written as it is, nothing from the data is inserted after the last
`escape`. -/
def Node.Guarded : Node → Prop
  | .text _ written => MarkupFree written.toList
  | .output _ _ p =>
    if p.isSuper then ∀ call ∈ FilterCall.afterEscape p.filters, call.Guarded
    else ∀ call ∈ p.filters.getLast?, FilterCatalog.isSafe FilterCatalog.standard call.name = false
  | .custom _ _ (.write written) _ => MarkupFree written.toList
  | .custom _ _ (.filter calls) _ => ∀ call ∈ FilterCall.afterEscape calls, call.Guarded
  | _ => True

instance : DecidablePred Node.Guarded
  | .text _ written => inferInstanceAs (Decidable (MarkupFree written.toList))
  | .output _ _ p => inferInstanceAs (Decidable (if p.isSuper then
      ∀ call ∈ FilterCall.afterEscape p.filters, call.Guarded
    else ∀ call ∈ p.filters.getLast?,
      FilterCatalog.isSafe FilterCatalog.standard call.name = false))
  | .custom _ _ (.write written) _ => inferInstanceAs (Decidable (MarkupFree written.toList))
  | .custom _ _ (.filter calls) _ =>
    inferInstanceAs (Decidable (∀ call ∈ FilterCall.afterEscape calls, call.Guarded))
  | .custom _ _ (.fail _) _ | .custom _ _ (.iterate _) _ | .comment _ _ | .conditional _ _ _ _ _
  | .loop _ _ _ _ | .inclusion _ _ | .inheritance _ _ | .block _ _ _ => isTrue trivial

/-- Texts without markup. -/
def Discipline.noMarkup : Discipline where
  text s := MarkupFree s.toList
  halts _ := True
  empty := .nil
  joined first second free free' := by
    rw [String.toList_append]
    exact free.append free'
  failed _ := trivial

/-! Filters on text without markup -/

namespace Environment

variable {env : Environment} {scopes : Scopes} {span : Span}

/-- Every value among the arguments of a filter is that of the expression at its position. -/
theorem evalArgs_getElem {args : List Expr} {values : List Value} {i : Nat} {a : Value}
    (evaluated : env.evalArgs scopes span args = .ok values) (found : values[i]? = some a) :
    ∃ arg, args[i]? = some arg ∧ env.evalExpr scopes span false arg = .ok a := by
  induction args generalizing values i with
  | nil =>
    cases evaluated
    simp at found
  | cons arg rest ih =>
    obtain ⟨value, first, later⟩ := bind_ok evaluated
    obtain ⟨others, second, same⟩ := bind_ok later
    cases same
    cases i with
    | zero =>
      obtain rfl : value = a := by simpa using found
      exact ⟨arg, rfl, first⟩
    | succ i => exact ih second (by simpa using found)

/-- A filter that succeeds is registered, and its arguments have values. -/
theorem applyFilter_cases {call : FilterCall} {value v : Value}
    (given : env.applyFilter scopes span call value = .ok v) :
    ∃ entry args, Table.get? env.filters call.name = some entry ∧
      env.evalArgs scopes span call.args = .ok args ∧ entry.apply value args = .ok v := by
  unfold applyFilter at given
  split at given
  · cases given
  · rename_i entry found
    obtain ⟨args, evaluated, applied⟩ := bind_ok given
    refine ⟨entry, args, found, evaluated, ?_⟩
    split at applied
    · rename_i result
      cases applied
      exact result
    · cases applied

theorem applyFilters_append (calls more : List FilterCall) (value : Value) :
    env.applyFilters scopes span (calls ++ more) value =
      (env.applyFilters scopes span calls value).bind (env.applyFilters scopes span more) := by
  induction calls generalizing value with
  | nil => rfl
  | cons call rest ih =>
    simp only [List.cons_append, applyFilters, bind, ih, Except.bind]
    cases env.applyFilter scopes span call value <;> rfl

/-- Filters keep text free of markup if what they insert from the data is escaped afterwards. -/
theorem applyFilters_free (filters : env.filters = FilterCatalog.standard) {calls : List FilterCall}
    (guarded : ∀ call ∈ FilterCall.afterEscape calls, call.Guarded) {value v : Value}
    (free : value.Free) (given : env.applyFilters scopes span calls value = .ok v) : v.Free := by
  induction calls using List.reverseRecOn generalizing v with
  | nil =>
    cases given
    exact free
  | append_singleton before call ih =>
    rw [applyFilters_append] at given
    obtain ⟨middle, first, last⟩ := bind_ok given
    obtain ⟨result, applied, same⟩ := bind_ok last
    cases same
    obtain ⟨entry, args, found, evaluated, answered⟩ := applyFilter_cases applied
    rw [filters] at found
    by_cases escapes : call.name = "escape"
    · rw [escapes, FilterCatalog.standard_escape] at found
      cases found
      exact @Filter.escape_free middle v args answered
    · have after : FilterCall.afterEscape (before ++ [call]) =
          FilterCall.afterEscape before ++ [call] := by
        unfold FilterCall.afterEscape
        rw [List.rtakeWhile_concat_pos _ _ _ (by simpa using escapes)]
      rw [after] at guarded
      have kept := ih (fun c member => guarded c (by simp [member])) first
      refine FilterCatalog.standard_keeps call.name entry found middle _ args kept ?_ answered
      intro i inserted a argument
      obtain ⟨arg, written, value_of⟩ := evalArgs_getElem evaluated argument
      have plain := guarded call (by simp) i inserted arg written
      cases arg with
      | literal value =>
        cases value_of
        exact plain
      | lookup path => exact plain.elim

end Environment

/-! Renders -/

section Escaping

variable {env : Environment} (filters : env.filters = FilterCatalog.standard)
  (escape : env.escape = Text.escapeHtml) (on : env.options.autoescape = true)
include filters

theorem guarded_harmless {calls : List FilterCall}
    (guarded : ∀ call ∈ FilterCall.afterEscape calls, call.Guarded) :
    Discipline.noMarkup.Harmless env calls := fun _ _ _ _ free given =>
  (Environment.applyFilters_free filters guarded (.string free) given).text

include escape on

theorem escaped_free {p : Pipeline} (last : ∀ call ∈ p.filters.getLast?,
    FilterCatalog.isSafe FilterCatalog.standard call.name = false) (text : String) :
    MarkupFree (Render.escaped env p text).toList := by
  have unsafe_end : (p.filters.getLast?.any fun call =>
      FilterCatalog.isSafe env.filters call.name) = false := by
    rw [filters]
    cases ends : p.filters.getLast? with
    | none => rfl
    | some call => simpa using last call ends
  unfold Render.escaped
  simp only [unsafe_end, on, escape, Bool.not_false, Bool.and_self, if_true]
  exact Text.escapeHtml_free text

theorem guarded_abides {n : Node} (guarded : n.Guarded) : Discipline.noMarkup.Abides env n := by
  cases n with
  | text span text => exact guarded
  | output span source p =>
    by_cases inherits : p.isSuper
    · simp only [Node.Guarded, Discipline.Abides, inherits, if_true] at guarded ⊢
      exact guarded_harmless filters guarded
    · simp only [Node.Guarded, Discipline.Abides, inherits] at guarded ⊢
      exact fun _ value _ => escaped_free filters escape on guarded value.text
  | custom span keyword action body =>
    cases action with
    | write text => exact guarded
    | filter calls => exact guarded_harmless filters guarded
    | fail message => trivial
    | iterate count => trivial
  | _ => trivial

theorem guarded_template {name source : String} {t : Template}
    (read : env.template name source = .ok t) (guarded : ∀ n, t.Contains n → n.Guarded) :
    Render.TemplateAbides .noMarkup env t := by
  have all : Render.AllAbide .noMarkup env t.root := fun n member m inside =>
    guarded_abides filters escape on (guarded m ⟨n, member, inside⟩)
  refine ⟨all, fun name b found n member m inside => ?_⟩
  obtain ⟨outer, listed, stands⟩ := contains_of_block read found member inside
  exact all outer listed m stands

end Escaping

/-- Data cannot bring markup into the output. With escaping on, no text that a render gives opens markup,
if no template does so and nothing from the data is inserted unescaped into filtered text. -/
theorem render_markup_free (env : Environment) (filters : env.filters = FilterCatalog.standard)
    (escape : env.escape = Text.escapeHtml) (on : env.options.autoescape = true)
    (loaded : ∀ name u, env.load name = .ok u → ∀ n, u.Contains n → n.Guarded)
    (name source : String) (t : Template) (read : env.template name source = .ok t)
    (guarded : ∀ n, t.Contains n → n.Guarded) (bound : Nat) (data : Value) (out : String)
    (ended : env.render bound t data = .ok out) : MarkupFree out.toList := by
  refine Environment.render_obeys (D := .noMarkup) (fun _ => trivial) trivial (fun name u found => ?_)
    (guarded_template filters escape on read guarded) ended
  obtain ⟨source, made⟩ := template_of_load found
  exact guarded_template filters escape on made (loaded name u found)

/-- A block below whose filters change what it inherits. -/
def Environment.refining : Environment :=
  .pair "{% block a %}{{ x }}{% endblock %}"
    ("\x7b% extends 'base' %\x7d{% block a %}" ++
      "\x7b% filter upper|default('none') %\x7d{{ super|trim }}{% endfilter %}{% endblock %}")

theorem render_markup_free_refining : ∃ child out,
    Environment.refining.load "child" = .ok child ∧
    Environment.refining.render 5 child (.object (Table.ofList [("x", .string "<b>")])) = .ok out ∧
    out = "&LT;B&GT;" ∧ MarkupFree out.toList := by
  have base_checked : (Environment.refining.load "base").toOption.any (fun base =>
      base.root.all (Node.passes (fun n => n.Guarded) 4)) = true := by
    decide +kernel
  have child_checked : (Environment.refining.load "child").toOption.any (fun child =>
      child.root.all (Node.passes (fun n => n.Guarded) 4) &&
        decide ((Environment.refining.render 5 child
          (.object (Table.ofList [("x", .string "<b>")]))).toOption =
          some "&LT;B&GT;")) = true := by
    decide +kernel
  have guarded : ∀ t : Template, t.root.all (Node.passes (fun n => n.Guarded) 4) →
      ∀ n, t.Contains n → n.Guarded := fun t all n ⟨outer, member, inside⟩ =>
    of_decide_eq_true (Node.check_of_passes (List.all_eq_true.mp all outer member) inside)
  cases base_read : Environment.refining.load "base" with
  | error e => simp [base_read, Except.toOption] at base_checked
  | ok base =>
    cases child_read : Environment.refining.load "child" with
    | error e => simp [child_read, Except.toOption] at child_checked
    | ok child =>
      simp only [base_read, child_read, Except.toOption, Option.any_some,
        Bool.and_eq_true] at base_checked child_checked
      have loaded : ∀ name u, Environment.refining.load name = .ok u →
          ∀ n, u.Contains n → n.Guarded := by
        intro name u found
        rcases pair_load found with rfl | rfl
        · obtain rfl : base = u := Except.ok.inj (base_read.symm.trans found)
          exact guarded base base_checked
        · obtain rfl : child = u := Except.ok.inj (child_read.symm.trans found)
          exact guarded child child_checked.1
      obtain ⟨source, read⟩ := template_of_load child_read
      cases ended : Environment.refining.render 5 child (.object (Table.ofList [("x", .string "<b>")])) with
      | error stop => simp [ended] at child_checked
      | ok out =>
        simp only [ended, Option.some.injEq, decide_eq_true_eq] at child_checked
        exact ⟨child, out, rfl, ended, child_checked.2,
          render_markup_free .refining rfl rfl rfl loaded "child" source child read
            (guarded child child_checked.1) 5 _ out ended⟩

/-- An empty text that a filter replaces by an argument from the data comes out unescaped. -/
theorem renderText_inserts :
    MarkupFree "{% filter default(x) %}{% endfilter %}".toList ∧
    (∀ token ∈ tokenize "{% filter default(x) %}{% endfilter %}", token.kind ≠ .output) ∧
    Environment.standard.renderText 2 "{% filter default(x) %}{% endfilter %}"
      (.object (Table.ofList [("x", .string "<")])) = .ok "<" ∧
    ¬MarkupFree "<".toList := by
  have given : (Environment.standard.renderText 2 "{% filter default(x) %}{% endfilter %}"
      (.object (Table.ofList [("x", .string "<")]))).toOption = some "<" := by
    decide +kernel
  refine ⟨by decide, by decide +kernel, ?_, by decide⟩
  cases ended : Environment.standard.renderText 2 "{% filter default(x) %}{% endfilter %}"
      (.object (Table.ofList [("x", .string "<")])) with
  | error stop => simp [ended, Except.toOption] at given
  | ok out => simpa [ended, Except.toOption] using given

end TextTemplate
