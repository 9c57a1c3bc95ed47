import TextTemplate.Proofs.RenderComparison

/-! Strict and tolerant lookups. A render in strict mode is the beginning of the one in tolerant mode: both
take the same way up to the first lookup of something undefined that is not tolerated anywhere,
and there the strict one stops. Until then it has written what the tolerant one writes first,
and if there is no such lookup the two are the same. -/
namespace TextTemplate

/-- An effect is the beginning of another one: it is the same, or it has stopped for a reason that does not
count, and the other one writes the same first. -/
def Begins {α : Type} (keeps : Halt → Prop) (e whole : Effect α) : Prop :=
  e = whole ∨ ∃ halt rest, e.result = .error halt ∧ ¬ keeps halt ∧ whole.text = e.text ++ rest

section Begins

variable {α β : Type} {keeps : Halt → Prop} {e whole : Effect α}

theorem Begins.andThen {f g : α → Effect β} (first : Begins keeps e whole)
    (next : ∀ a, Begins keeps (f a) (g a)) : Begins keeps (e.andThen f) (whole.andThen g) := by
  rcases first with rfl | ⟨halt, rest, stopped, uncounted, longer⟩
  · cases ended : e.result with
    | error halt =>
      rw [Effect.andThen_error ended, Effect.andThen_error ended]
      exact .inl rfl
    | ok a =>
      rw [Effect.andThen_ok ended, Effect.andThen_ok ended]
      rcases next a with same | ⟨halt, rest, stopped, uncounted, longer⟩
      · rw [same]
        exact .inl rfl
      · refine .inr ⟨halt, rest, stopped, uncounted, ?_⟩
        simp only [longer, String.append_assoc]
  · rw [Effect.andThen_error stopped]
    cases ended : whole.result with
    | error other =>
      rw [Effect.andThen_error ended]
      exact .inr ⟨halt, rest, rfl, uncounted, longer⟩
    | ok a =>
      rw [Effect.andThen_ok ended]
      refine .inr ⟨halt, rest ++ (g a).text, rfl, uncounted, ?_⟩
      simp only [longer, String.append_assoc]

theorem Begins.mapError {wrap : Error → Error}
    (steady : ∀ failure, keeps (.failed (failure.map wrap)) → keeps (.failed failure))
    (begins : Begins keeps e whole) : Begins keeps (e.mapError wrap) (whole.mapError wrap) := by
  rcases begins with rfl | ⟨halt, rest, stopped, uncounted, longer⟩
  · exact .inl rfl
  · have text : ∀ effect : Effect α, (effect.mapError wrap).text = effect.text := by
      intro effect
      simp only [Effect.mapError]
      split <;> rfl
    rw [← text e, ← text whole] at longer
    cases halt with
    | failed failure =>
      refine .inr ⟨.failed (failure.map wrap), rest, ?_, fun kept => uncounted (steady failure kept), longer⟩
      simp only [Effect.mapError, stopped]
    | exhausted =>
      refine .inr ⟨.exhausted, rest, ?_, uncounted, longer⟩
      simp only [Effect.mapError, stopped]

theorem Begins.captured {e whole : Effect Unit} (begins : Begins keeps e whole) :
    Begins keeps e.captured whole.captured := by
  rcases begins with rfl | ⟨halt, rest, stopped, uncounted, longer⟩
  · exact .inl rfl
  · -- Text that was collected aside is lost with the error.
    refine .inr ⟨halt, "", ?_, uncounted, rfl⟩
    rw [Effect.captured, stopped]
    rfl

end Begins

open Classical in
/-- The comparison with what an effect is the beginning of. -/
def Render.Comparison.beginning (keeps : Halt → Prop) : Comparison keeps where
  holds e fam := ∀ k, Begins keeps e (fam k)
  same _ _ := .inl rfl
  value {_ first second} kept _ := by
    by_cases counts : ∀ e, first = .error e → keeps (.failed e)
    · rw [kept counts]
      exact .inl rfl
    · simp only [not_forall] at counts
      obtain ⟨e, rfl, uncounted⟩ := counts
      exact .inr ⟨.failed e, (Effect.ofExcept second).text, rfl, uncounted, (String.empty_append).symm⟩
  andThen first next k := (first k).andThen fun a => next a k
  mapError steady begins k := (begins k).mapError steady
  captured begins k := (begins k).captured

/-- The setting with strict or tolerant lookups, all else equal. -/
def Environment.withStrict (env : Environment) (strict : Bool) : Environment :=
  { env with options := { env.options with strictUndefined := strict } }

/-- The errors of strict lookups: a path has no value, or `super` stands outside of every block. -/
inductive Error.Undefined : Error → Prop
  | lookup (path : Path) (place : Place) : Undefined (.raised (.undefinedVariable path) place)
  | orphan (place : Place) : Undefined (.raised .superOutsideBlock place)

/-- A stop for another reason than a strict lookup. -/
def Halt.Defined (halt : Halt) : Prop := ∀ e, halt = .failed (.reported e) → ¬ e.Undefined

theorem Error.Undefined.mapPlace {e : Error} (undefined : e.Undefined) (f : Place → Place) :
    (e.mapPlace f).Undefined := by
  cases undefined with
  | lookup path place => exact .lookup path (f place)
  | orphan place => exact .orphan (f place)

/-- Such an error is reported as one of rendering, in one of two wordings. -/
theorem Error.Undefined.reported {e : Error} (undefined : e.Undefined) :
    e.display = "render error" ++ e.place.text ++ ": " ++ e.message ∧
      (e.message = "'super' used outside of a block" ∨
        ∃ path : Path, e.message = "undefined variable '" ++ path.text ++ "'") := by
  cases undefined with
  | lookup path place => exact ⟨rfl, .inr ⟨path, rfl⟩⟩
  | orphan place => exact ⟨rfl, .inl rfl⟩

/-- Where an error happened has no part in whether it is about something undefined. -/
theorem Halt.Defined.of_mapPlace {f : Place → Place} {failure : Failure}
    (defined : Halt.Defined (.failed (failure.map (Error.mapPlace f)))) :
    Halt.Defined (.failed failure) := by
  rintro _ ⟨⟩ undefined
  exact defined _ rfl (undefined.mapPlace f)

namespace Environment

variable (env : Environment) (scopes : Scopes) (span : Span)

/-- That one of these arguments has no value is an error that does not count. -/
def Discounts (keeps : Halt → Prop) (scopes : Scopes) (span : Span) (args : List Expr) : Prop :=
  ∀ path, .lookup path ∈ args → scopes.resolve path = none →
    ¬ keeps (.failed (.reported (.spanned (.undefinedVariable path) span)))

theorem discounts_defined (args : List Expr) : Discounts Halt.Defined scopes span args :=
  fun path _ _ counts => counts _ rfl (.lookup path _)

variable {scopes span} {keeps : Halt → Prop}

theorem evalExpr_strict {tolerant : Bool} {e : Expr}
    (discounted : tolerant = false → Discounts keeps scopes span [e]) :
    Kept keeps ((env.withStrict true).evalExpr scopes span tolerant e)
      ((env.withStrict false).evalExpr scopes span tolerant e) := by
  cases e with
  | literal value => exact .refl _
  | lookup path =>
    simp only [evalExpr]
    cases missing : scopes.resolve path with
    | some value => exact .refl _
    | none =>
      cases tolerant with
      | true => exact .refl _
      | false =>
        intro counts
        exact absurd (counts _ rfl) (discounted rfl path (.head _) missing)

/-- Such arguments come to the same one by one. -/
theorem Discounts.arg {args : List Expr} (discounted : Discounts keeps scopes span args) {arg : Expr}
    (member : arg ∈ args) :
    Kept keeps ((env.withStrict true).evalExpr scopes span false arg)
      ((env.withStrict false).evalExpr scopes span false arg) := by
  refine env.evalExpr_strict fun _ path among => discounted path ?_
  rwa [List.mem_singleton.mp among]

theorem evalPipelineWith_strict {tolerant : Bool} {p : Pipeline}
    (head : tolerant = false → Discounts keeps scopes p.span [p.head])
    (discounted : ∀ call ∈ p.filters, Discounts keeps scopes p.span call.args) :
    Kept keeps ((env.withStrict true).evalPipelineWith scopes tolerant p)
      ((env.withStrict false).evalPipelineWith scopes tolerant p) :=
  evalPipelineWith_kept (by rfl) (env.evalExpr_strict head) fun call called _ member =>
    (discounted call called).arg env member

/-- Strict and tolerant lookups agree as long as nothing undefined is looked up. -/
theorem strict_agrees :
    Agreement Halt.Defined (env.withStrict true) (env.withStrict false) Eq where
  pushed same scope := by rw [same]
  isolated base := rfl
  piped := by
    rintro scopes _ rfl tolerant p
    exact env.evalPipelineWith_strict (fun _ => discounts_defined _ _ _) fun _ _ => discounts_defined _ _ _
  filtered := by
    rintro scopes _ rfl span calls value
    exact applyFilters_kept (by rfl)
      (fun call _ _ member => (discounts_defined scopes span call.args).arg env member) value
  loaded purpose name span := .refl _
  written p text := rfl
  spanned span e := .of_mapPlace

/-- A setting with strict lookups is in accord with the one with tolerant lookups. -/
theorem strict_accord :
    Accord Halt.Defined (env.withStrict true) (env.withStrict false) Eq Eq where
  toAgreement := env.strict_agrees
  deeper := congrArg (· + 1)
  opened := by
    rintro scopes _ depth _ rfl rfl t
    exact env.strict_agrees.opening (fun name e => .of_mapPlace) rfl rfl depth t
  orphaned span counts := absurd (.orphan _) (counts _ rfl _ rfl)
  named name e := .of_mapPlace

end Environment

/-- A strict run is a tolerant one, or it stops at something undefined and has written what the tolerant
one writes first. -/
theorem Begins.cases {α : Type} {e whole : Effect α} (begins : Begins Halt.Defined e whole) :
    e = whole ∨ ∃ error rest, error.Undefined ∧ e.result = .error (.failed (.reported error)) ∧
      whole.text = e.text ++ rest := by
  rcases begins with same | ⟨halt, rest, stopped, uncounted, longer⟩
  · exact .inl same
  · simp only [Halt.Defined, not_forall, not_not] at uncounted
    obtain ⟨error, rfl, undefined⟩ := uncounted
    exact .inr ⟨error, rest, undefined, stopped, longer⟩

namespace Render

variable (env : Environment) (bound : Nat) (t : Template)

theorem template_begins (s : RenderState) :
    Begins Halt.Defined
      ((template (env.withStrict true) (node (env.withStrict true) bound) t).effect s)
      ((template (env.withStrict false) (node (env.withStrict false) bound) t).effect s) :=
  (template_accords (C := .beginning Halt.Defined) env.strict_accord
    (node_accords env.strict_accord bound) rfl rfl t).compared 0

end Render

/-- Strict lookups only add errors about something undefined: the strict render of a template comes to what
the tolerant one comes to, or it fails with such an error and what it has written until then is
the beginning of what the tolerant one writes. The outputs of whole renders differ accordingly. -/
theorem strict_begins (env : Environment) (bound : Nat) (t : Template) :
    (∀ s,
      let run := fun strict : Bool =>
        Render.template (env.withStrict strict) (Render.node (env.withStrict strict) bound) t s
      run true = run false ∨
        ∃ e text rest, e.Undefined ∧ run true = (.error (.failed (.reported e)), s.wrote text) ∧
          (run false).2 = s.wrote (text ++ rest)) ∧
    (∀ data,
      let output := fun strict : Bool => (env.withStrict strict).render bound t data
      output true = output false ∨ ∃ e, e.Undefined ∧ output true = .error (.failed (.reported e))) ∧
    ∀ e, Error.Undefined e →
      e.display = "render error" ++ e.place.text ++ ": " ++ e.message ∧
        (e.message = "'super' used outside of a block" ∨
          ∃ path : Path, e.message = "undefined variable '" ++ path.text ++ "'") := by
  refine ⟨fun s => ?_, fun data => ?_, fun e undefined => undefined.reported⟩
  · have ran := fun env => (Render.template_tidy env (Render.node_tidy env bound) t).run s
    simp only [ran]
    rcases (Render.template_begins env bound t s).cases with
      same | ⟨e, rest, undefined, stopped, longer⟩
    · rw [same]
      exact .inl rfl
    · exact .inr ⟨e, _, rest, undefined, by rw [stopped], by rw [longer]⟩
  · have begins := Render.template_begins env bound t { scopes := Scopes.ofData data }
    have steady : ∀ e : Failure, Halt.Defined (.failed (e.map (Error.inTemplate t.name))) →
        Halt.Defined (.failed e) :=
      fun e => .of_mapPlace
    have named := begins.mapError steady
    simp only [Environment.render_eq]
    rcases named.captured.cases with same | ⟨e, -, undefined, stopped, -⟩
    · rw [same]
      exact .inl rfl
    · exact .inr ⟨e, undefined, stopped⟩

end TextTemplate
