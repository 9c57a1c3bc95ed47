import TextTemplate.Proofs.NodeTree
import TextTemplate.Proofs.RenderEffect

/-! Comparing renders. What an action comes to is set against what the members of a family of actions come
to, such as the same render under all bounds on nesting, or in another setting. Some ways to stop
may be left out of the comparison. A way of comparing has to be closed under the few things
that renders are put together by; then it carries over from the nodes inside a node to the
node, which is shown once for every way of comparing. What two renders have to agree on is a
matter of their settings, their states and the trees that they walk. -/
namespace TextTemplate

/-- The second of two computations comes to what the first comes to, unless that is an error that
does not count. -/
def Kept {α : Type} (keeps : Halt → Prop) (first second : Except Failure α) : Prop :=
  (∀ e, first = .error e → keeps (.failed e)) → second = first

namespace Kept

variable {α β : Type} {keeps : Halt → Prop} {first second : Except Failure α}
  {f g : α → Except Failure β}

theorem of_eq (same : second = first) : Kept keeps first second := fun _ => same

theorem refl (value : Except Failure α) : Kept keeps value value := of_eq rfl

/-- Only what follows the value that the first computation really gives matters. -/
theorem bind_of (start : Kept keeps first second)
    (next : ∀ a, first = .ok a → Kept keeps (f a) (g a)) : Kept keeps (first >>= f) (second >>= g) := by
  intro counts
  cases first with
  | error e =>
    have same := start fun _ failed => counts _ (by cases failed; rfl)
    rw [same]
    rfl
  | ok a =>
    rw [start fun _ failed => nomatch failed]
    exact next a rfl counts

theorem bind (start : Kept keeps first second) (next : ∀ a, Kept keeps (f a) (g a)) :
    Kept keeps (first >>= f) (second >>= g) :=
  start.bind_of fun a _ => next a

/-- An error may be reworded the same way on both sides, if that does not make it count. -/
theorem reworded {wrap : Error → Error}
    (steady : ∀ e, keeps (.failed (e.map wrap)) → keeps (.failed e)) (start : Kept keeps first second) :
    Kept keeps (first.mapError (Failure.map wrap)) (second.mapError (Failure.map wrap)) := by
  intro counts
  rw [start fun e failed => steady e (counts _ (by rw [failed]; rfl))]

end Kept

section Evaluation

variable {keeps : Halt → Prop} {env env' : Environment} {scopes scopes' : Scopes} {span : Span}

/-- Arguments come to the same if each of them does. -/
theorem evalArgs_kept {args : List Expr}
    (valued : ∀ arg ∈ args,
      Kept keeps (env.evalExpr scopes span false arg) (env'.evalExpr scopes' span false arg)) :
    Kept keeps (env.evalArgs scopes span args) (env'.evalArgs scopes' span args) := by
  induction args with
  | nil => exact .refl _
  | cons arg rest ih =>
    obtain ⟨first, later⟩ := List.forall_mem_cons.mp valued
    exact first.bind fun _ => (ih later).bind fun _ => .refl _

/-- Filters of the same catalogue come to the same if their arguments do. -/
theorem applyFilters_kept (catalog : env'.filters = env.filters) {calls : List FilterCall}
    (valued : ∀ call ∈ calls, ∀ arg ∈ call.args,
      Kept keeps (env.evalExpr scopes span false arg) (env'.evalExpr scopes' span false arg))
    (value : Value) :
    Kept keeps (env.applyFilters scopes span calls value)
      (env'.applyFilters scopes' span calls value) := by
  induction calls generalizing value with
  | nil => exact .refl _
  | cons call rest ih =>
    obtain ⟨first, later⟩ := List.forall_mem_cons.mp valued
    refine Kept.bind ?_ (ih later)
    simp only [Environment.applyFilter, catalog]
    cases Table.get? env.filters call.name with
    | none => exact .refl _
    | some entry => exact (evalArgs_kept first).bind fun _ => .refl _

/-- Pipelines come to the same if their heads and the arguments of their filters do. -/
theorem evalPipelineWith_kept (catalog : env'.filters = env.filters) {tolerant : Bool} {p : Pipeline}
    (head : Kept keeps (env.evalExpr scopes p.span tolerant p.head)
      (env'.evalExpr scopes' p.span tolerant p.head))
    (valued : ∀ call ∈ p.filters, ∀ arg ∈ call.args,
      Kept keeps (env.evalExpr scopes p.span false arg) (env'.evalExpr scopes' p.span false arg)) :
    Kept keeps (env.evalPipelineWith scopes tolerant p) (env'.evalPipelineWith scopes' tolerant p) :=
  head.bind (applyFilters_kept catalog valued)

/-- Conditions come to the same if the pipelines in them do. -/
theorem evalCondition_kept {c : Condition}
    (piped : ∀ p ∈ c.pipelines,
      Kept keeps (env.evalPipelineWith scopes true p) (env'.evalPipelineWith scopes' true p)) :
    Kept keeps (env.evalCondition scopes c) (env'.evalCondition scopes' c) := by
  induction c with
  | value p => exact (piped p (.head _)).bind fun _ => .refl _
  | compare op lhs rhs =>
    exact (piped lhs (.head _)).bind fun _ => (piped rhs (.tail _ (.head _))).bind fun _ => .refl _
  | not c ih => exact (ih piped).bind fun _ => .refl _
  | and lhs rhs first second =>
    obtain ⟨left, right⟩ := List.forall_mem_append.mp piped
    refine (first left).bind fun holds => ?_
    cases holds
    · exact .refl _
    · exact second right
  | or lhs rhs first second =>
    obtain ⟨left, right⟩ := List.forall_mem_append.mp piped
    refine (first left).bind fun holds => ?_
    cases holds
    · exact second right
    · exact .refl _

end Evaluation

/-- Two settings evaluate alike in scopes that are alike, errors that do not count apart. -/
structure Agreement (keeps : Halt → Prop) (env env' : Environment)
    (alike : Scopes → Scopes → Prop) : Prop where
  pushed : ∀ {scopes scopes'}, alike scopes scopes' → ∀ scope,
    alike (scopes.push scope) (scopes'.push scope)
  isolated : ∀ base, alike ⟨[], base⟩ ⟨[], base⟩
  piped : ∀ {scopes scopes'}, alike scopes scopes' → ∀ tolerant p,
    Kept keeps (env.evalPipelineWith scopes tolerant p) (env'.evalPipelineWith scopes' tolerant p)
  filtered : ∀ {scopes scopes'}, alike scopes scopes' → ∀ span calls value,
    Kept keeps (env.applyFilters scopes span calls value)
      (env'.applyFilters scopes' span calls value)
  loaded : ∀ purpose name span,
    Kept keeps (env.loadFor purpose name span) (env'.loadFor purpose name span)
  written : ∀ p text, Render.escaped env' p text = Render.escaped env p text
  spanned : ∀ span e, keeps (.failed (e.map (Error.orSpan span))) → keeps (.failed e)

namespace Agreement

variable {keeps : Halt → Prop} {env env' : Environment} {alike : Scopes → Scopes → Prop}
  {scopes scopes' : Scopes}

/-- A setting agrees with itself. -/
theorem same (env : Environment)
    (spanned : ∀ span e, keeps (.failed (e.map (Error.orSpan span))) → keeps (.failed e)) :
    Agreement keeps env env Eq where
  pushed near scope := by rw [near]
  isolated base := rfl
  piped near tolerant p := .of_eq (by rw [near])
  filtered near span calls value := .of_eq (by rw [near])
  loaded purpose name span := .refl _
  written p text := rfl
  spanned := spanned

variable (agree : Agreement keeps env env' alike) (near : alike scopes scopes')
include agree near

theorem pipeline (p : Pipeline) :
    Kept keeps (env.evalPipeline scopes p) (env'.evalPipeline scopes' p) :=
  agree.piped near _ p

theorem condition (c : Condition) :
    Kept keeps (env.evalCondition scopes c) (env'.evalCondition scopes' c) :=
  evalCondition_kept fun p _ => agree.piped near true p

theorem templateName (p : Pipeline) :
    Kept keeps (env.evalTemplateName scopes p) (env'.evalTemplateName scopes' p) :=
  (agree.pipeline near p).bind fun _ => .refl _

theorem handedOn (data : Option Pipeline) :
    Kept keeps (Render.handedOn env scopes data) (Render.handedOn env' scopes' data) := by
  cases data with
  | none => exact .refl _
  | some p => exact (agree.pipeline near p).bind fun _ => .refl _

theorem select (header : LoopHeader) (items : List Value) :
    Kept keeps (Render.select env scopes header items) (Render.select env' scopes' header items) := by
  induction items with
  | nil => exact .refl _
  | cons item rest ih =>
    simp only [Render.select]
    split
    · exact .refl _
    · rename_i scope _
      cases header.selection with
      | none => exact (Kept.refl _).bind fun _ => ih.bind fun _ => .refl _
      | some c =>
        exact (agree.condition (agree.pushed near scope) c).bind fun _ => ih.bind fun _ => .refl _

end Agreement

namespace Render

/-- What an action comes to can be set against what the members of a family of actions come to. Actions
that come to the same pass, and the comparison goes through what follows a value, through the
wording of errors and through collecting aside; of an error that `keeps` does not count it need
not say anything. -/
structure Comparison (keeps : Halt → Prop) where
  holds : ∀ {α : Type}, Effect α → (Nat → Effect α) → Prop
  same : ∀ {α : Type} (e : Effect α), holds e fun _ => e
  value : ∀ {α : Type} {first second : Except Failure α}, Kept keeps first second →
    holds (.ofExcept first) fun _ => .ofExcept second
  andThen : ∀ {α β : Type} {e : Effect α} {fam : Nat → Effect α} {f : α → Effect β}
    {g : Nat → α → Effect β}, holds e fam → (∀ a, holds (f a) fun k => g k a) →
    holds (e.andThen f) fun k => (fam k).andThen (g k)
  mapError : ∀ {α : Type} {e : Effect α} {fam : Nat → Effect α} {wrap : Error → Error},
    (∀ failure, keeps (.failed (failure.map wrap)) → keeps (.failed failure)) → holds e fam →
    holds (e.mapError wrap) fun k => (fam k).mapError wrap
  captured : ∀ {e : Effect Unit} {fam : Nat → Effect Unit}, holds e fam →
    holds e.captured fun k => (fam k).captured

/-- All late members of a family are one effect, unless that stops for a reason that does not count. -/
def Settles {α : Type} (keeps : Halt → Prop) (e : Effect α) (fam : Nat → Effect α) : Prop :=
  (∀ halt, e.result = .error halt → keeps halt) → ∃ bound, ∀ more ≥ bound, fam more = e

section Settles

variable {α β : Type} {keeps : Halt → Prop} {e : Effect α} {fam : Nat → Effect α}

theorem Settles.andThen {f : α → Effect β} {g : Nat → α → Effect β} (first : Settles keeps e fam)
    (next : ∀ a, Settles keeps (f a) fun k => g k a) :
    Settles keeps (e.andThen f) fun k => (fam k).andThen (g k) := by
  intro counts
  cases ended : e.result with
  | error halt =>
    rw [Effect.andThen_error ended] at counts ⊢
    obtain ⟨bound, same⟩ := first fun other stopped =>
      counts other (by cases ended.symm.trans stopped; rfl)
    refine ⟨bound, fun more le => ?_⟩
    simp only [same more le, Effect.andThen_error ended]
  | ok a =>
    rw [Effect.andThen_ok ended] at counts ⊢
    obtain ⟨bound, same⟩ := first fun halt stopped => nomatch ended.symm.trans stopped
    obtain ⟨bound', same'⟩ := next a counts
    refine ⟨max bound bound', fun more le => ?_⟩
    have later := same' more (by omega)
    simp only at later
    simp only [same more (by omega), Effect.andThen_ok ended, later]

theorem Settles.mapError {wrap : Error → Error}
    (steady : ∀ failure, keeps (.failed (failure.map wrap)) → keeps (.failed failure))
    (settles : Settles keeps e fam) :
    Settles keeps (e.mapError wrap) fun k => (fam k).mapError wrap := by
  intro counts
  have within : ∀ halt, e.result = .error halt → keeps halt := by
    intro halt stopped
    simp only [Effect.mapError, stopped] at counts
    cases halt with
    | failed failure => exact steady failure (counts _ rfl)
    | exhausted => exact counts _ stopped
  obtain ⟨bound, same⟩ := settles within
  exact ⟨bound, fun more le => by simp only [same more le]⟩

theorem Settles.captured {e : Effect Unit} {fam : Nat → Effect Unit} (settles : Settles keeps e fam) :
    Settles keeps e.captured fun k => (fam k).captured := by
  intro counts
  obtain ⟨bound, same⟩ := settles fun halt stopped =>
    counts halt (by rw [Effect.captured, stopped]; rfl)
  exact ⟨bound, fun more le => by simp only [same more le]⟩

end Settles

/-- The comparison with what the late members of a family come to. -/
def Comparison.eventually (keeps : Halt → Prop) : Comparison keeps where
  holds := Settles keeps
  same e _ := ⟨0, fun _ _ => rfl⟩
  value {_ first second} kept counts := by
    have settled : second = first := kept fun e failed => counts _ (by rw [failed]; rfl)
    exact ⟨0, fun _ _ => by rw [settled]⟩
  andThen := .andThen
  mapError := .mapError
  captured := .captured

/-- An action in one state compares with the members of a family in another state. -/
structure Carries {keeps : Halt → Prop} (C : Comparison keeps) {α : Type} (x : Render α)
    (family : Nat → Render α) (s t : RenderState) : Prop where
  tidy : Tidy x
  family_tidy : ∀ k, Tidy (family k)
  compared : C.holds (x.effect s) fun k => (family k).effect t

variable {α β : Type} {keeps : Halt → Prop} {C : Comparison keeps} {x : Render α}
  {family : Nat → Render α} {s t : RenderState}

theorem Carries.carry (carries : Carries (.eventually keeps) x family s t)
    (counts : ∀ halt, (x.effect s).result = .error halt → keeps halt) :
    ∃ bound, ∀ more ≥ bound, (family more).effect t = x.effect s :=
  carries.compared counts

/-- Of a family only the late members matter. -/
theorem Carries.later (first : Tidy (family 0))
    (carries : Carries (.eventually keeps) x (fun k => family (k + 1)) s t) :
    Carries (.eventually keeps) x family s t where
  tidy := carries.tidy
  family_tidy
    | 0 => first
    | k + 1 => carries.family_tidy k
  compared counts := by
    obtain ⟨bound, same⟩ := carries.carry counts
    refine ⟨bound + 1, fun more le => ?_⟩
    obtain ⟨k, rfl⟩ : ∃ k, more = k + 1 := ⟨more - 1, by omega⟩
    exact same k (by omega)

/-- The fewer stops count, the less has to be carried over. -/
theorem Carries.fewer {counted : Halt → Prop} (weaker : ∀ halt, counted halt → keeps halt)
    (carries : Carries (.eventually keeps) x family s t) :
    Carries (.eventually counted) x family s t where
  tidy := carries.tidy
  family_tidy := carries.family_tidy
  compared counts := carries.carry fun halt stopped => weaker halt (counts halt stopped)

/-- Only what the actions come to matters, wherever they do. -/
theorem Carries.of_effects {y : Render α} {family' : Nat → Render α} {s' t' : RenderState}
    (tidy : Tidy x) (family_tidy : ∀ k, Tidy (family k)) (left : x.effect s = y.effect s')
    (right : ∀ k, (family k).effect t = (family' k).effect t')
    (carries : Carries C y family' s' t') : Carries C x family s t where
  tidy := tidy
  family_tidy := family_tidy
  compared := by
    simp only [left, right]
    exact carries.compared

theorem pure_carries (a : α) : Carries C (Render.pure a) (fun _ => Render.pure a) s t where
  tidy := (pure_acts a).tidy
  family_tidy _ := (pure_acts a).tidy
  compared := C.same _

theorem fail_carries (e : Failure) : Carries C (fail e : Render α) (fun _ => fail e) s t where
  tidy := (fail_acts e).tidy
  family_tidy _ := (fail_acts e).tidy
  compared := C.same _

theorem write_carries (text : String) : Carries C (write text) (fun _ => write text) s t where
  tidy := (write_acts text).tidy
  family_tidy _ := (write_acts text).tidy
  compared := by
    simp only [(write_acts text).effect_eq]
    exact C.same _

theorem ofExcept_carries {first second : Except Failure α} (kept : Kept keeps first second) :
    Carries C (ofExcept first) (fun _ => ofExcept second) s t where
  tidy := (ofExcept_acts first).tidy
  family_tidy _ := (ofExcept_acts second).tidy
  compared := by
    simp only [(ofExcept_acts _).effect_eq]
    exact C.value kept

theorem eval_carries {f g : Scopes → Except Failure α} (kept : Kept keeps (f s.scopes) (g t.scopes)) :
    Carries C (eval f) (fun _ => eval g) s t where
  tidy := eval_tidy f
  family_tidy _ := eval_tidy g
  compared := by
    simp only [(eval_acts _).effect_eq]
    exact C.value kept

theorem bind_carries {f : α → Render β} {g : Nat → α → Render β} (first : Carries C x family s t)
    (next : ∀ a, Carries C (f a) (fun k => g k a) s t) :
    Carries C (Render.bind x f) (fun k => Render.bind (family k) (g k)) s t := by
  have left := bind_acts first.tidy fun a => (next a).tidy
  have right := fun k => bind_acts (first.family_tidy k) fun a => (next a).family_tidy k
  refine ⟨left.tidy, fun k => (right k).tidy, ?_⟩
  simp only [left.effect_eq, (right _).effect_eq]
  exact C.andThen first.compared fun a => (next a).compared

theorem mapError_carries {wrap : Error → Error}
    (steady : ∀ e, keeps (.failed (e.map wrap)) → keeps (.failed e)) (carries : Carries C x family s t) :
    Carries C (mapError wrap x) (fun k => mapError wrap (family k)) s t := by
  have left := mapError_acts wrap carries.tidy
  have right := fun k => mapError_acts wrap (carries.family_tidy k)
  refine ⟨left.tidy, fun k => (right k).tidy, ?_⟩
  simp only [left.effect_eq, (right _).effect_eq]
  exact C.mapError steady carries.compared

/-- Actions whose effects are those of others, in states further in, carry over if those do. -/
theorem Carries.inward {x' : Render α} {family' : Nat → Render α}
    {inner inner' : RenderState → RenderState}
    (left : Acts x' fun s => x.effect (inner s))
    (right : ∀ k, Acts (family' k) fun t => (family k).effect (inner' t))
    (carries : Carries C x family (inner s) (inner' t)) : Carries C x' family' s t :=
  .of_effects left.tidy (fun k => (right k).tidy) (left.effect_eq s) (fun k => (right k).effect_eq t)
    carries

theorem deeper_carries (carries : Carries C x family s.deeper t.deeper) :
    Carries C (deeper x) (fun k => deeper (family k)) s t :=
  carries.inward (deeper_acts carries.tidy) fun k => deeper_acts (carries.family_tidy k)

theorem inBlock_carries {b : ActiveBlock}
    (carries : Carries C x family (mapActive (b :: ·) s) (mapActive (b :: ·) t)) :
    Carries C (inBlock b x) (fun k => inBlock b (family k)) s t :=
  carries.inward (inBlock_acts b carries.tidy) fun k => inBlock_acts b (carries.family_tidy k)

theorem inFrame_carries {chain : List Template}
    (carries : Carries C x family (s.entered chain) (t.entered chain)) :
    Carries C (inFrame chain x) (fun k => inFrame chain (family k)) s t :=
  carries.inward (inFrame_acts chain carries.tidy) fun k => inFrame_acts chain (carries.family_tidy k)

theorem inScope_carries {scope : Members}
    (carries : Carries C x family (s.push scope) (t.push scope)) :
    Carries C (inScope scope x) (fun k => inScope scope (family k)) s t :=
  carries.inward (inScope_acts scope carries.tidy) fun k =>
    inScope_acts scope (carries.family_tidy k)

theorem isolated_carries {base : Members}
    (carries : Carries C x family { s with scopes := ⟨[], base⟩ } { t with scopes := ⟨[], base⟩ }) :
    Carries C (isolated base x) (fun k => isolated base (family k)) s t :=
  carries.inward (isolated_acts base carries.tidy) fun k =>
    isolated_acts base (carries.family_tidy k)

theorem capture_carries {x : Render Unit} {family : Nat → Render Unit}
    (carries : Carries C x family s t) :
    Carries C (capture x) (fun k => capture (family k)) s t := by
  have left := capture_acts carries.tidy
  have right := fun k => capture_acts (carries.family_tidy k)
  refine ⟨left.tidy, fun k => (right k).tidy, ?_⟩
  simp only [left.effect_eq, (right _).effect_eq]
  exact C.captured carries.compared

theorem times_carries {x : Render Unit} {family : Nat → Render Unit} (carries : Carries C x family s t) :
    ∀ n, Carries C (times x n) (fun k => times (family k) n) s t
  | 0 => pure_carries ()
  | n + 1 => bind_carries carries fun _ => times_carries carries n

/-! The renderer -/

theorem writeFiltered_carries {env env' : Environment} {alike : Scopes → Scopes → Prop}
    (agree : Agreement keeps env env' alike) (near : alike s.scopes t.scopes) (span : Span)
    (calls : List FilterCall) (text : String) :
    Carries C (writeFiltered env span calls text)
      (fun _ => writeFiltered env' span calls text) s t :=
  bind_carries (eval_carries (agree.filtered near span calls _)) fun value => write_carries value.text

section Walks

variable {env env' : Environment} {alike : Scopes → Scopes → Prop} {walk : Walk}
  {walk' : Nat → Walk} {body body' : List Node} {last last' : Option (List Node)}

/-- Nodes rendered in one state carry over to nodes rendered in another state. -/
def BodyCarries (C : Comparison keeps) (walk : Walk) (walk' : Nat → Walk) (s t : RenderState)
    (body body' : List Node) : Prop :=
  Carries C (nodes walk body) (fun k => nodes (walk' k) body') s t

/-- Nodes carry over between two states, and between them with a scope added to both. -/
def BodyCarriesIn (C : Comparison keeps) (walk : Walk) (walk' : Nat → Walk) (s t : RenderState)
    (body body' : List Node) : Prop :=
  BodyCarries C walk walk' s t body body' ∧
    ∀ scope, BodyCarries C walk walk' (s.push scope) (t.push scope) body body'

theorem nodes_carries (each : List.Forall₂
    (fun n n' => Carries C (walk n) (fun k => walk' k n') s t) body body') :
    BodyCarries C walk walk' s t body body' := by
  induction each with
  | nil => exact pure_carries ()
  | cons first _ ih => exact bind_carries first fun _ => ih

theorem last_carries (related : Option.Rel (BodyCarries C walk walk' s t) last last') :
    BodyCarries C walk walk' s t (last.getD []) (last'.getD []) := by
  cases related with
  | some held => exact held
  | none => exact pure_carries ()

theorem iterations_carries
    (inside : ∀ scope, BodyCarries C walk walk' (s.push scope) (t.push scope) body body')
    (length : Nat) : ∀ index scopes,
    Carries C (iterations walk body length index scopes)
      (fun k => iterations (walk' k) body' length index scopes) s t
  | _, [] => pure_carries ()
  | index, _ :: rest =>
    bind_carries (inScope_carries (inside _)) fun _ =>
      iterations_carries inside length (index + 1) rest

/-- Templates carry over with further scopes, and with nothing but given variables. -/
def TemplatesCarry (C : Comparison keeps) (env env' : Environment) (walk : Walk)
    (walk' : Nat → Walk) (s t : RenderState) : Prop :=
  ∀ u members,
    Carries C (template env walk u) (fun k => template env' (walk' k) u) (s.push members)
      (t.push members) ∧
    Carries C (template env walk u) (fun k => template env' (walk' k) u)
      { s with scopes := ⟨[], members⟩ } { t with scopes := ⟨[], members⟩ }

variable (agree : Agreement keeps env env' alike) (near : alike s.scopes t.scopes)
include agree near

theorem branches_carries
    (final : Option.Rel (BodyCarries C walk walk' s t) last last')
    {parts parts' : List (Condition × List Node)}
    (matched : List.Forall₂ (fun part part' => part'.1 = part.1 ∧
      BodyCarries C walk walk' s t part.2 part'.2) parts parts') :
    Carries C (branches env walk last parts) (fun k => branches env' (walk' k) last' parts')
      s t := by
  induction matched with
  | nil => exact last_carries final
  | @cons part part' _ _ first _ ih =>
    obtain ⟨condition, body⟩ := part
    obtain ⟨condition', body'⟩ := part'
    obtain ⟨rfl, carries⟩ := first
    refine bind_carries (eval_carries (agree.condition near _)) fun holds => ?_
    cases holds
    · exact ih
    · exact carries

theorem loop_carries (header : LoopHeader)
    (inside : ∀ scope, BodyCarries C walk walk' (s.push scope) (t.push scope) body body')
    (final : Option.Rel (BodyCarries C walk walk' s t) last last') :
    Carries C (loop env walk header body last)
      (fun k => loop env' (walk' k) header body' last') s t := by
  refine bind_carries (eval_carries ?_) fun scopes => ?_
  · exact (agree.pipeline near header.iterable).bind fun _ => agree.select near header _
  · by_cases nothing : scopes.isEmpty
    · simp only [nothing, if_true]
      exact last_carries final
    · simp only [nothing]
      exact iterations_carries inside scopes.length 0 scopes

theorem inclusion_carries (span : Span) (header : IncludeHeader)
    (templates : TemplatesCarry C env env' walk walk' s t) :
    Carries C (inclusion env walk span header) (fun k => inclusion env' (walk' k) span header)
      s t := by
  refine bind_carries (eval_carries (agree.templateName near _)) fun name =>
    bind_carries (eval_carries (agree.handedOn near _)) fun members =>
      bind_carries (ofExcept_carries (agree.loaded _ name span)) fun u => ?_
  cases header.visibility with
  | inherited => exact inScope_carries (templates u members).1
  | isolated => exact isolated_carries (templates u members).2

theorem custom_carries (span : Span) (carries : BodyCarries C walk walk' s t body body')
    (action : TagAction) :
    Carries C (custom env walk span body action)
      (fun k => custom env' (walk' k) span body' action) s t := by
  cases action with
  | write text => exact write_carries text
  | fail message => exact fail_carries _
  | filter calls =>
    exact bind_carries (capture_carries carries) fun text =>
      writeFiltered_carries agree near span calls text
  | iterate count =>
    refine bind_carries (eval_carries (agree.pipeline near count)) fun value => ?_
    cases value with
    | number n =>
      dsimp only
      cases n.toNat? with
      | some n => exact times_carries carries n
      | none => exact fail_carries _
    | _ => exact fail_carries _

/-- A node that is neither a block nor inherited content carries over to a node of its shape if the
nodes directly inside it do and templates do. -/
theorem step_carries {n n' : Node} (plain : n.isPlain)
    (matched : Node.Matches (BodyCarriesIn C walk walk' s t) n n')
    (templates : TemplatesCarry C env env' walk walk' s t) :
    Carries C (step env walk n) (fun k => step env' (walk' k) n') s t := by
  have here : ∀ {e e'}, Option.Rel (BodyCarriesIn C walk walk' s t) e e' →
      Option.Rel (BodyCarries C walk walk' s t) e e'
    | _, _, .none => .none
    | _, _, .some held => .some held.1
  cases matched with
  | text => exact write_carries _
  | @output place source p =>
    have ordinary : p.isSuper = false := by simpa [Node.isPlain] using plain
    simp only [step, output, ordinary]
    refine bind_carries (eval_carries (agree.pipeline near p)) fun value => ?_
    simp only [agree.written]
    exact write_carries _
  | comment => exact pure_carries ()
  | conditional related others final =>
    refine branches_carries agree near (here final) (.cons ⟨rfl, related.1⟩ ?_)
    rw [List.forall₂_map_left_iff, List.forall₂_map_right_iff]
    exact others.imp fun _ _ held => by
      cases held with
      | mk related => exact ⟨rfl, related.1⟩
  | loop related final => exact loop_carries agree near _ related.2 (here final)
  | inclusion => exact inclusion_carries agree near _ _ templates
  | inheritance => exact pure_carries ()
  | block => cases plain
  | custom related =>
    exact mapError_carries (agree.spanned _) (custom_carries agree near _ related.1 _)

end Walks

end Render

end TextTemplate
