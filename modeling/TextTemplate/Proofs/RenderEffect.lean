import TextTemplate.Render

/-! A render reads its surroundings and writes text. Whatever way it ends, the number of
templates entered, the frames, the active blocks and the scopes are afterwards what they were
before, and what it comes to does not depend on the text that was there. So an action is
known from its effect: a result and the text it appends. The effects of the combinators
are computed here; renders are compared by their effects everywhere else. -/
namespace TextTemplate

/-- What an action comes to: how it ends, and the text it has written until then. -/
structure Effect (α : Type) where
  result : Except Halt α
  text : String

namespace Effect

variable {α β γ : Type} {a : α} {e : Effect α} {next : α → Effect β} {halt : Halt}

/-- Goes on with the value of an effect, unless it has stopped. -/
def andThen (e : Effect α) (next : α → Effect β) : Effect β :=
  match e.result with
  | .ok a => ⟨(next a).result, e.text ++ (next a).text⟩
  | .error halt => ⟨.error halt, e.text⟩

/-- Changes the error that an effect has stopped with. -/
def mapError (f : Error → Error) (e : Effect α) : Effect α :=
  match e.result with
  | .error (.failed failure) => ⟨.error (.failed (failure.map f)), e.text⟩
  | _ => e

/-- The effect of a computation that writes nothing. -/
def ofExcept : Except Failure α → Effect α
  | .ok a => ⟨.ok a, ""⟩
  | .error failure => ⟨.error (.failed failure), ""⟩

/-- The effect of collecting the text aside: it is the value, and nothing is written. -/
def captured (e : Effect Unit) : Effect String := ⟨e.result.map fun _ => e.text, ""⟩

theorem andThen_ok (ended : e.result = .ok a) :
    andThen e next = ⟨(next a).result, e.text ++ (next a).text⟩ := by
  simp only [andThen, ended]

theorem andThen_error (stopped : e.result = .error halt) :
    andThen e next = ⟨.error halt, e.text⟩ := by
  simp only [andThen, stopped]

@[simp] theorem andThen_pure (a : α) (next : α → Effect β) : andThen ⟨.ok a, ""⟩ next = next a := by
  simp [andThen]

end Effect

/-- The state after more text has been written. -/
def RenderState.wrote (s : RenderState) (text : String) : RenderState :=
  { s with output := s.output ++ text }

/-- The state with another innermost scope. -/
def RenderState.push (s : RenderState) (scope : Members) : RenderState :=
  { s with scopes := s.scopes.push scope }

/-- The state one template deeper. -/
def RenderState.deeper (s : RenderState) : RenderState := { s with depth := s.depth + 1 }

/-- The state with another innermost frame, in which no block is active. -/
def RenderState.entered (s : RenderState) (chain : List Template) : RenderState :=
  { s with frames := ⟨chain, []⟩ :: s.frames }

/-- The definitions of a block in the innermost frame, the most derived first. -/
def RenderState.definitions (s : RenderState) (name : String) : List Definition :=
  match s.frames with
  | [] => []
  | frame :: _ => frame.definitions name

/-- The innermost block that is being rendered in the innermost frame. -/
def RenderState.place (s : RenderState) : Option ActiveBlock :=
  match s.frames with
  | [] => none
  | frame :: _ => frame.active.head?

namespace Render

variable {α β : Type} {x : Render α} {e : RenderState → Effect α} {f : α → Render β}
  {g : α → RenderState → Effect β}

/-- The effect of an action. -/
def effect (x : Render α) (s : RenderState) : Effect α :=
  let (result, after) := x { s with output := "" }
  ⟨result, after.output⟩

/-- An action comes to `e s` in a state `s`, whatever has been written before, and leaves the state as
it found it, the appended text apart. -/
def Acts (x : Render α) (e : RenderState → Effect α) : Prop :=
  ∀ s output, x { s with output := output } =
    ((e s).result, { s with output := output ++ (e s).text })

/-- An action that leaves its surroundings alone. -/
def Tidy (x : Render α) : Prop := Acts x x.effect

theorem Acts.effect_eq (acts : Acts x e) (s : RenderState) : x.effect s = e s := by
  rw [effect, acts s ""]
  simp

theorem Acts.tidy (acts : Acts x e) : Tidy x := by
  intro s output
  rw [acts s output, acts.effect_eq]

/-- The run of a tidy action from any state. -/
theorem Tidy.run (tidy : Tidy x) (s : RenderState) :
    x s = ((x.effect s).result, s.wrote (x.effect s).text) := tidy s s.output

/-! The combinators -/

theorem pure_acts (a : α) : Acts (Render.pure a) fun _ => ⟨.ok a, ""⟩ := by
  intro s output
  simp [Render.pure]

theorem fail_acts (failure : Failure) :
    Acts (fail failure : Render α) fun _ => ⟨.error (.failed failure), ""⟩ := by
  intro s output
  simp [fail]

theorem exhaust_acts : Acts (exhaust : Render α) fun _ => ⟨.error .exhausted, ""⟩ := by
  intro s output
  simp [exhaust]

theorem write_acts (text : String) : Acts (write text) fun _ => ⟨.ok (), text⟩ :=
  fun _ _ => rfl

theorem ofExcept_acts (value : Except Failure α) :
    Acts (ofExcept value) fun _ => .ofExcept value := by
  cases value with
  | ok a => exact pure_acts a
  | error e => exact fail_acts e

theorem bind_acts (first : Acts x e) (next : ∀ a, Acts (f a) (g a)) :
    Acts (Render.bind x f) fun s => (e s).andThen fun a => g a s := by
  intro s output
  rw [Render.bind, first s output]
  cases ended : (e s).result with
  | error halt => simp only [Effect.andThen_error ended]
  | ok a => simp only [next a s, Effect.andThen_ok ended, String.append_assoc]

/-- What follows a look at the state may depend on all of it but the output. -/
theorem get_acts {f : RenderState → Render α} {g : RenderState → RenderState → Effect α}
    (blind : ∀ s output, f { s with output := output } = f s)
    (next : ∀ s, Acts (f s) (g s)) : Acts (Render.bind get f) fun s => g s s := by
  intro s output
  simp only [Render.bind, get, blind]
  exact next s s output

theorem get_effect {f : RenderState → Render α} {s : RenderState}
    (blind : ∀ s output, f { s with output := output } = f s) :
    (Render.bind get f).effect s = (f s).effect s := by
  simp only [effect, Render.bind, get, blind]

theorem eval_acts (f : Scopes → Except Failure α) :
    Acts (eval f) fun s => .ofExcept (f s.scopes) :=
  get_acts (fun _ _ => rfl) fun s => ofExcept_acts (f s.scopes)

theorem mapError_acts (f : Error → Error) (acts : Acts x e) :
    Acts (mapError f x) fun s => (e s).mapError f := by
  intro s output
  simp only [mapError, acts s output, Effect.mapError]
  split <;> simp_all

theorem mapError_effect (f : Error → Error) (tidy : Tidy x) (s : RenderState) :
    (mapError f x).effect s = (x.effect s).mapError f :=
  (mapError_acts f tidy).effect_eq s

theorem within_acts {enter leave : RenderState → RenderState} (acts : Acts x e)
    (keeps : ∀ s output, enter { s with output := output } = { enter s with output := output })
    (undone : ∀ s output, leave { enter s with output := output } = { s with output := output }) :
    Acts (within enter leave x) fun s => e (enter s) := by
  intro s output
  have left := undone s (output ++ (e (enter s)).text)
  rw [within, keeps, acts (enter s) output]
  simp only [left]

theorem deeper_acts (acts : Acts x e) : Acts (deeper x) fun s => e s.deeper :=
  within_acts acts (fun _ _ => rfl) fun _ _ => rfl

theorem inFrame_acts (chain : List Template) (acts : Acts x e) :
    Acts (inFrame chain x) fun s => e (s.entered chain) :=
  within_acts acts (fun _ _ => rfl) fun _ _ => rfl

theorem mapActive_output (f : List ActiveBlock → List ActiveBlock) (s : RenderState)
    (output : String) :
    mapActive f { s with output := output } = { mapActive f s with output := output } := by
  obtain ⟨depth, frames, scopes, written⟩ := s
  cases frames <;> rfl

theorem inBlock_acts (block : ActiveBlock) (acts : Acts x e) :
    Acts (inBlock block x) fun s => e (mapActive (block :: ·) s) := by
  refine within_acts acts (mapActive_output _) fun s output => ?_
  obtain ⟨depth, frames, scopes, written⟩ := s
  cases frames <;> rfl

theorem inScope_acts (scope : Members) (acts : Acts x e) :
    Acts (inScope scope x) fun s => e (s.push scope) := by
  intro s output
  have inner := acts (s.push scope) output
  simp only [RenderState.push] at inner ⊢
  simp only [inScope, inner, Scopes.truncate_push s.scopes scope (Nat.le_refl _), Scopes.truncate_self]

theorem isolated_acts (base : Members) (acts : Acts x e) :
    Acts (isolated base x) fun s => e { s with scopes := ⟨[], base⟩ } := by
  intro s output
  simp only [isolated, acts { s with scopes := ⟨[], base⟩ } output]

theorem capture_acts {x : Render Unit} {e : RenderState → Effect Unit} (acts : Acts x e) : Acts (capture x) fun s => (e s).captured := by
  intro s output
  simp only [capture, acts s "", Effect.captured, String.empty_append, String.append_empty]

theorem capture_effect {x : Render Unit} (tidy : Tidy x) (s : RenderState) :
    (capture x).effect s = (x.effect s).captured :=
  (capture_acts tidy).effect_eq s

theorem times_tidy {x : Render Unit} (tidy : Tidy x) : ∀ n, Tidy (times x n)
  | 0 => (pure_acts ()).tidy
  | n + 1 => (bind_acts tidy fun _ => times_tidy tidy n).tidy

/-! The renderer -/

theorem bind_tidy (first : Tidy x) (next : ∀ a, Tidy (f a)) : Tidy (Render.bind x f) :=
  (bind_acts first next).tidy

theorem get_tidy {f : RenderState → Render α}
    (blind : ∀ s output, f { s with output := output } = f s) (next : ∀ s, Tidy (f s)) :
    Tidy (Render.bind get f) :=
  (get_acts blind next).tidy

theorem eval_tidy (f : Scopes → Except Failure α) : Tidy (eval f) := (eval_acts f).tidy

/-- The effect of two actions in a row. Only what follows the value that the first really comes to has to
be tidy. -/
theorem bind_effect {s : RenderState} (first : Tidy x)
    (next : ∀ a, (x.effect s).result = .ok a → Tidy (f a)) :
    (Render.bind x f).effect s = (x.effect s).andThen fun a => (f a).effect s := by
  have start := first s ""
  rw [effect, Render.bind, start]
  cases ended : (x.effect s).result with
  | error halt => simp only [Effect.andThen_error ended, String.empty_append]
  | ok a => simp only [next a ended s, Effect.andThen_ok ended, String.empty_append]

theorem bind_stops {s : RenderState} {halt : Halt} (first : Tidy x)
    (stopped : (x.effect s).result = .error halt) :
    ((Render.bind x f).effect s).result = .error halt := by
  have whole := bind_effect (f := f) (s := s) first fun a ended =>
    absurd (ended.symm.trans stopped) nofun
  rw [whole, Effect.andThen_error stopped]

theorem writeFiltered_tidy (env : Environment) (span : Span) (calls : List FilterCall)
    (text : String) : Tidy (writeFiltered env span calls text) :=
  bind_tidy (eval_tidy _) fun value => (write_acts value.text).tidy

section Walks

variable (env : Environment) {walk : Walk} (tidy : ∀ n, Tidy (walk n))
include tidy

theorem nodes_tidy : ∀ body, Tidy (nodes walk body)
  | [] => (pure_acts ()).tidy
  | n :: rest => bind_tidy (tidy n) fun _ => nodes_tidy rest

theorem definition_tidy (name : String) (level : Nat) (d : Definition) :
    Tidy (definition walk name level d) :=
  (inBlock_acts _ (mapError_acts _ (nodes_tidy tidy d.body))).tidy

theorem template_tidy (t : Template) : Tidy (template env walk t) := by
  unfold template
  refine get_tidy (fun _ _ => rfl) fun s => ?_
  split
  · exact (fail_acts _).tidy
  · refine (deeper_acts (get_tidy (fun _ _ => rfl) fun s => ?_)).tidy
    exact bind_tidy (ofExcept_acts _).tidy fun chain =>
      (inFrame_acts chain (mapError_acts _ (nodes_tidy tidy _))).tidy

theorem block_tidy (name : String) (body : List Node) : Tidy (block walk name body) := by
  unfold block
  refine get_tidy (fun _ _ => rfl) fun s => ?_
  split
  · exact nodes_tidy tidy body
  · split
    · exact nodes_tidy tidy body
    · exact definition_tidy tidy name 0 _

theorem inherited_tidy (span : Span) : Tidy (inherited env walk span) := by
  unfold inherited
  refine get_tidy (fun _ _ => rfl) fun s => ?_
  split
  · dsimp only
    split
    · exact (capture_acts (definition_tidy tidy _ _ _)).tidy
    · exact (pure_acts "").tidy
  · split
    · exact (fail_acts _).tidy
    · exact (pure_acts "").tidy

theorem output_tidy (p : Pipeline) : Tidy (output env walk p) := by
  unfold output
  split
  · refine bind_tidy (inherited_tidy env tidy p.span) fun text => ?_
    split
    · exact (write_acts text).tidy
    · exact writeFiltered_tidy env p.span p.filters text
  · exact bind_tidy (eval_tidy _) fun value => (write_acts _).tidy

theorem branches_tidy (elseBody : Option (List Node)) :
    ∀ parts, Tidy (branches env walk elseBody parts)
  | [] => nodes_tidy tidy _
  | (condition, body) :: rest => by
    refine bind_tidy (eval_tidy _) fun holds => ?_
    split
    · exact nodes_tidy tidy body
    · exact branches_tidy elseBody rest

theorem iterations_tidy (body : List Node) (length : Nat) :
    ∀ index scopes, Tidy (iterations walk body length index scopes)
  | _, [] => (pure_acts ()).tidy
  | index, _ :: rest =>
    bind_tidy (inScope_acts _ (nodes_tidy tidy body)).tidy fun _ =>
      iterations_tidy body length (index + 1) rest

theorem loop_tidy (header : LoopHeader) (body : List Node) (emptyBody : Option (List Node)) :
    Tidy (loop env walk header body emptyBody) := by
  refine bind_tidy (eval_tidy _) fun scopes => ?_
  split
  · exact nodes_tidy tidy _
  · exact iterations_tidy tidy body _ 0 scopes

theorem included_tidy (visibility : Visibility) (members : Members) (t : Template) :
    Tidy (match visibility with
      | .inherited => inScope members (template env walk t)
      | .isolated => isolated members (template env walk t)) := by
  cases visibility with
  | inherited => exact (inScope_acts members (template_tidy env tidy t)).tidy
  | isolated => exact (isolated_acts members (template_tidy env tidy t)).tidy

theorem loaded_tidy (span : Span) (visibility : Visibility) (name : String) (members : Members) :
    Tidy (Render.bind (ofExcept (env.loadFor .inclusion name span)) fun t =>
      match visibility with
      | .inherited => inScope members (template env walk t)
      | .isolated => isolated members (template env walk t)) :=
  bind_tidy (ofExcept_acts _).tidy fun t => included_tidy env tidy visibility members t

theorem inclusion_tidy (span : Span) (header : IncludeHeader) :
    Tidy (inclusion env walk span header) :=
  bind_tidy (eval_tidy _) fun name => bind_tidy (eval_tidy _) fun members =>
    loaded_tidy env tidy span header.visibility name members

theorem custom_tidy (span : Span) (body : List Node) :
    ∀ action, Tidy (custom env walk span body action)
  | .write text => (write_acts text).tidy
  | .fail _ => (fail_acts _).tidy
  | .filter calls =>
    bind_tidy (capture_acts (nodes_tidy tidy body)).tidy fun text =>
      writeFiltered_tidy env span calls text
  | .iterate count => by
    refine bind_tidy (eval_tidy _) fun value => ?_
    split
    · split
      · exact times_tidy (nodes_tidy tidy body) _
      · exact (fail_acts _).tidy
    · exact (fail_acts _).tidy

/-- One level of nodes leaves its surroundings alone if the levels inside it do. -/
theorem step_tidy (n : Node) : Tidy (step env walk n) := by
  cases n with
  | text span text => exact (write_acts text).tidy
  | output span source p => exact output_tidy env tidy p
  | comment span text => exact (pure_acts ()).tidy
  | conditional span condition thenBody others elseBody => exact branches_tidy env tidy elseBody _
  | loop span header body emptyBody => exact loop_tidy env tidy header body emptyBody
  | inclusion span header => exact inclusion_tidy env tidy span header
  | inheritance span parent => exact (pure_acts ()).tidy
  | block span name body => exact block_tidy tidy name body
  | custom span keyword action body =>
    exact (mapError_acts _ (custom_tidy env tidy span body action)).tidy

/-! The effects of what depends on the frames -/

theorem template_effect (t : Template) (s : RenderState) :
    (template env walk t).effect s =
      if env.options.maxDepth ≤ s.depth then
        .ofExcept (.error (.reported
          ((Error.ofFault (.depthExceeded env.options.maxDepth)).inTemplate t.name)))
      else match env.resolveChain s.scopes (s.depth + 1) t with
        | .error e => .ofExcept (.error e)
        | .ok chain =>
          ((nodes walk (chain.getLastD t).root).effect (s.deeper.entered chain)).mapError
            (Error.inTemplate (chain.getLastD t).name) := by
  unfold template
  refine (get_effect fun _ _ => rfl).trans ?_
  split
  · exact (fail_acts _).effect_eq s
  · have rendered := fun chain : List Template =>
      inFrame_acts chain (mapError_acts (Error.inTemplate (chain.getLastD t).name)
        (nodes_tidy tidy (chain.getLastD t).root))
    have found := fun s : RenderState =>
      bind_acts (ofExcept_acts (env.resolveChain s.scopes s.depth t)) rendered
    refine ((deeper_acts (get_acts (fun _ _ => rfl) found)).effect_eq s).trans ?_
    simp only [RenderState.deeper]
    cases env.resolveChain s.scopes (s.depth + 1) t with
    | error e => exact Effect.andThen_error rfl
    | ok chain => exact Effect.andThen_pure chain _

theorem definition_effect (name : String) (level : Nat) (d : Definition) (s : RenderState) :
    (definition walk name level d).effect s =
      ((nodes walk d.body).effect (mapActive (⟨name, level⟩ :: ·) s)).mapError
        (Error.inTemplate d.template) :=
  (inBlock_acts _ (mapError_acts _ (nodes_tidy tidy d.body))).effect_eq s

theorem inherited_effect (span : Span) (s : RenderState) :
    (inherited env walk span).effect s =
      match s.place with
      | none =>
        if env.options.strictUndefined then
          .ofExcept (.error (.reported (.spanned .superOutsideBlock span)))
        else ⟨.ok "", ""⟩
      | some b =>
        match (s.definitions b.name)[b.level + 1]? with
        | none => ⟨.ok "", ""⟩
        | some d => ((definition walk b.name (b.level + 1) d).effect s).captured := by
  unfold inherited
  refine (get_effect fun _ _ => rfl).trans ?_
  have outside : (if env.options.strictUndefined then fail (.reported (.spanned .superOutsideBlock span))
        else Render.pure "" : Render String).effect s =
      if env.options.strictUndefined then
        .ofExcept (.error (.reported (.spanned .superOutsideBlock span)))
      else ⟨.ok "", ""⟩ := by
    split
    · exact (fail_acts _).effect_eq s
    · exact (pure_acts "").effect_eq s
  obtain ⟨depth, frames, scopes, written⟩ := s
  cases frames with
  | nil => exact outside
  | cons frame outer =>
    obtain ⟨chain, active⟩ := frame
    cases active with
    | nil => exact outside
    | cons b passed =>
      simp only [RenderState.place, RenderState.definitions, List.head?_cons]
      cases (Frame.definitions ⟨chain, b :: passed⟩ b.name)[b.level + 1]? with
      | none => exact (pure_acts "").effect_eq _
      | some d => exact (capture_acts (definition_tidy tidy b.name (b.level + 1) d)).effect_eq _

end Walks

theorem block_effect (walk : Walk) (name : String) (body : List Node) (s : RenderState) :
    (block walk name body).effect s =
      match s.definitions name with
      | [] => (nodes walk body).effect s
      | d :: _ => (definition walk name 0 d).effect s := by
  unfold block
  refine (get_effect fun _ _ => rfl).trans ?_
  obtain ⟨depth, frames, scopes, written⟩ := s
  cases frames with
  | nil => rfl
  | cons frame outer =>
    simp only [RenderState.definitions]
    cases frame.definitions name <;> rfl

/-- Every node leaves its surroundings alone, whatever the bound and however it ends. -/
theorem node_tidy (env : Environment) : ∀ bound n, Tidy (node env bound n)
  | 0, _ => exhaust_acts.tidy
  | bound + 1, n => step_tidy env (node_tidy env bound) n

end Render

/-- The output of a template is the text that its render would write into an empty output. -/
theorem Environment.render_eq (env : Environment) (bound : Nat) (t : Template) (data : Value) :
    env.render bound t data =
      (((Render.template env (Render.node env bound) t).effect
        { scopes := Scopes.ofData data }).mapError (Error.inTemplate t.name)).captured.result := by
  have acts := Render.mapError_acts (Error.inTemplate t.name)
    (Render.template_tidy env (Render.node_tidy env bound) t)
  have ran := acts { scopes := Scopes.ofData data } ""
  simp only [String.empty_append] at ran
  simp only [Environment.render, ran, Effect.captured]
  split
  · rename_i ended
    obtain ⟨result, rfl⟩ := Prod.mk.inj ended
    simp only [result, Except.map]
  · rename_i stopped
    obtain ⟨result, -⟩ := Prod.mk.inj stopped
    simp only [result, Except.map]

end TextTemplate
