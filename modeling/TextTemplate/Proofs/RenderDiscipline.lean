import TextTemplate.Proofs.ChainFollowing
import TextTemplate.Proofs.EvaluationErrors
import TextTemplate.Proofs.RenderEffect

/-! What every text that a render writes is like, and every way it may stop. Such a discipline is a matter
of the nodes one by one: a render obeys it if each node by itself abides by it, because
texts are only ever joined, and what is collected aside is written after further filters. -/
namespace TextTemplate

/-- What texts may be written and how a render may stop. Joined texts may be written if their parts may,
and every error may stop a render. -/
structure Discipline where
  text : String → Prop
  halts : Halt → Prop
  empty : text ""
  joined : ∀ first second, text first → text second → text (first ++ second)
  failed : ∀ e, halts (.failed (.reported e))

namespace Discipline

variable (D : Discipline)

/-- A render in a setting may break down, unless all filters are total. -/
def Endures (env : Environment) : Prop := ¬ env.filters.Total → D.halts (.failed .breakdown)

/-- Text sent through filters may be written if it could be written before. -/
def Harmless (env : Environment) (calls : List FilterCall) : Prop :=
  ∀ scopes span text value, D.text text →
    env.applyFilters scopes span calls (.string text) = .ok value → D.text value.text

/-- What a node writes by itself may be written. -/
def Abides (env : Environment) : Node → Prop
  | .text _ text => D.text text
  | .output _ _ p =>
    if p.isSuper then D.Harmless env p.filters
    else ∀ scopes value, env.evalPipeline scopes p = .ok value →
      D.text (Render.escaped env p value.text)
  | .custom _ _ (.write text) _ => D.text text
  | .custom _ _ (.filter calls) _ => D.Harmless env calls
  | _ => True

/-- An action in a state writes only what may be written and stops only as it may. -/
structure Obeys {α : Type} (x : Render α) (s : RenderState) : Prop where
  tidy : Render.Tidy x
  text : D.text (x.effect s).text
  halt : ∀ halt, (x.effect s).result = .error halt → D.halts halt

variable {D} {env : Environment} {α : Type} {scopes : Scopes} {e : Failure} (endures : D.Endures env)
include endures

/-- An evaluation stops only as a render may. -/
theorem Endures.halts {value : Except Failure α} (fails : FailsAt env (fun _ => True) value) :
    ∀ e, value = .error e → D.halts (.failed e) := by
  intro e failed
  cases fails e failed with
  | error => exact D.failed _
  | breakdown found broke => exact endures fun total => total _ _ found _ _ broke

/-- And so does the search for a chain. -/
theorem Endures.chain_halts {depth : Nat} {t : Template} (entered : depth ≤ env.options.maxDepth)
    (failed : env.resolveChain scopes depth t = .error e) : D.halts (.failed e) := by
  obtain ⟨path, holder, -, -, ⟨-, found⟩ | ⟨parent, failure, -, refused, stopped⟩⟩ :=
    @Environment.resolveChain_ends env scopes depth t entered
  · cases found.symm.trans failed
  · obtain rfl : failure.map _ = e := Except.error.inj (stopped.symm.trans failed)
    cases failure with
    | reported e => exact D.failed _
    | breakdown =>
      cases refused with
      | unnamed unnamed => exact endures.halts (evalTemplateName_failsAt trivial) _ unnamed
      | unloaded named new room unloaded =>
        obtain ⟨e, same⟩ := Environment.loadFor_error unloaded
        cases same

end Discipline

namespace Render

variable {D : Discipline} {α β : Type} {x : Render α} {s : RenderState}

/-- Actions obey if their effect does. -/
theorem Acts.obeys {e : RenderState → Effect α} (acts : Acts x e) (text : D.text (e s).text)
    (halt : ∀ halt, (e s).result = .error halt → D.halts halt) : D.Obeys x s :=
  ⟨acts.tidy, by rwa [acts.effect_eq], by rwa [acts.effect_eq]⟩

theorem pure_obeys (a : α) : D.Obeys (Render.pure a) s := (pure_acts a).obeys D.empty nofun

theorem fail_obeys {failure : Failure} (halts : D.halts (.failed failure)) :
    D.Obeys (fail failure : Render α) s :=
  (fail_acts failure).obeys D.empty fun _ stopped => by
    cases stopped
    exact halts

theorem write_obeys {text : String} (allowed : D.text text) : D.Obeys (write text) s :=
  (write_acts text).obeys allowed nofun

theorem ofExcept_obeys {value : Except Failure α}
    (halts : ∀ e, value = .error e → D.halts (.failed e)) : D.Obeys (ofExcept value) s := by
  cases value with
  | ok a => exact pure_obeys a
  | error e => exact fail_obeys (halts e rfl)

theorem eval_obeys {f : Scopes → Except Failure α}
    (halts : ∀ e, f s.scopes = .error e → D.halts (.failed e)) : D.Obeys (eval f) s := by
  have known := ofExcept_obeys (s := s) halts
  refine (eval_acts f).obeys ?_ fun halt => ?_
  · simpa only [(ofExcept_acts _).effect_eq] using known.text
  · simpa only [(ofExcept_acts _).effect_eq] using known.halt halt

theorem ofExcept_result {value : Except Failure α} {a : α}
    (ended : ((ofExcept value).effect s).result = .ok a) : value = .ok a := by
  rw [(ofExcept_acts value).effect_eq] at ended
  cases value with
  | ok b =>
    cases ended
    rfl
  | error e => cases ended

theorem eval_result {f : Scopes → Except Failure α} {a : α}
    (ended : ((eval f).effect s).result = .ok a) : f s.scopes = .ok a := by
  rw [(eval_acts f).effect_eq, ← (ofExcept_acts (f s.scopes)).effect_eq s] at ended
  exact ofExcept_result ended

/-- Only what follows the value that the first action really comes to matters. -/
theorem bind_obeys {f : α → Render β} (tidy : Tidy (Render.bind x f)) (first : D.Obeys x s)
    (next : ∀ a, (x.effect s).result = .ok a → D.Obeys (f a) s) : D.Obeys (Render.bind x f) s := by
  have whole := bind_effect (s := s) first.tidy fun a ended => (next a ended).tidy
  cases ended : (x.effect s).result with
  | error stop =>
    rw [Effect.andThen_error ended] at whole
    refine ⟨tidy, ?_, fun halt stopped => ?_⟩
    · rw [whole]
      exact first.text
    · rw [whole] at stopped
      cases stopped
      exact first.halt _ ended
  | ok a =>
    rw [Effect.andThen_ok ended] at whole
    refine ⟨tidy, ?_, fun halt stopped => ?_⟩
    · rw [whole]
      exact D.joined _ _ first.text (next a ended).text
    · rw [whole] at stopped
      exact (next a ended).halt halt stopped

theorem mapError_obeys (wrap : Error → Error) (obeys : D.Obeys x s) :
    D.Obeys (mapError wrap x) s := by
  refine (mapError_acts wrap obeys.tidy).obeys ?_ fun halt => ?_
  · simp only [Effect.mapError]
    split <;> exact obeys.text
  · simp only [Effect.mapError]
    split
    · rename_i failure stopped
      rintro ⟨⟩
      cases failure with
      | reported e => exact D.failed (wrap e)
      | breakdown => exact obeys.halt _ stopped
    · exact obeys.halt halt

/-- Actions whose effects are those of others, in states further in, obey if those do. -/
theorem inward_obeys {x' : Render α}
    {inner : RenderState → RenderState} (left : Acts x' fun s => x.effect (inner s))
    (obeys : D.Obeys x (inner s)) : D.Obeys x' s :=
  left.obeys obeys.text obeys.halt

/-- An action obeys if it comes to what an action that obeys comes to. -/
theorem obeys_of_effect {y : Render α} {t : RenderState} (tidy : Tidy x) (obeys : D.Obeys y t)
    (same : x.effect s = y.effect t) : D.Obeys x s := by
  constructor
  · exact tidy
  · rw [same]
    exact obeys.text
  · rw [same]
    exact obeys.halt

theorem obeys_of_value {a : α} (tidy : Tidy x) (ended : x.effect s = ⟨.ok a, ""⟩) : D.Obeys x s :=
  obeys_of_effect tidy (pure_obeys (s := s) a) (ended.trans ((pure_acts a).effect_eq s).symm)

theorem obeys_of_failed {e : Failure} (halts : D.halts (.failed e)) (tidy : Tidy x)
    (ended : x.effect s = ⟨.error (.failed e), ""⟩) : D.Obeys x s :=
  obeys_of_effect tidy (fail_obeys (s := s) halts) (ended.trans ((fail_acts e).effect_eq s).symm)

theorem capture_obeys {x : Render Unit} (obeys : D.Obeys x s) : D.Obeys (capture x) s := by
  refine (capture_acts obeys.tidy).obeys D.empty fun halt stopped => obeys.halt halt ?_
  cases ended : (x.effect s).result with
  | ok a =>
    rw [Effect.captured, ended] at stopped
    cases stopped
  | error stop =>
    rw [Effect.captured, ended] at stopped
    cases stopped
    rfl

/-- Text collected aside could have been written. -/
theorem capture_text {x : Render Unit} {text : String} (obeys : D.Obeys x s)
    (ended : ((capture x).effect s).result = .ok text) : D.text text := by
  rw [(capture_acts obeys.tidy).effect_eq] at ended
  cases inner : (x.effect s).result with
  | ok a =>
    rw [Effect.captured, inner] at ended
    cases ended
    exact obeys.text
  | error stop =>
    rw [Effect.captured, inner] at ended
    cases ended

theorem times_obeys {x : Render Unit} (obeys : D.Obeys x s) : ∀ n, D.Obeys (times x n) s
  | 0 => pure_obeys ()
  | n + 1 => bind_obeys (times_tidy obeys.tidy (n + 1)) obeys fun _ _ => times_obeys obeys n

theorem writeFiltered_obeys {env : Environment} {calls : List FilterCall} {text : String}
    (endures : D.Endures env) (harmless : D.Harmless env calls) (allowed : D.text text) (span : Span) :
    D.Obeys (writeFiltered env span calls text) s :=
  bind_obeys (writeFiltered_tidy env span calls text)
    (eval_obeys (endures.halts (applyFilters_failsAt trivial calls _))) fun value ended =>
      write_obeys (harmless _ span text value allowed (eval_result ended))

/-! The renderer -/

theorem last_obeys {walk : Walk} {last : Option (List Node)}
    (final : ∀ body ∈ last, D.Obeys (nodes walk body) s) :
    D.Obeys (nodes walk (last.getD [])) s := by
  cases last with
  | none => exact pure_obeys ()
  | some body => exact final body rfl

/-- What is rendered inside a node obeys: in the present scopes, and with a scope added. -/
def InsideObeys (D : Discipline) (walk : Walk) (s : RenderState) (body : List Node) : Prop :=
  D.Obeys (nodes walk body) s ∧ ∀ scope, D.Obeys (nodes walk body) (s.push scope)

/-- Every template that can be loaded obeys, with further scopes and with nothing but given variables. -/
def TemplatesObey (D : Discipline) (env : Environment) (walk : Walk) (s : RenderState) : Prop :=
  ∀ name u, env.load name = .ok u → ∀ members, D.Obeys (template env walk u) (s.push members) ∧
    D.Obeys (template env walk u) { s with scopes := ⟨[], members⟩ }

section Walks

variable {env : Environment} {walk : Walk} {body : List Node} {last : Option (List Node)}
  (tidy : ∀ n, Tidy (walk n))
include tidy

theorem nodes_obeys (each : ∀ n ∈ body, D.Obeys (walk n) s) : D.Obeys (nodes walk body) s := by
  induction body with
  | nil => exact pure_obeys ()
  | cons n rest ih =>
    exact bind_obeys (nodes_tidy tidy (n :: rest)) (each n (by simp)) fun _ _ =>
      ih fun n member => each n (by simp [member])

theorem branches_obeys (endures : D.Endures env)
    (final : ∀ body ∈ last, D.Obeys (nodes walk body) s)
    {parts : List (Condition × List Node)}
    (each : ∀ part ∈ parts, D.Obeys (nodes walk part.2) s) :
    D.Obeys (branches env walk last parts) s := by
  induction parts with
  | nil => exact last_obeys final
  | cons part rest ih =>
    refine bind_obeys (branches_tidy env tidy last (part :: rest))
      (eval_obeys (endures.halts (evalCondition_failsAt fun _ _ => trivial))) fun holds _ => ?_
    cases holds
    · exact ih fun part member => each part (by simp [member])
    · exact each part (by simp)

theorem iterations_obeys (inside : ∀ scope, D.Obeys (nodes walk body) (s.push scope))
    (length index : Nat) (scopes : List Members) :
    D.Obeys (iterations walk body length index scopes) s := by
  induction scopes generalizing index with
  | nil => exact pure_obeys ()
  | cons scope rest ih =>
    have whole := iterations_tidy tidy body length index (scope :: rest)
    have acts := fun members => inScope_acts members (nodes_tidy tidy body)
    exact bind_obeys whole (inward_obeys (acts _) (inside _)) fun _ _ => ih (index + 1)

theorem loop_obeys (endures : D.Endures env) (header : LoopHeader)
    (inside : ∀ scope, D.Obeys (nodes walk body) (s.push scope))
    (final : ∀ body ∈ last, D.Obeys (nodes walk body) s) :
    D.Obeys (loop env walk header body last) s := by
  have selects : FailsAt env (fun _ => True) (env.evalPipeline s.scopes header.iterable >>= fun value =>
      select env s.scopes header (items header.names.length value)) :=
    failsAt_bind (evalPipeline_failsAt trivial) fun value _ =>
      select_failsAt trivial (fun _ _ _ _ => trivial) _
  refine bind_obeys (loop_tidy env tidy header body last) (eval_obeys (endures.halts selects))
    fun scopes _ => ?_
  split
  · exact last_obeys final
  · exact iterations_obeys tidy inside _ 0 scopes

theorem inclusion_obeys (endures : D.Endures env) (span : Span) (header : IncludeHeader)
    (templates : TemplatesObey D env walk s) : D.Obeys (inclusion env walk span header) s := by
  have last := loaded_tidy env tidy span header.visibility
  have loads : ∀ name e, env.loadFor .inclusion name span = .error e → D.halts (.failed e) := by
    intro name e failed
    obtain ⟨e, rfl⟩ := Environment.loadFor_error failed
    exact D.failed e
  refine bind_obeys (inclusion_tidy env tidy span header)
    (eval_obeys (endures.halts (evalTemplateName_failsAt trivial))) fun name _ => ?_
  refine bind_obeys (bind_tidy (eval_tidy _) (last name))
    (eval_obeys (endures.halts (handedOn_failsAt fun _ _ => trivial))) fun members _ => ?_
  refine bind_obeys (last name members) (ofExcept_obeys (loads name)) fun u ended => ?_
  have found := load_of_loadFor (ofExcept_result ended)
  have held := templates name u found members
  cases header.visibility with
  | inherited => exact inward_obeys (inScope_acts members (template_tidy env tidy u)) held.1
  | isolated => exact inward_obeys (isolated_acts members (template_tidy env tidy u)) held.2

theorem custom_obeys (endures : D.Endures env) (span : Span) (obeys : D.Obeys (nodes walk body) s) (action : TagAction)
    (keyword : String) (abides : D.Abides env (.custom span keyword action body)) :
    D.Obeys (custom env walk span body action) s := by
  cases action with
  | write text => exact write_obeys abides
  | fail message => exact fail_obeys (D.failed _)
  | filter calls =>
    exact bind_obeys (custom_tidy env tidy span body (.filter calls)) (capture_obeys obeys)
      fun text ended => writeFiltered_obeys endures abides (capture_text obeys ended) span
  | iterate count =>
    refine bind_obeys (custom_tidy env tidy span body (.iterate count))
      (eval_obeys (endures.halts (evalPipeline_failsAt trivial))) fun value _ => ?_
    cases value with
    | number n =>
      dsimp only
      cases n.toNat? with
      | some n => exact times_obeys obeys n
      | none => exact fail_obeys (D.failed _)
    | _ => exact fail_obeys (D.failed _)

/-- A node that is neither a block nor inherited content obeys if it abides, the nodes directly inside
it obey, and templates do. -/
theorem step_obeys (endures : D.Endures env) {n : Node} (plain : n.isPlain) (abides : D.Abides env n)
    (inside : ∀ body ∈ n.bodies, InsideObeys D walk s body)
    (templates : TemplatesObey D env walk s) : D.Obeys (step env walk n) s := by
  cases n with
  | text span text => exact write_obeys abides
  | output span source p =>
    have ordinary : p.isSuper = false := by simpa [Node.isPlain] using plain
    simp only [Discipline.Abides, ordinary] at abides
    have whole := step_tidy env tidy (.output span source p)
    simp only [step, output, ordinary] at whole ⊢
    exact bind_obeys whole (eval_obeys (endures.halts (evalPipeline_failsAt trivial)))
      fun value ended => write_obeys (abides _ value (eval_result ended))
  | comment span text => exact pure_obeys ()
  | conditional span condition thenBody others elseBody =>
    refine branches_obeys tidy endures (fun body member => (inside body ?_).1) fun part member => ?_
    · simp [Node.bodies, Option.mem_def.mp member]
    · exact (inside part.2 (Node.bodies_of_part member)).1
  | loop span header body emptyBody =>
    refine loop_obeys tidy endures header (inside body (by simp [Node.bodies])).2 fun body member =>
      (inside body ?_).1
    simp [Node.bodies, Option.mem_def.mp member]
  | inclusion span header => exact inclusion_obeys tidy endures span header templates
  | inheritance span parent => exact pure_obeys ()
  | block span name body => cases plain
  | custom span keyword action body =>
    exact mapError_obeys _ (custom_obeys tidy endures span (inside body (by simp [Node.bodies])).1
      action keyword abides)

/-! What depends on the frames -/

theorem definition_obeys {name : String} {level : Nat} {d : Definition}
    (obeys : D.Obeys (nodes walk d.body) (mapActive (⟨name, level⟩ :: ·) s)) :
    D.Obeys (definition walk name level d) s := by
  have attributed := mapError_obeys (Error.inTemplate d.template) obeys
  refine obeys_of_effect (definition_tidy tidy name level d) attributed ?_
  rw [definition_effect tidy, mapError_effect _ obeys.tidy]

theorem block_obeys (name : String) (own : s.definitions name = [] → D.Obeys (nodes walk body) s)
    (first : ∀ d, (s.definitions name)[0]? = some d → D.Obeys (definition walk name 0 d) s) :
    D.Obeys (block walk name body) s := by
  have effect := block_effect walk name body s
  cases known : s.definitions name with
  | nil => exact obeys_of_effect (block_tidy tidy name body) (own known) (by simpa [known] using effect)
  | cons d less =>
    exact obeys_of_effect (block_tidy tidy name body) (first d (by simp [known]))
      (by simpa [known] using effect)

/-- Inherited content obeys, and it may be written. -/
theorem inherited_obeys (span : Span)
    (next : ∀ b d, s.place = some b → (s.definitions b.name)[b.level + 1]? = some d →
      D.Obeys (definition walk b.name (b.level + 1) d) s) :
    D.Obeys (inherited env walk span) s ∧
      ∀ text, ((inherited env walk span).effect s).result = .ok text → D.text text := by
  have whole := inherited_tidy env tidy span
  have effect := inherited_effect env tidy span s
  have nothing : (inherited env walk span).effect s = ⟨.ok "", ""⟩ →
      D.Obeys (inherited env walk span) s ∧
        ∀ text, ((inherited env walk span).effect s).result = .ok text → D.text text := by
    intro same
    refine ⟨obeys_of_value whole same, fun text ended => ?_⟩
    rw [same] at ended
    cases ended
    exact D.empty
  cases standing : s.place with
  | none =>
    simp only [standing] at effect
    split at effect
    · refine ⟨obeys_of_failed (D.failed _) whole effect, fun text ended => ?_⟩
      rw [effect] at ended
      cases ended
    · exact nothing effect
  | some b =>
    simp only [standing] at effect
    cases found : (s.definitions b.name)[b.level + 1]? with
    | none =>
      simp only [found] at effect
      exact nothing effect
    | some d =>
      have obeys := next b d standing found
      simp only [found, ← capture_effect obeys.tidy] at effect
      refine ⟨obeys_of_effect whole (capture_obeys obeys) effect, fun text ended => ?_⟩
      rw [effect] at ended
      exact capture_text obeys ended

theorem super_obeys (endures : D.Endures env) {p : Pipeline} (inherits : p.isSuper) (harmless : D.Harmless env p.filters)
    (next : ∀ b d, s.place = some b → (s.definitions b.name)[b.level + 1]? = some d →
      D.Obeys (definition walk b.name (b.level + 1) d) s) : D.Obeys (output env walk p) s := by
  have whole := output_tidy env tidy p
  obtain ⟨obeys, allowed⟩ := inherited_obeys tidy p.span next
  simp only [output, inherits, if_true] at whole ⊢
  refine bind_obeys whole obeys fun text ended => ?_
  split
  · exact write_obeys (allowed text ended)
  · exact writeFiltered_obeys endures harmless (allowed text ended) p.span

/-- A template obeys if the tree of its last ancestor does, one level deeper and in a frame of its own. -/
theorem template_obeys (endures : D.Endures env) (t : Template)
    (root : s.depth < env.options.maxDepth → ∀ chain,
      env.resolveChain s.scopes (s.depth + 1) t = .ok chain →
      D.Obeys (nodes walk (chain.getLastD t).root) (s.deeper.entered chain)) :
    D.Obeys (template env walk t) s := by
  have whole := template_tidy env tidy t
  have effect := template_effect env tidy t s
  split at effect
  · exact obeys_of_failed (D.failed _) whole effect
  · rename_i room
    cases resolved : env.resolveChain s.scopes (s.depth + 1) t with
    | error e =>
      simp only [resolved] at effect
      exact obeys_of_failed (endures.chain_halts (by omega) resolved) whole effect
    | ok chain =>
      have obeys := root (by omega) chain resolved
      simp only [resolved, ← mapError_effect _ obeys.tidy] at effect
      exact obeys_of_effect whole (mapError_obeys _ obeys) effect

end Walks

/-! Templates whose nodes all abide -/

/-- All nodes of a list abide, at any depth. -/
def AllAbide (D : Discipline) (env : Environment) (body : List Node) : Prop :=
  ∀ n ∈ body, ∀ m : Node, m.Inside n → D.Abides env m

/-- All nodes of a template abide, and so do those of the blocks that it declares. -/
structure TemplateAbides (D : Discipline) (env : Environment) (t : Template) : Prop where
  root : AllAbide D env t.root
  blocks : ∀ name b, t.block? name = some b → AllAbide D env b.body

variable {env : Environment}

/-- The definitions of a chain of templates that abide are made of nodes that abide. -/
theorem chain_abides {chain : List Template} (each : ∀ u ∈ chain, TemplateAbides D env u)
    {name : String} {d : Definition} (defined : d ∈ Frame.definitions ⟨chain, []⟩ name) :
    AllAbide D env d.body := by
  obtain ⟨u, member, b, found, rfl⟩ := mem_definitions defined
  exact (each u member).blocks name b found

theorem allAbide_inside {body inner : List Node} {n : Node} (all : AllAbide D env body)
    (member : n ∈ body) (listed : inner ∈ n.bodies) : AllAbide D env inner := fun _ among m inside =>
  all n member m (.nested listed among inside)

/-- All definitions of the frame that a render is in are made of nodes that abide. -/
def FrameAbides (D : Discipline) (env : Environment) (s : RenderState) : Prop :=
  ∀ name, ∀ d ∈ s.definitions name, AllAbide D env d.body

theorem frameAbides_inBlock (framed : FrameAbides D env s) (b : ActiveBlock) :
    FrameAbides D env (mapActive (b :: ·) s) := by
  intro name d defined
  refine framed name d ?_
  cases frames : s.frames with
  | nil => simpa only [mapActive, frames] using defined
  | cons frame outer =>
    simpa only [mapActive, RenderState.definitions, frames, Frame.definitions] using defined

theorem exhaust_obeys (limited : D.halts .exhausted) : D.Obeys (exhaust : Render Unit) s :=
  exhaust_acts.obeys D.empty fun _ stopped => by
    cases stopped
    exact limited

/-- A template whose nodes abide obeys if nodes do that abide. -/
theorem template_abides_obeys (endures : D.Endures env) {walk : Walk} (tidy : ∀ n, Tidy (walk n))
    (loaded : ∀ name u, env.load name = .ok u → TemplateAbides D env u)
    (obeys : ∀ s, FrameAbides D env s → ∀ body, AllAbide D env body → D.Obeys (nodes walk body) s)
    {t : Template} (abides : TemplateAbides D env t) : D.Obeys (template env walk t) s := by
  refine template_obeys tidy endures t fun _ chain resolved => ?_
  have each : ∀ u ∈ chain, TemplateAbides D env u := forall_mem_chain abides loaded resolved
  have framed : FrameAbides D env (s.deeper.entered chain) := fun _ _ => chain_abides each
  exact obeys _ framed _ (each _ (last_mem_chain resolved)).root

/-- Where all nodes abide, those of the templates that can be loaded and those of the frame that a render is
in, it obeys under every bound. -/
theorem bounded_obeys (endures : D.Endures env) (limited : D.halts .exhausted)
    (loaded : ∀ name u, env.load name = .ok u → TemplateAbides D env u) (bound : Nat)
    (framed : FrameAbides D env s) {body : List Node} (all : AllAbide D env body) :
    D.Obeys (nodes (node env bound) body) s := by
  induction bound generalizing s body with
  | zero => exact nodes_obeys (node_tidy env 0) fun n _ => exhaust_obeys limited
  | succ bound ih =>
    have tidy := node_tidy env bound
    have templates : TemplatesObey D env (node env bound) s := fun name u found members =>
      ⟨template_abides_obeys endures tidy loaded (fun _ => ih) (loaded name u found),
        template_abides_obeys endures tidy loaded (fun _ => ih) (loaded name u found)⟩
    have defined : ∀ (b : ActiveBlock) d, d ∈ s.definitions b.name →
        D.Obeys (definition (node env bound) b.name b.level d) s := fun b d known =>
      definition_obeys tidy (ih (frameAbides_inBlock framed b) (framed b.name d known))
    refine nodes_obeys (node_tidy env (bound + 1)) fun n member => ?_
    have inside : ∀ inner ∈ n.bodies, AllAbide D env inner := fun _ => allAbide_inside all member
    have abides := all n member n .self
    rcases n.plain_cases with plain | ⟨span, source, p, inherits, rfl⟩ | ⟨span, name, inner, rfl⟩
    · exact step_obeys tidy endures plain abides
        (fun inner listed => ⟨ih framed (inside inner listed), fun scope =>
          ih (s := s.push scope) framed (inside inner listed)⟩)
        templates
    · simp only [Discipline.Abides, inherits, if_true] at abides
      exact super_obeys tidy endures inherits abides fun b d _ found =>
        defined b.next d (List.mem_of_getElem? found)
    · exact block_obeys tidy name (fun _ => ih framed (inside inner (by simp [Node.bodies])))
        fun d found => defined ⟨name, 0⟩ d (List.mem_of_getElem? found)

end Render

/-- What a render gives may be written if all nodes abide, those of its template and those of the templates
that can be loaded. -/
theorem Environment.render_obeys {D : Discipline} {env : Environment} (endures : D.Endures env)
    (limited : D.halts .exhausted)
    (loaded : ∀ name u, env.load name = .ok u → Render.TemplateAbides D env u) {t : Template}
    (abides : Render.TemplateAbides D env t) {bound : Nat} {data : Value} {out : String}
    (ended : env.render bound t data = .ok out) : D.text out := by
  have obeys : D.Obeys (Render.template env (Render.node env bound) t)
      { scopes := Scopes.ofData data } :=
    Render.template_abides_obeys endures (Render.node_tidy env bound) loaded
      (fun _ framed _ all => Render.bounded_obeys endures limited loaded bound framed all) abides
  have wrapped := Render.mapError_obeys (Error.inTemplate t.name) obeys
  rw [Environment.render_eq, ← Render.mapError_effect _ obeys.tidy,
    ← Render.capture_effect wrapped.tidy] at ended
  exact Render.capture_text wrapped ended

end TextTemplate
