import TextTemplate.Proofs.ChainResolution
import TextTemplate.Proofs.RenderFailures

/-! The moments of a render: the nodes that it comes to, each with the frames that it stands in. From a
node a render comes to the nodes inside it, to the definitions of a block, to inherited content and
to included templates. A watch may be set over a render, which sees every moment before the node
is rendered and raises an alarm at those that are not as they should be. If what holds at the
start carries over from each moment to the next and keeps the watch calm, the watched render is
the render itself. -/
namespace TextTemplate

namespace Render

variable {α β : Type} {frames inner : List Frame} {x y : Render α}

/-- Started in these frames, two actions come to the same, and leave the frames as they are. -/
def AgreeIn (frames : List Frame) (x y : Render α) : Prop :=
  ∀ s, s.frames = frames → y s = x s ∧ (x s).2.frames = frames

/-- An action that leaves the frames as they are agrees with itself. -/
theorem FailsOnly.agrees (fails : FailsOnly frames (fun _ => True) x) : AgreeIn frames x x :=
  fun s start => ⟨rfl, (fails s start).1⟩

theorem pure_agrees (a : α) : AgreeIn frames (Render.pure a) (Render.pure a) := (pure_fails a).agrees

theorem write_agrees (text : String) : AgreeIn frames (write text) (write text) :=
  (write_fails text).agrees

theorem fail_agrees (e : Failure) : AgreeIn frames (fail e : Render α) (fail e) :=
  (fail_fails fun _ _ => trivial).agrees

theorem exhaust_agrees : AgreeIn frames (exhaust : Render α) exhaust := exhaust_fails.agrees

theorem eval_agrees (f : Scopes → Except Failure α) : AgreeIn frames (eval f) (eval f) :=
  (eval_fails fun _ _ _ => trivial).agrees

/-- What follows an action has a value that the action has come to. -/
theorem bind_agrees {f g : α → Render β} (first : AgreeIn frames x y)
    (next : ∀ a s, s.frames = frames → (x s).1 = .ok a → AgreeIn frames (f a) (g a)) :
    AgreeIn frames (Render.bind x f) (Render.bind y g) := by
  intro s start
  obtain ⟨same, kept⟩ := first s start
  unfold Render.bind
  rw [same]
  cases ended : x s with
  | mk result after =>
    rw [ended] at kept
    cases result with
    | ok a => exact next a s start (by rw [ended]) after kept
    | error halt => exact ⟨rfl, kept⟩

/-- What follows a look at the state sees the frames. -/
theorem get_bind_agrees {f g : RenderState → Render α}
    (next : ∀ s, s.frames = frames → AgreeIn frames (f s) (g s)) :
    AgreeIn frames (Render.bind get f) (Render.bind get g) :=
  bind_agrees (FailsOnly.agrees get_fails) fun s _ start same => by
    cases same
    exact next s start

/-- What follows a computation has its value. -/
theorem ofExcept_bind_agrees {value : Except Failure α} {f g : α → Render β}
    (next : ∀ a, value = .ok a → AgreeIn frames (f a) (g a)) :
    AgreeIn frames (Render.bind (ofExcept value) f) (Render.bind (ofExcept value) g) := by
  cases value with
  | ok a => exact next a rfl
  | error e => exact fail_agrees e

theorem mapError_agrees (f : Error → Error) (agree : AgreeIn frames x y) :
    AgreeIn frames (mapError f x) (mapError f y) := by
  intro s start
  obtain ⟨same, kept⟩ := agree s start
  refine ⟨by rw [mapError, same, mapError], ?_⟩
  unfold mapError
  split
  · rename_i ended
    rw [ended] at kept
    exact kept
  · exact kept

/-- Actions inside other frames that are left again. -/
theorem within_agrees {enter leave : RenderState → RenderState} (agree : AgreeIn inner x y)
    (entered : ∀ s, s.frames = frames → (enter s).frames = inner)
    (left : ∀ s, s.frames = inner → (leave s).frames = frames) :
    AgreeIn frames (within enter leave x) (within enter leave y) := by
  intro s start
  obtain ⟨same, kept⟩ := agree (enter s) (entered s start)
  exact ⟨by rw [within, same, within], left _ kept⟩

theorem deeper_agrees (agree : AgreeIn frames x y) : AgreeIn frames (deeper x) (deeper y) :=
  within_agrees agree (fun _ start => start) fun _ start => start

theorem inFrame_agrees {chain : List Template} (agree : AgreeIn (⟨chain, []⟩ :: frames) x y) :
    AgreeIn frames (inFrame chain x) (inFrame chain y) :=
  within_agrees agree (fun _ start => congrArg (⟨chain, []⟩ :: ·) start)
    fun _ start => congrArg List.tail start

theorem inBlock_agrees {b : ActiveBlock} (agree : AgreeIn (activated b frames) x y) :
    AgreeIn frames (inBlock b x) (inBlock b y) := by
  refine within_agrees agree (fun s start => ?_) fun s start => ?_
  · cases frames <;> simp only [mapActive, start, activated]
  · cases frames <;> simp only [mapActive, start, activated, List.tail_cons]

theorem inScope_agrees {scope : Members} (agree : AgreeIn frames x y) :
    AgreeIn frames (inScope scope x) (inScope scope y) := by
  intro s start
  obtain ⟨same, kept⟩ := agree { s with scopes := s.scopes.push scope } start
  exact ⟨by rw [inScope, same, inScope], kept⟩

theorem isolated_agrees {base : Members} (agree : AgreeIn frames x y) :
    AgreeIn frames (isolated base x) (isolated base y) := by
  intro s start
  obtain ⟨same, kept⟩ := agree { s with scopes := ⟨[], base⟩ } start
  exact ⟨by rw [isolated, same, isolated], kept⟩

theorem capture_agrees {x y : Render Unit} (agree : AgreeIn frames x y) :
    AgreeIn frames (capture x) (capture y) := by
  intro s start
  obtain ⟨same, kept⟩ := agree { s with output := "" } start
  exact ⟨by rw [capture, same, capture], kept⟩

theorem times_agrees {x y : Render Unit} (agree : AgreeIn frames x y) :
    ∀ n, AgreeIn frames (times x n) (times y n)
  | 0 => pure_agrees ()
  | n + 1 => bind_agrees agree fun _ _ _ _ => times_agrees agree n

/-! The renderer -/

theorem writeFiltered_agrees (env : Environment) (span : Span) (calls : List FilterCall)
    (text : String) :
    AgreeIn frames (writeFiltered env span calls text) (writeFiltered env span calls text) :=
  bind_agrees (eval_agrees _) fun value _ _ _ => write_agrees value.text

/-- The nodes that a render may come to from a node, each with the frames that it stands in then. -/
inductive Next (env : Environment) (n : Node) (frames : List Frame) : Node → List Frame → Prop
  | child {body : List Node} {m : Node} (listed : body ∈ n.bodies) (member : m ∈ body) :
      Next env n frames m frames
  | defined {span : Span} {name : String} {body : List Node} {frame : Frame} {outer : List Frame}
      {d : Definition} {less : List Definition} {m : Node} (block : n = .block span name body)
      (innermost : frames = frame :: outer) (found : frame.definitions name = d :: less)
      (member : m ∈ d.body) : Next env n frames m (activated ⟨name, 0⟩ frames)
  | inherited {span : Span} {source : String} {p : Pipeline} {frame : Frame} {outer : List Frame}
      {b : ActiveBlock} {passed : List ActiveBlock} {d : Definition} {m : Node}
      (output : n = .output span source p) (inherits : p.isSuper)
      (innermost : frames = frame :: outer) (standing : frame.active = b :: passed)
      (found : (frame.definitions b.name)[b.level + 1]? = some d) (member : m ∈ d.body) :
      Next env n frames m (activated ⟨b.name, b.level + 1⟩ frames)
  | included {name : String} {t : Template} {scopes : Scopes} {depth : Nat} {chain : List Template}
      {m : Node} (loaded : env.load name = .ok t)
      (resolved : env.resolveChain scopes depth t = .ok chain)
      (member : m ∈ (chain.getLastD t).root) : Next env n frames m (⟨chain, []⟩ :: frames)

section Walks

variable {env : Environment} {walk walk' : Walk} {body : List Node}

theorem nodes_agree (each : ∀ m ∈ body, AgreeIn frames (walk m) (walk' m)) :
    AgreeIn frames (nodes walk body) (nodes walk' body) := by
  induction body with
  | nil => exact pure_agrees ()
  | cons m rest ih =>
    exact bind_agrees (each m List.mem_cons_self) fun _ _ _ _ =>
      ih fun k member => each k (List.mem_cons_of_mem m member)

theorem last_agrees {last : Option (List Node)}
    (inside : ∀ body ∈ last, AgreeIn frames (nodes walk body) (nodes walk' body)) :
    AgreeIn frames (nodes walk (last.getD [])) (nodes walk' (last.getD [])) := by
  cases last with
  | none => exact pure_agrees ()
  | some body => exact inside body rfl

theorem branches_agree {last : Option (List Node)} {parts : List (Condition × List Node)}
    (final : ∀ body ∈ last, AgreeIn frames (nodes walk body) (nodes walk' body))
    (inside : ∀ part ∈ parts, AgreeIn frames (nodes walk part.2) (nodes walk' part.2)) :
    AgreeIn frames (branches env walk last parts) (branches env walk' last parts) := by
  induction parts with
  | nil => exact last_agrees final
  | cons part rest ih =>
    refine bind_agrees (eval_agrees _) fun holds _ _ _ => ?_
    split
    · exact inside part List.mem_cons_self
    · exact ih fun part member => inside part (List.mem_cons_of_mem _ member)

theorem iterations_agree (inside : AgreeIn frames (nodes walk body) (nodes walk' body))
    (length index : Nat) (scopes : List Members) :
    AgreeIn frames (iterations walk body length index scopes)
      (iterations walk' body length index scopes) := by
  induction scopes generalizing index with
  | nil => exact pure_agrees ()
  | cons scope rest ih => exact bind_agrees (inScope_agrees inside) fun _ _ _ _ => ih (index + 1)

theorem loop_agrees {header : LoopHeader} {last : Option (List Node)}
    (inside : AgreeIn frames (nodes walk body) (nodes walk' body))
    (final : ∀ body ∈ last, AgreeIn frames (nodes walk body) (nodes walk' body)) :
    AgreeIn frames (loop env walk header body last) (loop env walk' header body last) := by
  refine bind_agrees (eval_agrees _) fun scopes _ _ _ => ?_
  split
  · exact last_agrees final
  · exact iterations_agree inside _ 0 scopes

/-- A template is rendered alike if the root of each of its chains is. -/
theorem template_agrees {t : Template} (inside : ∀ scopes depth chain,
      env.resolveChain scopes depth t = .ok chain → ∀ m ∈ (chain.getLastD t).root,
        AgreeIn (⟨chain, []⟩ :: frames) (walk m) (walk' m)) :
    AgreeIn frames (template env walk t) (template env walk' t) := by
  unfold template
  refine get_bind_agrees fun s _ => ?_
  split
  · exact fail_agrees _
  · refine deeper_agrees (get_bind_agrees fun s _ => ofExcept_bind_agrees fun chain resolved => ?_)
    exact inFrame_agrees (mapError_agrees _ (nodes_agree (inside _ _ chain resolved)))

theorem inclusion_agrees {span : Span} {header : IncludeHeader}
    (inside : ∀ name t, env.load name = .ok t →
      AgreeIn frames (template env walk t) (template env walk' t)) :
    AgreeIn frames (inclusion env walk span header) (inclusion env walk' span header) := by
  refine bind_agrees (eval_agrees _) fun name _ _ _ => bind_agrees (eval_agrees _) fun members _ _ _ =>
    ofExcept_bind_agrees fun t loaded => ?_
  have whole := inside name t (load_of_loadFor loaded)
  cases header.visibility with
  | inherited => exact inScope_agrees whole
  | isolated => exact isolated_agrees whole

theorem definition_agrees {name : String} {level : Nat} {d : Definition}
    (inside : ∀ m ∈ d.body, AgreeIn (activated ⟨name, level⟩ frames) (walk m) (walk' m)) :
    AgreeIn frames (definition walk name level d) (definition walk' name level d) :=
  inBlock_agrees (mapError_agrees _ (nodes_agree inside))

theorem custom_agrees {span : Span} (inside : AgreeIn frames (nodes walk body) (nodes walk' body))
    (action : TagAction) :
    AgreeIn frames (custom env walk span body action) (custom env walk' span body action) := by
  cases action with
  | write text => exact write_agrees text
  | fail message => exact fail_agrees _
  | filter calls =>
    exact bind_agrees (capture_agrees inside) fun text _ _ _ => writeFiltered_agrees env span calls text
  | iterate count =>
    refine bind_agrees (eval_agrees _) fun value _ _ _ => ?_
    split
    · split
      · exact times_agrees inside _
      · exact fail_agrees _
    · exact fail_agrees _

variable {n : Node} (next : ∀ m inner, Next env n frames m inner → AgreeIn inner (walk m) (walk' m))
include next

/-- The nodes directly inside a node. -/
theorem inside_agrees (listed : body ∈ n.bodies) :
    AgreeIn frames (nodes walk body) (nodes walk' body) :=
  nodes_agree fun m member => next m frames (.child listed member)

theorem block_agrees {span : Span} {name : String} (here : n = .block span name body) :
    AgreeIn frames (block walk name body) (block walk' name body) := by
  have own : AgreeIn frames (nodes walk body) (nodes walk' body) :=
    inside_agrees next (by simp [here, Node.bodies])
  unfold block
  refine get_bind_agrees fun s start => ?_
  split
  · exact own
  · rename_i frame outer innermost
    split
    · exact own
    · rename_i d less found
      have standing : frames = frame :: outer := by rw [← start, innermost]
      exact definition_agrees fun m member => next m _ (.defined here standing found member)

theorem inherited_agrees {span : Span} {source : String} {p : Pipeline}
    (here : n = .output span source p) (inherits : p.isSuper) :
    AgreeIn frames (inherited env walk p.span) (inherited env walk' p.span) := by
  unfold inherited
  refine get_bind_agrees fun s start => ?_
  split
  · rename_i chain active outer further innermost
    dsimp only
    split
    · rename_i d found
      have standing : frames = ⟨chain, active :: outer⟩ :: further := by rw [← start, innermost]
      exact capture_agrees (definition_agrees fun m member =>
        next m _ (.inherited here inherits standing rfl found member))
    · exact pure_agrees _
  · split
    · exact fail_agrees _
    · exact pure_agrees _

theorem output_agrees {span : Span} {source : String} {p : Pipeline}
    (here : n = .output span source p) :
    AgreeIn frames (output env walk p) (output env walk' p) := by
  unfold output
  split
  · rename_i inherits
    refine bind_agrees (inherited_agrees next here inherits) fun text _ _ _ => ?_
    split
    · exact write_agrees text
    · exact writeFiltered_agrees env p.span p.filters text
  · exact bind_agrees (eval_agrees _) fun value _ _ _ => write_agrees _

/-- A node is rendered alike if the nodes that a render comes to from it are. -/
theorem step_agrees : AgreeIn frames (step env walk n) (step env walk' n) := by
  have inside : ∀ body ∈ n.bodies, AgreeIn frames (nodes walk body) (nodes walk' body) :=
    fun body listed => inside_agrees next listed
  cases n with
  | text span text => exact write_agrees text
  | output span source p => exact output_agrees next rfl
  | comment span text => exact pure_agrees ()
  | conditional span condition thenBody others elseBody =>
    refine branches_agree (fun body member => inside body ?_) fun part member =>
      inside part.2 (Node.bodies_of_part member)
    simp [Node.bodies, Option.mem_def.mp member]
  | loop span header body emptyBody =>
    refine loop_agrees (inside body (by simp [Node.bodies])) fun body member => inside body ?_
    simp [Node.bodies, Option.mem_def.mp member]
  | inclusion span header =>
    exact inclusion_agrees fun name t loaded => template_agrees fun _ _ chain resolved m member =>
      next m _ (.included loaded resolved member)
  | inheritance span parent => exact pure_agrees ()
  | block span name body => exact block_agrees next rfl
  | custom span keyword action body =>
    exact mapError_agrees _ (custom_agrees (inside body (by simp [Node.bodies])) action)

end Walks

/-! Watched renders -/

/-- Renders a node unless something is wrong with it and the frames that it stands in; then the alarm takes
over. -/
def guarded (calm : Node → List Frame → Bool) (alarm walk : Walk) : Walk := fun n s =>
  if calm n s.frames then walk n s else alarm n s

/-- Renders a node under a watch over all nodes that the render comes to. -/
def watched (env : Environment) (calm : Node → List Frame → Bool) (alarm : Walk) : Nat → Walk
  | 0 => guarded calm alarm fun _ => exhaust
  | bound + 1 => guarded calm alarm (step env (watched env calm alarm bound))

/-- What carries over from each moment to the next and keeps the watch calm keeps it calm throughout. -/
theorem watched_agrees {env : Environment} {calm : Node → List Frame → Bool} {alarm : Walk}
    {sound : Node → List Frame → Prop} (calms : ∀ n frames, sound n frames → calm n frames)
    (carries : ∀ n frames m inner, sound n frames → Next env n frames m inner → sound m inner)
    (bound : Nat) {n : Node} (here : sound n frames) :
    AgreeIn frames (node env bound n) (watched env calm alarm bound n) := by
  induction bound generalizing n frames with
  | zero =>
    intro s start
    rw [watched, guarded, start, if_pos (calms n frames here)]
    exact exhaust_agrees s start
  | succ bound ih =>
    intro s start
    rw [watched, guarded, start, if_pos (calms n frames here)]
    exact step_agrees (fun m inner next => ih (carries n frames m inner here next)) s start

end Render

namespace Environment

/-- The output of a template whose nodes are rendered by a walk. -/
def renderWith (env : Environment) (walk : Render.Walk) (t : Template) (data : Value) :
    Except Halt String :=
  let action := Render.mapError (Error.inTemplate t.name) (Render.template env walk t)
  match action { scopes := Scopes.ofData data } with
  | (.ok (), s) => .ok s.output
  | (.error halt, _) => .error halt

theorem render_eq_renderWith (env : Environment) (bound : Nat) (t : Template) (data : Value) :
    env.render bound t data = env.renderWith (Render.node env bound) t data := rfl

/-- The output under a watch is the output without it, if all that may be rendered first is sound. -/
theorem renderWith_watched {env : Environment} {calm : Node → List Frame → Bool} {alarm : Render.Walk}
    {sound : Node → List Frame → Prop} (calms : ∀ n frames, sound n frames → calm n frames)
    (carries : ∀ n frames m inner, sound n frames → Render.Next env n frames m inner → sound m inner)
    {t : Template} (starts : ∀ scopes depth chain, env.resolveChain scopes depth t = .ok chain →
      ∀ m ∈ (chain.getLastD t).root, sound m [⟨chain, []⟩]) (bound : Nat) (data : Value) :
    env.renderWith (Render.watched env calm alarm bound) t data = env.render bound t data := by
  have whole : Render.AgreeIn [] (Render.template env (Render.node env bound) t)
      (Render.template env (Render.watched env calm alarm bound) t) :=
    Render.template_agrees fun scopes depth chain resolved m member =>
      Render.watched_agrees calms carries bound (starts scopes depth chain resolved m member)
  have same := (Render.mapError_agrees (Error.inTemplate t.name) whole
    { scopes := Scopes.ofData data } rfl).1
  rw [render_eq_renderWith, renderWith, same, renderWith]

end Environment

end TextTemplate
