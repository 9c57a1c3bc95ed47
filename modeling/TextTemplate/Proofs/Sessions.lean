import TextTemplate.Proofs.RenderEffect

/-! Sessions: one state of a render that several steps share. A render leaves the state as it found it, the
text apart that it has added to the output, and this on every way out of it. So the steps of a
session do not see whether an earlier render succeeded, where it failed, or whether it took
place at all; only changes of the scopes between the renders reach the later ones. -/
namespace TextTemplate

/-- A state is another one again, further output apart. -/
structure RenderState.Restored (s after : RenderState) : Prop where
  depth : after.depth = s.depth
  frames : after.frames = s.frames
  scopes : after.scopes = s.scopes
  output : ∃ text, after.output = s.output ++ text

/-- Something to be rendered: a template with its chain and a frame of its own, nodes as they are, or
nodes that are collected aside as a text. -/
inductive Rendering where
  | template (t : Template)
  | nodes (body : List Node)
  | collect (body : List Node)

/-- Renders it. The value is the text that is collected aside, and empty otherwise. -/
def Rendering.act (env : Environment) (bound : Nat) : Rendering → Render String
  | template t => Render.bind (Render.template env (Render.node env bound) t) fun _ => Render.pure ""
  | nodes body => Render.bind (Render.nodes (Render.node env bound) body) fun _ => Render.pure ""
  | collect body => Render.capture (Render.nodes (Render.node env bound) body)

/-- A step of a session: a render, a scope that is added, or the innermost scope taken off. -/
inductive SessionStep where
  | render (r : Rendering)
  | push (scope : Members)
  | pop

/-- Does a step. -/
def SessionStep.act (env : Environment) (bound : Nat) : SessionStep → Render String
  | render r => r.act env bound
  | push scope => fun s => (.ok "", s.push scope)
  | pop => fun s => (.ok "", { s with scopes := s.scopes.pop.2 })

/-- The text that a later state of a render has in its output beyond that of an earlier one. -/
def RenderState.added (s after : RenderState) : String :=
  String.ofList (after.output.toList.drop s.output.toList.length)

/-- The account of a session: for each step how it ended and what it added to the output. A step that
fails does not end the session. -/
def session (env : Environment) (bound : Nat) :
    List SessionStep → RenderState → List (Except Halt String × String)
  | [], _ => []
  | step :: rest, s =>
    let (result, after) := step.act env bound s
    (result, s.added after) :: session env bound rest after

theorem Render.Tidy.restored {α : Type} {x : Render α} (tidy : Render.Tidy x) (s : RenderState) :
    s.Restored (x s).2 := by
  rw [tidy.run]
  exact ⟨rfl, rfl, rfl, (x.effect s).text, rfl⟩

variable (env : Environment) (bound : Nat)

theorem Rendering.act_tidy (r : Rendering) : Render.Tidy (r.act env bound) := by
  have walk := Render.node_tidy env bound
  have nothing : Render.Tidy (Render.pure "") := (Render.pure_acts "").tidy
  cases r with
  | template t => exact Render.bind_tidy (Render.template_tidy env walk t) fun _ => nothing
  | nodes body => exact Render.bind_tidy (Render.nodes_tidy walk body) fun _ => nothing
  | collect body => exact (Render.capture_acts (Render.nodes_tidy walk body)).tidy

/-- A render adds its text and hands the state on as it was. -/
theorem session_render (r : Rendering) (rest : List SessionStep) (s : RenderState) :
    session env bound (.render r :: rest) s =
      (((r.act env bound).effect s).result, ((r.act env bound).effect s).text) ::
        session env bound rest (s.wrote ((r.act env bound).effect s).text) := by
  have ran := (r.act_tidy env bound).run s
  simp [session, SessionStep.act, ran, RenderState.added, RenderState.wrote]

/-- A step that is no render changes the scopes and adds nothing. -/
theorem session_rescope {step : SessionStep} {change : Scopes → Scopes}
    (quiet : ∀ s, step.act env bound s = (.ok "", { s with scopes := change s.scopes }))
    (rest : List SessionStep) (s : RenderState) :
    session env bound (step :: rest) s =
      (.ok "", "") :: session env bound rest { s with scopes := change s.scopes } := by
  simp [session, quiet, RenderState.added]

/-- What has been written before a session has no part in its account. -/
theorem session_output (steps : List SessionStep) :
    ∀ (s : RenderState) (output : String),
      session env bound steps { s with output := output } = session env bound steps s := by
  induction steps with
  | nil => exact fun _ _ => rfl
  | cons step rest ih =>
    intro s output
    have rescoped : ∀ change : Scopes → Scopes,
        (∀ s, step.act env bound s = (.ok "", { s with scopes := change s.scopes })) →
        session env bound (step :: rest) { s with output := output } =
          session env bound (step :: rest) s := by
      intro change quiet
      rw [session_rescope env bound quiet, session_rescope env bound quiet]
      exact congrArg _ (ih { s with scopes := change s.scopes } output)
    cases step with
    | render r =>
      have same : (r.act env bound).effect { s with output := output } =
          (r.act env bound).effect s := rfl
      have left := ih s (output ++ ((r.act env bound).effect s).text)
      have right := ih s (s.output ++ ((r.act env bound).effect s).text)
      rw [session_render, session_render, same]
      exact congrArg _ (left.trans right.symm)
    | push scope => exact rescoped (Scopes.push · scope) fun _ => rfl
    | pop => exact rescoped (fun scopes => scopes.pop.2) fun _ => rfl

/-- Without one of its renders a session gives the same account, the entry of that render apart. -/
theorem session_without (r : Rendering) (later earlier : List SessionStep) :
    ∀ s, (session env bound (earlier ++ .render r :: later) s).eraseIdx earlier.length =
      session env bound (earlier ++ later) s := by
  induction earlier with
  | nil =>
    intro s
    rw [List.nil_append, session_render]
    exact session_output env bound later s _
  | cons first earlier ih =>
    intro s
    simp only [List.cons_append, session, List.length_cons, List.eraseIdx_cons_succ, ih]

/-- Every render leaves its surroundings as it found them, however it ends: the depth, the frames with the
active blocks in them and the scopes are those from before, and the output has only grown. So no
render has an influence on what a later step of its session comes to, whether it succeeds or
fails. -/
theorem render_restores (s : RenderState) :
    (∀ r : Rendering, s.Restored (r.act env bound s).2) ∧
    ∀ (earlier : List SessionStep) (r : Rendering) (later : List SessionStep),
      (session env bound (earlier ++ .render r :: later) s).eraseIdx earlier.length =
        session env bound (earlier ++ later) s := by
  constructor
  · intro r
    exact (r.act_tidy env bound).restored s
  · intro earlier r later
    exact session_without env bound r later earlier s

end TextTemplate
