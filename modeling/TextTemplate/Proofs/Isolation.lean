import TextTemplate.Proofs.RenderComparison

/-! Nested renders. A template that is rendered inside another one starts with a frame of its own, and of the
depth only the room matters that is left below the limit. So a render at some depth succeeds
exactly as one on its own does whose limit is lowered by that depth, and nothing that surrounds
an inclusion but its scopes reaches the included template; with `only`, not even they do. -/
namespace TextTemplate

/-- The setting with another limit on depth, all else equal. -/
def Environment.withMaxDepth (env : Environment) (limit : Nat) : Environment :=
  { env with options := { env.options with maxDepth := limit } }

/-- The errors about the limit on depth: a template is entered too deep, or a chain grows too long. -/
inductive Error.OverLimit : Error → Prop
  | entered (limit : Nat) (place : Place) : OverLimit (.raised (.depthExceeded limit) place)
  | linked (limit : Nat) (place : Place) : OverLimit (.raised (.chainTooLong limit) place)

/-- A stop for another reason than the limit on depth. -/
def Halt.WithinLimit (halt : Halt) : Prop := ∀ e, halt = .failed (.reported e) → ¬ e.OverLimit

theorem Error.OverLimit.mapPlace {e : Error} (beyond : e.OverLimit) (f : Place → Place) :
    (e.mapPlace f).OverLimit := by
  cases beyond with
  | entered limit place => exact .entered limit (f place)
  | linked limit place => exact .linked limit (f place)

/-- Where an error happened has no part in whether it is about the limit. -/
theorem Halt.WithinLimit.of_mapPlace {f : Place → Place} {failure : Failure}
    (within : Halt.WithinLimit (.failed (failure.map (Error.mapPlace f)))) :
    Halt.WithinLimit (.failed failure) := by
  rintro _ ⟨⟩ beyond
  exact within _ rfl (beyond.mapPlace f)

namespace Environment

variable (env : Environment) (limit : Nat) (scopes : Scopes) (span : Span)

/-! Nothing but entering templates and following chains looks at the limit. -/

theorem evalExpr_limit (tolerant : Bool) (e : Expr) :
    Kept Halt.WithinLimit (env.evalExpr scopes span tolerant e)
      ((env.withMaxDepth limit).evalExpr scopes span tolerant e) := by
  cases e <;> exact .refl _

theorem limit_agrees : Agreement Halt.WithinLimit env (env.withMaxDepth limit) Eq where
  pushed same scope := by rw [same]
  isolated base := rfl
  piped := by
    rintro scopes _ rfl tolerant p
    exact evalPipelineWith_kept (by rfl) (env.evalExpr_limit limit scopes _ _ _) fun _ _ arg _ =>
      env.evalExpr_limit limit scopes _ _ arg
  filtered := by
    rintro scopes _ rfl span calls value
    exact applyFilters_kept (by rfl) (fun _ _ arg _ => env.evalExpr_limit limit scopes _ _ arg) value
  loaded purpose name span := .refl _
  written p text := rfl
  spanned span e := .of_mapPlace

/-- A depth leaves no more room below the limit of a setting than another depth below another limit. -/
def RoomAtMost (depth depth' : Nat) : Prop := env.options.maxDepth + depth' ≤ limit + depth

variable {env limit scopes} {depth depth' : Nat} (room : env.RoomAtMost limit depth depth')
include room

theorem follow_room (members : List Template) (parent : Parent) :
    Kept Halt.WithinLimit (env.follow scopes depth members parent)
      ((env.withMaxDepth limit).follow scopes depth' members parent) := by
  refine ((env.limit_agrees limit).templateName rfl parent.name).bind fun name => ?_
  by_cases repeated : members.any fun member => member.name = name
  · rw [if_pos repeated, if_pos repeated]
    exact .refl _
  · rw [if_neg repeated, if_neg repeated]
    by_cases long : env.options.maxDepth < depth + members.length
    · intro counts
      rw [if_pos long] at counts
      exact absurd (.linked _ _) (counts _ rfl _ rfl)
    · have short : ¬ (env.withMaxDepth limit).options.maxDepth < depth' + members.length := by
        simp only [RoomAtMost, withMaxDepth] at room ⊢
        omega
      rw [if_neg long, if_neg short]
      exact .refl _

/-- A chain that a depth leaves room for is found wherever there is at least as much room. -/
theorem opening_room (t : Template) :
    Kept Halt.WithinLimit (env.opening scopes depth t)
      ((env.withMaxDepth limit).opening scopes depth' t) := by
  by_cases full : env.options.maxDepth ≤ depth
  · intro counts
    rw [opening, if_pos full] at counts
    exact absurd (.entered _ _) (counts _ rfl _ rfl)
  · have free : ¬ (env.withMaxDepth limit).options.maxDepth ≤ depth' := by
      simp only [RoomAtMost, withMaxDepth] at room ⊢
      omega
    have deeper : env.RoomAtMost limit (depth + 1) (depth' + 1) := by
      simp only [RoomAtMost] at room ⊢
      omega
    rw [opening, if_neg full, opening, if_neg free]
    exact ancestors_kept (fun _ _ => .of_mapPlace) (follow_room deeper) [] t

end Environment

/-- A setting is in accord with itself under another limit, at depths that leave at least as much room. -/
theorem Environment.room_accord (env : Environment) (limit : Nat) :
    Accord Halt.WithinLimit env (env.withMaxDepth limit) Eq (env.RoomAtMost limit) where
  toAgreement := env.limit_agrees limit
  deeper room := by
    simp only [RoomAtMost] at room ⊢
    omega
  opened := by
    rintro scopes _ depth depth' rfl room t
    exact opening_room room t
  orphaned span := .refl _
  named name e := .of_mapPlace

/-- The blocks of frames that are being rendered, the innermost first, each with the number of frames that
are around its own. -/
def Frame.activeBlocks : List Frame → List (Nat × ActiveBlock)
  | [] => []
  | frame :: outer => frame.active.map (outer.length, ·) ++ activeBlocks outer

theorem Frame.activeBlocks_lt {frames : List Frame} {entry : Nat × ActiveBlock}
    (active : entry ∈ activeBlocks frames) : entry.1 < frames.length := by
  induction frames with
  | nil => cases active
  | cons frame outer ih =>
    rw [List.length_cons]
    rcases List.mem_append.mp active with own | further
    · obtain ⟨b, -, rfl⟩ := List.mem_map.mp own
      exact Nat.lt_succ_self outer.length
    · have := ih further
      omega

/-- A block that is entered in the innermost frame is the innermost one of all. -/
theorem RenderState.activeBlocks_enter {s : RenderState} {frame : Frame} {outer : List Frame}
    (inside : s.frames = frame :: outer) (b : ActiveBlock) :
    Frame.activeBlocks (Render.mapActive (b :: ·) s).frames =
      (outer.length, b) :: Frame.activeBlocks s.frames := by
  simp [Render.mapActive, Frame.activeBlocks, inside]

namespace Render

variable {α : Type} {x : Render α} {frame : Frame} {outer : List Frame} {s : RenderState}

/-- Entering a block adds it to the active ones, with the number of frames around the innermost frame, and
leaving it takes off the innermost one of those that are active then, which is the same. -/
theorem inBlock_activeBlocks (tidy : Tidy x) (b : ActiveBlock) (inside : s.frames = frame :: outer) :
    let entered := mapActive (b :: ·) s
    let left := (x entered).2
    let after := (inBlock b x s).2
    Frame.activeBlocks entered.frames = (outer.length, b) :: Frame.activeBlocks s.frames ∧
      Frame.activeBlocks left.frames = Frame.activeBlocks entered.frames ∧
      Frame.activeBlocks after.frames = (Frame.activeBlocks left.frames).tail ∧
      after.frames.map Frame.chain = left.frames.map Frame.chain := by
  intro entered left after
  have same : left.frames = entered.frames := by
    simp only [left, tidy.run, RenderState.wrote]
  have frames : entered.frames = ⟨frame.chain, b :: frame.active⟩ :: outer := by
    simp only [entered, mapActive, inside]
  have leaves : after.frames = frame :: outer := by
    show (mapActive List.tail left).frames = _
    simp only [mapActive, same, frames, List.tail_cons]
  refine ⟨RenderState.activeBlocks_enter inside b, by rw [same], ?_, ?_⟩
  · rw [same, RenderState.activeBlocks_enter inside, leaves, inside, List.tail_cons]
  · simp [same, frames, leaves]

/-- Entering a frame leaves the active blocks as they are. When the frame is left, no block is active in
it, so that with the frame none is lost. -/
theorem inFrame_activeBlocks (tidy : Tidy x) (chain : List Template) (s : RenderState) :
    let entered := s.entered chain
    let left := (x entered).2
    let after := (inFrame chain x s).2
    Frame.activeBlocks entered.frames = Frame.activeBlocks s.frames ∧
      left.frames = ⟨chain, []⟩ :: s.frames ∧ after.frames = left.frames.tail ∧
      Frame.activeBlocks after.frames = Frame.activeBlocks left.frames := by
  intro entered left after
  have same : left.frames = ⟨chain, []⟩ :: s.frames := by
    simp only [left, tidy.run, RenderState.wrote]
    rfl
  have leaves : after.frames = left.frames.tail := rfl
  refine ⟨by simp [entered, RenderState.entered, Frame.activeBlocks], same, leaves, ?_⟩
  rw [leaves, same]
  simp [Frame.activeBlocks]

end Render

/-- The block that `super` continues is the innermost of all active blocks, provided that it belongs to the
innermost frame. -/
theorem RenderState.place_eq (s : RenderState) :
    s.place = (Frame.activeBlocks s.frames).head?.bind fun entry =>
      if entry.1 + 1 = s.frames.length then some entry.2 else none := by
  unfold place
  cases s.frames with
  | nil => rfl
  | cons frame outer =>
    obtain ⟨chain, active⟩ := frame
    cases active with
    | cons b passed => simp [Frame.activeBlocks]
    | nil =>
      -- The innermost active block belongs to a frame further out, if there is one at all.
      simp only [Frame.activeBlocks, List.map_nil, List.nil_append, List.head?_nil, List.length_cons]
      cases further : (Frame.activeBlocks outer).head? with
      | none => rfl
      | some entry =>
        have := Frame.activeBlocks_lt (List.mem_of_head? further)
        rw [Option.bind_some, if_neg (by omega)]

namespace Effect

variable {α β : Type} {value : Except Failure α} {next : α → Effect β} {b : β} {text : String}

/-- What follows a value has an effect only if there is a value. -/
theorem ofExcept_andThen_ok : (ofExcept value).andThen next = ⟨.ok b, text⟩ ↔
    ∃ a, value = .ok a ∧ next a = ⟨.ok b, text⟩ := by
  cases value with
  | error e => simp [ofExcept, andThen]
  | ok a => simp [ofExcept]

end Effect

namespace Render

variable {env : Environment} {bound limit : Nat} {t : Template} {s s' : RenderState} {text : String}

/-- An action succeeds with a text in a state if that is its effect there. -/
theorem Tidy.succeeds_iff {α : Type} {x : Render α} (tidy : Tidy x) {a : α} :
    x s = (.ok a, s.wrote text) ↔ x.effect s = ⟨.ok a, text⟩ := by
  rw [tidy.run]
  generalize x.effect s = e
  obtain ⟨result, written⟩ := e
  simp [RenderState.wrote]

/-- A template is rendered alike wherever there is at least as much room, unless the limit stops it. -/
theorem template_room (s s' : RenderState) (room : env.RoomAtMost limit s.depth s'.depth)
    (scopes : s.scopes = s'.scopes)
    (within : ∀ halt, ((template env (node env bound) t).effect s).result = .error halt →
      halt.WithinLimit) :
    (template (env.withMaxDepth limit) (node (env.withMaxDepth limit) bound) t).effect s' =
      (template env (node env bound) t).effect s := by
  have accord := env.room_accord limit
  have carries : Carries (.eventually Halt.WithinLimit) (template env (node env bound) t)
      (fun _ => template (env.withMaxDepth limit) (node (env.withMaxDepth limit) bound) t) s s' :=
    template_accords accord (node_accords accord bound) room scopes t
  obtain ⟨enough, same⟩ := carries.carry within
  exact same enough (Nat.le_refl enough)

/-- A template that is rendered with success is so wherever there is at least as much room. -/
theorem template_room_ok (s s' : RenderState) (room : env.RoomAtMost limit s.depth s'.depth)
    (scopes : s.scopes = s'.scopes)
    (rendered : (template env (node env bound) t).effect s = ⟨.ok (), text⟩) :
    (template (env.withMaxDepth limit) (node (env.withMaxDepth limit) bound) t).effect s' =
      ⟨.ok (), text⟩ := by
  rw [template_room s s' room scopes fun halt stopped => by simp [rendered] at stopped, rendered]

/-- Where a template is rendered, only the scopes and the room below the limit matter. -/
theorem template_alone (s : RenderState) :
    (template env (node env bound) t).effect s = ⟨.ok (), text⟩ ↔
      (template (env.withMaxDepth (env.options.maxDepth - s.depth))
        (node (env.withMaxDepth (env.options.maxDepth - s.depth)) bound) t).effect
          { scopes := s.scopes } = ⟨.ok (), text⟩ := by
  constructor
  · intro rendered
    refine template_room_ok s { scopes := s.scopes } ?_ rfl rendered
    simp only [Environment.RoomAtMost]
    omega
  · intro rendered
    by_cases deep : s.depth ≤ env.options.maxDepth
    · have room : (env.withMaxDepth (env.options.maxDepth - s.depth)).RoomAtMost
          env.options.maxDepth 0 s.depth := by
        simp only [Environment.RoomAtMost, Environment.withMaxDepth]
        omega
      have restored := template_room_ok { scopes := s.scopes } s room rfl rendered
      exact restored
    · -- No room is left in either setting.
      have none : env.options.maxDepth - s.depth = 0 := by omega
      rw [none, template_effect _ (node_tidy _ bound)] at rendered
      simp [Environment.withMaxDepth, Effect.ofExcept] at rendered

/-- An inclusion with `only` evaluates its header in the scopes around it, and renders the template with
nothing but what the header hands on. -/
theorem inclusion_isolated_effect (walk : Walk) (tidy : ∀ n, Tidy (walk n)) (span : Span)
    (name : Pipeline) (data : Option Pipeline) (s : RenderState) :
    (step env walk (.inclusion span ⟨name, data, .isolated⟩)).effect s =
      (Effect.ofExcept (env.evalTemplateName s.scopes name)).andThen fun target =>
        (Effect.ofExcept (handedOn env s.scopes data)).andThen fun members =>
          (Effect.ofExcept (env.loadFor .inclusion target span)).andThen fun t =>
            (template env walk t).effect { s with scopes := ⟨[], members⟩ } :=
  (bind_acts (eval_acts _) fun target => bind_acts (eval_acts _) fun members =>
    bind_acts (ofExcept_acts (env.loadFor .inclusion target span)) fun t =>
      isolated_acts members (template_tidy env tidy t)).effect_eq s

end Render

/-- A render gives a text if that is what its template writes from the start. -/
theorem Environment.render_ok_iff {env : Environment} {bound : Nat} {t : Template} {data : Value}
    {text : String} : env.render bound t data = .ok text ↔
      (Render.template env (Render.node env bound) t).effect { scopes := Scopes.ofData data } =
        ⟨.ok (), text⟩ := by
  rw [render_eq]
  generalize (Render.template env (Render.node env bound) t).effect { scopes := Scopes.ofData data } = e
  obtain ⟨result, written⟩ := e
  rcases result with (error | _) | _ <;> simp [Effect.mapError, Effect.captured, Except.map]

theorem Environment.renderNamed_ok_iff {env : Environment} {bound : Nat} {name : String} {data : Value}
    {text : String} : env.renderNamed bound name data = .ok text ↔
      ∃ t, env.load name = .ok t ∧ env.render bound t data = .ok text := by
  unfold renderNamed
  cases env.load name with
  | error e => simp
  | ok t => simp

/-- A nested render does not see what it is nested in, the scopes apart. At a given depth a template is
rendered with success exactly when it is by itself, under a limit that is lowered by the depth,
and then it writes the same. So an inclusion with `only` writes what the template gives by itself
for the data that it is handed. The active blocks stay where they are when a template is
entered, but none of them is one that `super` in it could continue, and its blocks are those of
its own chain. -/
theorem nested_alone (env : Environment) (bound : Nat) (s : RenderState) :
    let alone := env.withMaxDepth (env.options.maxDepth - s.depth)
    let start : RenderState := { scopes := s.scopes }
    (∀ t text,
      Render.template env (Render.node env bound) t s = (.ok (), s.wrote text) ↔
        Render.template alone (Render.node alone bound) t start = (.ok (), start.wrote text)) ∧
    (∀ span name data text,
      Render.node env (bound + 1) (.inclusion span ⟨name, data, .isolated⟩) s =
          (.ok (), s.wrote text) ↔
        ∃ target members, env.evalTemplateName s.scopes name = .ok target ∧
          Render.handedOn env s.scopes data = .ok members ∧
          alone.renderNamed bound target (.object members) = .ok text) ∧
    (s.place = (Frame.activeBlocks s.frames).head?.bind fun entry =>
      if entry.1 + 1 = s.frames.length then some entry.2 else none) ∧
    ∀ chain, Frame.activeBlocks (s.entered chain).frames = Frame.activeBlocks s.frames ∧
      (s.entered chain).place = none ∧
      ∀ name, (s.entered chain).definitions name = Frame.definitions ⟨chain, []⟩ name := by
  intro alone start
  have tidy := Render.node_tidy env bound
  refine ⟨fun t text => ?_, fun span name data text => ?_, s.place_eq,
    fun chain => ⟨rfl, rfl, fun name => rfl⟩⟩
  · have nested := Render.template_tidy env tidy t
    have own := Render.template_tidy alone (Render.node_tidy alone bound) t
    rw [nested.succeeds_iff, own.succeeds_iff]
    exact Render.template_alone s
  · rw [(Render.node_tidy env (bound + 1) _).succeeds_iff, Render.node,
      Render.inclusion_isolated_effect _ tidy]
    simp only [Effect.ofExcept_andThen_ok, Environment.loadFor_ok_iff,
      Environment.renderNamed_ok_iff, Environment.render_ok_iff]
    have each : ∀ target members, (∃ t, env.load target = .ok t ∧
        (Render.template env (Render.node env bound) t).effect { s with scopes := ⟨[], members⟩ } =
          ⟨.ok (), text⟩) ↔
        ∃ t, alone.load target = .ok t ∧ (Render.template alone (Render.node alone bound) t).effect
          { scopes := Scopes.ofData (.object members) } = ⟨.ok (), text⟩ := fun target members =>
      exists_congr fun t => and_congr Iff.rfl
        (Render.template_alone { s with scopes := ⟨[], members⟩ })
    simp only [each, exists_and_left]

end TextTemplate
