import TextTemplate.Proofs.ChainResolution
import TextTemplate.Proofs.RenderBound

/-! Inheritance is expansion. Where undefined lookups are tolerated, a template that extends others renders
like the expanded tree of its last ancestor, in which no block and no inherited content is left:
the one succeeds where the other does, with the same text. At each moment the stateful
render stands at the place whose expansion the other one walks. -/
namespace TextTemplate

namespace Render

/-- Two actions succeed alike in two states: where one gives a value the other gives it too, with the same
text. Nothing is said about how they fail. -/
structure Alike {α : Type} (x y : Render α) (s t : RenderState) : Prop where
  left : Tidy x
  right : Tidy y
  succeed : ∀ a text, x.effect s = ⟨.ok a, text⟩ ↔ y.effect t = ⟨.ok a, text⟩

/-- No stop counts. -/
def noHalt (_ : Halt) : Prop := False

namespace Alike

variable {α β : Type} {x y z : Render α} {s t u : RenderState}

theorem refl (tidy : Tidy x) (s : RenderState) : Alike x x s s := ⟨tidy, tidy, fun _ _ => Iff.rfl⟩

theorem symm (alike : Alike x y s t) : Alike y x t s :=
  ⟨alike.right, alike.left, fun a text => (alike.succeed a text).symm⟩

theorem trans (first : Alike x y s t) (second : Alike y z t u) : Alike x z s u :=
  ⟨first.left, second.right, fun a text => (first.succeed a text).trans (second.succeed a text)⟩

theorem of_effect (left : Tidy x) (right : Tidy y) (same : x.effect s = y.effect t) :
    Alike x y s t :=
  ⟨left, right, fun a text => by rw [same]⟩

theorem carries (alike : Alike x y s t) : Carries (.eventually noHalt) x (fun _ => y) s t where
  tidy := alike.left
  family_tidy _ := alike.right
  compared counts := ⟨0, fun _ _ => by
    cases ended : x.effect s with
    | mk result text =>
      cases result with
      | ok a => exact (alike.succeed a text).mp ended
      | error halt => exact (counts halt (by rw [ended])).elim⟩

theorem of_carries (forth : Carries (.eventually noHalt) x (fun _ => y) s t)
    (back : Carries (.eventually noHalt) y (fun _ => x) t s) : Alike x y s t := by
  refine ⟨forth.tidy, back.tidy, fun a text => ⟨fun ended => ?_, fun ended => ?_⟩⟩
  · obtain ⟨bound, same⟩ := forth.carry fun halt stopped => by simp [ended] at stopped
    exact (same bound (Nat.le_refl bound)).trans ended
  · obtain ⟨bound, same⟩ := back.carry fun halt stopped => by simp [ended] at stopped
    exact (same bound (Nat.le_refl bound)).trans ended

theorem bind {f g : α → Render β} (first : Alike x y s t) (next : ∀ a, Alike (f a) (g a) s t) :
    Alike (Render.bind x f) (Render.bind y g) s t :=
  of_carries (bind_carries first.carries fun a => (next a).carries)
    (bind_carries first.symm.carries fun a => (next a).symm.carries)

theorem capture {x y : Render Unit} (alike : Alike x y s t) :
    Alike (Render.capture x) (Render.capture y) s t :=
  of_carries (capture_carries alike.carries) (capture_carries alike.symm.carries)

/-- How errors are worded does not matter. -/
theorem mapError (tidy : Tidy x) (wrap : Error → Error) (s : RenderState) :
    Alike (Render.mapError wrap x) x s s := by
  refine ⟨(mapError_acts wrap tidy).tidy, tidy, fun a text => ?_⟩
  rw [mapError_effect wrap tidy]
  cases ended : (x.effect s).result with
  | ok b => simp only [Effect.mapError, ended]
  | error halt =>
    cases halt <;> simp only [Effect.mapError, ended]
    constructor <;> intro same
    · cases same
    · simp [same] at ended

/-- To collect text aside and to write it is to write it at once. -/
theorem written {x : Render Unit} (tidy : Tidy x) (s : RenderState) :
    Alike (Render.bind (Render.capture x) write) x s s := by
  refine ⟨bind_tidy (capture_acts tidy).tidy fun text => (write_acts text).tidy, tidy,
    fun a text => ?_⟩
  rw [bind_effect (capture_acts tidy).tidy fun text _ => (write_acts text).tidy,
    capture_effect tidy]
  simp only [(write_acts _).effect_eq]
  cases ended : x.effect s with
  | mk result written =>
    cases result with
    | ok b => simp only [Effect.captured, Except.map, Effect.andThen_pure]
    | error halt =>
      constructor <;> intro same
      · cases same
      · cases same

end Alike

theorem bind_assoc {α β γ : Type} (x : Render α) (f : α → Render β) (g : β → Render γ) :
    Render.bind (Render.bind x f) g = Render.bind x fun a => Render.bind (f a) g := by
  funext s
  simp only [Render.bind]
  cases x s with
  | mk result after => cases result <;> rfl

theorem nodes_append (walk : Walk) (first second : List Node) :
    nodes walk (first ++ second) = Render.bind (nodes walk first) fun _ => nodes walk second := by
  induction first with
  | nil => rfl
  | cons n rest ih =>
    have split : nodes walk (n :: rest ++ second) =
        Render.bind (walk n) fun _ => nodes walk (rest ++ second) := rfl
    rw [split, ih]
    exact (bind_assoc (walk n) (fun _ => nodes walk rest) fun _ => nodes walk second).symm

theorem nodes_single {walk : Walk} (tidy : ∀ n, Tidy (walk n)) (n : Node) (s : RenderState) :
    Alike (walk n) (nodes walk [n]) s s := by
  refine .of_effect (tidy n) (nodes_tidy tidy [n]) ?_
  have joined := bind_effect (f := fun _ => (Render.pure () : Render Unit)) (s := s) (tidy n)
    fun _ _ => (pure_acts ()).tidy
  refine Eq.trans ?_ joined.symm
  simp only [(pure_acts ()).effect_eq]
  cases ended : (walk n).effect s with
  | mk result text => cases result <;> simp [Effect.andThen]

section Expansion

variable {env : Environment} {defs : Overrides} {s t : RenderState}

/-- Without a bound a node is rendered by the nodes inside it. -/
theorem unbounded_alike (env : Environment) (n : Node) (s : RenderState) :
    Alike (unbounded env n) (step env (unbounded env) n) s s := by
  refine ⟨unbounded_tidy env n, step_tidy env (unbounded_tidy env) n, fun a text => ?_⟩
  constructor <;> intro ended
  · rw [step_of_unbounded (by simp [ended]), ended]
  · rw [unbounded_of_step (by simp [ended]), ended]

/-- A node of the expansion is walked as it is. -/
theorem walked_alike {x : Render Unit} {n : Node} (alike : Alike x (step env (unbounded env) n) s t) :
    Alike x (nodes (unbounded env) [n]) s t :=
  (alike.trans (unbounded_alike env n t).symm).trans (nodes_single (unbounded_tidy env) n t)

/-- A definition is rendered like its nodes inside the block. -/
theorem definition_alike {name : String} {level : Nat} {d : Definition} {tree : List Node}
    (alike : Alike (nodes (unbounded env) d.body) (nodes (unbounded env) tree)
      (mapActive (⟨name, level⟩ :: ·) s) t) :
    Alike (definition (unbounded env) name level d) (nodes (unbounded env) tree) s t := by
  have tidy := unbounded_tidy env
  have entered := Alike.mapError (nodes_tidy tidy d.body) (Error.inTemplate d.template)
    (mapActive (⟨name, level⟩ :: ·) s)
  have same : (definition (unbounded env) name level d).effect s =
      (mapError (Error.inTemplate d.template) (nodes (unbounded env) d.body)).effect
        (mapActive (⟨name, level⟩ :: ·) s) := by
    rw [definition_effect tidy, mapError_effect _ (nodes_tidy tidy d.body)]
  have within := Alike.of_effect (definition_tidy tidy name level d) entered.left same
  exact (within.trans entered).trans alike

theorem each_alike {walk : Walk} (tidy : ∀ n, Tidy (walk n)) {f : Node → Option (List Node)}
    {body tree : List Node} (expanded : Overrides.expandEach f body = some tree)
    (each : ∀ n part, f n = some part → Alike (walk n) (nodes walk part) s t) :
    Alike (nodes walk body) (nodes walk tree) s t := by
  induction body generalizing tree with
  | nil =>
    cases expanded
    exact .of_effect (nodes_tidy tidy []) (nodes_tidy tidy []) rfl
  | cons n rest ih =>
    obtain ⟨first, others, replaced, restDone, rfl⟩ := Overrides.expandEach_cons.mp expanded
    rw [nodes_append]
    exact Alike.bind (each n first replaced) fun _ => ih restDone

/-- A node that is neither a block nor inherited content is like a node of its shape if the nodes directly
inside them are alike. -/
theorem plain_alike {n n' : Node} (plain : n.isPlain) (plain' : n'.isPlain)
    (deep : t.depth = s.depth) (scopes : t.scopes = s.scopes)
    (matched : Node.Matches (fun body body' =>
      Alike (nodes (unbounded env) body) (nodes (unbounded env) body') s t ∧
        ∀ scope, Alike (nodes (unbounded env) body) (nodes (unbounded env) body') (s.push scope)
          (t.push scope)) n n') :
    Alike (step env (unbounded env) n) (step env (unbounded env) n') s t := by
  have accord : Accord noHalt env env Eq Eq := .same (fun _ _ => id) env fun _ _ => id
  have walks : ∀ {s t}, SameTop s t → ∀ n,
      Carries (.eventually noHalt) (unbounded env n) (fun _ => unbounded env n) s t := fun same n =>
    (unbounded_same env same n).fewer fun _ => False.elim
  have templates := templates_accord accord walks deep.symm scopes.symm
  have templates' := templates_accord accord walks deep scopes
  have agree := accord.toAgreement
  refine .of_carries (step_carries agree scopes.symm plain (matched.imp fun _ _ held => ?_) templates)
    (step_carries agree scopes plain' (matched.flip.imp fun _ _ held => ?_) templates')
  · exact ⟨held.1.carries, fun scope => (held.2 scope).carries⟩
  · exact ⟨held.1.symm.carries, fun scope => (held.2 scope).symm.carries⟩

/-- Inherited content is the text of its expansion, collected aside. -/
theorem inherited_alike (lenient : env.options.strictUndefined = false)
    {place : Option ActiveBlock} {f : Option ActiveBlock → List Node → Option (List Node)}
    {tree : List Node} (stands : StandsAt defs place s)
    (replaced : defs.expandSuper f place = some tree) (span : Span)
    (next : ∀ b d, place = some b → defs.bodyAt b.next = some d.body →
      (s.definitions b.name)[b.level + 1]? = some d → f (some b.next) d.body = some tree →
      Alike (definition (unbounded env) b.name (b.level + 1) d) (nodes (unbounded env) tree) s t) :
    Alike (inherited env (unbounded env) span) (capture (nodes (unbounded env) tree)) s t := by
  have tidy := unbounded_tidy env
  have whole := inherited_tidy env tidy span
  have effect := inherited_effect env tidy span s
  have nothing : tree = [] → (inherited env (unbounded env) span).effect s = ⟨.ok "", ""⟩ →
      Alike (inherited env (unbounded env) span) (capture (nodes (unbounded env) tree)) s t := by
    intro empty same
    subst empty
    refine .of_effect whole (capture_acts (nodes_tidy tidy [])).tidy (same.trans ?_)
    rw [capture_effect (nodes_tidy tidy [])]
    rfl
  cases place with
  | none =>
    simp only [stands.place, lenient] at effect
    exact nothing (Option.some.inj replaced).symm effect
  | some b =>
    simp only [stands.place] at effect
    cases found : (s.definitions b.name)[b.level + 1]? with
    | none =>
      have missing : defs.bodyAt b.next = none := by
        simp [Overrides.bodyAt, ActiveBlock.next, ← stands.definitions, found]
      simp only [found] at effect
      simp only [Overrides.expandSuper, missing] at replaced
      exact nothing (Option.some.inj replaced).symm effect
    | some d =>
      have defined : defs.bodyAt b.next = some d.body := by
        simp [Overrides.bodyAt, ActiveBlock.next, ← stands.definitions, found]
      simp only [found, ← capture_effect (definition_tidy tidy b.name (b.level + 1) d)] at effect
      simp only [Overrides.expandSuper, defined] at replaced
      have collected := (capture_acts (definition_tidy tidy b.name (b.level + 1) d)).tidy
      have less := next b d rfl defined found replaced
      exact (Alike.of_effect whole collected effect).trans less.capture

/-- An output of inherited content is like its expansion, which stands in a tag with the filters of the
output if it has some. -/
theorem super_alike {p : Pipeline} {tree : List Node} (inherits : p.isSuper)
    (scopes : t.scopes = s.scopes)
    (alike : Alike (inherited env (unbounded env) p.span) (capture (nodes (unbounded env) tree)) s t) :
    Alike (output env (unbounded env) p) (nodes (unbounded env) (Overrides.refilter p tree)) s t := by
  have tidy := unbounded_tidy env
  have agree : Agreement noHalt env env Eq := .same env fun _ _ => id
  have plainly : ∀ text, Alike (write text) (write text) s t := fun text =>
    .of_effect (write_acts text).tidy (write_acts text).tidy (by simp only [(write_acts text).effect_eq])
  have filtered : ∀ text, Alike (writeFiltered env p.span p.filters text)
      (writeFiltered env p.span p.filters text) s t := fun text =>
    .of_carries (writeFiltered_carries agree scopes.symm p.span p.filters text)
      (writeFiltered_carries agree scopes p.span p.filters text)
  simp only [output, inherits, if_true, Overrides.refilter]
  by_cases bare : p.filters.isEmpty
  · simp only [bare, if_true]
    exact (alike.bind plainly).trans (.written (nodes_tidy tidy tree) t)
  · simp only [bare]
    have wrapped := Alike.mapError (custom_tidy env tidy p.span tree (.filter p.filters))
      (Error.orSpan p.span) t
    exact walked_alike ((alike.bind filtered).trans wrapped.symm)

/-- A render at a place of a chain is like the walk of the expansion at this place, at the same depth and
in the same scopes. -/
theorem expansion_alike (lenient : env.options.strictUndefined = false) (depth : Nat) :
    ∀ {place body tree s t}, defs.expand depth place body = some tree → StandsAt defs place s →
      t.depth = s.depth → t.scopes = s.scopes →
      Alike (nodes (unbounded env) body) (nodes (unbounded env) tree) s t := by
  have tidy := unbounded_tidy env
  induction depth with
  | zero => exact fun expanded => nomatch expanded
  | succ depth ih =>
    intro place body tree s t expanded stands deep scopes
    refine each_alike tidy expanded fun n part replaced => (unbounded_alike env n s).trans ?_
    -- The definition that a place leads to is rendered inside the block that it defines.
    have defined : ∀ name level d part, (s.definitions name)[level]? = some d →
        (∀ body, defs.bodyAt ⟨name, level⟩ = some body →
          defs.expand depth (some ⟨name, level⟩) body = some part) →
        Alike (definition (unbounded env) name level d) (nodes (unbounded env) part) s t := by
      intro name level d part found finite
      rw [stands.definitions] at found
      refine definition_alike (ih (finite d.body (by simp [Overrides.bodyAt, found]))
        (stands.inBlock _) ?_ ?_)
      · rw [StandsAt.inBlock_depth, deep]
      · rw [StandsAt.inBlock_scopes, scopes]
    rcases n.plain_cases with plain | ⟨span, source, p, inherits, rfl⟩ | ⟨span, name, body, rfl⟩
    · rw [Overrides.expandNode_plain plain] at replaced
      obtain ⟨n', mapped, rfl⟩ := Option.map_eq_some_iff.mp replaced
      have matched := mapBodies_eq_some_iff.mp mapped
      refine walked_alike (plain_alike plain (matched.plain plain) deep scopes
        (matched.imp fun body body' done => ?_))
      constructor
      · exact ih done stands deep scopes
      · intro scope
        refine ih done (stands.push scope) deep ?_
        simp only [RenderState.push, scopes]
    · rw [Overrides.expandNode_super inherits] at replaced
      obtain ⟨tree, done, rfl⟩ := Option.map_eq_some_iff.mp replaced
      refine super_alike inherits scopes (inherited_alike lenient stands done p.span
        fun b d _ known found finite => defined b.name (b.level + 1) d tree found fun body same => ?_)
      obtain rfl : d.body = body := Option.some.inj (known.symm.trans same)
      exact finite
    · simp only [Overrides.expandNode] at replaced
      have effect := block_effect (unbounded env) name body s
      cases known : s.definitions name with
      | nil =>
        have unknown : defs.bodyAt ⟨name, 0⟩ = none := by
          simp [Overrides.bodyAt, ← stands.definitions, known]
        simp only [unknown] at replaced
        simp only [known] at effect
        have own := Alike.of_effect (block_tidy tidy name body) (nodes_tidy tidy body) effect
        exact own.trans (ih replaced stands deep scopes)
      | cons d less =>
        simp only [known] at effect
        have outermost := Alike.of_effect (block_tidy tidy name body) (definition_tidy tidy name 0 d)
          effect
        refine outermost.trans (defined name 0 d part (by simp [known]) fun inner found => ?_)
        simpa only [found] using replaced

/-- A template is rendered like the expansion of the tree of its last ancestor, one level deeper. -/
theorem template_alike (lenient : env.options.strictUndefined = false) {t : Template}
    (room : s.depth < env.options.maxDepth) {chain : List Template}
    (resolved : env.resolveChain s.scopes (s.depth + 1) t = .ok chain) {depth : Nat}
    {tree : List Node} (expanded : Overrides.expand (Frame.definitions ⟨chain, []⟩) depth none
      (chain.getLastD t).root = some tree) :
    Alike (template env (unbounded env) t) (deeper (nodes (unbounded env) tree)) s s := by
  have tidy := unbounded_tidy env
  have effect := template_effect env tidy t s
  simp only [if_neg (Nat.not_le.mpr room), resolved,
    ← mapError_effect _ (nodes_tidy tidy _)] at effect
  have entered := Alike.mapError (nodes_tidy tidy (chain.getLastD t).root)
    (Error.inTemplate (chain.getLastD t).name) (s.deeper.entered chain)
  have walked := expansion_alike lenient depth expanded (StandsAt.entered s.deeper chain)
    (t := s.deeper) rfl rfl
  have opened := Alike.of_effect (template_tidy env tidy t) entered.left effect
  have below := deeper_acts (nodes_tidy tidy tree)
  have left := Alike.of_effect below.tidy walked.right (below.effect_eq s)
  exact ((opened.trans entered).trans walked).trans left.symm

end Expansion

/-- What succeeds within some bound is what succeeds without one. -/
theorem succeeds_iff {x : Render Unit} {family : Nat → Render Unit} {s s' : RenderState}
    (approach : Carries (.eventually (· ≠ .exhausted)) x family s s)
    (within : ∀ k, Carries (.eventually (· ≠ .exhausted)) (family k) (fun _ => x) s s) :
    (∃ bound, family bound s = (.ok (), s')) ↔ x s = (.ok (), s') := by
  constructor
  · rintro ⟨bound, ended⟩
    rw [(approach.family_tidy bound).run] at ended
    obtain ⟨start, same⟩ := (within bound).carry fun halt stopped => by
      rw [stopped] at ended
      cases ended
    rw [approach.tidy.run, same start (Nat.le_refl start), ended]
  · intro ended
    rw [approach.tidy.run] at ended
    obtain ⟨bound, same⟩ := approach.carry fun halt stopped => by
      rw [stopped] at ended
      cases ended
    exact ⟨bound, by rw [(approach.family_tidy bound).run, same bound (Nat.le_refl bound), ended]⟩

theorem Alike.run {x y : Render Unit} {s s' : RenderState} (alike : Alike x y s s) :
    x s = (.ok (), s') ↔ y s = (.ok (), s') := by
  rw [alike.left.run, alike.right.run]
  constructor
  · intro ended
    obtain ⟨result, rfl⟩ := Prod.mk.inj ended
    have same := (alike.succeed () (x.effect s).text).mp (by rw [← result])
    rw [same]
  · intro ended
    obtain ⟨result, rfl⟩ := Prod.mk.inj ended
    have same := (alike.succeed () (y.effect s).text).mpr (by rw [← result])
    rw [same]

end Render

/-- Inheritance is static expansion. If the expansion of the tree of the last ancestor is finite, no block
and no inherited content is left in it, what the templates of the chain have outside of their
blocks plays no part, and the template gives a text, in whatever state, exactly when the walk of the
expansion one level deeper gives it. -/
theorem inheritance_expands (env : Environment) (lenient : env.options.strictUndefined = false)
    (t : Template) (s : RenderState) (room : s.depth < env.options.maxDepth) (chain : List Template)
    (resolved : env.resolveChain s.scopes (s.depth + 1) t = .ok chain) (depth : Nat)
    (tree : List Node) (expanded : Overrides.expand (Frame.definitions ⟨chain, []⟩) depth none
      (chain.getLastD t).root = some tree) :
    (∀ n ∈ tree, ∀ m : Node, m.Inside n → m.isPlain) ∧
    (∀ other : Template → List Node,
      Overrides.expand (Frame.definitions ⟨chain.map fun u => { u with root := other u }, []⟩) depth
        none (chain.getLastD t).root = some tree) ∧
    ∀ s', (∃ bound, Render.template env (Render.node env bound) t s = (.ok (), s')) ↔
      ∃ bound, Render.deeper (Render.nodes (Render.node env bound) tree) s = (.ok (), s') := by
  refine ⟨Overrides.expand_plain expanded, fun other => ?_, fun s' => ?_⟩
  · rw [Frame.definitions_of_roots]
    exact expanded
  · have named : ∀ (name : String) (e : Failure), Halt.failed (e.map (Error.inTemplate name)) ≠ .exhausted →
        Halt.failed e ≠ .exhausted := fun _ _ _ => nofun
    rw [Render.succeeds_iff (Render.template_carries named (Render.unbounded_carries env) rfl rfl t)
        fun k => Render.template_carries named (Render.bounded_carries env k) rfl rfl t,
      Render.succeeds_iff
        (Render.deeper_carries (Render.body_carries (Render.unbounded_carries env) (.refl _) tree))
        fun k => Render.deeper_carries
          (Render.body_carries (Render.bounded_carries env k) (.refl _) tree)]
    exact (Render.template_alike lenient room resolved expanded).run

theorem inheritance_expands_extending : ∃ child chain tree,
    Environment.extending.load "child" = .ok child ∧ chain.length = 2 ∧
    Environment.extending.resolveChain ⟨[], .empty⟩ 1 child = .ok chain ∧
    Overrides.expand (Frame.definitions ⟨chain, []⟩) 4 none (chain.getLastD child).root = some tree ∧
    ∀ s', (∃ bound, Render.template Environment.extending (Render.node .extending bound) child
        { scopes := ⟨[], .empty⟩ } = (.ok (), s')) ↔
      ∃ bound, Render.deeper (Render.nodes (Render.node .extending bound) tree)
        { scopes := ⟨[], .empty⟩ } = (.ok (), s') := by
  obtain ⟨base, child, tree, -, -, child_read, -, -, resolved, expanded, -⟩ := extending_chain
  exact ⟨child, [child, base], tree, child_read, rfl, resolved, expanded,
    (inheritance_expands .extending rfl child { scopes := ⟨[], .empty⟩ } (by decide) [child, base]
      resolved 4 tree expanded).2.2⟩

end TextTemplate
