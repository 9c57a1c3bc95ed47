import TextTemplate.Proofs.ChainResolution
import TextTemplate.Proofs.RenderBound
import TextTemplate.Proofs.RenderDiscipline

/-! Termination. The number of templates within templates is limited, and within one frame a render
follows the expansion of the tree of the last ancestor. Where that expansion is finite for
each chain, a render does not run out under great bounds, and with total filters it comes to an
output or an error; a block definition that leads back to itself may be entered without end. -/
namespace TextTemplate

/-- To end in any way but by running out of the bound on nesting, and by a breakdown only if not all filters
are total. -/
def Discipline.ends (env : Environment) : Discipline where
  text _ := True
  halts halt := halt ≠ .exhausted ∧ (env.filters.Total → halt ≠ .failed .breakdown)
  empty := trivial
  joined _ _ _ _ := trivial
  failed _ := ⟨nofun, fun _ => nofun⟩

theorem Discipline.ends_endures (env : Environment) : (Discipline.ends env).Endures env :=
  fun breaks => ⟨nofun, fun total => absurd total breaks⟩

/-- In no chain that begins with a template leads a definition back to itself that the tree of the last
ancestor leads to. -/
def Environment.Unlooped (env : Environment) (t : Template) : Prop :=
  ∀ scopes depth chain, env.resolveChain scopes depth t = .ok chain →
    Overrides.Unlooped (Frame.definitions ⟨chain, []⟩) (chain.getLastD t).root

namespace Render

variable {env : Environment} {s : RenderState}

theorem ends_abides (env : Environment) (n : Node) : (Discipline.ends env).Abides env n := by
  cases n with
  | output span source p =>
    simp only [Discipline.Abides]
    split
    · exact fun _ _ _ _ _ _ => trivial
    · exact fun _ _ _ => trivial
  | custom span keyword action body =>
    cases action with
    | filter calls => exact fun _ _ _ _ _ _ => trivial
    | _ => trivial
  | _ => trivial

theorem unbounded_ends {n : Node} (obeys : (Discipline.ends env).Obeys (step env (unbounded env) n) s) :
    (Discipline.ends env).Obeys (unbounded env n) s := by
  refine ⟨unbounded_tidy env n, trivial, fun halt stopped => ?_⟩
  have ended : ((step env (unbounded env) n).effect s).result ≠ .error .exhausted :=
    fun exhausted => (obeys.halt _ exhausted).1 rfl
  rw [unbounded_of_step ended] at stopped
  exact obeys.halt halt stopped

/-- Nodes with a finite expansion end at their place if the templates that can be loaded end. -/
theorem expansion_ends {defs : Overrides} {level : Nat}
    (templates : ∀ s : RenderState, s.depth = level →
      TemplatesObey (.ends env) env (unbounded env) s) (depth : Nat) :
    ∀ {place body tree s}, defs.expand depth place body = some tree → StandsAt defs place s →
      s.depth = level → (Discipline.ends env).Obeys (nodes (unbounded env) body) s := by
  have tidy := unbounded_tidy env
  induction depth with
  | zero => exact fun expanded => nomatch expanded
  | succ depth ih =>
    intro place body tree s expanded stands deep
    refine nodes_obeys tidy fun n member => unbounded_ends ?_
    obtain ⟨part, replaced⟩ := Overrides.expandEach_member expanded member
    -- The definition that a place leads to is rendered inside the block that it defines.
    have defined : ∀ name level d, (s.definitions name)[level]? = some d →
        (∀ body, defs.bodyAt ⟨name, level⟩ = some body →
          ∃ tree, defs.expand depth (some ⟨name, level⟩) body = some tree) →
        (Discipline.ends env).Obeys (definition (unbounded env) name level d) s := by
      intro name level d found finite
      rw [stands.definitions] at found
      obtain ⟨tree, done⟩ := finite d.body (by simp [Overrides.bodyAt, found])
      exact definition_obeys tidy
        (ih done (stands.inBlock _) ((StandsAt.inBlock_depth s _).trans deep))
    rcases n.plain_cases with plain | ⟨span, source, p, inherits, rfl⟩ | ⟨span, name, body, rfl⟩
    · rw [Overrides.expandNode_plain plain] at replaced
      obtain ⟨n', mapped, -⟩ := Option.map_eq_some_iff.mp replaced
      refine step_obeys tidy (Discipline.ends_endures env) plain (ends_abides env n) (fun inner listed => ?_) (templates s deep)
      obtain ⟨tree, done⟩ := mapBodies_inside mapped listed
      exact ⟨ih done stands deep, fun scope => ih done (stands.push scope) deep⟩
    · rw [Overrides.expandNode_super inherits] at replaced
      obtain ⟨tree, done, -⟩ := Option.map_eq_some_iff.mp replaced
      refine super_obeys tidy (Discipline.ends_endures env) inherits (fun _ _ _ _ _ _ => trivial) fun b d standing found =>
        defined b.name (b.level + 1) d found fun body known => ⟨tree, ?_⟩
      obtain rfl : place = some b := stands.place.symm.trans standing
      have known : defs.bodyAt b.next = some body := known
      simp only [Overrides.expandSuper, known] at done
      exact done
    · simp only [Overrides.expandNode] at replaced
      refine block_obeys tidy name (fun missing => ?_) fun d found =>
        defined name 0 d found fun body known => ⟨part, by simpa only [known] using replaced⟩
      rw [stands.definitions] at missing
      have unknown : defs.bodyAt ⟨name, 0⟩ = none := by simp [Overrides.bodyAt, missing]
      simp only [unknown] at replaced
      exact ih replaced stands deep

/-- Templates end at every depth if no chain of a loaded template and none of the template itself has a
definition that leads back to itself. -/
theorem template_ends {room : Nat}
    (loaded : ∀ name u, env.load name = .ok u → env.Unlooped u) {t : Template}
    (unlooped : env.Unlooped t) (left : env.options.maxDepth - s.depth ≤ room) :
    (Discipline.ends env).Obeys (template env (unbounded env) t) s := by
  induction room generalizing s t with
  | zero =>
    exact template_obeys (unbounded_tidy env) (Discipline.ends_endures env) t fun open_ => by omega
  | succ room ih =>
    refine template_obeys (unbounded_tidy env) (Discipline.ends_endures env) t
      fun open_ chain resolved => ?_
    obtain ⟨depth, tree, expanded⟩ := Overrides.expands_of_unlooped
      (Frame.finite_definitions ⟨chain, []⟩) (unlooped s.scopes _ chain resolved)
    refine expansion_ends (fun inner deep name u found members => ?_) depth expanded
      (StandsAt.entered s.deeper chain) rfl
    have less : env.options.maxDepth - inner.depth ≤ room := by
      rw [deep]
      simp only [RenderState.entered, RenderState.deeper]
      omega
    exact ⟨ih (loaded name u found) less, ih (loaded name u found) less⟩

end Render

/-- A render ends under all great bounds, and always in the same way, if in no chain that it may meet a
block definition leads back to itself through the blocks inside it and inherited content. It comes
to an output or an error if all filters are total. -/
theorem render_ends (env : Environment) (t : Template) (data : Value) (own : env.Unlooped t)
    (loaded : ∀ name u, env.load name = .ok u → env.Unlooped u) :
    ∃ bound result, (∀ more ≥ bound, env.render more t data = result) ∧ result ≠ .error .exhausted ∧
      (env.filters.Total →
        (∃ out, result = .ok out) ∨ ∃ e, result = .error (.failed (.reported e))) := by
  have obeys := Render.template_ends (s := { scopes := Scopes.ofData data }) loaded own (Nat.le_refl _)
  obtain ⟨bound, same⟩ := Render.template_settles fun exhausted => (obeys.halt _ exhausted).1 rfl
  have halts := (Render.capture_obeys (Render.mapError_obeys (Error.inTemplate t.name) obeys)).halt
  rw [Render.capture_effect (Render.mapError_acts _ obeys.tidy).tidy,
    Render.mapError_effect _ obeys.tidy] at halts
  refine ⟨bound, _, fun more le => by rw [Environment.render_eq, same more le],
    fun exhausted => (halts _ exhausted).1 rfl, fun total => ?_⟩
  cases ended : (Effect.captured _).result with
  | ok out => exact .inl ⟨out, rfl⟩
  | error halt =>
    have regular := halts halt ended
    cases halt with
    | exhausted => exact absurd rfl regular.1
    | failed failure =>
      cases failure with
      | breakdown => exact absurd rfl (regular.2 total)
      | reported e => exact .inr ⟨e, rfl⟩

/-- A template that extends another one comes to an output or an error where only the built-in filters are
known. -/
theorem render_ends_extending :
    let env := { Environment.extending with filters := .builtin }
    env.filters.Total ∧ ∃ child, env.load "child" = .ok child ∧
      ∃ bound result, (∀ more ≥ bound, env.render more child (.object .nil) = result) ∧
        ((∃ out, result = .ok out) ∨ ∃ e, result = .error (.failed (.reported e))) := by
  intro env
  obtain ⟨base, child, tree, tree', base_read, child_read, top, link, -, expanded, expanded'⟩ :=
    extending_chain
  have own : env.Unlooped child := by
    intro scopes depth chain resolved
    rw [@resolveChain_pair env child base "base" link (by decide) base_read top _ _ _ resolved]
    exact Overrides.unlooped_of_expands ⟨4, tree, expanded⟩
  have loaded : ∀ name u, env.load name = .ok u → env.Unlooped u := by
    intro name u found
    rcases pair_load found with rfl | rfl
    · obtain rfl : base = u := Except.ok.inj (base_read.symm.trans found)
      intro scopes depth chain resolved
      obtain rfl : [base] = chain :=
        Except.ok.inj ((resolveChain_root top scopes depth).symm.trans resolved)
      exact Overrides.unlooped_of_expands ⟨4, tree', expanded'⟩
    · obtain rfl : child = u := Except.ok.inj (child_read.symm.trans found)
      exact own
  obtain ⟨bound, result, same, -, regular⟩ := render_ends env child (.object .nil) own loaded
  have total : env.filters.Total := FilterCatalog.builtin_total
  exact ⟨total, child, child_read, bound, result, same, regular total⟩

/-! Definitions that begin with each other -/

/-- The definition that nodes at a place begin with, before anything is written. -/
def Overrides.beginsWith (place : Option ActiveBlock) : List Node → Option ActiveBlock
  | .block _ name _ :: _ => some ⟨name, 0⟩
  | .output _ _ p :: _ => if p.isSuper then place.map ActiveBlock.next else none
  | _ => none

namespace Render

/-- Nodes that begin with a definition of which each begins with another one run out of every bound. -/
theorem nodes_exhaust (env : Environment) {defs : Overrides} {endless : ActiveBlock → Prop}
    (onward : ∀ b, endless b → ∃ body c, defs.bodyAt b = some body ∧
      Overrides.beginsWith (some b) body = some c ∧ endless c) (bound : Nat) :
    ∀ {place body c s}, StandsAt defs place s → Overrides.beginsWith place body = some c →
      endless c → ((nodes (node env bound) body).effect s).result = .error .exhausted := by
  induction bound with
  | zero =>
    intro place body c s stands begins enters
    cases body with
    | nil => cases begins
    | cons n rest => exact bind_stops (f := fun _ => nodes (node env 0) rest) (node_tidy env 0 n) rfl
  | succ bound ih =>
    intro place body c s stands begins enters
    have tidy := node_tidy env bound
    obtain ⟨inner, next, found, further, again⟩ := onward c enters
    obtain ⟨d, defined, rfl⟩ := Option.map_eq_some_iff.mp found
    have stopped : ((definition (node env bound) c.name c.level d).effect s).result =
        .error .exhausted := by
      rw [definition_effect tidy]
      simp only [Effect.mapError, ih (stands.inBlock c) further again]
    cases body with
    | nil => cases begins
    | cons n rest =>
      refine bind_stops (f := fun _ => nodes (node env (bound + 1)) rest)
        (node_tidy env (bound + 1) n) ?_
      cases n with
      | block span name body =>
        cases begins
        rw [← stands.definitions] at defined
        refine (congrArg Effect.result (block_effect (node env bound) name body s)).trans ?_
        cases known : s.definitions name with
        | nil => simp [known] at defined
        | cons outermost less =>
          obtain rfl : outermost = d := by simpa [known] using defined
          exact stopped
      | output span source p =>
        simp only [Overrides.beginsWith] at begins
        split at begins
        · rename_i inherits
          obtain ⟨b, standing, rfl⟩ := Option.map_eq_some_iff.mp begins
          rw [← stands.place] at standing
          rw [← stands.definitions] at defined
          have passed := inherited_effect env tidy p.span s
          simp only [standing, show (s.definitions b.name)[b.level + 1]? = some d from defined]
            at passed
          have first : ((inherited env (node env bound) p.span).effect s).result =
              .error .exhausted := by
            rw [passed]
            exact congrArg (Except.map fun _ => _) stopped
          simp only [node, step, output, inherits, if_true]
          exact bind_stops (inherited_tidy env tidy p.span) first
        · cases begins
      | _ => cases begins

end Render

/-- A render runs out of every bound if the tree of the last ancestor begins with a definition of which
each begins with another one. -/
theorem render_exhausts {env : Environment} {t : Template} {data : Value} {chain : List Template}
    {endless : ActiveBlock → Prop} {c : ActiveBlock} (room : 0 < env.options.maxDepth)
    (resolved : env.resolveChain (Scopes.ofData data) 1 t = .ok chain)
    (onward : ∀ b, endless b → ∃ body c, Overrides.bodyAt (Frame.definitions ⟨chain, []⟩) b = some body ∧
      Overrides.beginsWith (some b) body = some c ∧ endless c)
    (begins : Overrides.beginsWith none (chain.getLastD t).root = some c) (enters : endless c)
    (bound : Nat) : env.render bound t data = .error .exhausted := by
  have stopped := Render.nodes_exhaust env onward bound
    (StandsAt.entered { depth := 1, scopes := Scopes.ofData data } chain) begins enters
  have effect := Render.template_effect env (Render.node_tidy env bound) t
    { scopes := Scopes.ofData data }
  rw [if_neg (Nat.not_le.mpr room)] at effect
  simp only [Nat.zero_add, resolved, RenderState.deeper, Effect.mapError, stopped] at effect
  rw [Environment.render_eq, effect]
  simp only [Effect.captured, Effect.mapError, stopped, Except.map]

/-- An inner block that holds its outer block again, which goes back to the inner one, where only the
built-in filters are known. -/
def Environment.spiral : Environment :=
  let templates := pair "{% block a %}{% block b %}{% endblock %}{% endblock %}"
    ("\x7b% extends 'base' %\x7d" ++
      "{% block b %}{% block a %}{{ super }}{% endblock %}{% endblock %}")
  { templates with filters := .builtin }

theorem spiral_returns :
    (Environment.spiral.load "base").toOption.any (fun base =>
      (Environment.spiral.load "child").toOption.any fun child =>
        base.parent.isNone && decide (child.parentName? = some "base") &&
        (Environment.spiral.resolveChain ⟨[], .empty⟩ 1 child).toOption.isSome &&
        decide (Overrides.beginsWith none base.root = some ⟨"a", 0⟩) &&
        [⟨"a", 0⟩, ⟨"a", 1⟩, ⟨"b", 0⟩].all fun b : ActiveBlock =>
          ((Overrides.bodyAt (Frame.definitions ⟨[child, base], []⟩) b).bind
            (Overrides.beginsWith (some b))).any
              [⟨"a", 0⟩, ⟨"a", 1⟩, ⟨"b", 0⟩].contains) = true := by
  decide +kernel

/-- The render of its template runs out of every bound, although all filters are total. -/
theorem renderNamed_spiral : Environment.spiral.filters.Total ∧
    ¬∃ bound, Environment.spiral.renderNamed bound "child" (.object .nil) ≠ .error .exhausted := by
  refine ⟨FilterCatalog.builtin_total, ?_⟩
  rintro ⟨bound, ends⟩
  refine ends ?_
  have checked := spiral_returns
  cases base_read : Environment.spiral.load "base" with
  | error e => simp [base_read, Except.toOption] at checked
  | ok base =>
    cases child_read : Environment.spiral.load "child" with
    | error e => simp [base_read, child_read, Except.toOption] at checked
    | ok child =>
      simp only [base_read, child_read, Except.toOption, Option.any_some, Bool.and_eq_true,
        Option.isNone_iff_eq_none, decide_eq_true_eq, List.all_eq_true] at checked
      obtain ⟨⟨⟨⟨top, link⟩, resolves⟩, begins⟩, onward⟩ := checked
      cases resolved : Environment.spiral.resolveChain ⟨[], .empty⟩ 1 child with
      | error e => simp [resolved] at resolves
      | ok chain =>
        obtain rfl := resolveChain_pair link (by decide) base_read top resolved
        simp only [Environment.renderNamed, child_read]
        have endless : ∀ b ∈ [⟨"a", 0⟩, ⟨"a", 1⟩, (⟨"b", 0⟩ : ActiveBlock)], ∃ body c,
            Overrides.bodyAt (Frame.definitions ⟨[child, base], []⟩) b = some body ∧
              Overrides.beginsWith (some b) body = some c ∧
              c ∈ [⟨"a", 0⟩, ⟨"a", 1⟩, (⟨"b", 0⟩ : ActiveBlock)] := by
          intro b among
          obtain ⟨c, next, again⟩ := (Option.any_eq_true _ _).mp (onward b among)
          obtain ⟨body, found, further⟩ := Option.bind_eq_some_iff.mp next
          exact ⟨body, c, found, further, List.contains_iff_mem.mp again⟩
        exact render_exhausts (t := child) (by decide) resolved endless begins (by decide) bound

end TextTemplate
