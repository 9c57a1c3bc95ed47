import TextTemplate.Proofs.BlockExpansion

/-! Chains of inheritance. A template without a parent is a chain by itself, and a parent that is named by
plain text is the same in all scopes. -/
namespace TextTemplate

theorem resolveChain_root {env : Environment} {t : Template} (top : t.parent = none)
    (scopes : Scopes) (depth : Nat) : env.resolveChain scopes depth t = .ok [t] := by
  unfold Environment.resolveChain Environment.ancestors
  simp only [top]

/-- What a tag asks for is loaded by its name. -/
theorem load_of_loadFor {env : Environment} {purpose : Purpose} {name : String} {span : Span}
    {t : Template} (loaded : env.loadFor purpose name span = .ok t) : env.load name = .ok t := by
  unfold Environment.loadFor at loaded
  split at loaded
  · rename_i found
    cases loaded
    exact found
  · cases loaded
  · cases loaded

theorem Environment.loadFor_ok_iff {env : Environment} {purpose : Purpose} {name : String}
    {span : Span} {t : Template} : env.loadFor purpose name span = .ok t ↔ env.load name = .ok t := by
  refine ⟨load_of_loadFor, fun loaded => ?_⟩
  simp only [loadFor, loaded]

/-- Loading fails only with errors that are reported. -/
theorem Environment.loadFor_error {env : Environment} {purpose : Purpose} {name : String} {span : Span}
    {failure : Failure} (failed : env.loadFor purpose name span = .error failure) :
    ∃ e, failure = .reported e := by
  unfold loadFor at failed
  split at failed <;> cases failed <;> exact ⟨_, rfl⟩

/-- The template that a link of a chain leads to. It may not have the name of a member of the chain, and
the chain may not grow beyond the depth. -/
def Environment.follow (env : Environment) (scopes : Scopes) (depth : Nat) (members : List Template)
    (parent : Parent) : Except Failure Template := do
  let name ← env.evalTemplateName scopes parent.name
  if members.any fun member => member.name = name then
    .error (.reported (.spanned (.extendsCycle (members.map Template.name ++ [name])) parent.span))
  else if env.options.maxDepth < depth + members.length then
    .error (.reported (.spanned (.chainTooLong env.options.maxDepth) parent.span))
  else env.loadFor .inheritance name parent.span

theorem any_name_iff {members : List Template} {name : String} :
    (members.any fun member => member.name = name) = true ↔ name ∈ members.map Template.name := by
  simp

/-- A link is followed if its name is new to the chain, finds room at the depth and can be loaded. -/
theorem follow_ok_iff {env : Environment} {scopes : Scopes} {depth : Nat} {members : List Template}
    {parent : Parent} {next : Template} :
    env.follow scopes depth members parent = .ok next ↔
      ∃ name, env.evalTemplateName scopes parent.name = .ok name ∧
        name ∉ members.map Template.name ∧ depth + members.length ≤ env.options.maxDepth ∧
        env.load name = .ok next := by
  unfold Environment.follow
  cases named : env.evalTemplateName scopes parent.name with
  | error e => simp [bind, Except.bind]
  | ok name =>
    simp only [bind, Except.bind, any_name_iff, Except.ok.injEq, exists_eq_left', ← Nat.not_lt]
    split
    · simp [*]
    · split
      · simp [*]
      · simp [*, Environment.loadFor_ok_iff]

/-- A chain goes on to the template that its link leads to. A fault of the link is one of the template that
holds it. -/
theorem ancestors_link {env : Environment} {scopes : Scopes} {depth : Nat} {below : List Template}
    {current : Template} {parent : Parent} (link : current.parent = some parent) :
    env.ancestors scopes depth below current =
      (do
        let next ← (env.follow scopes depth (below ++ [current]) parent).mapError
          (Failure.map (Error.inTemplate current.name))
        let rest ← env.ancestors scopes depth (below ++ [current]) next
        .ok (current :: rest)) := by
  rw [Environment.ancestors]
  simp only [link]
  cases named : env.evalTemplateName scopes parent.name with
  | error e => simp [Environment.follow, named, bind, Except.bind, Except.mapError]
  | ok name =>
    simp only [Environment.follow, named, bind, Except.bind]
    split
    · rfl
    · split
      · rfl
      · cases env.loadFor .inheritance name parent.span <;> rfl

theorem mapError_ok {ε ε' α : Type} {f : ε → ε'} {x : Except ε α} {a : α}
    (ended : x.mapError f = .ok a) : x = .ok a := by
  cases x with
  | error e => cases ended
  | ok b =>
    cases ended
    rfl

/-- A chain ends at a template without a parent, and goes on to the parent of any other one. -/
theorem ancestors_cases {env : Environment} {scopes : Scopes} {depth : Nat}
    {below chain : List Template} {current : Template}
    (resolved : env.ancestors scopes depth below current = .ok chain) :
    (current.parent = none ∧ chain = [current]) ∨ ∃ parent name next rest,
      current.parent = some parent ∧ env.evalTemplateName scopes parent.name = .ok name ∧
      env.load name = .ok next ∧
      env.ancestors scopes depth (below ++ [current]) next = .ok rest ∧ chain = current :: rest := by
  cases link : current.parent with
  | none =>
    unfold Environment.ancestors at resolved
    simp only [link] at resolved
    cases resolved
    exact .inl ⟨rfl, rfl⟩
  | some parent =>
    rw [ancestors_link link] at resolved
    obtain ⟨next, reached, further⟩ := bind_ok resolved
    obtain ⟨name, named, -, -, found⟩ := follow_ok_iff.mp (mapError_ok reached)
    obtain ⟨rest, resumed, same⟩ := bind_ok further
    cases same
    exact .inr ⟨parent, name, next, rest, rfl, named, found, resumed, rfl⟩

/-- The members of a chain are its template and templates that can be loaded. -/
theorem mem_of_resolveChain {env : Environment} {t u : Template} {scopes : Scopes} {depth : Nat}
    {chain : List Template} (resolved : env.resolveChain scopes depth t = .ok chain)
    (member : u ∈ chain) : u = t ∨ ∃ name, env.load name = .ok u := by
  unfold Environment.resolveChain at resolved
  generalize ([] : List Template) = below at resolved
  induction chain generalizing below t with
  | nil => cases member
  | cons first rest ih =>
    obtain ⟨-, same⟩ | ⟨parent, name, next, further, -, -, found, resumed, same⟩ :=
      ancestors_cases resolved
    · obtain ⟨rfl, rfl⟩ := List.cons.inj same
      exact .inl (List.mem_singleton.mp member)
    · obtain ⟨rfl, rfl⟩ := List.cons.inj same
      rcases List.mem_cons.mp member with rfl | later
      · exact .inl rfl
      · rcases ih later _ resumed with rfl | loaded
        · exact .inr ⟨name, found⟩
        · exact .inr loaded

/-- What holds of a template and of all that can be loaded holds all along the chain of the template. -/
theorem forall_mem_chain {env : Environment} {t : Template} {scopes : Scopes} {depth : Nat}
    {chain : List Template} {P : Template → Prop} (own : P t)
    (loaded : ∀ name u, env.load name = .ok u → P u)
    (resolved : env.resolveChain scopes depth t = .ok chain) : ∀ u ∈ chain, P u := by
  intro u member
  rcases mem_of_resolveChain resolved member with rfl | ⟨name, found⟩
  · exact own
  · exact loaded name u found

/-- The last template of a chain is one of it. -/
theorem last_mem_chain {env : Environment} {t : Template} {scopes : Scopes} {depth : Nat}
    {chain : List Template} (resolved : env.resolveChain scopes depth t = .ok chain) :
    chain.getLastD t ∈ chain := by
  have nonempty : chain ≠ [] := by
    rintro rfl
    obtain ⟨-, same⟩ | ⟨_, _, _, _, -, -, -, -, same⟩ := ancestors_cases resolved
    · cases same
    · cases same
  rw [List.getLastD_eq_getLast?, List.getLast?_eq_some_getLast nonempty]
  exact List.getLast_mem nonempty

/-- A definition of a block is made by a template of the chain. -/
theorem mem_definitions {f : Frame} {d : Definition} {name : String}
    (member : d ∈ f.definitions name) :
    ∃ t ∈ f.chain, ∃ b, t.block? name = some b ∧ d = ⟨t.name, b.body⟩ := by
  obtain ⟨t, listed, found⟩ := List.mem_filterMap.mp member
  obtain ⟨b, declared, same⟩ := Option.map_eq_some_iff.mp found
  exact ⟨t, listed, b, declared, same.symm⟩

/-- The name of the parent of a template, if it is written as plain text. -/
def Template.parentName? (t : Template) : Option String :=
  match t.parent with
  | some ⟨_, _, .literal (.string name), []⟩ => some name
  | _ => none

/-- A name that is written as plain text is the same in all scopes. -/
theorem evalPipeline_of_parentName {t : Template} {name : String} (link : t.parentName? = some name) :
    ∃ parent, t.parent = some parent ∧ ∀ (env : Environment) (scopes : Scopes),
      env.evalPipeline scopes parent.name = .ok (.string name) := by
  unfold Template.parentName? at link
  split at link
  · rename_i span place written parent
    cases link
    refine ⟨_, parent, fun env scopes => ?_⟩
    simp [Environment.evalPipeline, Environment.evalPipelineWith, Environment.evalExpr,
      Environment.applyFilters, Except.bind, bind]
  · cases link

/-- A parent that is named by plain text is the same in all scopes. -/
theorem resolveChain_pair {env : Environment} {child base : Template} {name : String}
    (link : child.parentName? = some name) (named : name ≠ "") (found : env.load name = .ok base)
    (top : base.parent = none) {scopes : Scopes} {depth : Nat} {chain : List Template}
    (resolved : env.resolveChain scopes depth child = .ok chain) : chain = [child, base] := by
  obtain ⟨parent, declared, evaluated⟩ := evalPipeline_of_parentName link
  obtain ⟨none, -⟩ | ⟨_, _, next, rest, some, asked, loaded, resumed, rfl⟩ := ancestors_cases resolved
  · cases declared.symm.trans none
  · obtain rfl : _ = parent := Option.some.inj (some.symm.trans declared)
    simp only [Environment.evalTemplateName, evaluated, named, bind, Except.bind, if_false,
      Except.ok.injEq] at asked
    subst asked
    obtain rfl : base = next := Except.ok.inj (found.symm.trans loaded)
    unfold Environment.ancestors at resumed
    simp only [top] at resumed
    cases resumed
    rfl

/-- The standard setting with two templates. -/
def Environment.pair (base child : String) : Environment :=
  { Environment.standard with loader := some (.ofTable (.ofList [("base", base), ("child", child)])) }

theorem pair_load {base child name : String} {t : Template}
    (found : (Environment.pair base child).load name = .ok t) : name = "base" ∨ name = "child" := by
  by_cases first : name = "base"
  · exact .inl first
  · by_cases second : name = "child"
    · exact .inr second
    · have absent : List.lookup name [("child", child), ("base", base)] = none := by
        simp [Table.lookup_cons, Ne.symm second, first]
      simp [Environment.load, Environment.pair, Loader.ofTable, Table.get?_ofList, absent] at found

/-- Blocks inside blocks, of which the inner one is extended by the template below. -/
def Environment.extending : Environment :=
  .pair "{% block a %}[{% block b %}x{% endblock %}]{% endblock %}"
    ("\x7b% extends 'base' %\x7d" ++ "{% block b %}{{ super }}y{% endblock %}")

theorem extending_chain : ∃ base child tree tree',
    Environment.extending.load "base" = .ok base ∧ Environment.extending.load "child" = .ok child ∧
    base.parent = none ∧ child.parentName? = some "base" ∧
    Environment.extending.resolveChain ⟨[], .empty⟩ 1 child = .ok [child, base] ∧
    Overrides.expand (Frame.definitions ⟨[child, base], []⟩) 4 none base.root = some tree ∧
    Overrides.expand (Frame.definitions ⟨[base], []⟩) 4 none base.root = some tree' := by
  have checked : (Environment.extending.load "base").toOption.any (fun base =>
      (Environment.extending.load "child").toOption.any fun child =>
        base.parent.isNone && decide (child.parentName? = some "base") &&
          (Environment.extending.resolveChain ⟨[], .empty⟩ 1 child).toOption.isSome &&
          (Overrides.expand (Frame.definitions ⟨[child, base], []⟩) 4 none base.root).isSome &&
          (Overrides.expand (Frame.definitions ⟨[base], []⟩) 4 none base.root).isSome) = true := by
    decide +kernel
  cases base_read : Environment.extending.load "base" with
  | error e => simp [base_read, Except.toOption] at checked
  | ok base =>
    cases child_read : Environment.extending.load "child" with
    | error e => simp [base_read, child_read, Except.toOption] at checked
    | ok child =>
      simp only [base_read, child_read, Except.toOption, Option.any_some, Bool.and_eq_true,
        Option.isNone_iff_eq_none, Option.isSome_iff_exists, decide_eq_true_eq] at checked
      obtain ⟨⟨⟨⟨top, link⟩, chain, resolves⟩, tree, expanded⟩, tree', expanded'⟩ := checked
      cases resolved : Environment.extending.resolveChain ⟨[], .empty⟩ 1 child with
      | error e => simp [resolved] at resolves
      | ok chain =>
        obtain rfl := resolveChain_pair link (by decide) base_read top resolved
        exact ⟨base, child, tree, tree', rfl, rfl, top, link, resolved, expanded, expanded'⟩

end TextTemplate
