import TextTemplate.Proofs.ChainResolution
import TextTemplate.Proofs.DeclaredBlocks

/-! Where the links of inheritance lead. A chain is resolved by climbing from template to parent; every
climb is a lineage, templates of different names each of which is the loaded parent of the one
before, within the room that the depth leaves. So a resolution ends, whatever the loader
supplies: at a template without a parent, whose lineage is the chain, or at a link that cannot be
followed, which is reported as an error of the template that holds it. -/
namespace TextTemplate

namespace Environment

/-- A template is the loaded parent of another, which names it by a text that is not empty. -/
def ParentOf (env : Environment) (scopes : Scopes) (t next : Template) : Prop :=
  ∃ parent name, t.parent = some parent ∧
    env.evalPipeline scopes parent.name = .ok (.string name) ∧ name ≠ "" ∧ env.load name = .ok next

/-- Templates from a given one on, each the parent of the one before, that have different names and find
room at the depth. -/
structure Lineage (env : Environment) (scopes : Scopes) (depth : Nat) (t : Template)
    (path : List Template) : Prop where
  start : path.head? = some t
  linked : path.IsChain (env.ParentOf scopes)
  distinct : (path.map Template.name).Nodup
  room : depth + path.length - 1 ≤ env.options.maxDepth

/-- The ways in which a link is refused, in the order in which they are looked for. -/
inductive Refused (env : Environment) (scopes : Scopes) (depth : Nat) (members : List Template)
    (parent : Parent) : Failure → Prop where
  | unnamed {failure : Failure} (failed : env.evalTemplateName scopes parent.name = .error failure) :
      Refused env scopes depth members parent failure
  | cycle (named : env.evalTemplateName scopes parent.name = .ok name)
      (repeated : name ∈ members.map Template.name) :
      Refused env scopes depth members parent
        (.reported (.spanned (.extendsCycle (members.map Template.name ++ [name])) parent.span))
  | tooLong (named : env.evalTemplateName scopes parent.name = .ok name)
      (new : name ∉ members.map Template.name)
      (beyond : env.options.maxDepth < depth + members.length) :
      Refused env scopes depth members parent
        (.reported (.spanned (.chainTooLong env.options.maxDepth) parent.span))
  | unloaded {failure : Failure} (named : env.evalTemplateName scopes parent.name = .ok name)
      (new : name ∉ members.map Template.name) (room : depth + members.length ≤ env.options.maxDepth)
      (failed : env.loadFor .inheritance name parent.span = .error failure) :
      Refused env scopes depth members parent failure

variable {env : Environment} {scopes : Scopes} {depth : Nat} {t : Template}

theorem evalTemplateName_ok_iff {p : Pipeline} {name : String} :
    env.evalTemplateName scopes p = .ok name ↔
      env.evalPipeline scopes p = .ok (.string name) ∧ name ≠ "" := by
  unfold evalTemplateName
  cases env.evalPipeline scopes p with
  | error e => simp [bind, Except.bind]
  | ok value =>
    cases value with
    | string given =>
      by_cases empty : given = ""
      · simp only [bind, Except.bind, empty, if_true, reduceCtorEq, false_iff, not_and, not_not]
        rintro ⟨rfl⟩
        rfl
      · simp only [bind, Except.bind, empty, if_false, Except.ok.injEq, Value.string.injEq]
        constructor
        · rintro rfl
          exact ⟨rfl, empty⟩
        · exact fun ⟨same, _⟩ => same
    | _ => simp [bind, Except.bind]

theorem follow_error_iff {members : List Template} {parent : Parent} {failure : Failure} :
    env.follow scopes depth members parent = .error failure ↔
      env.Refused scopes depth members parent failure := by
  constructor
  · intro failed
    unfold follow at failed
    cases named : env.evalTemplateName scopes parent.name with
    | error other =>
      simp only [named, bind, Except.bind] at failed
      cases failed
      exact .unnamed named
    | ok name =>
      simp only [named, bind, Except.bind, any_name_iff] at failed
      split at failed
      · rename_i repeated
        cases failed
        exact .cycle named repeated
      · rename_i new
        split at failed
        · rename_i beyond
          cases failed
          exact .tooLong named new beyond
        · rename_i room
          exact .unloaded named new (Nat.not_lt.mp room) failed
  · intro refused
    unfold follow
    cases refused with
    | unnamed failed => simp [failed, bind, Except.bind]
    | cycle named repeated => simp only [named, bind, Except.bind, any_name_iff, if_pos repeated]
    | tooLong named new beyond =>
      simp only [named, bind, Except.bind, any_name_iff, if_neg new, if_pos beyond]
    | unloaded named new room failed =>
      simp only [named, bind, Except.bind, any_name_iff, if_neg new, if_neg (Nat.not_lt.mpr room), failed]

/-- A resolution that has followed the links of the templates below comes to a further one. -/
inductive Climb (env : Environment) (scopes : Scopes) (depth : Nat) (t : Template) :
    List Template → Template → Prop where
  | start : Climb env scopes depth t [] t
  | link (climbed : Climb env scopes depth t below holder) (parent : holder.parent = some p)
      (followed : env.follow scopes depth (below ++ [holder]) p = .ok next) :
      Climb env scopes depth t (below ++ [holder]) next

variable {below : List Template} {holder next : Template}

/-- What is left of a resolution is that from the template it has come to. -/
theorem Climb.resolves (climbed : env.Climb scopes depth t below holder) :
    env.resolveChain scopes depth t =
      (env.ancestors scopes depth below holder).map (below ++ ·) := by
  induction climbed with
  | start =>
    rw [resolveChain]
    cases env.ancestors scopes depth [] t <;> rfl
  | @link below holder p next climbed parent followed ih =>
    rw [ih, ancestors_link parent, followed]
    simp only [Except.mapError, bind, Except.bind]
    cases env.ancestors scopes depth (below ++ [holder]) next <;> simp [Except.map]

/-- Every template that a climb has passed has a parent. -/
theorem Climb.passed (climbed : env.Climb scopes depth t below holder) :
    ∀ member ∈ below, member.parent ≠ none := by
  induction climbed with
  | start => nofun
  | link climbed parent followed ih =>
    intro member among top
    rcases List.mem_append.mp among with earlier | last
    · exact ih member earlier top
    · rw [List.mem_singleton.mp last, parent] at top
      cases top

/-- A lineage goes on with the template that its last link leads to. -/
theorem lineage_link :
    env.Lineage scopes depth t (below ++ [holder] ++ [next]) ↔
      env.Lineage scopes depth t (below ++ [holder]) ∧ ∃ p, holder.parent = some p ∧
        env.follow scopes depth (below ++ [holder]) p = .ok next := by
  have begins : (below ++ [holder] ++ [next]).head? = (below ++ [holder]).head? := by
    cases below <;> rfl
  have links : (below ++ [holder] ++ [next]).IsChain (env.ParentOf scopes) ↔
      (below ++ [holder]).IsChain (env.ParentOf scopes) ∧ env.ParentOf scopes holder next := by
    rw [List.append_assoc, List.singleton_append, List.isChain_append_cons_cons]
    simp
  have names : ((below ++ [holder] ++ [next]).map Template.name).Nodup ↔
      ((below ++ [holder]).map Template.name).Nodup ∧
        next.name ∉ (below ++ [holder]).map Template.name := by
    rw [List.map_append, List.map_singleton, ← List.concat_eq_append, List.nodup_concat, and_comm]
  constructor
  · rintro ⟨start, linked, distinct, room⟩
    obtain ⟨linked, p, name, parent, named, written, loaded⟩ := links.mp linked
    obtain ⟨distinct, new⟩ := names.mp distinct
    simp only [List.length_append, List.length_singleton] at room
    refine ⟨⟨begins ▸ start, linked, distinct, ?_⟩, p, parent, follow_ok_iff.mpr
      ⟨name, evalTemplateName_ok_iff.mpr ⟨named, written⟩, name_of_load loaded ▸ new, ?_, loaded⟩⟩
    · simp only [List.length_append, List.length_singleton]
      omega
    · simpa [Nat.add_assoc] using room
  · rintro ⟨⟨start, linked, distinct, room⟩, p, parent, followed⟩
    obtain ⟨name, named, new, fits, loaded⟩ := follow_ok_iff.mp followed
    obtain ⟨evaluated, written⟩ := evalTemplateName_ok_iff.mp named
    refine ⟨begins ▸ start, links.mpr ⟨linked, p, name, parent, evaluated, written, loaded⟩,
      names.mpr ⟨distinct, (name_of_load loaded).symm ▸ new⟩, ?_⟩
    rw [List.length_append, List.length_singleton]
    omega

/-- A resolution comes to the ends of the lineages, and to nothing else. -/
theorem climb_iff_lineage (entered : depth ≤ env.options.maxDepth) :
    env.Climb scopes depth t below holder ↔ env.Lineage scopes depth t (below ++ [holder]) := by
  constructor
  · intro climbed
    induction climbed with
    | start => exact ⟨rfl, .singleton t, List.nodup_singleton _, by simpa using entered⟩
    | link climbed parent followed ih => exact lineage_link.mpr ⟨ih, _, parent, followed⟩
  · intro lineage
    -- A climb grows at its upper end, so its last link is taken off first.
    induction below using List.reverseRecOn generalizing holder with
    | nil =>
      obtain rfl : holder = t := Option.some.inj lineage.start
      exact .start
    | append_singleton earlier last ih =>
      obtain ⟨before, p, parent, followed⟩ := lineage_link.mp lineage
      exact .link (ih before) parent followed

/-- Every climb comes to an end, since each link takes some of the room. -/
theorem Climb.ends {below : List Template} {holder : Template}
    (climbed : env.Climb scopes depth t below holder) :
    ∃ passed last, env.Climb scopes depth t passed last ∧ (last.parent = none ∨
      ∃ p failure, last.parent = some p ∧
        env.follow scopes depth (passed ++ [last]) p = .error failure) := by
  cases parent : holder.parent with
  | none => exact ⟨below, holder, climbed, .inl parent⟩
  | some p =>
    cases followed : env.follow scopes depth (below ++ [holder]) p with
    | error e => exact ⟨below, holder, climbed, .inr ⟨p, e, parent, followed⟩⟩
    | ok next =>
      have fits : depth + (below ++ [holder]).length ≤ env.options.maxDepth := by
        obtain ⟨-, -, -, fits, -⟩ := follow_ok_iff.mp followed
        exact fits
      exact (climbed.link parent followed).ends
termination_by env.options.maxDepth + 1 - (depth + below.length)
decreasing_by
  simp only [List.length_append, List.length_singleton] at fits ⊢
  omega

/-- At a template without a parent the chain is complete. -/
theorem Climb.top (climbed : env.Climb scopes depth t below holder) (top : holder.parent = none) :
    env.resolveChain scopes depth t = .ok (below ++ [holder]) := by
  rw [climbed.resolves, ancestors]
  simp only [top, Except.map]

/-- At a link that is refused the resolution fails. -/
theorem Climb.refused (climbed : env.Climb scopes depth t below holder) {p : Parent} {failure : Failure}
    (parent : holder.parent = some p)
    (refused : env.Refused scopes depth (below ++ [holder]) p failure) :
    env.resolveChain scopes depth t = .error (failure.map (Error.inTemplate holder.name)) := by
  rw [climbed.resolves, ancestors_link parent, follow_error_iff.mpr refused]
  rfl

/-- A resolution climbs along every lineage. -/
theorem Lineage.climb (entered : depth ≤ env.options.maxDepth) {path : List Template} {holder : Template}
    (lineage : env.Lineage scopes depth t path) (last : path.getLast? = some holder) :
    ∃ below, env.Climb scopes depth t below holder ∧ path = below ++ [holder] := by
  obtain ⟨below, rfl⟩ := List.getLast?_eq_some_iff.mp last
  exact ⟨below, (climb_iff_lineage entered).mpr lineage, rfl⟩

theorem Lineage.last {path : List Template} (lineage : env.Lineage scopes depth t path) :
    ∃ holder, path.getLast? = some holder := by
  cases path with
  | nil => cases lineage.start
  | cons first rest => exact ⟨_, List.getLast?_cons⟩

/-- A resolution comes along a lineage to a template without a parent, or to a link that is refused. -/
theorem resolveChain_ends (entered : depth ≤ env.options.maxDepth) :
    ∃ path holder, env.Lineage scopes depth t path ∧ path.getLast? = some holder ∧
      ((holder.parent = none ∧ env.resolveChain scopes depth t = .ok path) ∨
        ∃ parent failure, holder.parent = some parent ∧ env.Refused scopes depth path parent failure ∧
          env.resolveChain scopes depth t = .error (failure.map (Error.inTemplate holder.name))) := by
  obtain ⟨below, holder, climbed, stops⟩ := (Climb.start : env.Climb scopes depth t [] t).ends
  refine ⟨below ++ [holder], holder, (climb_iff_lineage entered).mp climbed, List.getLast?_concat, ?_⟩
  rcases stops with top | ⟨parent, failure, link, failed⟩
  · exact .inl ⟨top, climbed.top top⟩
  · have refused := follow_error_iff.mp failed
    exact .inr ⟨parent, failure, link, refused, climbed.refused link refused⟩

/-- The chains are the lineages of which only the last member has no parent. -/
theorem resolveChain_ok_iff (entered : depth ≤ env.options.maxDepth) {chain : List Template} :
    env.resolveChain scopes depth t = .ok chain ↔
      env.Lineage scopes depth t chain ∧
        ∀ member ∈ chain, member.parent = none ↔ chain.getLast? = some member := by
  constructor
  · intro resolved
    obtain ⟨path, holder, lineage, last, ⟨top, found⟩ | ⟨_, _, _, _, failed⟩⟩ :=
      resolveChain_ends entered
    · obtain rfl : path = chain := Except.ok.inj (found.symm.trans resolved)
      obtain ⟨below, climbed, rfl⟩ := lineage.climb entered last
      refine ⟨lineage, fun member among => ?_⟩
      rw [last, Option.some.injEq]
      constructor
      · intro none
        rcases List.mem_append.mp among with passed | here
        · exact absurd none (climbed.passed member passed)
        · exact (List.mem_singleton.mp here).symm
      · rintro rfl
        exact top
    · cases failed.symm.trans resolved
  · rintro ⟨lineage, tops⟩
    obtain ⟨last, ends⟩ := lineage.last
    obtain ⟨below, climbed, rfl⟩ := lineage.climb entered ends
    have top : last.parent = none :=
      (tops last (List.mem_append_right _ (List.mem_singleton.mpr rfl))).mpr ends
    exact climbed.top top

end Environment

open Environment in
/-- A chain of inheritance is resolved by following the links, and the resolution ends. It comes along a
lineage either to a template without a parent, whose lineage is the chain, or to a link that is
refused. A chain is exactly a lineage of which only the last member has no parent; where a lineage
leads back to the name of one of its members the cycle is reported at the link of its last. -/
theorem resolveChain_follows (env : Environment) (scopes : Scopes) {depth : Nat} (t : Template)
    (entered : depth ≤ env.options.maxDepth) :
    (∃ path holder, env.Lineage scopes depth t path ∧ path.getLast? = some holder ∧
      ((holder.parent = none ∧ env.resolveChain scopes depth t = .ok path) ∨
        ∃ parent failure, holder.parent = some parent ∧ env.Refused scopes depth path parent failure ∧
          env.resolveChain scopes depth t = .error (failure.map (Error.inTemplate holder.name)))) ∧
    (∀ chain, env.resolveChain scopes depth t = .ok chain ↔
      env.Lineage scopes depth t chain ∧
        ∀ member ∈ chain, member.parent = none ↔ chain.getLast? = some member) ∧
    ∀ path holder parent name, env.Lineage scopes depth t path → path.getLast? = some holder →
      holder.parent = some parent → env.evalPipeline scopes parent.name = .ok (.string name) →
      name ≠ "" → name ∈ path.map Template.name →
      env.resolveChain scopes depth t =
        .error (.reported (.raised (.extendsCycle (path.map Template.name ++ [name]))
          ⟨some parent.span, some holder.name⟩)) := by
  refine ⟨resolveChain_ends entered, fun chain => resolveChain_ok_iff entered, ?_⟩
  intro path holder parent name lineage last link evaluated written repeated
  obtain ⟨below, climbed, rfl⟩ := lineage.climb entered last
  have named := evalTemplateName_ok_iff.mpr ⟨evaluated, written⟩
  exact climbed.refused link (.cycle named repeated)

/-- A template that extends itself. -/
def Environment.selfExtending : Environment := .pair "\x7b% extends 'base' %\x7d" ""

/-- A child with its base is a lineage and the chain of the child; a template that extends itself is a
lineage that ends in a cycle. -/
theorem resolveChain_follows_extending :
    (∃ base child, Environment.extending.load "base" = .ok base ∧
      Environment.extending.load "child" = .ok child ∧
      1 ≤ Environment.extending.options.maxDepth ∧
      Environment.extending.Lineage ⟨[], .empty⟩ 1 child [child, base] ∧
      ∀ member ∈ [child, base], member.parent = none ↔ [child, base].getLast? = some member) ∧
    ∃ t parent, Environment.selfExtending.load "base" = .ok t ∧
      t.parent = some parent ∧
      Environment.selfExtending.resolveChain ⟨[], .empty⟩ 1 t =
        .error (.reported (.raised (.extendsCycle ["base", "base"]) ⟨some parent.span, some "base"⟩)) := by
  refine ⟨?_, ?_⟩
  · obtain ⟨base, child, -, -, base_read, child_read, -, -, resolved, -⟩ := extending_chain
    obtain ⟨lineage, tops⟩ :=
      ((resolveChain_follows .extending ⟨[], .empty⟩ child (by decide)).2.1 _).mp resolved
    exact ⟨base, child, base_read, child_read, by decide, lineage, tops⟩
  · have checked : (Environment.selfExtending.load "base").toOption.any
        (fun t => decide (t.parentName? = some "base")) = true := by
      decide +kernel
    cases read : Environment.selfExtending.load "base" with
    | error e => simp [read, Except.toOption] at checked
    | ok t =>
      have written : t.parentName? = some "base" := by simpa [read, Except.toOption] using checked
      obtain ⟨parent, link, evaluated⟩ := evalPipeline_of_parentName written
      have own : t.name = "base" := name_of_load read
      have alone : Environment.selfExtending.Lineage ⟨[], .empty⟩ 1 t [t] :=
        ⟨rfl, .singleton t, List.nodup_singleton _, (by decide : 1 ≤ 64)⟩
      have fails := (resolveChain_follows .selfExtending ⟨[], .empty⟩ t
        (by decide)).2.2 [t] t parent "base" alone rfl link (evaluated _ _) (by decide)
        (by simp [own])
      rw [List.map_singleton, own] at fails
      exact ⟨t, parent, rfl, link, fails⟩

end TextTemplate
