import TextTemplate.Proofs.ChainResolution
import TextTemplate.Proofs.EvaluationErrors
import TextTemplate.Proofs.RenderFailures
import TextTemplate.Proofs.TreePlaces

/-! Where an error points to. While nodes of a template are rendered, an error that is not attributed yet is
placed in that template, and on its way out it is attributed to it before it leaves. A
later attribution does not change it, and neither does a later place, with one exception. That
too many templates are entered is reported without a place, and so takes the place of the
innermost tag of a host around the inclusion, which stands in another template. -/
namespace TextTemplate

namespace Error

/-- Too many templates are entered. -/
def IsDepth : Error → Prop
  | .raised (.depthExceeded _) _ => True
  | _ => False

variable {sites : String → Span → Prop} {home name : String} {span : Span} {e : Error}

/-- An error is placed in the template that it names, or it reports too many templates and is placed in any of
them or nowhere. -/
def Attributed (sites : String → Span → Prop) (e : Error) : Prop :=
  ∃ name, e.place.template = some name ∧
    ((∃ span, e.place.span = some span ∧ sites name span) ∨
      (e.IsDepth ∧ ∀ span, e.place.span = some span → ∃ other, sites other span))

/-- An error from the nodes of a template is placed in it, or has been attributed already. -/
def Blames (sites : String → Span → Prop) (home : String) (e : Error) : Prop :=
  (∃ span, e.At span ∧ sites home span) ∨ e.Attributed sites

theorem place_mapPlace {f : Place → Place} (known : e.place ≠ {}) :
    (e.mapPlace f).place = f e.place ∧ ((e.mapPlace f).IsDepth ↔ e.IsDepth) := by
  cases e with
  | raised fault place => exact ⟨rfl, by cases fault <;> rfl⟩
  | causedBy fault place cause => exact ⟨rfl, Iff.rfl⟩
  | notFound => exact absurd rfl known

theorem place_inTemplate (known : e.place ≠ {}) (name : String) :
    (e.inTemplate name).place = { e.place with template := e.place.template.or (some name) } ∧
      ((e.inTemplate name).IsDepth ↔ e.IsDepth) :=
  place_mapPlace known

theorem place_orSpan (known : e.place ≠ {}) (span : Span) :
    (e.orSpan span).place = { e.place with span := e.place.span.or (some span) } ∧
      ((e.orSpan span).IsDepth ↔ e.IsDepth) :=
  place_mapPlace known

theorem Attributed.known (attributed : e.Attributed sites) : e.place ≠ {} := by
  obtain ⟨name, named, -⟩ := attributed
  intro nowhere
  rw [nowhere] at named
  cases named

/-- What is attributed keeps its template. -/
theorem Attributed.inTemplate (attributed : e.Attributed sites) (name : String) :
    (e.inTemplate name).Attributed sites := by
  obtain ⟨place, depth⟩ := place_inTemplate attributed.known name
  obtain ⟨other, named, held⟩ := attributed
  refine ⟨other, ?_, ?_⟩
  · rw [place, named]
    rfl
  · rw [place, depth]
    exact held

/-- What comes out of a template is attributed to it. -/
theorem Blames.inTemplate (blames : e.Blames sites home) : (e.inTemplate home).Attributed sites := by
  rcases blames with ⟨span, placed, site⟩ | attributed
  · refine ⟨home, ?_, .inl ⟨span, ?_, site⟩⟩ <;> rw [placed.inTemplate home]
  · exact attributed.inTemplate home

/-- A place that is added is that of an error that reports too many templates. -/
theorem Blames.orSpan (blames : e.Blames sites home) (here : sites home span) :
    (e.orSpan span).Blames sites home := by
  have known : e.place ≠ {} := by
    rcases blames with ⟨own, placed, -⟩ | attributed
    · rw [placed]
      nofun
    · exact attributed.known
  obtain ⟨place, depth⟩ := place_orSpan known span
  rcases blames with ⟨own, placed, site⟩ | ⟨name, named, held⟩
  · refine .inl ⟨own, ?_, site⟩
    rw [At, place, placed]
    rfl
  · refine .inr ⟨name, by rwa [place], ?_⟩
    rcases held with ⟨own, placed, site⟩ | ⟨many, somewhere⟩
    · exact .inl ⟨own, by rw [place, placed]; rfl, site⟩
    · refine .inr ⟨depth.mpr many, fun other same => ?_⟩
      rw [place] at same
      cases placed : e.place.span with
      | none =>
        -- the inclusion stands in `home`, but the error names the template that it did not enter
        rw [placed] at same
        cases same
        exact ⟨home, here⟩
      | some own =>
        rw [placed] at same
        cases same
        exact somewhere _ placed

end Error

/-! Errors on the way to a template -/

/-- All templates that can be loaded are sited. One that cannot be loaded is not found, or its reading fails
with an error that is attributed. -/
structure Environment.Sited (sites : String → Span → Prop) (env : Environment) : Prop where
  templates : ∀ name t, env.load name = .ok t → t.Sited (sites t.name)
  errors : ∀ name e, env.load name = .error e →
    (∃ missing cause, e = .notFound missing cause) ∨ e.Attributed sites

section Loading

variable {sites : String → Span → Prop} {home : String} {env : Environment} {scopes : Scopes} {e : Error}

/-- A computation on behalf of a template fails with errors that are placed in it. -/
theorem FailsAt.blames {α : Type} {x : Except Failure α} (fails : FailsAt env (sites home) x)
    (failed : x = .error (.reported e)) : e.Blames sites home := by
  cases fails _ failed with
  | error placed here => exact .inl ⟨_, placed, here⟩

theorem loadFor_blames (known : env.Sited sites) {purpose : Purpose} {name : String} {span : Span}
    (here : sites home span) (failed : env.loadFor purpose name span = .error (.reported e)) :
    e.Blames sites home := by
  unfold Environment.loadFor at failed
  split at failed
  · cases failed
  · cases failed
    exact .inl ⟨span, rfl, here⟩
  · rename_i other unmissed stopped
    cases failed
    rcases known.errors name e stopped with ⟨missing, cause, rfl⟩ | attributed
    · exact absurd rfl (unmissed missing cause)
    · exact .inr attributed

theorem follow_blames (known : env.Sited sites) {depth : Nat} {members : List Template} {parent : Parent}
    (here : sites home parent.span ∧ sites home parent.name.span)
    (failed : env.follow scopes depth members parent = .error (.reported e)) : e.Blames sites home := by
  unfold Environment.follow at failed
  cases named : env.evalTemplateName scopes parent.name with
  | error e' =>
    rw [named] at failed
    cases failed
    exact (evalTemplateName_failsAt here.2).blames named
  | ok name =>
    simp only [named, bind, Except.bind] at failed
    split at failed
    · cases failed
      exact .inl ⟨parent.span, rfl, here.1⟩
    · split at failed
      · cases failed
        exact .inl ⟨parent.span, rfl, here.1⟩
      · exact loadFor_blames known here.1 failed

/-- An error on the way up a chain is attributed to the template that holds the link. -/
theorem ancestors_error (known : env.Sited sites) {depth : Nat} {below : List Template} {t : Template}
    (sited : t.Sited (sites t.name))
    (failed : env.ancestors scopes depth below t = .error (.reported e)) :
    e.Attributed sites := by
  -- every link takes some of the room that the depth leaves for the chain
  induction room : env.options.maxDepth + 1 - (depth + below.length) using Nat.strong_induction_on
    generalizing below t with
  | h room ih =>
    cases link : t.parent with
    | none =>
      unfold Environment.ancestors at failed
      simp only [link] at failed
      cases failed
    | some parent =>
      rw [ancestors_link link] at failed
      cases reached : env.follow scopes depth (below ++ [t]) parent with
      | error failure =>
        simp only [reached, Except.mapError, bind, Except.bind] at failed
        cases failure with
        | reported e' =>
          cases failed
          exact (follow_blames known (sited.parent parent link) reached).inTemplate
        | breakdown => cases failed
      | ok next =>
        obtain ⟨name, -, -, fits, loaded⟩ := follow_ok_iff.mp reached
        simp only [reached, Except.mapError, bind, Except.bind] at failed
        cases further : env.ancestors scopes depth (below ++ [t]) next with
        | error e' =>
          rw [further] at failed
          cases failed
          refine ih _ ?_ (known.templates name next loaded) further rfl
          simp only [List.length_append, List.length_singleton] at fits ⊢
          omega
        | ok rest =>
          rw [further] at failed
          cases failed

end Loading

/-! The renderer -/

namespace Render

/-- The definitions of blocks in the innermost of the frames are sited in the templates that make them. -/
def FramesSited (sites : String → Span → Prop) (frames : List Frame) : Prop :=
  ∀ frame ∈ frames.head?, ∀ name, ∀ d ∈ frame.definitions name, AllSited (sites d.template) d.body

variable {sites : String → Span → Prop} {home : String} {env : Environment} {walk : Walk}
  {frames : List Frame} {body : List Node} {span : Span}

theorem writeFiltered_fails (here : sites home span) (calls : List FilterCall) (text : String) :
    FailsOnly frames (Error.Blames sites home) (writeFiltered env span calls text) :=
  bind_fails (eval_fails fun _ _ failed => (applyFilters_failsAt here calls _).blames failed)
    fun value _ _ _ => write_fails value.text

theorem framesSited_activated (sited : FramesSited sites frames) (b : ActiveBlock) :
    FramesSited sites (activated b frames) := by
  cases frames with
  | nil => exact sited
  | cons frame outer =>
    intro innermost same
    cases same
    exact sited frame rfl

/-- The definitions that a chain gives are sited if its templates are. -/
theorem framesSited_chain {chain : List Template} (sited : ∀ t ∈ chain, t.Sited (sites t.name)) :
    FramesSited sites (⟨chain, []⟩ :: frames) := by
  intro frame same name d member
  cases same
  obtain ⟨t, listed, b, declared, rfl⟩ := mem_definitions member
  exact (sited t listed).blocks name b declared

/-- Wherever the frames are sited, the nodes of a template fail only with errors that blame it or have been
attributed. -/
def WalkFails (sites : String → Span → Prop) (walk : Walk) : Prop :=
  ∀ frames home body, FramesSited sites frames → AllSited (sites home) body →
    FailsOnly frames (Error.Blames sites home) (nodes walk body)

section Walks

variable (known : env.Sited sites) (walks : WalkFails sites walk)
include walks

theorem definition_fails (sited : FramesSited sites frames) (name : String) (level : Nat)
    {d : Definition} (defined : AllSited (sites d.template) d.body) :
    FailsOnly frames (Error.Attributed sites) (definition walk name level d) := by
  have inner := walks _ d.template d.body (framesSited_activated sited ⟨name, level⟩) defined
  exact inBlock_fails (mapError_fails inner fun e blames => blames.inTemplate)

theorem block_fails (sited : FramesSited sites frames) (name : String)
    (own : AllSited (sites home) body) :
    FailsOnly frames (Error.Blames sites home) (block walk name body) := by
  unfold block
  refine get_bind_fails fun s start => ?_
  have plain := walks frames home body sited own
  split
  · exact plain
  · rename_i frame outer innermost
    split
    · exact plain
    · rename_i d less found
      have defined := sited frame (by simp [← start, innermost]) name d (by simp [found])
      exact (definition_fails walks sited name 0 defined).mono fun _ => .inr

theorem inherited_fails (sited : FramesSited sites frames) (here : sites home span) :
    FailsOnly frames (Error.Blames sites home) (inherited env walk span) := by
  unfold inherited
  refine get_bind_fails fun s start => ?_
  split
  · rename_i chain active outer further innermost
    dsimp only
    split
    · rename_i d found
      have defined := sited _ (by rw [← start, innermost]; rfl) _ d (List.mem_of_getElem? found)
      exact capture_fails ((definition_fails walks sited _ _ defined).mono fun _ => .inr)
    · exact pure_fails _
  · split
    · exact report_fails (.inl ⟨span, rfl, here⟩)
    · exact pure_fails _

theorem output_fails (sited : FramesSited sites frames) {p : Pipeline} (here : sites home p.span) :
    FailsOnly frames (Error.Blames sites home) (output env walk p) := by
  unfold output
  split
  · refine bind_fails (inherited_fails walks sited here) fun text _ _ _ => ?_
    split
    · exact write_fails text
    · exact writeFiltered_fails here p.filters text
  · exact bind_fails (eval_fails fun _ _ failed => (evalPipeline_failsAt here).blames failed)
      fun value _ _ _ => write_fails _

theorem last_fails (sited : FramesSited sites frames) {part : Option (List Node)}
    (last : ∀ body ∈ part, AllSited (sites home) body) :
    FailsOnly frames (Error.Blames sites home) (nodes walk (part.getD [])) := by
  refine walks frames home _ sited ?_
  cases part with
  | none => exact nofun
  | some body => exact last body rfl

theorem branches_fails (sited : FramesSited sites frames) {elseBody : Option (List Node)}
    {parts : List (Condition × List Node)} (last : ∀ body ∈ elseBody, AllSited (sites home) body)
    (placed : ∀ part ∈ parts, part.1.Sited (sites home) ∧ AllSited (sites home) part.2) :
    FailsOnly frames (Error.Blames sites home) (branches env walk elseBody parts) := by
  induction parts with
  | nil => exact last_fails walks sited last
  | cons part rest ih =>
    obtain ⟨condition, inner⟩ := placed part List.mem_cons_self
    refine bind_fails (eval_fails fun _ _ failed => (evalCondition_failsAt condition).blames failed)
      fun holds _ _ _ => ?_
    split
    · exact walks frames home _ sited inner
    · exact ih fun part member => placed part (List.mem_cons_of_mem _ member)

theorem iterations_fails (sited : FramesSited sites frames) (inner : AllSited (sites home) body)
    (length index : Nat) (scopes : List Members) :
    FailsOnly frames (Error.Blames sites home) (iterations walk body length index scopes) := by
  induction scopes generalizing index with
  | nil => exact pure_fails ()
  | cons scope rest ih =>
    exact bind_fails (inScope_fails (walks frames home body sited inner)) fun _ _ _ _ => ih (index + 1)

theorem loop_fails (sited : FramesSited sites frames) {header : LoopHeader}
    {emptyBody : Option (List Node)} (placed : header.Sited (sites home))
    (inner : AllSited (sites home) body) (last : ∀ body ∈ emptyBody, AllSited (sites home) body) :
    FailsOnly frames (Error.Blames sites home) (loop env walk header body emptyBody) := by
  refine bind_fails (eval_fails fun scopes e failed => ?_) fun scopes _ _ _ => ?_
  · exact (failsAt_bind (evalPipeline_failsAt placed.iterable) fun _ _ =>
      select_failsAt placed.iterable placed.selection _).blames failed
  · split
    · exact last_fails walks sited last
    · exact iterations_fails walks sited inner _ 0 scopes

include known

/-- What a template fails with is attributed when it leaves the template. -/
theorem template_fails {t : Template} (own : t.Sited (sites t.name)) :
    FailsOnly frames (Error.Attributed sites) (template env walk t) := by
  unfold template
  refine get_bind_fails fun s start => ?_
  split
  · exact report_fails ⟨t.name, rfl, .inr ⟨trivial, nofun⟩⟩
  · refine deeper_fails (get_bind_fails fun s start => ?_)
    refine ofExcept_bind_fails (fun e failed => ancestors_error known own failed) fun chain resolved => ?_
    have each : ∀ u ∈ chain, u.Sited (sites u.name) :=
      forall_mem_chain own known.templates resolved
    have last := each _ (last_mem_chain resolved)
    have framed : FramesSited sites (⟨chain, []⟩ :: frames) := framesSited_chain each
    have inner := walks _ _ _ framed last.root
    exact inFrame_fails (mapError_fails inner fun e blames => blames.inTemplate)

theorem inclusion_fails {header : IncludeHeader} (here : sites home span)
    (placed : header.Sited (sites home)) :
    FailsOnly frames (Error.Blames sites home) (inclusion env walk span header) := by
  refine bind_fails (eval_fails fun _ _ failed => (evalTemplateName_failsAt placed.template).blames failed)
    fun name _ _ _ => ?_
  refine bind_fails (eval_fails fun _ _ failed => (handedOn_failsAt placed.data).blames failed)
    fun members _ _ _ => ?_
  refine ofExcept_bind_fails (fun e failed => loadFor_blames known here failed) fun t loaded => ?_
  have own := known.templates name t (load_of_loadFor loaded)
  have inner : FailsOnly frames (Error.Blames sites home) (template env walk t) :=
    (template_fails known walks own).mono fun _ => .inr
  cases header.visibility with
  | inherited => exact inScope_fails inner
  | isolated => exact isolated_fails inner

end Walks

/-- A tag of a host is blamed for what it reports without a place. -/
theorem custom_fails (walks : WalkFails sites walk) (sited : FramesSited sites frames)
    {action : TagAction} (here : sites home span) (placed : action.Sited (sites home))
    (inner : AllSited (sites home) body) :
    FailsOnly frames (Error.Blames sites home)
      (mapError (Error.orSpan span) (custom env walk span body action)) := by
  have own := walks frames home body sited inner
  have fails : FailsOnly frames (fun e => (∃ fault, e = .ofFault fault) ∨ e.Blames sites home)
      (custom env walk span body action) := by
    cases action with
    | write text => exact write_fails text
    | fail message => exact report_fails (.inl ⟨_, rfl⟩)
    | filter calls =>
      refine (bind_fails (capture_fails own) fun text _ _ _ => ?_).mono fun _ => .inr
      exact writeFiltered_fails here calls text
    | iterate count =>
      refine bind_fails (eval_fails fun _ _ failed => .inr ((evalPipeline_failsAt placed).blames failed))
        fun value _ _ _ => ?_
      split
      · split
        · exact times_fails (own.mono fun _ => .inr) _
        · exact report_fails (.inl ⟨_, rfl⟩)
      · exact report_fails (.inl ⟨_, rfl⟩)
  refine mapError_fails fails fun e known => ?_
  rcases known with ⟨fault, rfl⟩ | blames
  · exact .inl ⟨span, rfl, here⟩
  · exact blames.orSpan here

/-- A node fails only with errors that blame its template or have been attributed. -/
theorem step_fails (known : env.Sited sites) (walks : WalkFails sites walk)
    (sited : FramesSited sites frames) {n : Node} (own : n.Sited (sites home))
    (inside : ∀ inner ∈ n.bodies, AllSited (sites home) inner) :
    FailsOnly frames (Error.Blames sites home) (step env walk n) := by
  cases n with
  | text span text => exact write_fails text
  | output span source p => exact output_fails walks sited own
  | comment span text => exact pure_fails ()
  | conditional span condition thenBody others elseBody =>
    refine branches_fails walks sited (fun body member => inside body ?_) fun part member => ?_
    · simp [Node.bodies, Option.mem_def.mp member]
    · refine ⟨?_, inside part.2 (Node.bodies_of_part member)⟩
      rcases List.mem_cons.mp member with rfl | among
      · exact own.1
      · obtain ⟨branch, listed, rfl⟩ := List.mem_map.mp among
        exact own.2 branch listed
  | loop span header body emptyBody =>
    refine loop_fails walks sited own (inside body (by simp [Node.bodies])) fun body member => inside body ?_
    simp [Node.bodies, Option.mem_def.mp member]
  | inclusion span header => exact inclusion_fails known walks own.1 own.2
  | inheritance span parent => exact pure_fails ()
  | block span name body => exact block_fails walks sited name (inside body (by simp [Node.bodies]))
  | custom span keyword action body =>
    exact custom_fails walks sited own.1 own.2 (inside body (by simp [Node.bodies]))

/-- Nodes fail only with such errors under every bound. -/
theorem node_fails (known : env.Sited sites) (bound : Nat) : WalkFails sites (node env bound) := by
  induction bound with
  | zero => exact fun _ _ _ _ _ => each_fails fun _ _ => exhaust_fails
  | succ bound ih =>
    intro frames home body sited all
    refine each_fails fun n member => step_fails known ih sited (all n member n .self) ?_
    exact fun inner listed m among k inside => all n member k (.nested listed among inside)

end Render

/-! Renders -/

/-- The places of outputs and tags in stored sources, by the names of the templates. -/
def MarkupIn (sources : Table String) (name : String) (span : Span) : Prop :=
  ∃ source, Table.get? sources name = some source ∧ MarkupAt source span

/-- The error that a render has failed with. -/
def Halt.error? {α : Type} : Except Halt α → Option Error
  | .error (.failed (.reported e)) => some e
  | _ => none

theorem Halt.error?_eq_some {α : Type} {x : Except Halt α} {e : Error} :
    Halt.error? x = some e ↔ x = .error (.failed (.reported e)) := by
  rcases x with ((error | _) | _) | a <;> simp [error?]

/-- A template, and one that includes it from inside of a tag of the host. -/
def filteredSources (included : String) : Table String :=
  .ofList [("a", included),
    ("main", "{% filter upper %}" ++ "\x7b% include 'a' %\x7d" ++ "{% endfilter %}")]

namespace Environment

variable {env : Environment} {sources : Table String} {sites : String → Span → Prop} {bound : Nat}
  {name : String} {data : Value} {e : Error}

/-- Templates read from stored sources are sited in them, with tags that fail at a place. -/
theorem sited_of_stored (stored : env.loader = some (.ofTable sources)) (placed : Tag.Placed env.tags) :
    env.Sited (MarkupIn sources) := by
  have read : ∀ name, env.load name = .error (.notFound name none) ∨
      ∃ source, Table.get? sources name = some source ∧ env.load name = env.template name source := by
    intro name
    simp only [load, stored, Loader.ofTable]
    cases Table.get? sources name with
    | none => exact .inl rfl
    | some source => exact .inr ⟨source, rfl, rfl⟩
  constructor
  · intro name t loaded
    rcases read name with missing | ⟨source, found, same⟩
    · cases missing.symm.trans loaded
    · obtain ⟨rfl, sited⟩ := ofSource_sited (same.symm.trans loaded)
      have here : MarkupIn sources t.name = MarkupAt source := by
        funext span
        simp [MarkupIn, found]
      rwa [here]
  · intro name e failed
    rcases read name with missing | ⟨source, found, same⟩
    · cases missing.symm.trans failed
      exact .inl ⟨name, none, rfl⟩
    · obtain ⟨span, place, site⟩ := ofSource_error placed (same.symm.trans failed)
      exact .inr ⟨name, by rw [place], .inl ⟨span, by rw [place], source, found, site⟩⟩

/-- An error of a render by name is attributed, unless the template is not found. -/
theorem renderNamed_attributed (known : env.Sited sites)
    (failed : env.renderNamed bound name data = .error (.failed (.reported e))) :
    (∃ missing cause, e = .notFound missing cause) ∨ e.Attributed sites := by
  unfold renderNamed at failed
  cases loaded : env.load name with
  | error e' =>
    rw [loaded] at failed
    cases failed
    exact known.errors name e loaded
  | ok t =>
    rw [loaded] at failed
    have own := known.templates name t loaded
    have inner : Render.FailsOnly [] (Error.Attributed sites)
        (Render.template env (Render.node env bound) t) :=
      Render.template_fails known (Render.node_fails known bound) own
    have outer := Render.mapError_fails inner fun e attributed => attributed.inTemplate t.name
    have ended := outer { scopes := Scopes.ofData data } rfl
    refine .inr (ended.2 e ?_)
    simp only [render] at failed
    split at failed
    · cases failed
    · rename_i halt after stopped
      cases failed
      rw [stopped]

/-- The standard setting with a template and one that includes it from inside of a tag of the host. -/
def filtering (included : String) (options : RenderOptions) : Environment :=
  { standard with loader := some (.ofTable (filteredSources included)), options := options }

/-- An error that names a template and has a place stands at an output or a tag in the source of that
template. Only that too many templates are entered is placed elsewhere, at an output or a
tag of some template. -/
theorem error_points_into_template (stored : env.loader = some (.ofTable sources))
    (placed : Tag.Placed env.tags) (failed : env.renderNamed bound name data = .error (.failed (.reported e)))
    {span : Span} {blamed : String} (known : e.place = ⟨some span, some blamed⟩) :
    ∃ owner source, Table.get? sources owner = some source ∧ MarkupAt source span ∧
      (owner = blamed ∨ e.IsDepth) := by
  have sited := sited_of_stored stored placed
  rcases renderNamed_attributed sited failed with ⟨missing, cause, rfl⟩ | attributed
  · cases known
  · obtain ⟨named, same, held⟩ := attributed
    rw [known] at same held
    cases same
    rcases held with ⟨other, same, source, found, site⟩ | ⟨many, somewhere⟩
    · cases same
      exact ⟨_, source, found, site, .inl rfl⟩
    · obtain ⟨owner, source, found, site⟩ := somewhere span rfl
      exact ⟨owner, source, found, site, .inr many⟩

/-- Something undefined in an included template, which is reported through a tag of the host around the
inclusion. -/
theorem undefined_points_into_template :
    ∃ e span,
      (filtering "-\x7b\x7b x \x7d\x7d" { strictUndefined := true }).renderNamed 4 "main" (.object .nil) =
        .error (.failed (.reported e)) ∧
      e.place = ⟨some span, some "a"⟩ ∧
      ∃ owner source, Table.get? (filteredSources "-\x7b\x7b x \x7d\x7d") owner = some source ∧
        MarkupAt source span ∧ (owner = "a" ∨ e.IsDepth) := by
  have failed : (filtering "-\x7b\x7b x \x7d\x7d" { strictUndefined := true }).renderNamed 4 "main"
      (.object .nil) = .error (.failed (.reported (.raised (.undefinedVariable ⟨"x", []⟩)
        ⟨some ⟨⟨4, 1, 5⟩, ⟨5, 1, 6⟩⟩, some "a"⟩))) :=
    Halt.error?_eq_some.mp (by decide +kernel)
  exact ⟨_, _, failed, rfl, error_points_into_template rfl Tag.standard_placed failed rfl⟩

/-- An included template that is one too many is blamed at the tag of a host around the inclusion, in
another template. -/
theorem depth_points_elsewhere :
    ¬∀ (sources : Table String) (options : RenderOptions) bound name data e span blamed,
      let env := { standard with loader := some (.ofTable sources), options := options : Environment }
      env.renderNamed bound name data = .error (.failed (.reported e)) →
      e.place = ⟨some span, some blamed⟩ →
      ∃ source, Table.get? sources blamed = some source ∧
        ∃ first last, MarkupAt source first ∧ MarkupAt source last ∧
          span = ⟨first.start, last.stop⟩ := by
  intro points
  have failed : (filtering "x" { maxDepth := 1 }).renderNamed 4 "main" (.object .nil) =
      .error (.failed (.reported (.raised (.depthExceeded 1)
        ⟨some ⟨⟨3, 1, 4⟩, ⟨15, 1, 16⟩⟩, some "a"⟩))) :=
    Halt.error?_eq_some.mp (by decide +kernel)
  obtain ⟨source, found, first, -, ⟨token, among, markup, -⟩, -⟩ :=
    points (filteredSources "x") { maxDepth := 1 } 4 "main" _ _ _ "a" failed rfl
  obtain rfl : "x" = source := Option.some.inj found
  have plain : ∀ token ∈ tokenize "x", ¬(token.kind = .output ∨ token.kind = .tag) := by decide +kernel
  exact plain token among markup

end Environment

end TextTemplate
