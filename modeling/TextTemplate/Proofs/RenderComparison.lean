import TextTemplate.Proofs.ChainResolution
import TextTemplate.Proofs.RenderCarry

/-! Comparing whole renders. What depends on frames and on depth carries over too: templates with their
chains, blocks and inherited content. Two settings are in accord if they evaluate alike, open
templates alike and treat `super` outside of a block alike. A render depends on the depth, the
scopes and the innermost frame alone, so states are near each other that agree there, and then
what carries over for the nodes inside a node carries over for the node. -/
namespace TextTemplate

/-- Two states agree in all that a render depends on: they have the same innermost frame, scopes that are
alike, and depths that correspond. -/
structure Near (alike : Scopes → Scopes → Prop) (level : Nat → Nat → Prop) (s t : RenderState) :
    Prop where
  depth : level s.depth t.depth
  scopes : alike s.scopes t.scopes
  frame : t.frames.head? = s.frames.head?

namespace Near

variable {alike : Scopes → Scopes → Prop} {level : Nat → Nat → Prop} {s t : RenderState}

theorem refl (s : RenderState) : Near Eq Eq s s := ⟨rfl, rfl, rfl⟩

/-- Either there is no frame in both states, or there is the same innermost one. -/
theorem frames (near : Near alike level s t) :
    (s.frames = [] ∧ t.frames = []) ∨
      ∃ frame outer outer', s.frames = frame :: outer ∧ t.frames = frame :: outer' := by
  have top := near.frame
  cases left : s.frames with
  | nil =>
    cases right : t.frames with
    | nil => exact .inl ⟨rfl, rfl⟩
    | cons frame outer' => simp [left, right] at top
  | cons frame outer =>
    cases right : t.frames with
    | nil => simp [left, right] at top
    | cons frame' outer' =>
      obtain rfl : frame' = frame := by simpa [left, right] using top
      exact .inr ⟨frame', outer, outer', rfl, rfl⟩

theorem definitions (near : Near alike level s t) (name : String) :
    t.definitions name = s.definitions name := by
  rcases near.frames with ⟨left, right⟩ | ⟨frame, outer, outer', left, right⟩ <;>
    simp only [RenderState.definitions, left, right]

theorem place (near : Near alike level s t) : t.place = s.place := by
  rcases near.frames with ⟨left, right⟩ | ⟨frame, outer, outer', left, right⟩ <;>
    simp only [RenderState.place, left, right]

theorem inBlock (near : Near alike level s t) (b : ActiveBlock) :
    Near alike level (Render.mapActive (b :: ·) s) (Render.mapActive (b :: ·) t) := by
  rcases near.frames with ⟨left, right⟩ | ⟨frame, outer, outer', left, right⟩
  · simpa only [Render.mapActive, left, right] using near
  · simp only [Render.mapActive, left, right]
    exact ⟨near.depth, near.scopes, rfl⟩

end Near

/-- The chain by which a template is rendered that is entered at a depth, if the depth leaves room for
it. -/
def Environment.opening (env : Environment) (scopes : Scopes) (depth : Nat) (t : Template) :
    Except Failure (List Template) :=
  if env.options.maxDepth ≤ depth then
    .error (.reported ((Error.ofFault (.depthExceeded env.options.maxDepth)).inTemplate t.name))
  else env.resolveChain scopes (depth + 1) t

/-- What `super` gives outside of every block. -/
def Environment.orphaned (env : Environment) (span : Span) : Except Failure String :=
  if env.options.strictUndefined then .error (.reported (.spanned .superOutsideBlock span)) else .ok ""

/-- Two settings evaluate alike and also open templates alike, at depths that correspond. -/
structure Accord (keeps : Halt → Prop) (env env' : Environment) (alike : Scopes → Scopes → Prop)
    (level : Nat → Nat → Prop) : Prop extends Agreement keeps env env' alike where
  deeper : ∀ {depth depth'}, level depth depth' → level (depth + 1) (depth' + 1)
  opened : ∀ {scopes scopes' depth depth'}, alike scopes scopes' → level depth depth' → ∀ t,
    Kept keeps (env.opening scopes depth t) (env'.opening scopes' depth' t)
  orphaned : ∀ span, Kept keeps (env.orphaned span) (env'.orphaned span)
  named : ∀ name e, keeps (.failed (e.map (Error.inTemplate name))) → keeps (.failed e)

section Settings

variable {keeps : Halt → Prop} {env env' : Environment} {alike : Scopes → Scopes → Prop}
  {scopes scopes' : Scopes} (named : ∀ name e, keeps (.failed (e.map (Error.inTemplate name))) →
    keeps (.failed e))
include named

/-- A setting is in accord with itself. -/
theorem Accord.same (env : Environment)
    (spanned : ∀ span e, keeps (.failed (e.map (Error.orSpan span))) → keeps (.failed e)) :
    Accord keeps env env Eq Eq where
  toAgreement := .same env spanned
  deeper := congrArg (· + 1)
  opened scopes depth t := .of_eq (by rw [scopes, depth])
  orphaned span := .refl _
  named := named

/-- Chains are found alike where each of their links is followed alike, at whatever depths. -/
theorem ancestors_kept {depth depth' : Nat}
    (followed : ∀ members parent, Kept keeps (env.follow scopes depth members parent)
      (env'.follow scopes' depth' members parent)) (below : List Template) (current : Template) :
    Kept keeps (env.ancestors scopes depth below current)
      (env'.ancestors scopes' depth' below current) := by
  -- The room that the depth leaves for the chain shrinks with every link.
  induction room : env.options.maxDepth + 1 - (depth + below.length)
    using Nat.strongRecOn generalizing below current with
  | _ left ih =>
    cases link : current.parent with
    | none =>
      unfold Environment.ancestors
      simp only [link]
      exact .refl _
    | some parent =>
      rw [ancestors_link link, ancestors_link link]
      refine ((followed _ parent).reworded (named current.name)).bind_of fun next reached => ?_
      obtain ⟨name, -, -, less, -⟩ := follow_ok_iff.mp (mapError_ok reached)
      have longer : (below ++ [current]).length = below.length + 1 := by simp
      have further := ih _ (by omega) (below ++ [current]) next rfl
      exact further.bind fun rest => .refl _

variable (agree : Agreement keeps env env' alike) (near : alike scopes scopes')
  (limit : env'.options.maxDepth = env.options.maxDepth)
include agree near limit

/-- Settings that agree find the same chains if they limit them alike. -/
theorem Agreement.ancestors (depth : Nat) (below : List Template) (current : Template) :
    Kept keeps (env.ancestors scopes depth below current)
      (env'.ancestors scopes' depth below current) := by
  refine ancestors_kept named (fun members parent => ?_) below current
  refine (agree.templateName near parent.name).bind fun name => ?_
  rw [limit]
  split
  · exact .refl _
  · split
    · exact .refl _
    · exact agree.loaded .inheritance name parent.span

theorem Agreement.opening (depth : Nat) (t : Template) :
    Kept keeps (env.opening scopes depth t) (env'.opening scopes' depth t) := by
  rw [Environment.opening, Environment.opening, limit]
  split
  · exact .refl _
  · exact agree.ancestors named near limit (depth + 1) [] t

end Settings

namespace Render

variable {keeps : Halt → Prop} {C : Comparison keeps} {env env' : Environment}
  {alike : Scopes → Scopes → Prop} {level : Nat → Nat → Prop} {walk : Walk} {walk' : Nat → Walk}
  {s t : RenderState}

/-- Renders the tree of the last ancestor of a template, one level deeper and in a frame of its own. -/
def walkChain (walk : Walk) (u : Template) (chain : List Template) : Render Unit :=
  deeper (inFrame chain (mapError (Error.inTemplate (chain.getLastD u).name)
    (nodes walk (chain.getLastD u).root)))

/-- A template is rendered by finding its chain and walking it. -/
theorem template_walks (tidy : ∀ n, Tidy (walk n)) (u : Template) (s : RenderState) :
    (template env walk u).effect s =
      (Render.bind (ofExcept (env.opening s.scopes s.depth u)) (walkChain walk u)).effect s := by
  have walked : ∀ chain, Acts (walkChain walk u chain) fun s =>
      ((nodes walk (chain.getLastD u).root).effect (s.deeper.entered chain)).mapError
        (Error.inTemplate (chain.getLastD u).name) := fun chain =>
    deeper_acts (inFrame_acts chain (mapError_acts _ (nodes_tidy tidy _)))
  have whole := bind_acts (ofExcept_acts (env.opening s.scopes s.depth u)) walked
  rw [template_effect env tidy, whole.effect_eq, Environment.opening]
  split
  · rfl
  · cases env.resolveChain s.scopes (s.depth + 1) u with
    | error e => rfl
    | ok chain => simp only [Effect.ofExcept, Effect.andThen_pure]

theorem body_carries (walks : ∀ {s t}, Near alike level s t → ∀ n,
      Carries C (walk n) (fun k => walk' k n) s t)
    (near : Near alike level s t) (body : List Node) : BodyCarries C walk walk' s t body body :=
  nodes_carries (List.forall₂_same.mpr fun n _ => walks near n)

theorem definition_carries {name : String} {place : Nat} {d : Definition}
    (named : ∀ name e, keeps (.failed (e.map (Error.inTemplate name))) → keeps (.failed e))
    (carries : BodyCarries C walk walk' (mapActive (⟨name, place⟩ :: ·) s)
      (mapActive (⟨name, place⟩ :: ·) t) d.body d.body) :
    Carries C (definition walk name place d) (fun k => definition (walk' k) name place d) s t :=
  inBlock_carries (mapError_carries (named d.template) carries)

/-- A template carries over between states in which its chain is found alike. -/
theorem template_opens (named : ∀ name e, keeps (.failed (e.map (Error.inTemplate name))) → keeps (.failed e))
    (walks : ∀ {s t}, Near alike level s t → ∀ n, Carries C (walk n) (fun k => walk' k n) s t)
    (near : ∀ chain, Near alike level (s.deeper.entered chain) (t.deeper.entered chain))
    {u : Template} (opened : Kept keeps (env.opening s.scopes s.depth u)
      (env'.opening t.scopes t.depth u)) :
    Carries C (template env walk u) (fun k => template env' (walk' k) u) s t := by
  have tidy := fun n => (walks (near []) n).tidy
  have tidy' := fun k n => (walks (near []) n).family_tidy k
  have walked : ∀ chain, Carries C (walkChain walk u chain) (fun k => walkChain (walk' k) u chain) s t :=
    fun chain => deeper_carries (inFrame_carries
      (mapError_carries (named _) (body_carries walks (near chain) _)))
  exact .of_effects (template_tidy env tidy u) (fun k => template_tidy env' (tidy' k) u)
    (template_walks tidy u s) (fun k => template_walks (tidy' k) u t)
    (bind_carries (ofExcept_carries opened) walked)

section Walks

variable (accord : Accord keeps env env' alike level)
  (walks : ∀ {s t}, Near alike level s t → ∀ n, Carries C (walk n) (fun k => walk' k n) s t)
include accord walks

/-- Templates carry over between states whose depths correspond and whose scopes are alike. -/
theorem template_accords (depth : level s.depth t.depth) (scopes : alike s.scopes t.scopes)
    (u : Template) :
    Carries C (template env walk u) (fun k => template env' (walk' k) u) s t :=
  template_opens accord.named walks (fun _ => ⟨accord.deeper depth, scopes, rfl⟩)
    (accord.opened scopes depth u)

theorem templates_accord (depth : level s.depth t.depth) (scopes : alike s.scopes t.scopes) :
    TemplatesCarry C env env' walk walk' s t := fun u members =>
  ⟨template_accords (s := s.push members) (t := t.push members) accord walks depth
      (accord.pushed scopes members) u,
    template_accords (s := { s with scopes := ⟨[], members⟩ }) (t := { t with scopes := ⟨[], members⟩ })
      accord walks depth (accord.isolated members) u⟩

variable (near : Near alike level s t)
include near

theorem block_accords (name : String) (body : List Node) :
    Carries C (block walk name body) (fun k => block (walk' k) name body) s t := by
  have tidy := block_tidy (fun n => (walks near n).tidy) name body
  have tidy' := fun k => block_tidy (fun n => (walks near n).family_tidy k) name body
  have left := block_effect walk name body s
  have right := fun k => block_effect (walk' k) name body t
  simp only [near.definitions] at right
  cases found : s.definitions name with
  | nil =>
    simp only [found] at left right
    exact .of_effects tidy tidy' left right (body_carries walks near body)
  | cons d less =>
    simp only [found] at left right
    have inside := body_carries walks (near.inBlock ⟨name, 0⟩) d.body
    exact .of_effects tidy tidy' left right (definition_carries accord.named inside)

theorem inherited_accords (span : Span) :
    Carries C (inherited env walk span) (fun k => inherited env' (walk' k) span) s t := by
  have tidy := fun n => (walks near n).tidy
  have tidy' := fun k n => (walks near n).family_tidy k
  have whole := inherited_tidy env tidy span
  have whole' := fun k => inherited_tidy env' (tidy' k) span
  have left := inherited_effect env tidy span s
  have right := fun k => inherited_effect env' (tidy' k) span t
  simp only [near.place, near.definitions] at right
  cases standing : s.place with
  | none =>
    simp only [standing] at left right
    refine .of_effects whole whole' (left.trans ?_) (fun k => (right k).trans ?_)
      (ofExcept_carries (s := s) (t := t) (accord.orphaned span))
    · rw [(ofExcept_acts _).effect_eq, Environment.orphaned]
      split <;> rfl
    · rw [(ofExcept_acts _).effect_eq, Environment.orphaned]
      split <;> rfl
  | some b =>
    simp only [standing] at left right
    cases found : (s.definitions b.name)[b.level + 1]? with
    | none =>
      simp only [found] at left right
      exact .of_effects whole whole' (left.trans ((pure_acts "").effect_eq s).symm)
        (fun k => (right k).trans ((pure_acts "").effect_eq t).symm) (pure_carries "")
    | some d =>
      simp only [found, ← capture_effect (definition_tidy tidy _ _ d),
        ← capture_effect (definition_tidy (tidy' _) _ _ d)] at left right
      have inside := body_carries walks (near.inBlock ⟨b.name, b.level + 1⟩) d.body
      exact .of_effects whole whole' left right
        (capture_carries (definition_carries accord.named inside))

/-- One level of nodes carries over between states that are near each other if the levels inside it do. -/
theorem step_accords (n : Node) :
    Carries C (step env walk n) (fun k => step env' (walk' k) n) s t := by
  have inside : ∀ body, BodyCarriesIn C walk walk' s t body body := fun body =>
    ⟨body_carries walks near body, fun scope =>
      body_carries walks (s := s.push scope) (t := t.push scope)
        ⟨near.depth, accord.pushed near.scopes scope, near.frame⟩ body⟩
  have templates := templates_accord accord walks near.depth near.scopes
  rcases n.plain_cases with plain | ⟨span, source, p, inherits, rfl⟩ | ⟨span, name, body, rfl⟩
  · exact step_carries accord.toAgreement near.scopes plain (.refl inside n) templates
  · simp only [step, output, inherits, if_true]
    refine bind_carries (inherited_accords accord walks near p.span) fun text => ?_
    split
    · exact write_carries text
    · exact writeFiltered_carries accord.toAgreement near.scopes p.span p.filters text
  · exact block_accords accord walks near name body

end Walks

/-- Under one bound nodes carry over between two settings in accord, in states that are near each other. -/
theorem node_accords (accord : Accord keeps env env' alike level) (bound : Nat) :
    ∀ {s t}, Near alike level s t → ∀ n,
      Carries C (node env bound n) (fun _ => node env' bound n) s t := by
  induction bound with
  | zero => exact fun _ n => ⟨exhaust_acts.tidy, fun _ => exhaust_acts.tidy, C.same _⟩
  | succ bound ih => exact fun near n => step_accords accord ih near n

end Render

end TextTemplate
