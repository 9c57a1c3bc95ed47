import TextTemplate.Proofs.DeclaredBlocks

/-! The parent that a template declares. The tree of a template declares one at most, in the outermost
list of nodes and after nothing but text and comments; it is the parent that the template
is known by. The outermost list only grows while a template is read, so that what it holds
when the parent is declared stays where it is. -/
namespace TextTemplate

/-- The parent that a node declares. -/
def Node.parent? : Node → Option Parent
  | .inheritance span name => some ⟨span, name⟩
  | _ => none

/-- The declarations of a parent among nodes and inside them, in the order of the source. -/
def inheritances (ns : List Node) : List Parent := gathered Node.parent? ns

/-- Text and comments, after which a parent may be declared. -/
def Node.isContent : Node → Bool
  | .text _ _ | .comment _ _ => true
  | _ => false

namespace Table

variable {α : Type}

/-- A new key is one key more. -/
theorem keys_insertAbove {low : Option String} {entries : Entries α low} {key : String}
    (above : ∀ bound ∈ low, bound < key) (fresh : contains entries key = false) (a : α) :
    (keys (insertAbove key a entries above)).Perm (key :: keys entries) := by
  induction entries with
  | nil => exact .refl _
  | cons k b first rest ih =>
    have other : ¬ k = key := fun same => by simp [contains, get?, same] at fresh
    have later : contains rest key = false := by simpa [contains, get?, other] using fresh
    rw [insertAbove, dif_neg other]
    split
    · exact .refl _
    · exact ((ih _ later).cons k).trans (.swap key k _)

end Table

namespace Parsing

variable {tags : Table Tag} {s s' : Parsing} {token : Token} {next : Option Token}

/-- The list of the nodes that stand in no tag, last first. -/
def outermost (s : Parsing) : List Node :=
  match s.opened.getLast? with
  | some tag => tag.before
  | none => s.nodes

theorem Stands.parent {n : Node} (node : Stands tags token next n) : n.parent? = none := by
  cases node <;> rfl

theorem Stands.content {n : Node} (node : Stands tags token next n) (content : token.isContent) :
    n.isContent := by
  cases node with
  | text | comment => rfl
  | output kind | inclusion kind | custom kind => simp [Token.isContent, kind] at content

theorem Ends.parent {start : Token} {body : List Node} {o : OpenPart} {n : Node}
    (node : Ends start body token o n) : n.parent? = none := by
  cases node <;> rfl

/-- A step declares no parent, or the first. -/
theorem Step.inherits (step : Step tags s token next s') :
    (s'.parent = s.parent ∧ (inheritances s'.pending).Perm (inheritances s.pending)) ∨
      ∃ p : Parent, s.anyTag = false ∧ s.opened = [] ∧ s.parent = none ∧
        s' = s.inheriting token p.name ∧ p.span = token.span ∧
        inheritances s'.pending = p :: inheritances s.pending := by
  have another : ∀ n ns, inheritances (n :: ns) =
      gathered Node.parent? [n] ++ inheritances ns := gathered_cons _
  cases step with
  | stands free node =>
    refine .inl ⟨rfl, .of_eq ?_⟩
    simp only [pending, List.cons_append]
    rw [another, node.gathers, node.parent]
    rfl
  | @parent p kind keyword first outermost unset =>
    refine .inr ⟨⟨token.span, p⟩, first, outermost, unset, rfl, rfl, ?_⟩
    simp only [pending, inheriting, List.cons_append]
    rw [another, gathered_single]
    rfl
  | opens kind free part =>
    exact .inl ⟨rfl, .of_eq (congrArg _ (part.pending { s with anyTag := true }))⟩
  | continues kind innermost part => exact .inl ⟨rfl, gathered_perm _ (part.pending innermost)⟩
  | ends kind innermost node =>
    have same := node.pending Node.parent? innermost
    rw [node.parent] at same
    exact .inl ⟨rfl, same⟩
  | declares kind innermost node =>
    have same := node.pending Node.parent? innermost
    rw [node.parent] at same
    exact .inl ⟨rfl, same⟩

/-- A step adds to the outermost list or leaves it alone. -/
theorem Step.outermost (step : Step tags s token next s') :
    ∃ added, s'.outermost = added ++ s.outermost := by
  -- A tag that ends adds its node to the outermost list if no other is open around it.
  have left : ∀ (inner : OpenTag) (outer : List OpenTag) (n : Node), s.opened = inner :: outer →
      ∃ added, (s.leave inner outer n).outermost = added ++ s.outermost := by
    intro inner outer n innermost
    cases last : outer.getLast? with
    | none => exact ⟨[n], by simp [Parsing.outermost, leave, innermost, List.getLast?_cons, last]⟩
    | some tag => exact ⟨[], by simp [Parsing.outermost, leave, innermost, List.getLast?_cons, last]⟩
  cases step with
  | @stands n free node =>
    cases last : s.opened.getLast? with
    | none => exact ⟨[n], by simp [Parsing.outermost, last]⟩
    | some tag => exact ⟨[], by simp [Parsing.outermost, last]⟩
  | @parent p kind keyword first outermost =>
    exact ⟨[.inheritance token.span p], by simp [Parsing.outermost, inheriting, outermost]⟩
  | opens =>
    refine ⟨[], ?_⟩
    cases last : s.opened.getLast? <;> simp [Parsing.outermost, enter, List.getLast?_cons, last]
  | @continues outer o inner kind innermost =>
    refine ⟨[], ?_⟩
    cases last : outer.getLast? <;>
      simp [Parsing.outermost, continueWith, innermost, List.getLast?_cons, last]
  | ends kind innermost => exact left _ _ _ innermost
  | declares kind innermost => exact left _ _ _ innermost

/-- The parent is declared once, in the outermost list after text and comments, and before the first
tag there is nothing else. -/
structure DeclaresParent (s : Parsing) : Prop where
  only : (inheritances s.pending).Perm s.parent.toList
  leads : ∀ p, s.parent = some p → ∃ before after,
    s.outermost = after ++ Node.inheritance p.span p.name :: before ∧ ∀ n ∈ before, n.isContent
  untagged : s.anyTag = false → s.opened = [] ∧ ∀ n ∈ s.nodes, n.isContent

theorem declaresParent_start : DeclaresParent {} :=
  ⟨.refl _, nofun, fun _ => ⟨rfl, nofun⟩⟩

/-- Before the first tag a step reads text or a comment. -/
theorem Step.untagged (step : Step tags s token next s') (known : s.DeclaresParent)
    (none : s'.anyTag = false) : s'.opened = [] ∧ ∀ n ∈ s'.nodes, n.isContent := by
  -- Where a tag is open one has been read.
  have closed : ∀ {inner : OpenTag} {outer : List OpenTag}, s.opened = inner :: outer →
      s.anyTag ≠ false := fun innermost none => by
    rw [(known.untagged none).1] at innermost
    cases innermost
  cases step with
  | stands free node =>
    obtain ⟨earlier, content⟩ : s.anyTag = false ∧ token.isContent = true := by simpa using none
    obtain ⟨outermost, before⟩ := known.untagged earlier
    refine ⟨outermost, fun n member => ?_⟩
    rcases List.mem_cons.mp member with rfl | among
    · exact node.content content
    · exact before n among
  | parent => cases none
  | opens => cases none
  | continues kind innermost => exact absurd none (closed innermost)
  | ends kind innermost => exact absurd none (closed innermost)
  | declares kind innermost => exact absurd none (closed innermost)

theorem Step.keeps_parent (step : Step tags s token next s') (known : s.DeclaresParent) :
    s'.DeclaresParent := by
  rcases step.inherits with ⟨parent, same⟩ | ⟨p, first, outermost, unset, rfl, place, more⟩
  · refine ⟨?_, fun p set => ?_, step.untagged known⟩
    · rw [parent]
      exact same.trans known.only
    · obtain ⟨added, grown⟩ := step.outermost
      obtain ⟨before, after, list, content⟩ := known.leads p (parent ▸ set)
      exact ⟨before, added ++ after, by rw [grown, list, List.append_assoc], content⟩
  · have declares : (s.inheriting token p.name).parent = some p := by rw [inheriting, ← place]
    refine ⟨?_, fun q set => ?_, step.untagged known⟩
    · have nothing : inheritances s.pending = [] :=
        List.perm_nil.mp (by simpa [unset] using known.only)
      rw [more, nothing, declares]
      exact .refl _
    · have same : p = q := Option.some.inj (declares.symm.trans set)
      refine ⟨s.nodes, [], ?_, (known.untagged first).2⟩
      subst same
      simp [Parsing.outermost, inheriting, outermost, place]

/-- The declared names are the keys of the table of blocks. -/
theorem Step.keeps_names (step : Step tags s token next s')
    (known : (Table.keys s.blocks).Perm ((TextTemplate.declared s.pending).map Block.name)) :
    (Table.keys s'.blocks).Perm ((TextTemplate.declared s'.pending).map Block.name) := by
  rcases step.declared with ⟨blocks, same⟩ | ⟨b, fresh, blocks, more⟩
  · rw [blocks]
    exact known.trans (same.map _).symm
  · rw [blocks]
    exact (Table.keys_insertAbove _ fresh b).trans ((known.cons b.name).trans (more.map _).symm)

end Parsing

variable {tags : Table Tag} {name source : String} {t : Template}

/-- What a template declares for inheritance is what its tree holds. Its blocks, at any depth, have
distinct names and are found under them; its parent is the only one declared anywhere, and stands in
the outermost list after text and comments. -/
theorem ofSource_inheritance (made : Template.ofSource tags name source = .ok t) :
    ((declared t.root).map Block.name).Nodup ∧
      (t.blockNames.Perm ((declared t.root).map Block.name) ∧
        ∀ block b, t.block? block = some b ↔ b ∈ declared t.root ∧ b.name = block) ∧
      inheritances t.root = t.parent.toList ∧
      ∀ p, t.parent = some p → ∃ before after,
        t.root = before ++ Node.inheritance p.span p.name :: after ∧ ∀ n ∈ before, n.isContent := by
  have tokens := ofSource_tokens made
  obtain ⟨distinct, table⟩ := ofTokens_declares tokens
  obtain ⟨s, read, none, rfl⟩ := ofTokens_iff.mp tokens
  have parents := Parsing.run_keeps (fun _ _ _ _ _ step => step.keeps_parent)
    Parsing.declaresParent_start read
  have names := Parsing.run_keeps (fun _ _ _ _ _ step => step.keeps_names) (.refl _) read
  have same := Parsing.pending_perm none
  refine ⟨distinct, ⟨names.trans ((declared_perm same).symm.map _), table⟩, ?_, fun p set => ?_⟩
  · have found := (gathered_perm Node.parent? same).trans parents.only
    dsimp only
    cases parent : s.parent with
    | none =>
      rw [parent] at found
      exact List.perm_nil.mp found
    | some p =>
      rw [parent] at found
      exact List.perm_singleton.mp found
  · obtain ⟨before, after, list, content⟩ := parents.leads p set
    have outermost : s.nodes = after ++ Node.inheritance p.span p.name :: before := by
      rw [← list, Parsing.outermost, none]
      rfl
    refine ⟨before.reverse, after.reverse, ?_, fun n member => content n (List.mem_reverse.mp member)⟩
    dsimp only
    rw [outermost, List.reverse_append, List.reverse_cons, List.append_assoc, List.singleton_append]

/-- A parent after a text and a comment, and a block inside a filtered part of another. -/
def inheritingSource : String :=
  "A {# note #}{% extends base %}{% block b %}{% filter upper %}{% block a %}{% endblock %}" ++
    "{% endfilter %}{% endblock %}"

/-- Both blocks are known, and so is the parent, which stands after the text and the comment. -/
theorem ofSource_inheritance_nested : ∃ t p before after,
    Template.ofSource Tag.standard "page" inheritingSource = .ok t ∧ t.parent = some p ∧
    t.blockNames = ["a", "b"] ∧ t.blockNames.Perm ((declared t.root).map Block.name) ∧
    inheritances t.root = [p] ∧ t.root = before ++ Node.inheritance p.span p.name :: after ∧
    ∀ n ∈ before, n.isContent := by
  have checked : (Template.ofSource Tag.standard "page" inheritingSource).toOption.any
      (fun t => t.parent.isSome && decide (t.blockNames = ["a", "b"])) = true := by
    decide +kernel
  cases made : Template.ofSource Tag.standard "page" inheritingSource with
  | error e => simp [made, Except.toOption] at checked
  | ok t =>
    obtain ⟨declares, names⟩ : t.parent.isSome = true ∧ t.blockNames = ["a", "b"] := by
      simpa [made, Except.toOption] using checked
    obtain ⟨p, parent⟩ := Option.isSome_iff_exists.mp declares
    obtain ⟨-, ⟨keys, -⟩, only, leads⟩ := ofSource_inheritance made
    obtain ⟨before, after, root, content⟩ := leads p parent
    exact ⟨t, p, before, after, rfl, parent, names, keys, by rw [only, parent]; rfl, root, content⟩

end TextTemplate
