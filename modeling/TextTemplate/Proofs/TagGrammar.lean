import TextTemplate.Proofs.ParsingSteps

/-! The grammar of templates without tags of a host. A body is made of text, comments, outputs, inclusions,
conditionals, loops and blocks; a template is a body in which the declaration of a parent may
stand before everything but text and comments. A derivation fixes the tree, and the tree in its
turn fixes every token up to what the grammar itself forgets. -/
namespace TextTemplate

/-- A token is a tag with a keyword. -/
structure Token.IsTag (token : Token) (keyword : String) : Prop where
  kind : token.kind = .tag
  named : token.keyword = keyword

/-- A token is a tag with a keyword and without arguments. -/
structure Token.IsBareTag (token : Token) (keyword : String) : Prop extends
    Token.IsTag token keyword where
  bare : token.isBare

/-- The header of a loop that the arguments of a token write. -/
def Token.loopHeader (token : Token) : Except Error LoopHeader :=
  inArguments token (readWhole (readLoopHeader token.span) token.arguments)

/-- The pipeline that the arguments of a token write. -/
def Token.pipeline (token : Token) : Except Error Pipeline :=
  inArguments token (Pipeline.ofText token.span token.arguments)

/-- What a stretch of tokens may be derived as, with the tree that it makes. -/
inductive Phrase where
  /-- Nodes one after the other. -/
  | body (nodes : List Node)
  /-- A single node. -/
  | piece (node : Node)
  /-- What follows the first part of a conditional: the token at its start and the one at its end,
  which is that of the conditional, further branches, and the last part. -/
  | branches (first last : Token) (branches : List Branch) (elseBody : Option (List Node))

/-- The derivations of the grammar. -/
inductive Derives : Phrase → List Token → Prop where
  | nil : Derives (.body []) []
  | cons (first : Derives (.piece n) ts) (rest : Derives (.body ns) us) :
      Derives (.body (n :: ns)) (ts ++ us)
  | text (kind : token.kind = .text) : Derives (.piece (.text token.span token.contents)) [token]
  | comment (kind : token.kind = .comment) :
      Derives (.piece (.comment token.span token.contents)) [token]
  | output (kind : token.kind = .output) (written : token.contents ≠ "")
      (read : Pipeline.ofText token.span token.contents = .ok p) :
      Derives (.piece (.output token.span token.contents p)) [token]
  | inclusion (tag : token.IsTag "include") (read : readInclude token = .ok header) :
      Derives (.piece (.inclusion token.span header)) [token]
  | conditional (tag : start.IsTag "if") (read : tagCondition start = .ok condition)
      (inner : Derives (.body thenBody) ts) (rest : Derives (.branches first last bs elseBody) us) :
      Derives (.piece (.conditional (start.span.through last.span) condition thenBody bs elseBody))
        (start :: ts ++ us)
  | branch (tag : start.IsTag "elif") (read : tagCondition start = .ok condition)
      (inner : Derives (.body body) ts) (rest : Derives (.branches first last bs elseBody) us) :
      Derives (.branches start last (.mk (start.span.through first.span) condition body :: bs) elseBody)
        (start :: ts ++ us)
  | elsePart (tag : start.IsBareTag "else") (inner : Derives (.body body) ts)
      (ends : last.IsBareTag "endif") :
      Derives (.branches start last [] (some body)) (start :: ts ++ [last])
  | noElse (ends : last.IsBareTag "endif") : Derives (.branches last last [] none) [last]
  | loop (tag : start.IsTag "for") (read : start.loopHeader = .ok header)
      (inner : Derives (.body body) ts) (ends : last.IsBareTag "endfor") :
      Derives (.piece (.loop (start.span.through last.span) header body none))
        (start :: ts ++ [last])
  | loopOrEmpty (tag : start.IsTag "for") (read : start.loopHeader = .ok header)
      (inner : Derives (.body body) ts)
      (otherwise : middle.IsBareTag "empty" ∨ middle.IsBareTag "else")
      (rest : Derives (.body emptyBody) us) (ends : last.IsBareTag "endfor") :
      Derives (.piece (.loop (start.span.through last.span) header body (some emptyBody)))
        (start :: ts ++ middle :: us ++ [last])
  | block (tag : start.IsTag "block") (named : start.components = [word, name])
      (valid : isBlockName name) (inner : Derives (.body body) ts) (ends : last.IsTag "endblock")
      (closes : last.closesBlock name) :
      Derives (.piece (.block (start.span.through last.span) name body)) (start :: ts ++ [last])

/-- The derivations of whole templates, with the parent and the tree that they make. -/
inductive DerivesRoot : List Token → Option Parent → List Node → Prop where
  | plain (body : Derives (.body ns) ts) : DerivesRoot ts none ns
  | extending (before : Derives (.body ms) ts) (content : ∀ token ∈ ts, token.isContent)
      (tag : token.IsTag "extends") (read : token.pipeline = .ok p)
      (after : Derives (.body ns) us) :
      DerivesRoot (ts ++ token :: us) (some ⟨token.span, p⟩) (ms ++ .inheritance token.span p :: ns)

theorem Derives.snoc {ns : List Node} {n : Node} {ts us : List Token} (first : Derives (.body ns) ts)
    (last : Derives (.piece n) us) : Derives (.body (ns ++ [n])) (ts ++ us) := by
  generalize whole : Phrase.body ns = phrase at first
  induction first generalizing ns with
  | nil =>
    cases whole
    simpa using Derives.cons last .nil
  | cons first rest _ ih =>
    cases whole
    rw [List.append_assoc]
    exact .cons first (ih rfl)
  | _ => cases whole

theorem DerivesRoot.snoc {parent : Option Parent} {ns : List Node} {n : Node} {ts us : List Token}
    (first : DerivesRoot ts parent ns) (last : Derives (.piece n) us) :
    DerivesRoot (ts ++ us) parent (ns ++ [n]) := by
  cases first with
  | plain body => exact .plain (body.snoc last)
  | extending before content tag read after =>
    simp only [List.append_assoc, List.cons_append]
    exact .extending before content tag read (after.snoc last)

/-! Reading a tree in order -/

/-- What a tree keeps of a token. -/
inductive Mark where
  | text (written : String)
  | comment (written : String)
  | output (written : String) (p : Pipeline)
  | inclusion (header : IncludeHeader)
  | inheritance (parent : Pipeline)
  | ifStart (condition : Condition)
  | branchStart (condition : Condition)
  | otherwise
  | ifEnd
  | loopStart (header : LoopHeader)
  | loopEnd
  | blockStart (name : String)
  | blockEnd
  | custom (keyword : String)

/-- What a token says by itself. The words `empty` and `else` say the same, and the name at the end of a
block is not kept. -/
def Token.mark? (token : Token) : Option Mark :=
  match token.kind with
  | .text => some (.text token.contents)
  | .comment => some (.comment token.contents)
  | .output => (Pipeline.ofText token.span token.contents).toOption.map (.output token.contents)
  | .tag =>
    if token.keyword = "include" then (readInclude token).toOption.map .inclusion
    else if token.keyword = "extends" then token.pipeline.toOption.map .inheritance
    else if token.keyword = "if" then (tagCondition token).toOption.map .ifStart
    else if token.keyword = "elif" then (tagCondition token).toOption.map .branchStart
    else if token.keyword = "else" ∨ token.keyword = "empty" then some .otherwise
    else if token.keyword = "endif" then some .ifEnd
    else if token.keyword = "for" then token.loopHeader.toOption.map .loopStart
    else if token.keyword = "endfor" then some .loopEnd
    else if token.keyword = "block" then token.components[1]?.map .blockStart
    else if token.keyword = "endblock" then some .blockEnd
    else some (.custom token.keyword)

mutual

/-- What a node keeps of its tokens, in the order of the source. -/
def Node.marks : Node → List Mark
  | .text _ written => [.text written]
  | .comment _ written => [.comment written]
  | .output _ written p => [.output written p]
  | .inclusion _ header => [.inclusion header]
  | .inheritance _ parent => [.inheritance parent]
  | .conditional _ condition thenBody branches elseBody =>
    .ifStart condition :: marksOf thenBody ++ marksOfBranches branches ++ marksOfLast elseBody ++
      [.ifEnd]
  | .loop _ header body emptyBody =>
    .loopStart header :: marksOf body ++ marksOfLast emptyBody ++ [.loopEnd]
  | .block _ name body => .blockStart name :: marksOf body ++ [.blockEnd]
  | .custom _ keyword _ body => .custom keyword :: marksOf body

/-- What nodes keep of their tokens. -/
def marksOf : List Node → List Mark
  | [] => []
  | n :: rest => n.marks ++ marksOf rest

/-- What branches keep of their tokens. -/
def marksOfBranches : List Branch → List Mark
  | [] => []
  | .mk _ condition body :: rest => .branchStart condition :: marksOf body ++ marksOfBranches rest

/-- What the last part of a conditional or of a loop keeps of its tokens. -/
def marksOfLast : Option (List Node) → List Mark
  | none => []
  | some body => .otherwise :: marksOf body

end

/-- What the tree of a phrase keeps of its tokens. -/
def Phrase.marks : Phrase → List Mark
  | .body nodes => marksOf nodes
  | .piece n => n.marks
  | .branches _ _ bs elseBody => marksOfBranches bs ++ marksOfLast elseBody ++ [.ifEnd]

theorem marksOf_append (ms ns : List Node) : marksOf (ms ++ ns) = marksOf ms ++ marksOf ns := by
  induction ms with
  | nil => rfl
  | cons n rest ih => rw [List.cons_append, marksOf, marksOf, ih, List.append_assoc]

namespace Token

variable {token : Token}

theorem mark_inheritance {p : Pipeline} (tag : token.IsTag "extends") (read : token.pipeline = .ok p) :
    token.mark? = some (.inheritance p) := by
  simp [mark?, tag.kind, tag.named, read, Except.toOption]

theorem mark_ifStart {condition : Condition} (tag : token.IsTag "if")
    (read : tagCondition token = .ok condition) : token.mark? = some (.ifStart condition) := by
  simp [mark?, tag.kind, tag.named, read, Except.toOption]

theorem mark_branchStart {condition : Condition} (tag : token.IsTag "elif")
    (read : tagCondition token = .ok condition) : token.mark? = some (.branchStart condition) := by
  simp [mark?, tag.kind, tag.named, read, Except.toOption]

theorem mark_otherwise (tag : token.IsBareTag "empty" ∨ token.IsBareTag "else") :
    token.mark? = some .otherwise := by
  rcases tag with tag | tag
  · simp [mark?, tag.kind, tag.named]
  · simp [mark?, tag.kind, tag.named]

theorem mark_ifEnd (tag : token.IsBareTag "endif") : token.mark? = some .ifEnd := by
  simp [mark?, tag.kind, tag.named]

theorem mark_loopStart {header : LoopHeader} (tag : token.IsTag "for")
    (read : token.loopHeader = .ok header) : token.mark? = some (.loopStart header) := by
  simp [mark?, tag.kind, tag.named, read, Except.toOption]

theorem mark_loopEnd (tag : token.IsBareTag "endfor") : token.mark? = some .loopEnd := by
  simp [mark?, tag.kind, tag.named]

theorem mark_blockStart {word name : String} (tag : token.IsTag "block")
    (named : token.components = [word, name]) : token.mark? = some (.blockStart name) := by
  simp [mark?, tag.kind, tag.named, named]

theorem mark_blockEnd (tag : token.IsTag "endblock") : token.mark? = some .blockEnd := by
  simp [mark?, tag.kind, tag.named]

end Token

/-- The tree of a derivation keeps every token, once and in order. -/
theorem Derives.marks {phrase : Phrase} {ts : List Token} (derives : Derives phrase ts) :
    ts.map Token.mark? = phrase.marks.map some := by
  induction derives with
  | nil => rfl
  | cons _ _ first rest =>
    simp only [Phrase.marks, marksOf, List.map_append] at first rest ⊢
    rw [first, rest]
  | text kind => simp [Phrase.marks, Node.marks, Token.mark?, kind]
  | comment kind => simp [Phrase.marks, Node.marks, Token.mark?, kind]
  | output kind _ read => simp [Phrase.marks, Node.marks, Token.mark?, kind, read, Except.toOption]
  | inclusion tag read =>
    simp [Phrase.marks, Node.marks, Token.mark?, tag.kind, tag.named, read, Except.toOption]
  | conditional tag read _ _ inner rest =>
    simp only [Phrase.marks, Node.marks, List.map_append, List.map_cons, Token.mark_ifStart tag read]
      at inner rest ⊢
    rw [inner, rest]
    simp
  | branch tag read _ _ inner rest =>
    simp only [Phrase.marks, marksOfBranches, List.map_append, List.map_cons,
      Token.mark_branchStart tag read] at inner rest ⊢
    rw [inner, rest]
    simp
  | elsePart tag _ ends inner =>
    simp only [Phrase.marks, marksOfBranches, marksOfLast, List.map_append, List.map_cons,
      Token.mark_otherwise (.inr tag), Token.mark_ifEnd ends] at inner ⊢
    rw [inner]
    simp
  | noElse ends => simp [Phrase.marks, marksOfBranches, marksOfLast, Token.mark_ifEnd ends]
  | loop tag read _ ends inner =>
    simp only [Phrase.marks, Node.marks, marksOfLast, List.map_append, List.map_cons,
      Token.mark_loopStart tag read, Token.mark_loopEnd ends] at inner ⊢
    rw [inner]
    simp
  | loopOrEmpty tag read _ otherwise _ ends inner rest =>
    simp only [Phrase.marks, Node.marks, marksOfLast, List.map_append, List.map_cons,
      Token.mark_loopStart tag read, Token.mark_otherwise otherwise, Token.mark_loopEnd ends]
      at inner rest ⊢
    rw [inner, rest]
    simp
  | block tag named _ _ ends _ inner =>
    simp only [Phrase.marks, Node.marks, List.map_append, List.map_cons,
      Token.mark_blockStart tag named, Token.mark_blockEnd ends] at inner ⊢
    rw [inner]
    simp

/-- The tree of a template keeps every token, once and in order. -/
theorem DerivesRoot.marks {ts : List Token} {parent : Option Parent} {ns : List Node}
    (derives : DerivesRoot ts parent ns) : ts.map Token.mark? = (marksOf ns).map some := by
  cases derives with
  | plain body => exact body.marks
  | extending before _ tag read after =>
    have first := before.marks
    have rest := after.marks
    simp only [Phrase.marks] at first rest
    rw [marksOf_append, marksOf, Node.marks]
    simp only [List.map_append, List.map_cons, List.map_nil, first, rest,
      Token.mark_inheritance tag read]
    rfl

end TextTemplate
