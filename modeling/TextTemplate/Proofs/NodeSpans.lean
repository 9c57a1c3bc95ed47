import TextTemplate.Proofs.GrammarParsing
import TextTemplate.Proofs.Tokenizing

/-! Where the nodes of a tree stand in the source. No two tokens touch, for the span of a tag leaves its
delimiters out and two texts are never neighbours. A node reaches from the start of one token to the end
of another, so the nodes of a list follow each other, and what lies inside a conditional, a loop or
a block lies between the tag that opens it and the tag that ends it. -/
namespace TextTemplate

namespace Span

/-- A stretch ends before another one starts. -/
def Before (first second : Span) : Prop := first.stop.offset < second.start.offset

/-- A stretch does not end before it starts. -/
def Ascends (span : Span) : Prop := span.start.offset ≤ span.stop.offset

/-- A stretch has another one inside it and something left on both sides. -/
def Encloses (outer inner : Span) : Prop :=
  outer.start.offset < inner.start.offset ∧ inner.stop.offset < outer.stop.offset

end Span

/-- Stretches that follow each other without touching. -/
structure Spread (spans : List Span) : Prop where
  apart : spans.Pairwise Span.Before
  ascend : ∀ span ∈ spans, span.Ascends

namespace Spread

variable {first second : List Span}

theorem sublist (spread : Spread second) (part : first.Sublist second) : Spread first :=
  ⟨spread.apart.sublist part, fun span member => spread.ascend span (part.subset member)⟩

theorem append_iff : Spread (first ++ second) ↔
    Spread first ∧ Spread second ∧ ∀ s ∈ first, ∀ s' ∈ second, s.Before s' := by
  constructor
  · intro spread
    exact ⟨spread.sublist (List.sublist_append_left _ _), spread.sublist (List.sublist_append_right _ _),
      (List.pairwise_append.mp spread.apart).2.2⟩
  · rintro ⟨left, right, apart⟩
    exact ⟨List.pairwise_append.mpr ⟨left.apart, right.apart, apart⟩,
      List.forall_mem_append.mpr ⟨left.ascend, right.ascend⟩⟩

theorem nil : Spread [] := ⟨.nil, List.forall_mem_nil _⟩

theorem singleton {span : Span} (ascends : span.Ascends) : Spread [span] :=
  ⟨List.pairwise_singleton _ _, by simpa using ascends⟩

end Spread

/-! The tokens of a source -/

section Tokens

variable {source tail : List Char} {offset : Nat} {segments : List Segment} {tokens : List Token}

/-- The span of a tag leaves out its delimiters. -/
theorem Stands.inside_tag {kind : TokenKind} {body : List Char} {joined : Bool} {token : Token}
    (stands : Stands source (offset, .tag kind body joined) token) :
    offset < token.span.start.offset ∧
      token.span.stop.offset < offset + byteLength (Segment.tag kind body joined).source := by
  cases stands with
  | tag _ starts stops _ =>
    have opener : ('\x7b' : Char).utf8Size = 1 := rfl
    have marker : kind.openMarker.utf8Size = 1 := by cases kind <;> rfl
    have closer : 0 < byteLength (if joined then ['\x7d'] else [kind.closeMarker, '\x7d']) := by
      cases joined <;> simp [byteLength_cons, Char.utf8Size_pos]
    simp only [Segment.source, byteLength_cons, byteLength_append, opener, marker]
    omega

/-- The tokens of segments do not touch. If the segments start with a tag, the first token starts behind
their start, and if they end with one, the last token stops before their end. -/
theorem tokens_apart (cut : Segment.Cut segments tail)
    (stand : List.Forall₂ (Stands source) (Segment.placed offset segments) tokens) :
    (tokens.map Token.span).Pairwise Span.Before ∧
      ((∀ chars, segments.head? ≠ some (.text chars)) → ∀ token ∈ tokens,
        offset < token.span.start.offset) ∧
      ((∀ chars, segments.getLast? ≠ some (.text chars)) → ∀ token ∈ tokens,
        token.span.stop.offset < offset + byteLength (Segment.sources segments)) := by
  induction cut generalizing offset tokens with
  | done | unclosed =>
    cases stand
    exact ⟨.nil, fun _ => List.forall_mem_nil _, fun _ => List.forall_mem_nil _⟩
  | @tag kind body joined segments tail tag cut ih =>
    cases stand with
    | @cons _ token _ tokens first others =>
      obtain ⟨apart, -, last⟩ := ih others
      obtain ⟨starts, stops⟩ := first.inside_tag
      have within := (tokens_inOrder others).2
      have width : byteLength (Segment.sources (.tag kind body joined :: segments)) =
          byteLength (Segment.tag kind body joined).source + byteLength (Segment.sources segments) :=
        byteLength_append _ _
      refine ⟨List.pairwise_cons.mpr ⟨?_, apart⟩, fun _ => ?_, fun ends => ?_⟩
      · intro span member
        obtain ⟨next, among, rfl⟩ := List.mem_map.mp member
        exact stops.trans_le (within next among).1
      · refine List.forall_mem_cons.mpr ⟨starts, fun next among => ?_⟩
        have := within next among
        have := first.ascends
        omega
      · have ends' : ∀ chars, segments.getLast? ≠ some (.text chars) := by
          intro chars final
          exact ends chars (by rw [List.getLast?_cons, final]; rfl)
        refine List.forall_mem_cons.mpr ⟨by omega, fun next among => ?_⟩
        have := last ends' next among
        omega
  | @text chars segments tail nonempty plain starts cut ih =>
    cases stand with
    | @cons _ token _ tokens first others =>
      obtain ⟨apart, behind, last⟩ := ih others
      have stops := first.within.2
      have width : byteLength (Segment.sources (.text chars :: segments)) =
          byteLength (Segment.text chars).source + byteLength (Segment.sources segments) :=
        byteLength_append _ _
      refine ⟨List.pairwise_cons.mpr ⟨?_, apart⟩, fun other => absurd rfl (other chars), fun ends => ?_⟩
      · intro span member
        obtain ⟨next, among, rfl⟩ := List.mem_map.mp member
        exact stops.trans_lt (behind starts next among)
      · have ends' : ∀ chars', segments.getLast? ≠ some (.text chars') := by
          intro chars' final
          exact ends chars' (by rw [List.getLast?_cons, final]; rfl)
        -- A text at the end of the segments would be this one, and so a tag comes next.
        have more : 0 < byteLength (Segment.sources segments) := by
          cases cut with
          | done | unclosed => exact absurd rfl (ends chars)
          | tag => simp [Segment.sources, Segment.source, Char.utf8Size_pos]
          | text => exact absurd rfl (starts _)
        refine List.forall_mem_cons.mpr ⟨by omega, fun next among => ?_⟩
        have := last ends' next among
        omega

/-- No two tokens of a source touch. -/
theorem tokenize_spread (source : String) : Spread ((tokenize source).map Token.span) := by
  cases found : Segment.split source.toList with
  | mk segments tail =>
  obtain ⟨cut, whole⟩ := Segment.split_eq_iff.mp found
  have stand : List.Forall₂ (Stands source.toList) (Segment.placed 0 segments)
      (Segment.toTokens (LineIndex.ofSource source.toList) 0 segments) :=
    Segment.toTokens_stand segments [] tail whole.symm
  obtain ⟨apart, -, last⟩ := tokens_apart cut stand
  have ascend := (tokens_inOrder stand).1.2
  have swallows := tailToken_swallows whole
  rw [tokenize_eq found, List.map_append, Spread.append_iff]
  refine ⟨⟨apart, List.forall_mem_map.mpr ascend⟩, ?_, ?_⟩
  · cases extra : tailToken (LineIndex.ofSource source.toList) segments tail with
    | none => exact .nil
    | some token =>
      obtain ⟨⟨covers⟩, -⟩ := swallows token extra
      exact .singleton covers.slice.le
  · intro first member second follows
    obtain ⟨token, among, rfl⟩ := List.mem_map.mp member
    obtain ⟨extra, spoken, rfl⟩ := List.mem_map.mp follows
    have final := Option.mem_toList.mp spoken
    have ends : ∀ chars, segments.getLast? ≠ some (.text chars) := by
      rcases (tailToken_isSome cut _).mp (Option.isSome_of_mem final) with empty | ⟨-, tagged⟩
      · simp [cut.eq_nil empty]
      · exact tagged
    have starts := (swallows extra final).2
    have := last ends token among
    rw [Span.Before]
    omega

end Tokens

/-! Trees over tokens -/

/-- A stretch reaches from the start of one token to the end of another. -/
def Span.Over (span : Span) (tokens : List Token) : Prop :=
  ∃ first ∈ tokens, ∃ last ∈ tokens, span.start = first.span.start ∧ span.stop = last.span.stop

/-- The further branches of a node. -/
def Node.branches : Node → List Branch
  | .conditional _ _ _ branches _ => branches
  | _ => []

/-- A branch lies inside its conditional, though it may end with it, and its nodes lie inside the branch. -/
structure Branch.Nests (outer : Span) (b : Branch) : Prop where
  ascends : b.span.Ascends
  starts : outer.start.offset < b.span.start.offset
  stops : b.span.stop.offset ≤ outer.stop.offset
  encloses : ∀ child ∈ b.body, b.span.Encloses child.span

/-- The nodes directly inside a node follow each other, from one of its lists to the next, and they lie
inside its span. -/
structure Node.Nests (n : Node) : Prop where
  ascends : n.span.Ascends
  spread : Spread (n.bodies.flatten.map Node.span)
  encloses : ∀ child ∈ n.bodies.flatten, n.span.Encloses child.span
  branches : ∀ b ∈ n.branches, b.Nests n.span

/-- Nodes that follow each other, each of them over some of the tokens, and with what is inside them nested. -/
structure Laid (tokens : List Token) (nodes : List Node) : Prop where
  spread : Spread (nodes.map Node.span)
  covers : ∀ n ∈ nodes, n.span.Over tokens
  nests : ∀ n ∈ nodes, ∀ m : Node, m.Inside n → m.Nests

section Trees

variable {ts us : List Token} {ms ns : List Node} {n : Node} {start last token : Token} {span : Span}

theorem Span.Over.mono (covers : span.Over ts) (among : ts ⊆ us) : span.Over us := by
  obtain ⟨first, here, last, there, starts, stops⟩ := covers
  exact ⟨first, among here, last, among there, starts, stops⟩

/-- What reaches from a token to a later one does not end before it starts. -/
theorem through_ascends (spread : Spread ((start :: ts).map Token.span)) (among : last ∈ ts) :
    (start.span.through last.span).Ascends := by
  have first := spread.ascend _ List.mem_cons_self
  have final := spread.ascend _ (List.mem_map_of_mem (List.mem_cons_of_mem start among))
  have apart := (List.pairwise_cons.mp spread.apart).1 _ (List.mem_map_of_mem among)
  simp only [Span.Ascends, Span.Before, Span.through] at *
  omega

/-- What reaches from a token to a later one encloses what is over the tokens between them. -/
theorem Span.Over.enclosed (covers : span.Over ts) (spread : Spread ((start :: ts ++ us).map Token.span))
    (among : last ∈ us) : (start.span.through last.span).Encloses span := by
  obtain ⟨initial, here, final, there, starts, stops⟩ := covers
  rw [List.map_append, Spread.append_iff] at spread
  obtain ⟨inner, outer, apart⟩ := spread
  have first := inner.ascend _ List.mem_cons_self
  have before := (List.pairwise_cons.mp inner.apart).1 _ (List.mem_map_of_mem here)
  have behind := apart _ (List.mem_map_of_mem (List.mem_cons_of_mem start there)) _
    (List.mem_map_of_mem among)
  have ends := outer.ascend _ (List.mem_map_of_mem among)
  simp only [Span.Encloses, Span.Ascends, Span.Before, Span.through, starts, stops] at *
  omega

/-- What is over the tokens behind a token starts behind its start, and stops with the last one at most. -/
theorem Span.Over.inside (covers : span.Over (ts ++ [last]))
    (spread : Spread ((start :: ts ++ [last]).map Token.span)) :
    start.span.start.offset < span.start.offset ∧ span.stop.offset ≤ last.span.stop.offset := by
  obtain ⟨initial, here, final, there, starts, stops⟩ := covers
  have first := spread.ascend _ List.mem_cons_self
  have before := (List.pairwise_cons.mp spread.apart).1 _ (List.mem_map_of_mem here)
  have ends : final.span.stop.offset ≤ last.span.stop.offset := by
    rcases List.mem_append.mp there with inner | same
    · rw [List.map_append, Spread.append_iff] at spread
      have behind := spread.2.2 _ (List.mem_map_of_mem (List.mem_cons_of_mem start inner)) _
        List.mem_cons_self
      have ascends := spread.2.1.ascend _ List.mem_cons_self
      simp only [Span.Ascends, Span.Before] at *
      omega
    · rw [List.mem_singleton.mp same]
  simp only [Span.Ascends, Span.Before, starts, stops] at *
  omega

theorem Laid.nil : Laid ts [] := ⟨.nil, List.forall_mem_nil _, List.forall_mem_nil _⟩

theorem Laid.mono (laid : Laid ts ns) (among : ts ⊆ us) : Laid us ns :=
  ⟨laid.spread, fun n member => (laid.covers n member).mono among, laid.nests⟩

theorem Laid.append (spread : Spread ((ts ++ us).map Token.span)) (first : Laid ts ms)
    (second : Laid us ns) : Laid (ts ++ us) (ms ++ ns) := by
  refine ⟨?_, ?_, List.forall_mem_append.mpr ⟨first.nests, second.nests⟩⟩
  · rw [List.map_append, Spread.append_iff] at spread ⊢
    refine ⟨first.spread, second.spread, ?_⟩
    intro s before s' behind
    obtain ⟨m, member, rfl⟩ := List.mem_map.mp before
    obtain ⟨n, member', rfl⟩ := List.mem_map.mp behind
    obtain ⟨-, -, final, there, -, stops⟩ := first.covers m member
    obtain ⟨initial, here, -, -, starts, -⟩ := second.covers n member'
    have apart := spread.2.2 _ (List.mem_map_of_mem there) _ (List.mem_map_of_mem here)
    rwa [Span.Before, stops, starts]
  · refine List.forall_mem_append.mpr ⟨fun m member => ?_, fun n member => ?_⟩
    · exact (first.covers m member).mono (List.subset_append_left ts us)
    · exact (second.covers n member).mono (List.subset_append_right ts us)

/-- A node that is a single token has nothing inside it. -/
theorem Laid.single (spread : Spread ([token].map Token.span)) (same : n.span = token.span)
    (leaf : n.bodies = []) (plain : n.branches = []) : Laid [token] [n] := by
  have ascends : n.span.Ascends := same ▸ spread.ascend _ List.mem_cons_self
  refine ⟨.singleton ascends, ?_, ?_⟩
  · simp [Span.Over, same]
  · intro n' member m inside
    obtain rfl := List.mem_singleton.mp member
    cases inside with
    | self =>
      refine ⟨ascends, ?_, ?_, ?_⟩
      · rw [leaf]
        exact .nil
      · rw [leaf]
        exact List.forall_mem_nil _
      · rw [plain]
        exact List.forall_mem_nil _
    | nested listed => simp [leaf] at listed

/-- A node that reaches from a tag to a later one, with its own nodes over the tokens between them. -/
theorem Laid.paired (spread : Spread ((start :: ts ++ [last]).map Token.span))
    (same : n.span = start.span.through last.span) (children : Laid ts n.bodies.flatten)
    (parts : ∀ b ∈ n.branches, b.Nests n.span) : Laid (start :: ts ++ [last]) [n] := by
  have ascends : n.span.Ascends := same ▸ through_ascends spread (by simp)
  have nests : n.Nests := by
    refine ⟨ascends, children.spread, fun child member => ?_, parts⟩
    rw [same]
    exact (children.covers child member).enclosed spread (List.mem_singleton.mpr rfl)
  refine ⟨.singleton ascends, ?_, ?_⟩
  · intro n' member
    obtain rfl := List.mem_singleton.mp member
    exact ⟨start, by simp, last, by simp, by rw [same]; rfl, by rw [same]; rfl⟩
  · intro n' member m inside
    obtain rfl := List.mem_singleton.mp member
    cases inside with
    | self => exact nests
    | nested listed member inside =>
      exact children.nests _ (List.mem_flatten_of_mem listed member) m inside

/-- The tree of a phrase lies over the tokens that it is derived from. Further branches end before the last
token, which is that of the conditional, but each of them reaches to a token of its own. -/
def Phrase.LaidOver (ts : List Token) : Phrase → Prop
  | .body nodes => Laid ts nodes
  | .piece n => Laid ts [n]
  | .branches first last bs elseBody => first ∈ ts ∧ ∃ middle, ts = middle ++ [last] ∧
      Laid middle (bs.map Branch.body ++ elseBody.toList).flatten ∧
      ∀ b ∈ bs, b.span.Ascends ∧ b.span.Over ts ∧ ∀ child ∈ b.body, b.span.Encloses child.span

theorem Spread.part (spread : Spread (us.map Token.span)) (part : ts.Sublist us) :
    Spread (ts.map Token.span) := spread.sublist (part.map _)

/-- What is derived from tokens that do not touch lies over them. -/
theorem Derives.laid {phrase : Phrase} (derives : Derives phrase ts)
    (spread : Spread (ts.map Token.span)) : phrase.LaidOver ts := by
  induction derives with
  | nil => exact Laid.nil
  | cons _ _ first rest =>
    exact .append spread (first (spread.part (List.sublist_append_left _ _)))
      (rest (spread.part (List.sublist_append_right _ _)))
  | text => exact .single spread rfl rfl rfl
  | comment => exact .single spread rfl rfl rfl
  | output => exact .single spread rfl rfl rfl
  | inclusion => exact .single spread rfl rfl rfl
  | @conditional start _ thenBody ts _ last bs elseBody us _ _ _ _ inner rest =>
    obtain ⟨-, middle, rfl, others, parts⟩ := rest (spread.part (List.sublist_append_right _ _))
    -- The token at the end of the branches is the one that ends the whole conditional.
    have whole : start :: ts ++ (middle ++ [last]) = start :: (ts ++ middle) ++ [last] := by simp
    have first := inner (spread.part (by simp))
    have between : Spread ((ts ++ middle).map Token.span) := spread.part (by simp)
    rw [whole] at spread ⊢
    refine .paired spread rfl (.append between first others) fun b member => ?_
    obtain ⟨ascends, covers, encloses⟩ := parts b member
    have covers : b.span.Over (ts ++ middle ++ [last]) := covers.mono (by simp)
    obtain ⟨starts, stops⟩ := covers.inside spread
    exact ⟨ascends, starts, stops, encloses⟩
  | @branch start _ _ ts first last bs elseBody us _ _ _ _ inner rest =>
    obtain ⟨among, middle, rfl, others, parts⟩ := rest (spread.part (List.sublist_append_right _ _))
    have body := inner (spread.part (by simp))
    have between : Spread ((ts ++ middle).map Token.span) := spread.part (by simp)
    -- The branch ends with the token that starts the next part, so they share this token.
    refine ⟨by simp, start :: ts ++ middle, by simp,
      (Laid.append between body others).mono (by simp), List.forall_mem_cons.mpr ⟨⟨?_, ?_, ?_⟩, ?_⟩⟩
    · exact through_ascends spread (List.mem_append_right ts among)
    · exact ⟨start, by simp, first, List.mem_append_right _ among, rfl, rfl⟩
    · exact fun child member => (body.covers child member).enclosed spread among
    · intro b member
      obtain ⟨ascends, covers, encloses⟩ := parts b member
      exact ⟨ascends, covers.mono (List.subset_append_right _ _), encloses⟩
  | @elsePart _ ts start _ _ _ _ inner =>
    have laid := (inner (spread.part (by simp))).mono (List.subset_cons_self start ts)
    exact ⟨by simp, start :: ts, rfl, by simpa using laid, List.forall_mem_nil _⟩
  | noElse => exact ⟨by simp, [], rfl, .nil, List.forall_mem_nil _⟩
  | loop _ _ _ _ inner =>
    have laid : Laid _ _ := inner (spread.part (by simp))
    exact .paired spread rfl (by simpa [Node.bodies] using laid) (List.forall_mem_nil _)
  | @loopOrEmpty _ ts _ us _ start middle last _ _ _ _ _ _ inner rest =>
    have whole : start :: ts ++ middle :: us ++ [last] = start :: (ts ++ middle :: us) ++ [last] := by simp
    rw [whole] at spread ⊢
    have between : Spread ((ts ++ middle :: us).map Token.span) := spread.part (by simp)
    have laid := inner (between.part (by simp))
    have others := (rest (between.part (by simp))).mono (List.subset_cons_self middle us)
    refine .paired spread rfl ?_ (List.forall_mem_nil _)
    simpa [Node.bodies] using laid.append between others
  | block _ _ _ _ _ _ inner =>
    have laid : Laid _ _ := inner (spread.part (by simp))
    exact .paired spread rfl (by simpa [Node.bodies] using laid) (List.forall_mem_nil _)

/-- A template derived from tokens that do not touch lies over them. -/
theorem DerivesRoot.laid {parent : Option Parent} (derives : DerivesRoot ts parent ns)
    (spread : Spread (ts.map Token.span)) : Laid ts ns := by
  cases derives with
  | plain body => exact body.laid spread
  | @extending _ ts _ us token p before _ _ _ after =>
    have first := before.laid (spread.part (List.sublist_append_left _ _))
    have later := spread.part (List.sublist_append_right ts (token :: us))
    have parent : Laid [token] [.inheritance token.span p] :=
      .single (later.part (by simp)) rfl rfl rfl
    exact .append spread first (.append later parent (after.laid (later.part (by simp))))

end Trees

/-- A template made from tokens without tags of a host has been derived from them. -/
theorem ofTokens_root {name source : String} {tokens : List Token} {t : Template}
    (made : Template.ofTokens .empty name source tokens = .ok t) : DerivesRoot tokens t.parent t.root := by
  obtain ⟨s, read, none, rfl⟩ := ofTokens_iff.mp made
  have viable := (Parsing.follows_run Parsing.follows_start read).viable
  rw [none, List.nil_append] at viable
  cases viable with
  | outermost root => exact root

/-- If every node inside a node nests, it encloses all of them. -/
theorem Node.Inside.enclosed {m n : Node} (inside : m.Inside n) (nests : ∀ l : Node, l.Inside n → l.Nests) :
    m = n ∨ n.span.Encloses m.span := by
  induction inside with
  | self => exact .inl rfl
  | nested listed member inside ih =>
    have first := (nests _ .self).encloses _ (List.mem_flatten_of_mem listed member)
    rcases ih fun l deeper => nests l (.nested listed member deeper) with rfl | deeper
    · exact .inr first
    · exact .inr ⟨first.1.trans deeper.1, deeper.2.trans first.2⟩

/-- The nodes of a list follow each other in the source without touching, wherever in the tree the list
stands. The nodes inside a node lie inside its span, at any depth, and no span ends before it starts. -/
theorem node_spans_nest {name source : String} {t : Template}
    (made : Template.ofSource .empty name source = .ok t) :
    Spread (t.root.map Node.span) ∧ ∀ n, t.Contains n →
      n.Nests ∧ (∀ body ∈ n.bodies, Spread (body.map Node.span)) ∧
      ∀ m : Node, m.Inside n → m = n ∨ n.span.Encloses m.span := by
  have laid := (ofTokens_root (ofSource_tokens made)).laid (tokenize_spread source)
  refine ⟨laid.spread, ?_⟩
  rintro n ⟨outer, member, inside⟩
  have nests : ∀ m : Node, m.Inside n → m.Nests :=
    fun m deeper => laid.nests outer member m (deeper.trans inside)
  refine ⟨nests n .self, fun body listed => ?_, fun m deeper => deeper.enclosed nests⟩
  exact (nests n .self).spread.sublist ((List.sublist_flatten_of_mem listed).map _)

/-- A conditional with a further branch, a loop directly behind it, and an opener that is never closed. -/
def nestingSource : String :=
  "a{% if x %}b{% elif y %}{% block c %}é{% endblock %}{% endif %}{%for i in x%}{{ i }}" ++
    "{% empty %}{% endfor %}\x7b\x7b e"

/-- The offsets at which the outermost nodes start and stop; the tail of the source is empty text. -/
theorem node_spans_nest_branches : ∃ t, Template.ofSource .empty "page" nestingSource = .ok t ∧
    t.root.map (fun n => (n.span.start.offset, n.span.stop.offset)) =
      [(0, 1), (4, 61), (66, 105), (108, 112)] ∧
    Spread (t.root.map Node.span) ∧ ∀ n, t.Contains n → n.Nests := by
  have checked : (Template.ofSource .empty "page" nestingSource).toOption.any (fun t =>
      t.root.map (fun n => (n.span.start.offset, n.span.stop.offset)) =
      [(0, 1), (4, 61), (66, 105), (108, 112)]) = true := by
    decide +kernel
  cases made : Template.ofSource .empty "page" nestingSource with
  | error e => simp [made, Except.toOption] at checked
  | ok t =>
    obtain ⟨spread, inside⟩ := node_spans_nest made
    refine ⟨t, rfl, ?_, spread, fun n contained => (inside n contained).1⟩
    simpa [made, Except.toOption] using checked

end TextTemplate
