import TextTemplate.Proofs.RenderEffect
import TextTemplate.Proofs.TableEntries

/-! What a loop means. The items of its value are judged first, all of them: each has to suit the variables,
and the condition of the loop says whether it is kept. Then the body is rendered for the kept items
one after the other, in the surrounding scopes and one more. So a loop with a condition is the loop
without it over the items that are kept. -/
namespace TextTemplate

/-- The items of a value that a loop with so many variables walks over. The members of an object come in
the order of the table, which is ascending by `Table.toList_ascending`. -/
inductive Elements (count : Nat) : Value → List Value → Prop
  | array (items : List Value) : Elements count (.array items) items
  | keys {members : Members} (single : count ≤ 1) :
      Elements count (.object members) ((Table.toList members).map fun entry => .string entry.1)
  | pairs {members : Members} (several : 1 < count) :
      Elements count (.object members)
        ((Table.toList members).map fun entry => .array [.string entry.1, entry.2])
  | text (s : String) : Elements count (.string s) (s.toList.map Value.ofChar)
  | null : Elements count .null []
  | bool (b : Bool) : Elements count (.bool b) []
  | number (n : Number) : Elements count (.number n) []

/-- The values that variables are bound to for an item: a single one to the item as a whole, and several
to the items of an array of the same number. -/
def unpack? (names : List String) (item : Value) : Option (List Value) :=
  if names.length = 1 then some [item]
  else match item with
    | .array values => if values.length = names.length then some values else none
    | _ => none

namespace LoopHeader

variable (header : LoopHeader)

/-- The bindings of the variables for an item, in their order. -/
def bindings (item : Value) : List (String × Value) :=
  header.names.zip ((unpack? header.names item).getD [])

/-- Whether a loop keeps an item. The condition sees the variables in a scope of their own. -/
def judge (env : Environment) (scopes : Scopes) (item : Value) : Except Failure Bool :=
  match unpack? header.names item with
  | none =>
    .error (.reported (.spanned (.notUnpackable item.shape header.names.length) header.iterable.span))
  | some _ =>
    match header.selection with
    | none => .ok true
    | some condition =>
      env.evalCondition (scopes.push (Table.ofList (header.bindings item))) condition

/-- The items that a loop keeps, in their order. -/
def kept (env : Environment) (scopes : Scopes) (items : List Value) : List Value :=
  items.filter fun item => (header.judge env scopes item).toOption = some true

/-- The bindings of an iteration: the variables, and then what the loop tells about its progress. -/
def iterationBindings (index length : Nat) (item : Value) : List (String × Value) :=
  header.bindings item ++ [("forloop", .object (Table.ofList [
    ("index", .ofNat index), ("counter0", .ofNat index), ("counter", .ofNat (index + 1)),
    ("first", .bool (index = 0)), ("last", .bool (index + 1 = length)),
    ("length", .ofNat length)]))]

/-- A loop with the same variables over a given list, and without a condition. -/
def listed (place : Span) (list : List Value) : LoopHeader :=
  ⟨header.names, ⟨place, .literal (.array list), []⟩, none⟩

end LoopHeader

/-- The state in which the body of a loop is rendered for an item: one more scope stands in it. -/
def RenderState.iteration (s : RenderState) (header : LoopHeader) (index length : Nat) (item : Value) :
    RenderState :=
  s.push (Table.ofList (header.iterationBindings index length item))

/-- For the first of the items an action writes the texts, each in the state of its own iteration. -/
def WritesInTurn (x : Render Unit) (inner : Nat → Value → RenderState) (items : List Value)
    (texts : List String) : Prop :=
  ∀ i item text, items[i]? = some item → texts[i]? = some text →
    x (inner i item) = (.ok (), (inner i item).wrote text)

theorem WritesInTurn.cons {x : Render Unit} {inner : Nat → Value → RenderState} {item : Value}
    {items : List Value} {text : String} {texts : List String}
    (first : x (inner 0 item) = (.ok (), (inner 0 item).wrote text))
    (others : WritesInTurn x (fun i => inner (i + 1)) items texts) :
    WritesInTurn x inner (item :: items) (text :: texts) := by
  intro i item' text' here written
  cases i with
  | zero =>
    cases here
    cases written
    exact first
  | succ i => exact others i item' text' here written

section Selecting

variable {env : Environment} {scopes : Scopes} {header : LoopHeader} {items before : List Value}
  {item : Value} {e : Failure} {v : Value}

theorem Elements.items_eq (elements : Elements header.names.length v items) :
    Render.items header.names.length v = items := by
  cases elements with
  | keys single => simp only [Render.items, if_neg (Nat.not_lt.mpr single)]
  | pairs several => simp only [Render.items, if_pos several]
  | _ => rfl

theorem bindItem_eq (names : List String) (item : Value) : Render.bindItem names item =
    match unpack? names item with
    | none => .error (.notUnpackable item.shape names.length)
    | some values => .ok (Table.ofList (names.zip values)) := by
  match names with
  | [name] => rfl
  | [] | first :: second :: others =>
    cases item with
    | array values =>
      simp only [Render.bindItem, unpack?, List.length_nil, List.length_cons]
      split <;> simp_all
    | _ => simp [Render.bindItem, unpack?]

/-- An item is selected if it is judged to be kept. -/
theorem select_cons : Render.select env scopes header (item :: items) =
    (header.judge env scopes item).bind fun keep =>
      (Render.select env scopes header items).bind fun others =>
        .ok (if keep then Table.ofList (header.bindings item) :: others else others) := by
  rw [Render.select, bindItem_eq, LoopHeader.judge, LoopHeader.bindings]
  cases unpack? header.names item with
  | none => rfl
  | some values =>
    cases header.selection with
    | none => rfl
    | some condition => rfl

/-- The first item that cannot be judged ends the selection. -/
theorem select_fails (judged : ∀ b ∈ before, ∃ keep, header.judge env scopes b = .ok keep)
    (failed : header.judge env scopes item = .error e) (after : List Value) :
    Render.select env scopes header (before ++ item :: after) = .error e := by
  induction before with
  | nil =>
    rw [List.nil_append, select_cons, failed]
    rfl
  | cons b before ih =>
    obtain ⟨⟨keep, first⟩, others⟩ := List.forall_mem_cons.mp judged
    rw [List.cons_append, select_cons, first, ih others]
    rfl

/-- If all items can be judged, those that are kept are selected, with their variables bound. -/
theorem select_keeps (judged : ∀ item ∈ items, ∃ keep, header.judge env scopes item = .ok keep) :
    Render.select env scopes header items =
      .ok ((header.kept env scopes items).map fun item => Table.ofList (header.bindings item)) := by
  induction items with
  | nil => rfl
  | cons item items ih =>
    obtain ⟨⟨keep, first⟩, others⟩ := List.forall_mem_cons.mp judged
    rw [select_cons, first, ih others, LoopHeader.kept, LoopHeader.kept, List.filter_cons]
    cases keep <;> simp [Except.bind, first, Except.toOption]

/-- An item that is kept is kept again where nothing but the variables decides. -/
theorem judge_listed {list : List Value} {place : Span} (keeps : header.judge env scopes item = .ok true) :
    (header.listed place list).judge env scopes item = .ok true := by
  unfold LoopHeader.judge at keeps ⊢
  cases found : unpack? header.names item with
  | none => simp [found] at keeps
  | some values => simp [LoopHeader.listed, found]

theorem judge_of_kept (judged : ∀ item ∈ items, ∃ keep, header.judge env scopes item = .ok keep)
    (member : item ∈ header.kept env scopes items) : header.judge env scopes item = .ok true := by
  obtain ⟨among, keeps⟩ := List.mem_filter.mp member
  obtain ⟨keep, known⟩ := judged item among
  simpa [known, Except.toOption] using keeps

/-- Where all items can be judged, a loop over those that are kept selects the same without a condition. -/
theorem select_listed (judged : ∀ item ∈ items, ∃ keep, header.judge env scopes item = .ok keep)
    (place : Span) :
    let kept := header.kept env scopes items
    Render.select env scopes (header.listed place kept) kept = Render.select env scopes header items := by
  intro kept
  have again : ∀ item ∈ kept, (header.listed place kept).judge env scopes item = .ok true :=
    fun item member => judge_listed (judge_of_kept judged member)
  have all : (header.listed place kept).kept env scopes kept = kept :=
    List.filter_eq_self.mpr fun item member => by simp [again item member, Except.toOption]
  rw [select_keeps judged, select_keeps fun item member => ⟨true, again item member⟩, all]
  rfl

end Selecting

namespace Render

variable {env : Environment} {walk : Walk} {s : RenderState} {header : LoopHeader} {body : List Node}
  {emptyBody : Option (List Node)} {v : Value} {items kept : List Value} {e : Failure}

/-- Renders what a loop has selected. -/
def renderSelected (walk : Walk) (body : List Node) (emptyBody : Option (List Node))
    (scopes : List Members) : Render Unit :=
  if scopes.isEmpty then nodes walk (emptyBody.getD []) else iterations walk body scopes.length 0 scopes

/-- A loop selects first, with nothing rendered. -/
theorem loop_eq (evaluated : env.evalPipeline s.scopes header.iterable = .ok v) :
    loop env walk header body emptyBody s =
      Render.bind (ofExcept (select env s.scopes header (Render.items header.names.length v)))
        (renderSelected walk body emptyBody) s := by
  have run : loop env walk header body emptyBody s =
      Render.bind (ofExcept ((env.evalPipeline s.scopes header.iterable).bind fun v =>
        select env s.scopes header (Render.items header.names.length v)))
          (renderSelected walk body emptyBody) s := rfl
  rw [run, evaluated]
  rfl

/-- In the scope of an iteration the progress of the loop stands with the variables. -/
theorem iteration_eq (header : LoopHeader) (index length : Nat) (item : Value) :
    s.push (Table.insert (Table.ofList (header.bindings item)) "forloop" (progress index length)) =
      s.iteration header index length item := by
  have told : progress index length = .object (Table.ofList [
      ("index", .ofNat index), ("counter0", .ofNat index), ("counter", .ofNat (index + 1)),
      ("first", .bool (index = 0)), ("last", .bool (index + 1 = length)),
      ("length", .ofNat length)]) := by
    simp only [progress, Table.ofList, Table.insertAll, List.foldl_cons, List.foldl_nil, Table.insert,
      Table.insertAbove, Table.empty, String.reduceEq, String.reduceLT, reduceDIte]
  rw [RenderState.iteration, LoopHeader.iterationBindings, told, Table.ofList_concat]

/-- The iterations come to the body in the state of the first of them, and then to the others. -/
theorem iterations_cons_effect (s : RenderState) (header : LoopHeader) (tidy : ∀ n, Tidy (walk n))
    (index length : Nat) (item : Value) (others : List Value) :
    let scopes := List.map fun item => Table.ofList (header.bindings item)
    (iterations walk body length index (scopes (item :: others))).effect s =
      ((nodes walk body).effect (s.iteration header index length item)).andThen fun _ =>
        (iterations walk body length (index + 1) (scopes others)).effect s := by
  intro scopes
  have acts := bind_acts (inScope_acts (Table.insert (Table.ofList (header.bindings item)) "forloop"
    (progress index length)) (nodes_tidy tidy body)) fun _ =>
      iterations_tidy tidy body length (index + 1) (scopes others)
  have effect := acts.effect_eq s
  rwa [iteration_eq] at effect

/-- The iterations write the texts of the body one after the other, up to the first that fails. -/
theorem iterations_effect (s : RenderState) (header : LoopHeader) (tidy : ∀ n, Tidy (walk n))
    (index length : Nat) (kept : List Value) :
    let inner := fun i item => s.iteration header (i + index) length item
    let whole := (iterations walk body length index
      (kept.map fun item => Table.ofList (header.bindings item))).effect s
    (∃ texts, texts.length = kept.length ∧ WritesInTurn (nodes walk body) inner kept texts ∧
      whole = ⟨.ok (), String.join texts⟩) ∨
    ∃ texts item halt text, kept[texts.length]? = some item ∧
      WritesInTurn (nodes walk body) inner kept texts ∧
      nodes walk body (inner texts.length item) =
        (.error halt, (inner texts.length item).wrote text) ∧
      whole = ⟨.error halt, String.join texts ++ text⟩ := by
  induction kept generalizing index with
  | nil =>
    refine .inl ⟨[], rfl, nofun, ?_⟩
    exact (pure_acts ()).effect_eq s
  | cons item kept ih =>
    intro inner whole
    have body_tidy := nodes_tidy tidy body
    have ran := body_tidy.run (inner 0 item)
    have whole_eq : whole = ((nodes walk body).effect (inner 0 item)).andThen fun _ =>
        (iterations walk body length (index + 1)
          (kept.map fun item => Table.ofList (header.bindings item))).effect s := by
      have start : inner 0 item = s.iteration header index length item := by
        simp only [inner, Nat.zero_add]
      rw [start]
      exact iterations_cons_effect s header tidy index length item kept
    cases ended : ((nodes walk body).effect (inner 0 item)).result with
    | error halt =>
      rw [ended] at ran
      refine .inr ⟨[], item, halt, _, rfl, nofun, ran, ?_⟩
      rw [whole_eq, Effect.andThen_error ended]
      simp [String.join]
    | ok u =>
      rw [ended] at ran
      have later := ih (index + 1)
      have shift : ∀ i, i + (index + 1) = i + 1 + index := fun i => by omega
      simp only [shift] at later
      rw [Effect.andThen_ok ended] at whole_eq
      rcases later with ⟨texts, count, writes, effect⟩ | ⟨texts, last, halt, text, here, writes, stops, effect⟩
      · refine .inl ⟨_ :: texts, by simp [count], .cons ran writes, ?_⟩
        rw [whole_eq, effect, String.join_cons]
      · refine .inr ⟨_ :: texts, last, halt, text, here, .cons ran writes, stops, ?_⟩
        rw [whole_eq, effect, String.join_cons, String.append_assoc]

end Render

/-- Loops mean what they say. If some item does not suit the variables or the condition fails on it, the
loop fails with the first such error, and nothing is rendered. Otherwise it renders its other part
if no item is kept, and else the body for the kept items one after the other, up to the first
that fails, with a scope around it in which the later of two bindings counts. It is the loop
without a condition over the kept items. -/
theorem loop_means (env : Environment) (bound : Nat) (span : Span) (header : LoopHeader) (body : List Node)
    (emptyBody : Option (List Node)) (s : RenderState) {v : Value} {items : List Value}
    (evaluated : env.evalPipeline s.scopes header.iterable = .ok v)
    (elements : Elements header.names.length v items) :
    let walk := Render.node env bound
    let loop := fun header => Render.node env (bound + 1) (.loop span header body emptyBody) s
    let judge := header.judge env s.scopes
    let kept := header.kept env s.scopes items
    let inner := fun i item => s.iteration header i kept.length item
    (∀ before item after e, items = before ++ item :: after → (∀ b ∈ before, ∃ keep, judge b = .ok keep) →
      judge item = .error e → loop header = (.error (.failed e), s)) ∧
    ((∀ item ∈ items, ∃ keep, judge item = .ok keep) →
      (kept = [] → loop header = Render.nodes walk (emptyBody.getD []) s) ∧
      (kept ≠ [] →
        (∃ texts, texts.length = kept.length ∧ WritesInTurn (Render.nodes walk body) inner kept texts ∧
          loop header = (.ok (), s.wrote (String.join texts))) ∨
        ∃ texts item halt text, kept[texts.length]? = some item ∧
          WritesInTurn (Render.nodes walk body) inner kept texts ∧
          Render.nodes walk body (inner texts.length item) =
            (.error halt, (inner texts.length item).wrote text) ∧
          loop header = (.error halt, s.wrote (String.join texts ++ text))) ∧
      ∀ place, loop (header.listed place kept) = loop header) ∧
    ∀ i item name, (inner i item).scopes.lookup name =
      ((header.iterationBindings i kept.length item).reverse.lookup name).or (s.scopes.lookup name) := by
  intro walk loop judge kept inner
  have tidy := Render.node_tidy env bound
  have same := elements.items_eq
  refine ⟨fun before item after e parts judged failed => ?_, fun judged => ?_, fun i item name => ?_⟩
  · have selected := select_fails judged failed after
    rw [← parts, ← same] at selected
    exact (Render.loop_eq evaluated).trans (by rw [selected]; rfl)
  · have selected := select_keeps judged
    have run : loop header = Render.renderSelected walk body emptyBody
        (kept.map fun item => Table.ofList (header.bindings item)) s := by
      refine (Render.loop_eq evaluated).trans ?_
      rw [same, selected]
      rfl
    refine ⟨fun none => ?_, fun some => ?_, fun place => ?_⟩
    · rw [run, none]
      rfl
    · have busy : ¬(kept.map fun item => Table.ofList (header.bindings item)).isEmpty := by
        simpa using some
      rw [Render.renderSelected, if_neg busy, List.length_map,
        (Render.iterations_tidy tidy body _ 0 _).run] at run
      rcases Render.iterations_effect s header tidy 0 kept.length kept with
        ⟨texts, count, writes, effect⟩ | ⟨texts, item, halt, text, here, writes, stops, effect⟩
      · exact .inl ⟨texts, count, writes, by rw [run, effect]⟩
      · exact .inr ⟨texts, item, halt, text, here, writes, stops, by rw [run, effect]⟩
    · have again : env.evalPipeline s.scopes (header.listed place kept).iterable = .ok (.array kept) := rfl
      refine (Render.loop_eq again).trans (Eq.trans ?_ (Render.loop_eq evaluated).symm)
      rw [same, ← select_listed judged place]
      rfl
  · rw [← Table.get?_ofList]
    exact Scopes.lookup_push s.scopes _ name

/-- A loop over an object with a condition, which numbers the members that it keeps. -/
theorem loop_means_numbering :
    let members : Members := .ofList [("a", .bool false), ("b", .bool true), ("c", .bool true)]
    let items := (Table.toList members).map fun entry => Value.array [.string entry.1, entry.2]
    let s : RenderState := { scopes := ⟨[], .ofList [("xs", .object members)]⟩ }
    let header : LoopHeader :=
      ⟨["k", "v"], ⟨{}, .lookup ⟨"xs", []⟩, []⟩, some (.value ⟨{}, .lookup ⟨"v", []⟩, []⟩)⟩
    let body := [Node.output {} "" ⟨{}, .lookup ⟨"k", []⟩, []⟩,
      Node.output {} "" ⟨{}, .lookup ⟨"forloop", [.key "counter"]⟩, []⟩]
    let loop := fun header => Render.node .standard 2 (.loop {} header body none) s
    Environment.standard.evalPipeline s.scopes header.iterable = .ok (.object members) ∧
    Elements 2 (.object members) items ∧
    ((loop header).1.toOption, (loop header).2.output) = (some (), "b1c2") ∧
    loop (header.listed {} [.array [.string "b", .bool true], .array [.string "c", .bool true]]) =
      loop header := by
  intro members items s header body loop
  have evaluated : Environment.standard.evalPipeline s.scopes header.iterable = .ok (.object members) :=
    rfl
  have elements : Elements 2 (.object members) items := .pairs (by decide)
  have means := loop_means .standard 1 {} header body none s evaluated elements
  have entries : Table.toList members = [("a", .bool false), ("b", .bool true), ("c", .bool true)] := rfl
  have judged : ∀ item ∈ items, ∃ keep, header.judge .standard s.scopes item = .ok keep := by
    intro item member
    simp only [items, entries, List.map_cons, List.map_nil, List.mem_cons, List.not_mem_nil, or_false] at member
    rcases member with rfl | rfl | rfl
    · exact ⟨false, rfl⟩
    · exact ⟨true, rfl⟩
    · exact ⟨true, rfl⟩
  have kept : header.kept .standard s.scopes items =
      [.array [.string "b", .bool true], .array [.string "c", .bool true]] := rfl
  have again := (means.2.1 judged).2.2 {}
  rw [kept] at again
  exact ⟨evaluated, elements, by decide +kernel, again⟩

end TextTemplate
