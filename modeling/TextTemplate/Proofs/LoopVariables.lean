import TextTemplate.Proofs.ContainerLookups
import TextTemplate.Proofs.LoopMeaning
import TextTemplate.Proofs.TagGrammar
import TextTemplate.Proofs.TreePlaces

/-! The variables of a loop as its body reads them. Whatever the header of a loop takes for a variable is a
single name, so that it is read back as a lookup unless it is a word that stands for a value; and the
lookup gives the component of the item at the place of the variable. The scope of an iteration has one
value for each name: that of the last variable of the name, and the progress of the loop under its own. -/
namespace TextTemplate

/-! The names in a header -/

namespace Lexeme

/-- A lexeme that is read is a single name if it is an identifier. -/
def Names (read : Except Fault (Lexeme × List Char)) : Prop :=
  ∀ word after, read = .ok (.identifier word, after) → isName word.toList

theorem next_names (c : Char) (rest : List Char) : Names (next c rest) := by
  apply next_cases
  case bare =>
    rintro _ member word after ⟨⟩
    simp at member
  case equals =>
    intro op fault _ word after read
    unfold withEquals at read
    split at read <;> cases read
  case relation =>
    intro alone orEqual word after read
    unfold relational at read
    split at read <;> cases read
  case string =>
    intro _ word after read
    unfold stringAfter at read
    split at read <;> cases read
  case number =>
    intro _ word after read
    cases read
  case word =>
    rintro starts word after ⟨⟩
    rw [String.toList_ofList, isName, starts, Bool.true_and]
    exact List.all_takeWhile
  case unexpected =>
    intro word after read
    cases read

/-- The identifiers of a text are single names. -/
theorem ofText_names {cs : List Char} {ls : List Lexeme} (read : ofText cs = .ok ls) {word : String}
    (member : .identifier word ∈ ls) : isName word.toList := by
  have each : ∀ c rest l after, next c rest = .ok (l, after) →
      ∀ word, l = .identifier word → isName word.toList := by
    rintro c rest _ after found word rfl
    exact next_names c rest word after found
  exact ofText_all each read _ member word rfl

end Lexeme

theorem readVariables_names {ls rest : List Lexeme} {names : List String}
    (read : readVariables ls = .ok (names, rest)) :
    ∀ name ∈ names, .identifier name ∈ ls ∧ isReserved name = false := by
  induction ls using readVariables.induct generalizing names with
  | case1 word rest' reserved =>
    rw [readVariables, if_pos reserved] at read
    cases read
  | case2 word rest' free ih =>
    rw [readVariables, if_neg free] at read
    obtain ⟨others, found, rfl⟩ := Reading.map_eq_ok.mp read
    refine List.forall_mem_cons.mpr ⟨⟨List.mem_cons_self, by simpa using free⟩, fun name member => ?_⟩
    obtain ⟨among, unreserved⟩ := ih found name member
    exact ⟨List.mem_cons_of_mem _ (List.mem_cons_of_mem _ among), unreserved⟩
  | case3 ls single =>
    rw [readVariables] at read
    · obtain ⟨word, found, rfl⟩ := Reading.map_eq_ok.mp read
      refine List.forall_mem_singleton.mpr ?_
      unfold readIdentifier at found
      split at found
      · split at found
        · cases found
        · rename_i free
          cases found
          exact ⟨List.mem_cons_self, by simpa using free⟩
      · cases found
      · cases found
    · exact single

/-- The variables of a loop are single names, and none of them joins conditions. -/
theorem loopHeader_names {token : Token} {header : LoopHeader} (accepted : token.loopHeader = .ok header)
    {name : String} (member : name ∈ header.names) :
    Lexeme.isName name.toList ∧ name ∉ reservedWords := by
  obtain ⟨ls, lexed, read⟩ := readWhole_ok (inArguments_ok accepted)
  obtain ⟨⟨names, behind⟩, listed, read⟩ := bind_ok read
  obtain ⟨⟨_, behind⟩, -, read⟩ := bind_ok read
  obtain ⟨⟨iterable, behind⟩, -, read⟩ := bind_ok read
  have same : header.names = names := by
    dsimp only at read
    split at read
    · obtain ⟨⟨selection, behind⟩, -, read⟩ := bind_ok read
      cases read
      rfl
    · cases read
      rfl
  obtain ⟨among, free⟩ := readVariables_names listed name (same ▸ member)
  exact ⟨Lexeme.ofText_names lexed among, by simpa [isReserved] using free⟩

/-! The values that they are bound to -/

section Bindings

variable {names : List String} {values : List Value} {item : Value} {i : Nat} {name : String}

theorem unpack_length (unpacks : unpack? names item = some values) : values.length = names.length := by
  unfold unpack? at unpacks
  split at unpacks
  · rename_i single
    cases unpacks
    exact single.symm
  · split at unpacks
    · split at unpacks
      · cases unpacks
        assumption
      · cases unpacks
    · cases unpacks

theorem lookup_zip_absent (absent : name ∉ names) (values : List Value) :
    (names.zip values).reverse.lookup name = none := by
  refine List.lookup_eq_none_iff.mpr fun entry member => bne_iff_ne.mpr ?_
  rintro rfl
  exact absent (List.of_mem_zip (List.mem_reverse.mp member)).1

/-- Of names with values the last one counts. -/
theorem lookup_zip_last (same : values.length = names.length) (named : names[i]? = some name)
    (last : name ∉ names.drop (i + 1)) : (names.zip values).reverse.lookup name = values[i]? := by
  induction names generalizing values i with
  | nil => simp at named
  | cons first names ih =>
    cases values with
    | nil => simp at same
    | cons v values =>
      rw [List.zip_cons_cons, List.reverse_cons, List.lookup_append]
      cases i with
      | zero =>
        cases named
        have absent : name ∉ names := last
        rw [lookup_zip_absent absent, Option.none_or, List.lookup_cons_self]
        rfl
      | succ i =>
        -- What the rest of the list binds counts before the first name, so it may be the same name.
        have named : names[i]? = some name := named
        have same : values.length = names.length := Nat.succ.inj same
        have inside : i < values.length := same ▸ (List.getElem?_eq_some_iff.mp named).1
        rw [ih same named last, List.getElem?_cons_succ, List.getElem?_eq_getElem inside, Option.some_or]

end Bindings

namespace LoopHeader

/-- The component of an item at the place of a variable. -/
def component? (header : LoopHeader) (i : Nat) (item : Value) : Option Value :=
  (unpack? header.names item).bind (·[i]?)

variable {header : LoopHeader} {item : Value} {values : List Value} {i : Nat} {name : String}

/-- An item that can be judged suits the variables. -/
theorem unpacks_of_judged {env : Environment} {scopes : Scopes} {keep : Bool}
    (judged : header.judge env scopes item = .ok keep) :
    ∃ values, unpack? header.names item = some values := by
  unfold judge at judged
  cases unpacks : unpack? header.names item with
  | none => simp [unpacks] at judged
  | some values => exact ⟨values, rfl⟩

/-- In the state of an iteration the last variable of a name has its component, unless the loop tells its
progress under the name. -/
theorem iteration_lookup (s : RenderState) (index length : Nat)
    (unpacks : unpack? header.names item = some values) (named : header.names[i]? = some name)
    (last : name ∉ header.names.drop (i + 1)) :
    (s.iteration header index length item).scopes.lookup name =
      if name = "forloop" then some (Render.progress index length) else values[i]? := by
  have same := unpack_length unpacks
  have inside : i < values.length := same ▸ (List.getElem?_eq_some_iff.mp named).1
  have found := lookup_zip_last same named last
  rw [← Render.iteration_eq]
  refine (Scopes.lookup_push s.scopes _ name).trans ?_
  rw [Table.get?_insert]
  by_cases progress : name = "forloop"
  · rw [if_pos progress.symm, if_pos progress, Option.some_or]
  · rw [if_neg (Ne.symm progress), if_neg progress, bindings, unpacks, Option.getD_some,
      Table.get?_ofList, found, List.getElem?_eq_getElem inside, Option.some_or]

end LoopHeader

/-! Outputs in the body -/

section Outputs

variable {name : String} {env : Environment} {value : Value}

/-- The output of a name as it is, with nothing escaped. -/
def safeOutput (name : String) : String := outputText (name ++ "|" ++ "safe")

/-- It compiles to a single node. -/
theorem safeOutput_compiles (alone : Path.Writable ⟨name, []⟩) (env : Environment) (template : String) :
    ∃ t span, env.template template (safeOutput name) = .ok t ∧
      t.root = [.output span (name ++ "|" ++ "safe") ⟨span, .lookup ⟨name, []⟩, [⟨"safe", []⟩]⟩] := by
  have chars : ∀ c ∈ (name ++ "|" ++ "safe").toList,
      ¬ Text.isBlank c ∧ '\n' ≠ c ∧ ¬ isQuote c ∧ c ≠ '\x7d' := by
    have ordinary : ∀ letters, Lexeme.isName letters → ∀ c ∈ letters,
        ¬ Text.isBlank c ∧ '\n' ≠ c ∧ ¬ isQuote c ∧ c ≠ '\x7d' := fun letters single c member =>
      isLookupChar_ordinary (isLookupChar_of_continues (Lexeme.isName_chars single c member))
    intro c member
    simp only [String.toList_append, List.mem_append] at member
    rcases member with (first | bar) | later
    · exact ordinary _ alone.name c first
    · obtain rfl : c = '|' := by simpa using bar
      decide
    · exact ordinary _ (by decide +kernel) c later
  obtain ⟨span, tokens⟩ := tokenize_line ⟨fun c first => (chars c (List.mem_of_head? first)).1,
    fun c final => (chars c (List.mem_of_getLast? final)).1⟩ (fun line => (chars _ line).2.1 rfl)
    fun c member => (chars c member).2.2
  have written : name ++ "|" ++ "safe" ≠ "" := by
    intro empty
    simpa using congrArg String.length empty
  exact ⟨_, span, ofSource_output tokens written (filter_reads alone (by decide +kernel) span), rfl⟩

/-- It writes the text of the value that the name has, if the filter is there that keeps it as it is. -/
theorem safeOutput_effect {span : Span} {contents : String} {s : RenderState}
    (marked : Table.get? env.filters "safe" = some ⟨Filter.safe, true⟩) (other : name ≠ "super")
    (bound : s.scopes.lookup name = some value) (depth : Nat) :
    (Render.nodes (Render.node env (depth + 1))
      [.output span contents ⟨span, .lookup ⟨name, []⟩, [⟨"safe", []⟩]⟩]).effect s =
      ⟨.ok (), value.text⟩ := by
  have plain : Pipeline.isSuper ⟨span, .lookup ⟨name, []⟩, [⟨"safe", []⟩]⟩ = false := by
    simp [Pipeline.isSuper, other]
  have evaluated : env.evalPipeline s.scopes ⟨span, .lookup ⟨name, []⟩, [⟨"safe", []⟩]⟩ = .ok value :=
    Environment.evalPipeline_filter bound marked rfl span
  rw [nodes_output_effect plain evaluated depth]
  simp [Render.escaped, FilterCatalog.isSafe, marked]

end Outputs

namespace Render

variable {env : Environment} {walk : Walk} {s : RenderState} {header : LoopHeader} {body : List Node}
  {emptyBody : Option (List Node)} {v : Value} {items : List Value}

/-- If the body writes a text for each item, the iterations write these one after the other. -/
theorem iterations_write (tidy : ∀ n, Tidy (walk n)) {length : Nat} {text : Value → String}
    (each : ∀ i, ∀ item ∈ items,
      (nodes walk body).effect (s.iteration header i length item) = ⟨.ok (), text item⟩) (index : Nat) :
    (iterations walk body length index
      (items.map fun item => Table.ofList (header.bindings item))).effect s =
      ⟨.ok (), String.join (items.map text)⟩ := by
  induction items generalizing index with
  | nil => exact (pure_acts ()).effect_eq s
  | cons item items ih =>
    have later := ih (fun i other member => each i other (List.mem_cons_of_mem item member)) (index + 1)
    rw [iterations_cons_effect s header tidy index length item items, each index item List.mem_cons_self,
      Effect.andThen_ok rfl, later, List.map_cons, String.join_cons]

/-- If the body writes a text for each item that is kept, the loop writes these one after the other. -/
theorem loop_writes (tidy : ∀ n, Tidy (walk n)) {text : Value → String}
    (evaluated : env.evalPipeline s.scopes header.iterable = .ok v)
    (elements : Elements header.names.length v items)
    (judged : ∀ item ∈ items, ∃ keep, header.judge env s.scopes item = .ok keep)
    (busy : header.kept env s.scopes items ≠ [])
    (each : ∀ i length, ∀ item ∈ header.kept env s.scopes items,
      (nodes walk body).effect (s.iteration header i length item) = ⟨.ok (), text item⟩) :
    loop env walk header body emptyBody s =
      (.ok (), s.wrote (String.join ((header.kept env s.scopes items).map text))) := by
  have run : loop env walk header body emptyBody s = renderSelected walk body emptyBody
      ((header.kept env s.scopes items).map fun item => Table.ofList (header.bindings item)) s := by
    refine (loop_eq evaluated).trans ?_
    rw [elements.items_eq, select_keeps judged]
    rfl
  have some : ¬((header.kept env s.scopes items).map fun item =>
      Table.ofList (header.bindings item)).isEmpty := by
    simpa using busy
  rw [run, renderSelected, if_neg some, List.length_map, (iterations_tidy tidy body _ 0 _).run,
    iterations_write tidy (fun i => each i _) 0]

end Render

/-- The variables of an accepted loop are read by their names. The name of a variable is a lookup, unless
it is a word that stands for a value, and in the body the lookup gives the component of the item at the
place of the variable, if no later variable has the name; under the name of the loop's progress it
gives that. So a body that is nothing but an output of the name writes the components of the kept
items one after the other, unless the name asks for inherited content. -/
theorem loop_variable_reads {token : Token} {header : LoopHeader} {i : Nat} {name : String}
    (accepted : token.loopHeader = .ok header) (named : header.names[i]? = some name)
    (plain : name ∉ literalWords.map Prod.fst) (last : name ∉ header.names.drop (i + 1)) :
    (∀ span, Pipeline.ofText span name = .ok ⟨span, .lookup ⟨name, []⟩, []⟩) ∧
    (∀ item values, unpack? header.names item = some values →
      ∃ component, values[i]? = some component ∧
        ∀ (env : Environment) (s : RenderState) (index length : Nat) (span : Span),
          env.evalPipeline (s.iteration header index length item).scopes ⟨span, .lookup ⟨name, []⟩, []⟩ =
            .ok (if name = "forloop" then Render.progress index length else component)) ∧
    (name ∉ ["forloop", "super"] → ∀ (env : Environment) (template : String),
      Table.get? env.filters "safe" = some ⟨Filter.safe, true⟩ →
      ∃ t, env.template template (safeOutput name) = .ok t ∧
        ∀ (s : RenderState) (v : Value) (items : List Value) (span : Span)
          (emptyBody : Option (List Node)) (bound : Nat),
          env.evalPipeline s.scopes header.iterable = .ok v → Elements header.names.length v items →
          (∀ item ∈ items, ∃ keep, header.judge env s.scopes item = .ok keep) →
          header.kept env s.scopes items ≠ [] →
          Render.node env (bound + 2) (.loop span header t.root emptyBody) s =
            (.ok (), s.wrote (String.join ((header.kept env s.scopes items).map fun item =>
              ((header.component? i item).getD .null).text)))) := by
  obtain ⟨single, free⟩ := loopHeader_names accepted (List.mem_of_getElem? named)
  have alone : Path.Writable ⟨name, []⟩ := ⟨single, free, plain, List.forall_mem_nil _⟩
  have component_of : ∀ item values, unpack? header.names item = some values →
      ∃ component, values[i]? = some component := fun item values unpacks => by
    have inside := (List.getElem?_eq_some_iff.mp named).1
    rw [← unpack_length unpacks] at inside
    exact ⟨_, List.getElem?_eq_getElem inside⟩
  refine ⟨name_reads alone, fun item values unpacks => ?_, fun other env template marked => ?_⟩
  · obtain ⟨component, here⟩ := component_of item values unpacks
    refine ⟨component, here, fun env s index length span => Environment.evalPipeline_name ?_ env span⟩
    rw [LoopHeader.iteration_lookup s index length unpacks named last, here]
    split <;> rfl
  · obtain ⟨t, span, compiled, root⟩ := safeOutput_compiles alone env template
    refine ⟨t, compiled, fun s v items span' emptyBody bound evaluated elements judged kept => ?_⟩
    rw [root]
    refine Render.loop_writes (Render.node_tidy env (bound + 1)) evaluated elements judged kept ?_
    intro index length item member
    obtain ⟨values, unpacks⟩ := LoopHeader.unpacks_of_judged (judge_of_kept judged member)
    obtain ⟨component, here⟩ := component_of item values unpacks
    obtain ⟨apart, other⟩ : name ≠ "forloop" ∧ name ≠ "super" := by simpa using other
    have bound' : (s.iteration header index length item).scopes.lookup name = some component := by
      rw [LoopHeader.iteration_lookup s index length unpacks named last, if_neg apart, here]
    rw [safeOutput_effect marked other bound', LoopHeader.component?, unpacks, Option.bind_some, here,
      Option.getD_some]

/-- Two items with three components each. -/
def triples : List Value :=
  [.array [.string "a", .string "b", .string "c"], .array [.string "d", .string "e", .string "f"]]

/-- A name that occurs twice means the component at its last place, and its output writes that. -/
theorem loop_variable_reads_twice :
    let header : LoopHeader := ⟨["k", "v", "k"], ⟨{}, .lookup ⟨"xs", []⟩, []⟩, none⟩
    let s : RenderState := { scopes := ⟨[], .ofList [("xs", .array triples)]⟩ }
    Token.loopHeader ⟨.tag, "for k, v, k in xs", {}⟩ = .ok header ∧
      (∀ item ∈ triples, ∃ component, header.component? 2 item = some component ∧
        Environment.standard.evalPipeline (s.iteration header 0 2 item).scopes
          ⟨{}, .lookup ⟨"k", []⟩, []⟩ = .ok component) ∧
      ∃ t, Environment.standard.template "page" (safeOutput "k") = .ok t ∧
        Render.node .standard 2 (.loop {} header t.root none) s = (.ok (), s.wrote "cf") := by
  intro header s
  have accepted : Token.loopHeader ⟨.tag, "for k, v, k in xs", {}⟩ = .ok header := by
    with_unfolding_all rfl
  have unpacks : ∀ item ∈ triples, ∃ values, unpack? header.names item = some values := by
    intro item member
    simp only [triples, List.mem_cons, List.not_mem_nil, or_false] at member
    rcases member with rfl | rfl
    · exact ⟨_, rfl⟩
    · exact ⟨_, rfl⟩
  have judged : ∀ item ∈ triples, header.judge .standard s.scopes item = .ok true := by
    intro item member
    obtain ⟨values, unpacks⟩ := unpacks item member
    rw [LoopHeader.judge, unpacks]
  have kept : header.kept .standard s.scopes triples = triples :=
    List.filter_eq_self.mpr fun item member => by rw [judged item member]; rfl
  have named : header.names[2]? = some "k" := rfl
  obtain ⟨-, means, writes⟩ := loop_variable_reads accepted named (by decide) (by decide)
  refine ⟨accepted, fun item member => ?_, ?_⟩
  · obtain ⟨values, unpacks⟩ := unpacks item member
    obtain ⟨component, here, gives⟩ := means item values unpacks
    refine ⟨component, ?_, gives .standard s 0 2 {}⟩
    rw [LoopHeader.component?, unpacks, Option.bind_some, here]
  · obtain ⟨t, compiled, written⟩ := writes (by decide) .standard "page" rfl
    refine ⟨t, compiled, ?_⟩
    have wrote := written s (.array triples) triples {} none 0 rfl (.array triples)
      (fun item member => ⟨true, judged item member⟩) (by rw [kept]; exact List.cons_ne_nil _ _)
    rwa [kept] at wrote

/-- Words that stand for values, the name of inherited content, that of the loop's progress, and a name
with a later place are accepted as variables, but their output is not the component. -/
theorem loop_variables_hidden :
    let rendered (source : String) (item : Value) :=
      (Environment.standard.renderText 4 source (.object (Table.ofList [("xs", .array [item])]))).toOption
    unpack? ["true"] (.string "a") = some [.string "a"] ∧
      rendered "{% for true in xs %}{{ true|safe }}{% endfor %}" (.string "a") = some "true" ∧
      rendered "{% for None in xs %}{{ None|safe }}{% endfor %}" (.string "a") = some "" ∧
      rendered "{% for super in xs %}{{ super|safe }}{% endfor %}" (.string "a") = some "" ∧
      rendered "{% for forloop in xs %}{{ forloop|safe }}{% endfor %}" (.string "a") ≠ some "a" ∧
      rendered "{% for a, a in xs %}{{ a|safe }}{% endfor %}" (.array [.string "p", .string "q"]) =
        some "q" := by
  intro rendered
  refine ⟨rfl, ?_⟩
  decide +kernel

end TextTemplate
