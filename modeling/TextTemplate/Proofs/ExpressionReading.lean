import Mathlib.Tactic.SplitIfs
import Mathlib.Tactic.Tauto
import TextTemplate.Error
import TextTemplate.Proofs.ExpressionGrammar

/-! Reading expressions by their grammar. Each reader takes the lexemes that a part of its rule derives,
gives what the part means, and stops where the part ends; and whatever a reader takes is what some
part derives. So a condition is read from exactly the lexemes that a derivation has, and it is what
that one derivation means. -/
namespace TextTemplate

section Readers

variable {α β : Type}

/-- A reader takes the lexemes of every part, and stops behind them. -/
def Takes (reader : List Lexeme → Reading β) (lexemes : α → List Lexeme) (meaning : α → β)
    (goesOn : Lexeme → Prop) : Prop :=
  ∀ part rest, Stops goesOn rest → reader (lexemes part ++ rest) = .ok (meaning part, rest)

/-- Whatever a reader takes are the lexemes of some part. -/
def Gives (reader : List Lexeme → Reading β) (lexemes : α → List Lexeme) (meaning : α → β) : Prop :=
  ∀ ls b rest, (∀ l ∈ ls, l.Spelled) → reader ls = .ok (b, rest) →
    ∃ part, lexemes part ++ rest = ls ∧ meaning part = b

theorem spelled_rest {before rest ls : List Lexeme} (spelled : ∀ l ∈ ls, l.Spelled)
    (parts : before ++ rest = ls) : ∀ l ∈ rest, l.Spelled := fun l member =>
  spelled l (parts ▸ List.mem_append_right before member)

end Readers

/-! Primaries -/

theorem wordLiteral_iff {word : String} {value : Value} :
    wordLiteral? word = some value ↔ (word, value) ∈ literalWords := by
  have among : (word, value) ∈ literalWords ↔ word = "true" ∧ value = .bool true ∨
      word = "false" ∧ value = .bool false ∨
      (word = "nil" ∨ word = "none" ∨ word = "None") ∧ value = .null := by
    simp only [literalWords, List.mem_cons, Prod.mk.injEq, List.not_mem_nil, or_false]
    tauto
  rw [among]
  unfold wordLiteral?
  split_ifs with yes no null
  · subst yes
    simp [eq_comm]
  · subst no
    simp [eq_comm]
  · have words : word = "nil" ∨ word = "none" ∨ word = "None" := by simpa [or_assoc] using null
    simp [yes, no, words, eq_comm]
  · have words : ¬(word = "nil" ∨ word = "none" ∨ word = "None") := by simpa [or_assoc] using null
    simp [yes, no, words]

theorem wordLiteral_none_iff {word : String} :
    wordLiteral? word = none ↔ word ∉ literalWords.map Prod.fst := by
  rw [Option.eq_none_iff_forall_ne_some]
  simp [wordLiteral_iff]

theorem readSteps_takes (steps : List StepForm) (path : Path) {rest : List Lexeme}
    (stops : Stops extendsLookup rest) :
    readSteps path (following .dot (fun step => [step.lexeme]) steps ++ rest) =
      .ok (⟨path.name, path.steps ++ steps.flatMap StepForm.segments⟩, rest) := by
  induction steps generalizing path with
  | nil =>
    simp only [following, List.flatMap_nil, List.nil_append, List.append_nil]
    cases rest with
    | nil => rfl
    | cons l rest =>
      have other : ¬extendsLookup l := stops_cons.mp stops
      unfold extendsLookup at other
      rw [readSteps]
      all_goals simp [other]
  | cons step steps ih =>
    cases step with
    | key name =>
      have read := ih { path with steps := path.steps ++ [.key name] }
      simpa [following, readSteps, StepForm.lexeme, StepForm.segments] using read
    | indices text positions written =>
      have read := ih { path with steps := path.steps ++ positions.map .index }
      simpa [following, readSteps, StepForm.lexeme, StepForm.segments, written.read] using read

theorem readSteps_gives {path read : Path} {ls rest : List Lexeme} (spelled : ∀ l ∈ ls, l.Spelled)
    (found : readSteps path ls = .ok (read, rest)) :
    ∃ steps : List StepForm, following .dot (fun step => [step.lexeme]) steps ++ rest = ls ∧
      (⟨path.name, path.steps ++ steps.flatMap StepForm.segments⟩ : Path) = read := by
  induction path, ls using readSteps.induct with
  | case1 path name ls ih =>
    rw [readSteps] at found
    obtain ⟨steps, taken, same⟩ := ih (fun l member => spelled l (.tail _ (.tail _ member))) found
    exact ⟨.key name :: steps, by simpa [following, StepForm.lexeme] using taken,
      by simpa [StepForm.segments] using same⟩
  | case2 path text ls segments indices ih =>
    rw [readSteps, indices] at found
    obtain ⟨positions, written, rfl⟩ := indicesWrittenAs_of_read (spelled _ (.tail _ (.head _))) indices
    obtain ⟨steps, taken, same⟩ := ih (fun l member => spelled l (.tail _ (.tail _ member))) found
    exact ⟨.indices text positions written :: steps, by simpa [following, StepForm.lexeme] using taken,
      by simpa [StepForm.segments] using same⟩
  | case3 path text ls part failed =>
    rw [readSteps, failed] at found
    cases found
  | case4 path ls notName notNumber =>
    rw [readSteps] at found
    · cases found
    · exact notName
    · exact notNumber
  | case5 path ls noName noNumber noDot =>
    rw [readSteps] at found
    · cases found
      exact ⟨[], rfl, by simp⟩
    · exact noName
    · exact noNumber
    · exact noDot

theorem readPrimary_takes :
    Takes readPrimary PrimaryForm.lexemes PrimaryForm.meaning extendsLookup := by
  intro p rest stops
  cases p with
  | string text => rfl
  | number text value written => simp [PrimaryForm.lexemes, readPrimary, written.read, PrimaryForm.meaning]
  | word word value stands =>
    simp [PrimaryForm.lexemes, readPrimary, wordLiteral_iff.mpr stands, PrimaryForm.meaning]
  | lookup name steps free plain =>
    have unreserved : isReserved name = false := by simpa [isReserved] using free
    simp [PrimaryForm.lexemes, readPrimary, wordLiteral_none_iff.mpr plain, unreserved,
      readSteps_takes steps _ stops, Reading.map, PrimaryForm.meaning]

theorem readPrimary_gives : Gives readPrimary PrimaryForm.lexemes PrimaryForm.meaning := by
  intro ls e rest spelled found
  unfold readPrimary at found
  split at found
  · cases found
  · rename_i text rest'
    cases found
    exact ⟨.string text, rfl, rfl⟩
  · rename_i text rest'
    split at found
    · rename_i number read
      cases found
      exact ⟨.number text number (Number.writtenAs_of_read (spelled _ (.head _)) read), rfl, rfl⟩
    · cases found
  · rename_i word rest'
    split at found
    · rename_i value stands
      cases found
      exact ⟨.word word value (wordLiteral_iff.mp stands), rfl, rfl⟩
    · rename_i plain
      split at found
      · cases found
      · rename_i unreserved
        obtain ⟨path, read, rfl⟩ := Reading.map_eq_ok.mp found
        obtain ⟨steps, taken, rfl⟩ := readSteps_gives (fun l member => spelled l (.tail _ member)) read
        refine ⟨.lookup word steps ?_ (wordLiteral_none_iff.mp plain), ?_, by simp [PrimaryForm.meaning]⟩
        · simpa [isReserved] using unreserved
        · rw [PrimaryForm.lexemes, List.cons_append, taken]
  · cases found

/-! Filters -/

theorem readArgs_takes (name : String) (parts : Separated PrimaryForm) (rest : List Lexeme) :
    readArgs name (parts.lexemes .comma PrimaryForm.lexemes ++ .rightParen :: rest) =
      .ok ((parts.first :: parts.others).map PrimaryForm.meaning, rest) := by
  obtain ⟨first, others⟩ := parts
  simp only [Separated.lexemes, List.append_assoc]
  induction others generalizing first with
  | nil =>
    have read := readPrimary_takes first (.rightParen :: rest)
      (stops_cons.mpr (by simp [extendsLookup]))
    simp only [following, List.flatMap_nil, List.nil_append]
    rw [readArgs, read]
    rfl
  | cons second others ih =>
    have read := readPrimary_takes first (.comma :: (second.lexemes ++
      (following .comma PrimaryForm.lexemes others ++ .rightParen :: rest)))
      (stops_cons.mpr (by simp [extendsLookup]))
    have later := ih second
    simp only [following, List.flatMap_cons, List.cons_append, List.append_assoc] at read later ⊢
    rw [readArgs, read]
    simp only [later]
    rfl

theorem readArgs_gives {name : String} {ls rest : List Lexeme} {args : List Expr}
    (spelled : ∀ l ∈ ls, l.Spelled) (found : readArgs name ls = .ok (args, rest)) :
    ∃ parts : Separated PrimaryForm,
      parts.lexemes .comma PrimaryForm.lexemes ++ .rightParen :: rest = ls ∧
        (parts.first :: parts.others).map PrimaryForm.meaning = args := by
  induction ls using readArgs.induct generalizing args with
  | case1 ls stuck failed =>
    rw [readArgs, failed] at found
    cases found
  | case2 ls e later read ih =>
    obtain ⟨first, taken, rfl⟩ := readPrimary_gives ls e _ spelled read
    rw [readArgs, read] at found
    obtain ⟨args, further, rfl⟩ := Reading.map_eq_ok.mp found
    have spelled := spelled_rest spelled taken
    obtain ⟨⟨second, others⟩, parts, rfl⟩ := ih (fun l member => spelled l (.tail _ member)) further
    refine ⟨⟨first, second :: others⟩, ?_, rfl⟩
    rw [← taken, ← parts]
    simp [Separated.lexemes, following]
  | case3 ls e later read =>
    obtain ⟨first, taken, rfl⟩ := readPrimary_gives ls e _ spelled read
    rw [readArgs, read] at found
    cases found
    exact ⟨⟨first, []⟩, by simpa [Separated.lexemes, following] using taken, rfl⟩
  | case4 ls e later noComma noParen read =>
    rw [readArgs, read] at found
    split at found
    · cases found
    · rename_i same
      cases same
      exact absurd rfl (noComma _)
    · rename_i same
      cases same
      exact absurd rfl (noParen _)
    · cases found

theorem readFilter_takes : Takes readFilter FilterForm.lexemes FilterForm.meaning extendsFilter := by
  rintro ⟨name, arguments⟩ rest stops
  cases arguments with
  | absent =>
    simp only [FilterForm.lexemes, ArgumentsForm.lexemes, List.cons_append, List.nil_append]
    cases rest with
    | nil => rfl
    | cons l rest =>
      have other : ¬extendsFilter l := stops_cons.mp stops
      unfold extendsFilter at other
      rw [readFilter]
      · rfl
      all_goals simp [other]
  | none => rfl
  | listed arguments =>
    have read := readArgs_takes name arguments rest
    -- The first argument does not begin with a closing parenthesis, so the list is not taken for empty.
    obtain ⟨l, tail, begins, other, -⟩ := arguments.first.begins
    simp only [FilterForm.lexemes, ArgumentsForm.lexemes, List.cons_append, List.append_assoc,
      List.nil_append, FilterForm.meaning, ArgumentsForm.meaning]
    simp only [Separated.lexemes, begins, List.cons_append] at read ⊢
    rw [readFilter, read]
    · rfl
    · intro later same
      exact other (List.cons.inj same).1

theorem readFilter_gives : Gives readFilter FilterForm.lexemes FilterForm.meaning := by
  intro ls call rest spelled found
  unfold readFilter at found
  split at found
  · cases found
  · rename_i name later
    cases found
    exact ⟨⟨name, .none⟩, rfl, rfl⟩
  · rename_i name later _
    obtain ⟨args, read, rfl⟩ := Reading.map_eq_ok.mp found
    obtain ⟨parts, taken, rfl⟩ :=
      readArgs_gives (fun l member => spelled l (.tail _ (.tail _ member))) read
    exact ⟨⟨name, .listed parts⟩, by
      simp [FilterForm.lexemes, ArgumentsForm.lexemes, taken], rfl⟩
  · rename_i name later _ _
    cases found
    exact ⟨⟨name, .absent⟩, rfl, rfl⟩
  · cases found

theorem readFilters_takes (filters : List FilterForm) {rest : List Lexeme}
    (stops : Stops extendsPipeline rest) :
    readFilters (following .pipe FilterForm.lexemes filters ++ rest) =
      .ok (filters.map FilterForm.meaning, rest) := by
  induction filters with
  | nil =>
    simp only [following, List.flatMap_nil, List.nil_append, List.map_nil]
    cases rest with
    | nil =>
      rw [readFilters]
      intro later same
      cases same
    | cons l rest =>
      have other : ¬extendsPipeline l := stops_cons.mp stops
      rw [readFilters]
      rintro later ⟨⟩
      exact other (.inr (.inr rfl))
  | cons filter filters ih =>
    have apart : ¬extendsFilter .pipe := by simp [extendsFilter]
    have ends : Stops extendsFilter (following .pipe FilterForm.lexemes filters ++ rest) :=
      (stops.weaken fun _ on => .inr (.inl on)).following apart
    have read := readFilter_takes filter _ ends
    simp only [following, List.flatMap_cons, List.cons_append, List.append_assoc] at ih read ⊢
    rw [readFilters, read]
    simp only [ih]
    rfl

theorem readFilters_gives :
    Gives readFilters (following .pipe FilterForm.lexemes) (List.map FilterForm.meaning) := by
  intro ls calls rest spelled found
  induction ls using readFilters.induct generalizing calls with
  | case1 later stuck failed =>
    rw [readFilters, failed] at found
    cases found
  | case2 later call after read ih =>
    have spelled : ∀ l ∈ later, l.Spelled := fun l member => spelled l (.tail _ member)
    obtain ⟨filter, taken, rfl⟩ := readFilter_gives later call after spelled read
    rw [readFilters, read] at found
    obtain ⟨calls, further, rfl⟩ := Reading.map_eq_ok.mp found
    obtain ⟨filters, parts, rfl⟩ := ih calls (spelled_rest spelled taken) further
    exact ⟨filter :: filters, by rw [← taken, ← parts]; simp [following], rfl⟩
  | case3 ls noPipe =>
    rw [readFilters] at found
    · cases found
      exact ⟨[], rfl, rfl⟩
    · exact noPipe

variable {span : Span}

theorem readPipeline_takes : Takes (readPipeline span) PipelineForm.lexemes (PipelineForm.meaning span)
    extendsPipeline := by
  rintro ⟨head, filters⟩ rest stops
  have apart : ¬extendsLookup .pipe := by simp [extendsLookup]
  have ends : Stops extendsLookup (following .pipe FilterForm.lexemes filters ++ rest) :=
    (stops.weaken fun _ => .inl).following apart
  simp only [PipelineForm.lexemes, List.append_assoc, readPipeline, readPrimary_takes head _ ends,
    readFilters_takes filters stops]
  rfl

theorem readPipeline_gives :
    Gives (readPipeline span) PipelineForm.lexemes (PipelineForm.meaning span) := by
  intro ls p rest spelled found
  unfold readPipeline at found
  split at found
  · cases found
  · rename_i e later read
    obtain ⟨head, taken, rfl⟩ := readPrimary_gives ls e later spelled read
    obtain ⟨calls, further, rfl⟩ := Reading.map_eq_ok.mp found
    obtain ⟨filters, parts, rfl⟩ :=
      readFilters_gives later calls rest (spelled_rest spelled taken) further
    exact ⟨⟨head, filters⟩, by rw [PipelineForm.lexemes, List.append_assoc, parts, taken], rfl⟩

/-! Conditions -/

theorem comparison_iff {l : Lexeme} {operator : Operator} :
    comparison? l = some operator ↔
      ∃ form : OperatorForm, form.lexeme = l ∧ form.meaning = operator := by
  constructor
  · intro asked
    unfold comparison? at asked
    split at asked
    · cases asked
      exact ⟨.sign _, rfl, rfl⟩
    · split at asked
      · rename_i same
        cases asked
        exact ⟨.membership, by rw [same]; rfl, rfl⟩
      · cases asked
    · cases asked
  · rintro ⟨form, rfl, rfl⟩
    cases form <;> rfl

theorem readComparison_takes :
    Takes (readComparison span) ComparisonForm.lexemes (ComparisonForm.meaning span)
      extendsComparison := by
  intro c rest stops
  have shorter := stops.weaken fun l : Lexeme => (Or.inl : extendsPipeline l → extendsComparison l)
  cases c with
  | value p =>
    simp only [ComparisonForm.lexemes, readComparison, readPipeline_takes p rest shorter]
    cases rest with
    | nil => rfl
    | cons l rest =>
      have other : ¬extendsComparison l := stops_cons.mp stops
      have none : comparison? l = none := by
        rw [Option.eq_none_iff_forall_ne_some]
        intro operator asked
        obtain ⟨form, same, -⟩ := comparison_iff.mp asked
        exact other (.inr ⟨form, same⟩)
      simp only [none]
      rfl
  | compare operator lhs rhs =>
    have asked : comparison? operator.lexeme = some operator.meaning :=
      comparison_iff.mpr ⟨operator, rfl, rfl⟩
    have first : readPipeline span (lhs.lexemes ++ operator.lexeme :: (rhs.lexemes ++ rest)) =
        .ok (lhs.meaning span, operator.lexeme :: (rhs.lexemes ++ rest)) :=
      readPipeline_takes lhs _ (stops_cons.mpr operator.apart)
    simp only [ComparisonForm.lexemes, List.append_assoc, List.cons_append, readComparison, first, asked,
      readPipeline_takes rhs rest shorter]
    rfl

theorem readComparison_gives :
    Gives (readComparison span) ComparisonForm.lexemes (ComparisonForm.meaning span) := by
  intro ls c rest spelled found
  unfold readComparison at found
  split at found
  · cases found
  · rename_i p read
    cases found
    obtain ⟨lhs, taken, rfl⟩ := readPipeline_gives ls p [] spelled read
    exact ⟨.value lhs, taken, rfl⟩
  · rename_i p l later read
    obtain ⟨lhs, taken, rfl⟩ := readPipeline_gives ls p _ spelled read
    split at found
    · rename_i op asked
      obtain ⟨operator, rfl, rfl⟩ := comparison_iff.mp asked
      obtain ⟨q, further, rfl⟩ := Reading.map_eq_ok.mp found
      have spelled := spelled_rest spelled taken
      obtain ⟨rhs, parts, rfl⟩ :=
        readPipeline_gives later q rest (fun l member => spelled l (.tail _ member)) further
      exact ⟨.compare operator lhs rhs, by
        rw [← taken, ← parts, ComparisonForm.lexemes, List.append_assoc, List.cons_append], rfl⟩
    · cases found
      exact ⟨.value lhs, taken, rfl⟩

theorem readNegation_takes :
    Takes (readNegation span) NegationForm.lexemes (NegationForm.meaning span) extendsComparison := by
  intro n
  induction n with
  | comparison c =>
    intro rest stops
    -- No comparison begins with the word that would make the reader look for a negation.
    obtain ⟨l, tail, begins, other⟩ := c.begins
    have read : readComparison span (c.lexemes ++ rest) = .ok (c.meaning span, rest) :=
      readComparison_takes c rest stops
    simp only [NegationForm.lexemes, NegationForm.meaning]
    rw [← read, begins, List.cons_append]
    unfold readNegation
    split
    · rename_i word later same
      cases same
      rw [if_neg]
      rintro rfl
      exact other "not" (by decide) rfl
    · rfl
  | not inner ih =>
    intro rest stops
    simp only [NegationForm.lexemes, NegationForm.meaning, List.cons_append, readNegation, if_true,
      ih rest stops]
    rfl

theorem readNegation_gives :
    Gives (readNegation span) NegationForm.lexemes (NegationForm.meaning span) := by
  intro ls
  induction ls with
  | nil =>
    intro c rest spelled found
    obtain ⟨inner, taken, same⟩ := readComparison_gives [] c rest spelled found
    exact ⟨.comparison inner, taken, same⟩
  | cons l later ih =>
    intro c rest spelled found
    have plain : readComparison span (l :: later) = .ok (c, rest) →
        ∃ part : NegationForm, part.lexemes ++ rest = l :: later ∧ part.meaning span = c := by
      intro read
      obtain ⟨inner, taken, same⟩ := readComparison_gives _ c rest spelled read
      exact ⟨.comparison inner, taken, same⟩
    unfold readNegation at found
    split at found
    · rename_i word later' same
      cases same
      split at found
      · rename_i negates
        subst negates
        obtain ⟨inner, read, rfl⟩ := Reading.map_eq_ok.mp found
        obtain ⟨form, taken, rfl⟩ := ih inner rest (fun l member => spelled l (.tail _ member)) read
        exact ⟨.not form, by rw [NegationForm.lexemes, List.cons_append, taken], rfl⟩
      · exact plain found
    · exact plain found

/-- How conditions are read that a word joins: a reader of single ones, the reader of those that follow,
and the reader of all. -/
structure Joins (word : String) (join : Condition → Condition → Condition)
    (single : List Lexeme → Reading Condition) (more : Condition → List Lexeme → Reading Condition)
    (whole : List Lexeme → Reading Condition) : Prop where
  consumes : ∀ ls, Reading.Consumes ls (single ls)
  ends : ∀ lhs ls, (∀ later, ls ≠ .identifier word :: later) → more lhs ls = .ok (lhs, ls)
  further : ∀ lhs ls, more lhs (.identifier word :: ls) =
    Except.bind (single ls) fun (rhs, after) => more (join lhs rhs) after
  starts : ∀ ls, whole ls = Except.bind (single ls) fun (lhs, rest) => more lhs rest

section Joining

variable {α : Type} {word : String} {join : Condition → Condition → Condition}
  {single whole : List Lexeme → Reading Condition} {more : Condition → List Lexeme → Reading Condition}
  {lexemes : α → List Lexeme} {meaning : α → Condition} {goesOn goesFurther : Lexeme → Prop}

theorem Joins.more_takes (joins : Joins word join single more whole)
    (takes : Takes single lexemes meaning goesOn) (apart : ¬goesOn (.identifier word))
    (fewer : ∀ l, goesOn l → goesFurther l) (further : goesFurther (.identifier word))
    (others : List α) (lhs : Condition) {rest : List Lexeme} (stops : Stops goesFurther rest) :
    more lhs (following (.identifier word) lexemes others ++ rest) =
      .ok (others.foldl (fun lhs rhs => join lhs (meaning rhs)) lhs, rest) := by
  induction others generalizing lhs with
  | nil =>
    refine joins.ends lhs rest ?_
    rintro later rfl
    exact stops_cons.mp stops further
  | cons second others ih =>
    have read := takes second (following (.identifier word) lexemes others ++ rest)
      ((stops.weaken fewer).following apart)
    simp only [following, List.flatMap_cons, List.cons_append, List.append_assoc] at ih read ⊢
    rw [joins.further, read]
    exact ih _

theorem Joins.takes (joins : Joins word join single more whole)
    (takes : Takes single lexemes meaning goesOn) (apart : ¬goesOn (.identifier word))
    (fewer : ∀ l, goesOn l → goesFurther l) (further : goesFurther (.identifier word)) :
    Takes whole (Separated.lexemes (.identifier word) lexemes)
      (fun parts => parts.others.foldl (fun lhs rhs => join lhs (meaning rhs)) (meaning parts.first))
      goesFurther := by
  rintro ⟨first, others⟩ rest stops
  have read := takes first (following (.identifier word) lexemes others ++ rest)
    ((stops.weaken fewer).following apart)
  rw [Separated.lexemes, List.append_assoc, joins.starts, read]
  exact joins.more_takes takes apart fewer further others _ stops

theorem Joins.more_gives (joins : Joins word join single more whole)
    (gives : Gives single lexemes meaning) {lhs c : Condition} {ls rest : List Lexeme}
    (spelled : ∀ l ∈ ls, l.Spelled) (found : more lhs ls = .ok (c, rest)) :
    ∃ others, following (.identifier word) lexemes others ++ rest = ls ∧
      others.foldl (fun lhs rhs => join lhs (meaning rhs)) lhs = c := by
  induction size : ls.length using Nat.strongRecOn generalizing lhs ls with
  | _ size ih =>
    by_cases goes : ∃ later, ls = .identifier word :: later
    · obtain ⟨later, rfl⟩ := goes
      rw [joins.further] at found
      obtain ⟨⟨rhs, after⟩, read, found⟩ := bind_ok found
      have spelled : ∀ l ∈ later, l.Spelled := fun l member => spelled l (.tail _ member)
      obtain ⟨second, taken, rfl⟩ := gives later rhs after spelled read
      have shorter := joins.consumes later _ after read
      obtain ⟨others, parts, rfl⟩ := ih after.length
        (by rw [← size, List.length_cons]; omega) (spelled_rest spelled taken) found rfl
      exact ⟨second :: others, by rw [← taken, ← parts]; simp [following], rfl⟩
    · rw [joins.ends lhs ls fun later same => goes ⟨later, same⟩] at found
      cases found
      exact ⟨[], rfl, rfl⟩

theorem Joins.gives (joins : Joins word join single more whole) (gives : Gives single lexemes meaning) :
    Gives whole (Separated.lexemes (.identifier word) lexemes)
      (fun parts => parts.others.foldl (fun lhs rhs => join lhs (meaning rhs)) (meaning parts.first)) := by
  intro ls c rest spelled found
  rw [joins.starts] at found
  obtain ⟨⟨lhs, later⟩, read, found⟩ := bind_ok found
  obtain ⟨first, taken, rfl⟩ := gives ls lhs later spelled read
  obtain ⟨others, parts, rfl⟩ := joins.more_gives gives (spelled_rest spelled taken) found
  exact ⟨⟨first, others⟩, by rw [Separated.lexemes, List.append_assoc, parts, taken], rfl⟩

end Joining

theorem conjunction_joins : Joins "and" .and (readNegation span) (readConjuncts span)
    (readConjunction span) where
  consumes := consumes_readNegation span
  ends lhs ls other := by
    unfold readConjuncts
    split
    · rename_i word later
      rw [if_neg]
      rintro rfl
      exact other later rfl
    · rfl
  further lhs ls := by
    rw [readConjuncts, if_pos rfl]
    cases readNegation span ls <;> rfl
  starts ls := by
    unfold readConjunction
    cases readNegation span ls <;> rfl

theorem condition_joins : Joins "or" .or (readConjunction span) (readDisjuncts span)
    (readCondition span) where
  consumes := consumes_readConjunction span
  ends lhs ls other := by
    unfold readDisjuncts
    split
    · rename_i word later
      rw [if_neg]
      rintro rfl
      exact other later rfl
    · rfl
  further lhs ls := by
    rw [readDisjuncts, if_pos rfl]
    cases readConjunction span ls <;> rfl
  starts ls := by
    unfold readCondition
    cases readConjunction span ls <;> rfl

theorem readConjunction_takes :
    Takes (readConjunction span) ConjunctionForm.lexemes (ConjunctionForm.meaning span)
      extendsConjunction :=
  conjunction_joins.takes readNegation_takes (word_apart (by decide)) (fun _ => .inl) (.inr rfl)

theorem readConjunction_gives :
    Gives (readConjunction span) ConjunctionForm.lexemes (ConjunctionForm.meaning span) :=
  conjunction_joins.gives readNegation_gives

theorem readCondition_takes :
    Takes (readCondition span) ConditionForm.lexemes (ConditionForm.meaning span) extendsCondition :=
  condition_joins.takes readConjunction_takes or_apart (fun _ => .inl) (.inr rfl)

theorem readCondition_gives :
    Gives (readCondition span) ConditionForm.lexemes (ConditionForm.meaning span) :=
  condition_joins.gives readConjunction_gives

/-! Whole lexemes and texts -/

section Whole

variable {α β : Type} {reader : List Lexeme → Reading β} {lexemes : α → List Lexeme}
  {meaning : α → β} {goesOn : Lexeme → Prop}

/-- Lexemes are read down to the last if they are those of some part. -/
theorem Gives.read_iff (gives : Gives reader lexemes meaning) (takes : Takes reader lexemes meaning goesOn)
    {ls : List Lexeme} (spelled : ∀ l ∈ ls, l.Spelled) {b : β} :
    reader ls = .ok (b, []) ↔ ∃ part, lexemes part = ls ∧ meaning part = b := by
  constructor
  · intro read
    obtain ⟨part, taken, same⟩ := gives ls b [] spelled read
    exact ⟨part, by rw [← taken, List.append_nil], same⟩
  · rintro ⟨part, rfl, rfl⟩
    have read := takes part [] stops_nil
    rwa [List.append_nil] at read

/-- A text is read as a whole if its lexemes are those of some part. -/
theorem Gives.readWhole_iff (gives : Gives reader lexemes meaning)
    (takes : Takes reader lexemes meaning goesOn) {text : String} {b : β} :
    readWhole reader text = .ok b ↔
      ∃ part, Lexeme.ofText text.toList = .ok (lexemes part) ∧ meaning part = b := by
  have down : readWhole reader text = .ok b ↔
      ∃ ls, Lexeme.ofText text.toList = .ok ls ∧ reader ls = .ok (b, []) := by
    unfold readWhole
    cases Lexeme.ofText text.toList with
    | error fault => simp
    | ok ls =>
      cases read : reader ls with
      | error stuck => simp [read]
      | ok found =>
        obtain ⟨a, rest⟩ := found
        cases rest <;> simp [read]
  rw [down]
  constructor
  · rintro ⟨ls, lexed, read⟩
    obtain ⟨part, rfl, same⟩ := (gives.read_iff takes (Lexeme.ofText_spelled lexed)).mp read
    exact ⟨part, lexed, same⟩
  · rintro ⟨part, lexed, same⟩
    exact ⟨_, lexed, (gives.read_iff takes (Lexeme.ofText_spelled lexed)).mpr ⟨part, rfl, same⟩⟩

end Whole

/-- A text writes a pipeline if its lexemes are derived from one, which the pipeline is the meaning of. -/
theorem Pipeline.ofText_iff {text : String} {p : Pipeline} :
    Pipeline.ofText span text = .ok p ↔
      ∃ d : PipelineForm, Lexeme.ofText text.toList = .ok d.lexemes ∧ d.meaning span = p :=
  readPipeline_gives.readWhole_iff readPipeline_takes

/-- Conditions are read by their grammar. Lexemes are read as a condition, down to the last, exactly when
they have a derivation, and as what it means; no lexemes have two. So a text writes the condition that
the one derivation of its lexemes means, and no other. -/
theorem readCondition_derives (span : Span) :
    (∀ ls, (∀ l ∈ ls, l.Spelled) → ∀ c, readCondition span ls = .ok (c, []) ↔
      ∃ d : ConditionForm, d.lexemes = ls ∧ d.meaning span = c) ∧
    Function.Injective ConditionForm.lexemes ∧
    ∀ text c, Condition.ofText span text = .ok c ↔
      ∃ d : ConditionForm, Lexeme.ofText text.toList = .ok d.lexemes ∧ d.meaning span = c :=
  ⟨fun _ spelled _ => readCondition_gives.read_iff readCondition_takes spelled,
    ConditionForm.lexemes_injective,
    fun _ _ => readCondition_gives.readWhole_iff readCondition_takes⟩

/-- Reserved words behind a dot and a bar, a number that is two indices, the word for membership, filter
arguments, and a conjunction to the right of `or`. -/
theorem readCondition_derives_mixed :
    ∃ (ls : List Lexeme) (c : Condition), (∀ l ∈ ls, l.Spelled) ∧
      c = .or (.not (.compare .within
          ⟨{}, .lookup ⟨"a", [.key "in", .index 0, .index 1]⟩, []⟩
          ⟨{}, .lookup ⟨"b", []⟩,
            [⟨"or", [.lookup ⟨"x", []⟩, .literal (.number (.integer 2))]⟩]⟩))
        (.and (.value ⟨{}, .lookup ⟨"c", []⟩, []⟩) (.value ⟨{}, .literal (.bool true), []⟩)) ∧
      Lexeme.ofText "not a.in.0.1 in b|or(x, 2) or c and true".toList = .ok ls ∧
      readCondition {} ls = .ok (c, []) ∧
      Condition.ofText {} "not a.in.0.1 in b|or(x, 2) or c and true" = .ok c := by
  have lexed : Lexeme.ofText "not a.in.0.1 in b|or(x, 2) or c and true".toList = .ok [
      .identifier "not", .identifier "a", .dot, .identifier "in", .dot, .number "0.1", .identifier "in",
      .identifier "b", .pipe, .identifier "or", .leftParen, .identifier "x", .comma, .number "2",
      .rightParen, .identifier "or", .identifier "c", .identifier "and", .identifier "true"] := by
    decide +kernel
  have spelled := Lexeme.ofText_spelled lexed
  have indices : IndicesWrittenAs [0, 1] "0.1" :=
    ⟨.decimal false ['0'] ['1'] (List.cons_ne_nil _ _) (List.all_eq_true.mp rfl) (List.all_eq_true.mp rfl),
      rfl, rfl, rfl, by decide⟩
  have two : (Number.integer 2).WrittenAs "2" :=
    ⟨.decimal false ['2'] [] (List.cons_ne_nil _ _) (List.all_eq_true.mp rfl) (List.forall_mem_nil _), rfl, rfl,
      .integer rfl (by decide)⟩
  have names : ∀ name ∈ ["a", "b", "c", "x"],
      name ∉ reservedWords ∧ name ∉ literalWords.map Prod.fst := by
    decide
  let lookup (name : String) (member : name ∈ ["a", "b", "c", "x"]) (steps : List StepForm) :=
    PrimaryForm.lookup name steps (names name member).1 (names name member).2
  let left : NegationForm := .not (.comparison (.compare .membership
    ⟨lookup "a" (by decide) [.key "in", .indices "0.1" [0, 1] indices], []⟩
    ⟨lookup "b" (by decide) [],
      [⟨"or", .listed ⟨lookup "x" (by decide) [], [.number "2" (.integer 2) two]⟩⟩]⟩))
  let right : ConjunctionForm := ⟨.comparison (.value ⟨lookup "c" (by decide) [], []⟩),
    [.comparison (.value ⟨.word "true" (.bool true) (.head _), []⟩)]⟩
  let d : ConditionForm := ⟨⟨left, []⟩, [right]⟩
  exact ⟨d.lexemes, _, spelled, rfl, lexed,
    ((readCondition_derives {}).1 d.lexemes spelled _).mpr ⟨d, rfl, rfl⟩,
    ((readCondition_derives {}).2.2 _ _).mpr ⟨d, lexed, rfl⟩⟩

/-- An integer beyond 64 bits is no number, although there is a double of the same value. -/
theorem wide_integer_refused :
    (∃ (n : Numeral) (d : Double), n.power = none ∧ "100000000000000000000".toList = n.text ∧
      n.negative = false ∧ d.value = n.value) ∧
    ∀ c rest, readCondition ⟨⟨3, 1, 4⟩, ⟨9, 1, 10⟩⟩ [.number "100000000000000000000"] ≠
      .ok (c, rest) := by
  have refused : (readCondition ⟨⟨3, 1, 4⟩, ⟨9, 1, 10⟩⟩
      [.number "100000000000000000000"]).toOption.isNone = true := by
    decide +kernel
  have nonempty : "100000000000000000000".toList ≠ [] := by decide
  have digits : ∀ c ∈ "100000000000000000000".toList, c.isDigit = true := List.all_eq_true.mp (by decide)
  let numeral : Numeral := .decimal false _ [] nonempty digits (List.forall_mem_nil _)
  let double : Double := ⟨false, 6103515625000000, 14, by decide, by decide, by decide, .inl (by decide)⟩
  have text : numeral.text = "100000000000000000000".toList :=
    (Numeral.decimal_text nonempty digits _).trans (List.append_nil _)
  have same : double.value = numeral.value := by
    have value : digitsValue "100000000000000000000".toList = 10 ^ 20 := by decide
    rw [Numeral.decimal_value nonempty digits, value]
    norm_num [double, Double.value, Double.magnitude, Double.step]
  refine ⟨⟨numeral, double, rfl, text.symm, rfl, same⟩, fun c rest read => ?_⟩
  simp [read, Except.toOption] at refused

end TextTemplate
