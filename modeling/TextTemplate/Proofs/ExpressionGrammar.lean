import TextTemplate.Proofs.WrittenNumbers

/-! The grammar of expressions. A derivation is a tree with one kind of node for each rule; it carries
what the rule asks of the words and numbers in it, so that every tree is one. It has the lexemes that it
derives and, in a span, the expression that it means. No lexemes have two derivations: what a part
derives is cut off by the lexeme behind it, which is none that the part could go on with. -/
namespace TextTemplate

/-! Derivations -/

/-- A part and others of its kind that follow it, with a separator before each. -/
structure Separated (α : Type) where
  first : α
  others : List α

/-- The lexemes of parts with a separator before each. -/
def following {α : Type} (separator : Lexeme) (lexemes : α → List Lexeme) (parts : List α) :
    List Lexeme :=
  parts.flatMap fun part => separator :: lexemes part

/-- The lexemes of parts with separators between them. -/
def Separated.lexemes {α : Type} (separator : Lexeme) (lexemes : α → List Lexeme)
    (parts : Separated α) : List Lexeme :=
  lexemes parts.first ++ following separator lexemes parts.others

/-- The words that are values. -/
def literalWords : List (String × Value) :=
  [("true", .bool true), ("false", .bool false), ("nil", .null), ("none", .null), ("None", .null)]

/-- A step of a lookup behind its dot: any name, or a number whose sides are indices. -/
inductive StepForm where
  | key (name : String)
  | indices (text : String) (positions : List Int) (written : IndicesWrittenAs positions text)

/-- A string, a number, a word that is a value, or a lookup from a name that is no such word and does not
join conditions. -/
inductive PrimaryForm where
  | string (text : String)
  | number (text : String) (value : Number) (written : value.WrittenAs text)
  | word (word : String) (value : Value) (stands : (word, value) ∈ literalWords)
  | lookup (name : String) (steps : List StepForm) (free : name ∉ reservedWords)
      (plain : name ∉ literalWords.map Prod.fst)

/-- The arguments of a filter: none without parentheses or with them, or some with commas between
them. -/
inductive ArgumentsForm where
  | absent
  | none
  | listed (arguments : Separated PrimaryForm)

/-- A filter, which any word may name. -/
structure FilterForm where
  name : String
  arguments : ArgumentsForm

/-- A primary and filters, each behind a bar. -/
structure PipelineForm where
  head : PrimaryForm
  filters : List FilterForm

/-- An operator: a sign, or the word for membership. -/
inductive OperatorForm where
  | sign (operator : Operator)
  | membership

/-- A pipeline, or two with an operator between them. -/
inductive ComparisonForm where
  | value (pipeline : PipelineForm)
  | compare (operator : OperatorForm) (lhs rhs : PipelineForm)

/-- A comparison under negations. -/
inductive NegationForm where
  | comparison (inner : ComparisonForm)
  | not (inner : NegationForm)

/-- Negations with `and` between them. -/
abbrev ConjunctionForm := Separated NegationForm

/-- Conjunctions with `or` between them. -/
abbrev ConditionForm := Separated ConjunctionForm

/-! What a derivation derives and means -/

namespace StepForm

def lexeme : StepForm → Lexeme
  | key name => .identifier name
  | indices text _ _ => .number text

def segments : StepForm → List PathSegment
  | key name => [.key name]
  | indices _ positions _ => positions.map .index

end StepForm

namespace PrimaryForm

def lexemes : PrimaryForm → List Lexeme
  | string text => [.string text]
  | number text _ _ => [.number text]
  | word w _ _ => [.identifier w]
  | lookup name steps _ _ => .identifier name :: following .dot (fun step => [step.lexeme]) steps

def meaning : PrimaryForm → Expr
  | string text => .literal (.string text)
  | number _ value _ => .literal (.number value)
  | word _ value _ => .literal value
  | lookup name steps _ _ => .lookup ⟨name, steps.flatMap StepForm.segments⟩

end PrimaryForm

namespace ArgumentsForm

def lexemes : ArgumentsForm → List Lexeme
  | absent => []
  | none => [.leftParen, .rightParen]
  | listed arguments =>
    .leftParen :: (arguments.lexemes .comma PrimaryForm.lexemes ++ [.rightParen])

def meaning : ArgumentsForm → List Expr
  | absent | none => []
  | listed arguments => (arguments.first :: arguments.others).map PrimaryForm.meaning

end ArgumentsForm

namespace FilterForm

def lexemes (f : FilterForm) : List Lexeme := .identifier f.name :: f.arguments.lexemes

def meaning (f : FilterForm) : FilterCall := ⟨f.name, f.arguments.meaning⟩

end FilterForm

namespace PipelineForm

def lexemes (p : PipelineForm) : List Lexeme :=
  p.head.lexemes ++ following .pipe FilterForm.lexemes p.filters

def meaning (span : Span) (p : PipelineForm) : Pipeline :=
  ⟨span, p.head.meaning, p.filters.map FilterForm.meaning⟩

end PipelineForm

namespace OperatorForm

def lexeme : OperatorForm → Lexeme
  | sign operator => .operator operator
  | membership => .identifier "in"

def meaning : OperatorForm → Operator
  | sign operator => operator
  | membership => .within

end OperatorForm

namespace ComparisonForm

def lexemes : ComparisonForm → List Lexeme
  | value pipeline => pipeline.lexemes
  | compare operator lhs rhs => lhs.lexemes ++ operator.lexeme :: rhs.lexemes

def meaning (span : Span) : ComparisonForm → Condition
  | value pipeline => .value (pipeline.meaning span)
  | compare operator lhs rhs => .compare operator.meaning (lhs.meaning span) (rhs.meaning span)

end ComparisonForm

namespace NegationForm

def lexemes : NegationForm → List Lexeme
  | comparison inner => inner.lexemes
  | not inner => .identifier "not" :: inner.lexemes

def meaning (span : Span) : NegationForm → Condition
  | comparison inner => inner.meaning span
  | not inner => .not (inner.meaning span)

end NegationForm

/-- The lexemes of a conjunction. -/
def ConjunctionForm.lexemes (c : ConjunctionForm) : List Lexeme :=
  Separated.lexemes (.identifier "and") NegationForm.lexemes c

/-- What a conjunction means, nested to the left. -/
def ConjunctionForm.meaning (span : Span) (c : ConjunctionForm) : Condition :=
  c.others.foldl (fun lhs rhs => .and lhs (rhs.meaning span)) (c.first.meaning span)

/-- The lexemes of a condition. -/
def ConditionForm.lexemes (c : ConditionForm) : List Lexeme :=
  Separated.lexemes (.identifier "or") ConjunctionForm.lexemes c

/-- What a condition means, nested to the left. -/
def ConditionForm.meaning (span : Span) (c : ConditionForm) : Condition :=
  c.others.foldl (fun lhs rhs => .or lhs (ConjunctionForm.meaning span rhs))
    (ConjunctionForm.meaning span c.first)

/-! Where a part ends -/

/-- What comes next is nothing that a part could go on with. -/
def Stops (goesOn : Lexeme → Prop) (rest : List Lexeme) : Prop := ∀ l ∈ rest.head?, ¬goesOn l

/-- The lexemes that a lookup goes on with. -/
def extendsLookup (l : Lexeme) : Prop := l = .dot

/-- The lexemes that a filter goes on with behind its name. -/
def extendsFilter (l : Lexeme) : Prop := l = .leftParen

/-- The lexemes that a pipeline may go on with. -/
def extendsPipeline (l : Lexeme) : Prop := l = .dot ∨ l = .leftParen ∨ l = .pipe

/-- The lexemes that a comparison may go on with. -/
def extendsComparison (l : Lexeme) : Prop :=
  extendsPipeline l ∨ ∃ operator : OperatorForm, operator.lexeme = l

/-- The lexemes that a conjunction may go on with. -/
def extendsConjunction (l : Lexeme) : Prop := extendsComparison l ∨ l = .identifier "and"

/-- The lexemes that a condition may go on with. -/
def extendsCondition (l : Lexeme) : Prop := extendsConjunction l ∨ l = .identifier "or"

section Ends

variable {goesOn goesFurther : Lexeme → Prop} {l separator : Lexeme} {rest : List Lexeme}

theorem stops_nil : Stops goesOn [] := nofun

theorem stops_cons : Stops goesOn (l :: rest) ↔ ¬goesOn l := by simp [Stops]

theorem Stops.weaken (stops : Stops goesFurther rest) (fewer : ∀ l, goesOn l → goesFurther l) :
    Stops goesOn rest := fun l next on => stops l next (fewer l on)

/-- Parts end where their separator comes, or what comes behind all of them. -/
theorem Stops.following {α : Type} {lexemes : α → List Lexeme} {parts : List α}
    (stops : Stops goesOn rest) (apart : ¬goesOn separator) :
    Stops goesOn (following separator lexemes parts ++ rest) := by
  cases parts with
  | nil => exact stops
  | cons part parts => exact stops_cons.mpr apart

end Ends

/-! Lexemes are cut into parts in one way -/

/-- Lexemes begin with those of one part only, if the part goes as far as it can. -/
def Decomposes {α : Type} (lexemes : α → List Lexeme) (goesOn : Lexeme → Prop) : Prop :=
  ∀ a b rest rest', Stops goesOn rest → Stops goesOn rest' → lexemes a ++ rest = lexemes b ++ rest' →
    a = b ∧ rest = rest'

section Decomposition

variable {α : Type} {lexemes : α → List Lexeme} {goesOn goesFurther : Lexeme → Prop}
  {separator : Lexeme}

theorem Decomposes.repeated (part : Decomposes lexemes goesOn) (apart : ¬goesOn separator)
    (fewer : ∀ l, goesOn l → goesFurther l) (further : goesFurther separator) :
    Decomposes (following separator lexemes) goesFurther := by
  intro as bs rest rest' stops stops' same
  induction as generalizing bs with
  | nil =>
    cases bs with
    | nil => exact ⟨rfl, same⟩
    | cons b bs =>
      have next : rest = separator :: (lexemes b ++ following separator lexemes bs ++ rest') := by
        simpa [following] using same
      exact absurd further (stops_cons.mp (next ▸ stops))
  | cons a as ih =>
    cases bs with
    | nil =>
      have next : rest' = separator :: (lexemes a ++ following separator lexemes as ++ rest) := by
        simpa [following] using same.symm
      exact absurd further (stops_cons.mp (next ▸ stops'))
    | cons b bs =>
      -- Both first parts end where a separator or the rest comes.
      have behind : lexemes a ++ (following separator lexemes as ++ rest) =
          lexemes b ++ (following separator lexemes bs ++ rest') := by
        simpa [following] using same
      obtain ⟨rfl, others⟩ := part a b _ _ ((stops.weaken fewer).following apart)
        ((stops'.weaken fewer).following apart) behind
      obtain ⟨rfl, ends⟩ := ih bs others
      exact ⟨rfl, ends⟩

theorem Decomposes.separated (part : Decomposes lexemes goesOn) (apart : ¬goesOn separator)
    (fewer : ∀ l, goesOn l → goesFurther l) (further : goesFurther separator) :
    Decomposes (Separated.lexemes separator lexemes) goesFurther := by
  rintro ⟨a, as⟩ ⟨b, bs⟩ rest rest' stops stops' same
  simp only [Separated.lexemes, List.append_assoc] at same
  obtain ⟨rfl, others⟩ := part a b _ _ ((stops.weaken fewer).following apart)
    ((stops'.weaken fewer).following apart) same
  obtain ⟨rfl, ends⟩ := part.repeated apart fewer further as bs rest rest' stops stops' others
  exact ⟨rfl, ends⟩

end Decomposition

theorem steps_decompose :
    Decomposes (following .dot fun step : StepForm => [step.lexeme]) extendsLookup := by
  have step : Decomposes (fun step : StepForm => [step.lexeme]) fun _ => False := by
    intro a b rest rest' _ _ same
    obtain ⟨first, ends⟩ := List.cons.inj same
    refine ⟨?_, ends⟩
    cases a with
    | key name =>
      cases b with
      | key other => rw [Lexeme.identifier.inj first]
      | indices => cases first
    | indices text positions written =>
      cases b with
      | key => cases first
      | indices text' positions' written' =>
        cases first
        cases written.unique written'
        rfl
  exact step.repeated id (fun _ => False.elim) rfl

/-- No word is two values, and none joins conditions. -/
theorem literalWords_distinct :
    (∀ first ∈ literalWords, ∀ second ∈ literalWords, first.1 = second.1 → first.2 = second.2) ∧
      ∀ entry ∈ literalWords, entry.1 ∉ reservedWords := by
  simp [literalWords, reservedWords]

/-- A primary begins with a lexeme that is no parenthesis and no word that joins conditions. -/
theorem PrimaryForm.begins (p : PrimaryForm) : ∃ l rest, p.lexemes = l :: rest ∧ l ≠ .rightParen ∧
    ∀ word ∈ reservedWords, l ≠ .identifier word := by
  cases p with
  | string | number => exact ⟨_, _, rfl, nofun, nofun⟩
  | word word value stands =>
    refine ⟨_, _, rfl, nofun, ?_⟩
    rintro other reserved ⟨rfl⟩
    exact literalWords_distinct.2 _ stands reserved
  | lookup name steps free =>
    refine ⟨_, _, rfl, nofun, ?_⟩
    rintro other reserved ⟨rfl⟩
    exact free reserved

theorem primaries_decompose : Decomposes PrimaryForm.lexemes extendsLookup := by
  intro a b rest rest' stops stops' same
  have apart : ∀ {word value} (_ : (word, value) ∈ literalWords) {name : String},
      name ∉ literalWords.map Prod.fst → word ≠ name := fun stands _ plain equal =>
    plain (equal ▸ List.mem_map_of_mem stands)
  cases a with
  | string text =>
    cases b with
    | string =>
      cases same
      exact ⟨rfl, rfl⟩
    | number | word | lookup => cases same
  | number text value written =>
    cases b with
    | number text' value' written' =>
      cases same
      cases written.unique written'
      exact ⟨rfl, rfl⟩
    | string | word | lookup => cases same
  | word word value stands =>
    cases b with
    | word word' value' stands' =>
      cases same
      cases literalWords_distinct.1 _ stands _ stands' rfl
      exact ⟨rfl, rfl⟩
    | lookup name steps free plain =>
      exact absurd (Lexeme.identifier.inj (List.cons.inj same).1) (apart stands plain)
    | string | number => cases same
  | lookup name steps free plain =>
    cases b with
    | lookup name' steps' =>
      obtain ⟨first, behind⟩ := List.cons.inj same
      cases first
      obtain ⟨rfl, ends⟩ := steps_decompose steps steps' rest rest' stops stops' behind
      exact ⟨rfl, ends⟩
    | word word value stands =>
      exact absurd (Lexeme.identifier.inj (List.cons.inj same).1).symm (apart stands plain)
    | string | number => cases same

theorem arguments_decompose : Decomposes ArgumentsForm.lexemes extendsFilter := by
  intro a b rest rest' stops stops' same
  have opens : ∀ {ls ls'}, ls = Lexeme.leftParen :: ls' → ¬Stops extendsFilter ls := by
    rintro _ ls' rfl closed
    exact stops_cons.mp closed rfl
  have listed : Decomposes (Separated.lexemes .comma PrimaryForm.lexemes)
      fun l => l = .dot ∨ l = .comma :=
    primaries_decompose.separated (by simp [extendsLookup]) (fun _ => .inl) (.inr rfl)
  have filled : ∀ (arguments : Separated PrimaryForm) ls ls',
      arguments.lexemes .comma PrimaryForm.lexemes ++ ls ≠ .rightParen :: ls' := by
    intro arguments ls ls' same
    obtain ⟨l, tail, begins, other, -⟩ := arguments.first.begins
    simp only [Separated.lexemes, begins, List.cons_append] at same
    exact other (List.cons.inj same).1
  have closes : ∀ ls, Stops (fun l => l = Lexeme.dot ∨ l = .comma) (.rightParen :: ls) := fun ls =>
    stops_cons.mpr (by simp)
  cases a with
  | absent =>
    cases b with
    | absent => exact ⟨rfl, same⟩
    | none | listed => exact absurd stops (opens same)
  | none =>
    cases b with
    | absent => exact absurd stops' (opens same.symm)
    | none =>
      cases same
      exact ⟨rfl, rfl⟩
    | listed arguments =>
      have behind := (List.cons.inj same).2
      simp only [List.append_eq, List.append_assoc] at behind
      exact absurd behind.symm (filled _ _ _)
  | listed arguments =>
    cases b with
    | absent => exact absurd stops' (opens same.symm)
    | none =>
      have behind := (List.cons.inj same).2
      simp only [List.append_eq, List.append_assoc] at behind
      exact absurd behind (filled _ _ _)
    | listed arguments' =>
      have behind := (List.cons.inj same).2
      simp only [List.append_eq, List.append_assoc] at behind
      obtain ⟨rfl, ends⟩ := listed arguments arguments' _ _ (closes rest) (closes rest') behind
      exact ⟨rfl, (List.cons.inj ends).2⟩

theorem filters_decompose : Decomposes FilterForm.lexemes extendsFilter := by
  rintro ⟨name, a⟩ ⟨name', b⟩ rest rest' stops stops' same
  obtain ⟨first, behind⟩ := List.cons.inj same
  cases first
  obtain ⟨rfl, ends⟩ := arguments_decompose a b rest rest' stops stops' behind
  exact ⟨rfl, ends⟩

theorem pipelines_decompose : Decomposes PipelineForm.lexemes extendsPipeline := by
  rintro ⟨head, filters⟩ ⟨head', filters'⟩ rest rest' stops stops' same
  simp only [PipelineForm.lexemes, List.append_assoc] at same
  have headEnds : ∀ {ls filters}, Stops extendsPipeline ls →
      Stops extendsLookup (following .pipe FilterForm.lexemes filters ++ ls) := fun stops =>
    (stops.weaken fun _ => .inl).following nofun
  have tail : Decomposes (following .pipe FilterForm.lexemes) fun l => extendsFilter l ∨ l = .pipe :=
    filters_decompose.repeated (by simp [extendsFilter]) (fun _ => .inl) (.inr rfl)
  obtain ⟨rfl, behind⟩ := primaries_decompose head head' _ _ (headEnds stops) (headEnds stops') same
  obtain ⟨rfl, ends⟩ := tail filters filters' rest rest' (stops.weaken fun _ => .inr)
    (stops'.weaken fun _ => .inr) behind
  exact ⟨rfl, ends⟩

/-- An operator is none of the lexemes that a pipeline goes on with. -/
theorem OperatorForm.apart (operator : OperatorForm) : ¬extendsPipeline operator.lexeme := by
  cases operator <;> simp [extendsPipeline, lexeme]

theorem OperatorForm.lexeme_injective : Function.Injective OperatorForm.lexeme := by
  intro a b same
  cases a <;> cases b <;> cases same <;> rfl

theorem comparisons_decompose : Decomposes ComparisonForm.lexemes extendsComparison := by
  intro a b rest rest' stops stops' same
  have asks : ∀ {operator : OperatorForm} {ls}, ¬Stops extendsComparison (operator.lexeme :: ls) :=
    fun closed => stops_cons.mp closed (.inr ⟨_, rfl⟩)
  have ends : ∀ {operator : OperatorForm} {ls}, Stops extendsPipeline (operator.lexeme :: ls) :=
    stops_cons.mpr (OperatorForm.apart _)
  have shorter := stops.weaken fun l : Lexeme => (Or.inl : extendsPipeline l → extendsComparison l)
  have shorter' := stops'.weaken fun l : Lexeme => (Or.inl : extendsPipeline l → extendsComparison l)
  cases a with
  | value p =>
    cases b with
    | value q =>
      obtain ⟨rfl, behind⟩ := pipelines_decompose p q rest rest' shorter shorter' same
      exact ⟨rfl, behind⟩
    | compare operator lhs rhs =>
      simp only [ComparisonForm.lexemes, List.append_assoc, List.cons_append] at same
      obtain ⟨-, behind⟩ := pipelines_decompose p lhs rest _ shorter ends same
      exact absurd (behind ▸ stops) asks
  | compare operator lhs rhs =>
    simp only [ComparisonForm.lexemes, List.append_assoc, List.cons_append] at same
    cases b with
    | value q =>
      obtain ⟨-, behind⟩ := pipelines_decompose lhs q _ rest' ends shorter' same
      exact absurd (behind ▸ stops') asks
    | compare operator' lhs' rhs' =>
      simp only [List.append_assoc, List.cons_append] at same
      obtain ⟨rfl, middle⟩ := pipelines_decompose lhs lhs' _ _ ends ends same
      obtain ⟨mark, behind⟩ := List.cons.inj middle
      obtain rfl := OperatorForm.lexeme_injective mark
      obtain ⟨rfl, ending⟩ := pipelines_decompose rhs rhs' rest rest' shorter shorter' behind
      exact ⟨rfl, ending⟩

/-- A comparison begins with no word that joins conditions. -/
theorem ComparisonForm.begins (c : ComparisonForm) : ∃ l rest, c.lexemes = l :: rest ∧
    ∀ word ∈ reservedWords, l ≠ .identifier word := by
  obtain ⟨p, tail, starts⟩ : ∃ (p : PrimaryForm) (tail : List Lexeme),
      c.lexemes = p.lexemes ++ tail := by
    cases c with
    | value p => exact ⟨p.head, _, rfl⟩
    | compare operator lhs rhs => exact ⟨lhs.head, _, List.append_assoc _ _ _⟩
  obtain ⟨l, rest, begins, -, other⟩ := p.begins
  exact ⟨l, rest ++ tail, by rw [starts, begins, List.cons_append], other⟩

theorem negations_decompose : Decomposes NegationForm.lexemes extendsComparison := by
  -- Only the word itself tells a negation from a comparison.
  have apart : ∀ (c : ComparisonForm) ls ls', c.lexemes ++ ls ≠ .identifier "not" :: ls' := by
    intro c ls ls' same
    obtain ⟨l, rest, begins, other⟩ := c.begins
    rw [begins] at same
    exact other "not" (by simp [reservedWords]) (List.cons.inj same).1
  intro a
  induction a with
  | comparison c =>
    intro b rest rest' stops stops' same
    cases b with
    | comparison d =>
      obtain ⟨rfl, behind⟩ := comparisons_decompose c d rest rest' stops stops' same
      exact ⟨rfl, behind⟩
    | not inner => exact absurd same (apart c rest _)
  | not inner ih =>
    intro b rest rest' stops stops' same
    cases b with
    | comparison d => exact absurd same.symm (apart d rest' _)
    | not inner' =>
      obtain ⟨rfl, behind⟩ := ih inner' rest rest' stops stops' (List.cons.inj same).2
      exact ⟨rfl, behind⟩

/-- A word other than that for membership is no lexeme that a comparison goes on with. -/
theorem word_apart {word : String} (other : word ≠ "in") : ¬extendsComparison (.identifier word) := by
  rintro (pipeline | ⟨operator, same⟩)
  · simp [extendsPipeline] at pipeline
  · cases operator with
    | sign => cases same
    | membership => exact other (Lexeme.identifier.inj same).symm

theorem conjunctions_decompose : Decomposes ConjunctionForm.lexemes extendsConjunction :=
  negations_decompose.separated (word_apart (by decide)) (fun _ => .inl) (.inr rfl)

theorem or_apart : ¬extendsConjunction (.identifier "or") := by
  rintro (comparison | same)
  · exact word_apart (by decide) comparison
  · simp at same

theorem conditions_decompose : Decomposes ConditionForm.lexemes extendsCondition :=
  conjunctions_decompose.separated or_apart (fun _ => .inl) (.inr rfl)

/-- No lexemes have two derivations. -/
theorem ConditionForm.lexemes_injective : Function.Injective ConditionForm.lexemes := fun c d same =>
  (conditions_decompose c d [] [] stops_nil stops_nil (by rw [same])).1

end TextTemplate
