import TextTemplate.Expr.Scan

/-! Reading expressions from lexemes.

A pipeline is a primary followed by filters after bars; a condition joins comparisons of
pipelines by `not`, `and` and `or`, from the tightest to the loosest, and nests to the
left. Each reader takes lexemes from the front and says what is left of them, after a
failure too, so that a tag may read its arguments piece by piece. -/
namespace TextTemplate

/-- A failed reading: the fault, and the lexemes that were not taken. -/
structure Stuck where
  fault : Fault
  rest : List Lexeme

/-- What a reader gives: what it has read with the lexemes left, or where it got stuck. -/
abbrev Reading (α : Type) := Except Stuck (α × List Lexeme)

namespace Reading

/-- Changes what has been read. -/
def map {α β : Type} (f : α → β) : Reading α → Reading β
  | .ok (a, rest) => .ok (f a, rest)
  | .error stuck => .error stuck

/-- A successful reading leaves fewer lexemes than it was given. -/
def Consumes {α : Type} (given : List Lexeme) (reading : Reading α) : Prop :=
  ∀ a rest, reading = .ok (a, rest) → rest.length < given.length

/-- A successful reading leaves no more lexemes than it was given. -/
def Bounded {α : Type} (given : List Lexeme) (reading : Reading α) : Prop :=
  ∀ a rest, reading = .ok (a, rest) → rest.length ≤ given.length

variable {α β : Type} {given : List Lexeme} {reading : Reading α}

theorem map_eq_ok {f : α → β} {b : β} {rest : List Lexeme} :
    reading.map f = .ok (b, rest) ↔ ∃ a, reading = .ok (a, rest) ∧ f a = b := by
  cases reading with
  | error stuck => simp [map]
  | ok read =>
    obtain ⟨a, left⟩ := read
    simp only [map, Except.ok.injEq, Prod.mk.injEq]
    constructor
    · rintro ⟨same, rfl⟩
      exact ⟨a, ⟨rfl, rfl⟩, same⟩
    · rintro ⟨a', ⟨rfl, rfl⟩, same⟩
      exact ⟨same, rfl⟩

theorem Consumes.map (h : Consumes given reading) (f : α → β) : Consumes given (reading.map f) := by
  intro b rest found
  obtain ⟨a, read, _⟩ := map_eq_ok.1 found
  exact h a rest read

theorem Bounded.map (h : Bounded given reading) (f : α → β) : Bounded given (reading.map f) := by
  intro b rest found
  obtain ⟨a, read, _⟩ := map_eq_ok.1 found
  exact h a rest read

theorem consumes_error {stuck : Stuck} : Consumes (α := α) given (.error stuck) := by
  intro a rest h
  cases h

theorem bounded_error {stuck : Stuck} : Bounded (α := α) given (.error stuck) := by
  intro a rest h
  cases h

end Reading

open Reading

/-! Primaries -/

/-- The value that a word stands for by itself. -/
def wordLiteral? (word : String) : Option Value :=
  if word = "true" then some (.bool true)
  else if word = "false" then some (.bool false)
  else if word = "nil" || word = "none" || word = "None" then some .null
  else none

/-- An index between dots: digits, with a minus sign perhaps, within 64 bits. -/
def readIndex? (cs : List Char) : Option Int :=
  let (negative, digits) := match cs with
    | '-' :: digits => (true, digits)
    | digits => (false, digits)
  if digits.isEmpty || !digits.all Char.isDigit then none
  else
    let i : Int := if negative then -(digitsValue digits : Int) else digitsValue digits
    if -(Nat.pow 2 63 : Int) ≤ i ∧ i < Nat.pow 2 63 then some i else none

/-- The indices that the parts of a number between points give, or the first part that is none. -/
def readIndices : List (List Char) → Except (List Char) (List PathSegment)
  | [] => .ok []
  | part :: rest =>
    match readIndex? part with
    | some i => (readIndices rest).map (.index i :: ·)
    | none => .error part

/-- The steps that follow a path. -/
def readSteps (path : Path) : List Lexeme → Reading Path
  | .dot :: .identifier name :: rest =>
    readSteps { path with steps := path.steps ++ [.key name] } rest
  | .dot :: .number text :: rest =>
    match readIndices (Text.splitAtChar '.' text.toList) with
    | .ok steps => readSteps { path with steps := path.steps ++ steps } rest
    | .error part => .error ⟨.invalidIndex (String.ofList part), rest⟩
  | .dot :: rest => .error ⟨.emptyStep path, rest.tail⟩
  | rest => .ok (path, rest)

/-- A literal or a lookup. -/
def readPrimary : List Lexeme → Reading Expr
  | [] => .error ⟨.endOfExpression, []⟩
  | .string text :: rest => .ok (.literal (.string text), rest)
  | .number text :: rest =>
    match Number.readLiteral? text.toList with
    | some n => .ok (.literal (.number n), rest)
    | none => .error ⟨.invalidNumber text, rest⟩
  | .identifier word :: rest =>
    match wordLiteral? word with
    | some value => .ok (.literal value, rest)
    | none =>
      if isReserved word then .error ⟨.unexpectedKeyword word, rest⟩
      else (readSteps ⟨word, []⟩ rest).map .lookup
  | found :: rest => .error ⟨.unexpectedLexeme found, rest⟩

theorem bounded_readSteps (path : Path) (ls : List Lexeme) : Bounded ls (readSteps path ls) := by
  induction path, ls using readSteps.induct with
  | case1 path name rest ih =>
    intro p left h
    rw [readSteps] at h
    have := ih p left h
    simp only [List.length_cons]
    omega
  | case2 path text rest steps found ih =>
    intro p left h
    rw [readSteps, found] at h
    have := ih p left h
    simp only [List.length_cons]
    omega
  | case3 path text rest part found =>
    rw [readSteps, found]
    exact bounded_error
  | case4 path rest notName notNumber =>
    rw [readSteps]
    · exact bounded_error
    · exact notName
    · exact notNumber
  | case5 path ls h₁ h₂ h₃ =>
    intro p left h
    rw [readSteps] at h
    · cases h
      exact Nat.le_refl _
    · exact h₁
    · exact h₂
    · exact h₃

theorem consumes_readPrimary (ls : List Lexeme) : Consumes ls (readPrimary ls) := by
  intro e left h
  unfold readPrimary at h
  split at h
  · cases h
  · cases h
    simp
  · split at h
    · cases h
      simp
    · cases h
  · rename_i word rest
    split at h
    · cases h
      simp
    · split at h
      · cases h
      · have := (bounded_readSteps ⟨word, []⟩ rest).map Expr.lookup e left h
        simp only [List.length_cons]
        omega
  · cases h

/-! Filters -/

/-- The arguments of a filter after the opening parenthesis, of which there is at least one. -/
def readArgs (name : String) (ls : List Lexeme) : Reading (List Expr) :=
  match _found : readPrimary ls with
  | .error stuck => .error stuck
  | .ok (e, .comma :: rest) => Reading.map (e :: ·) (readArgs name rest)
  | .ok (e, .rightParen :: rest) => .ok ([e], rest)
  | .ok (_, rest) => .error ⟨.argumentsNotClosed name, rest⟩
termination_by ls.length
decreasing_by
  have := consumes_readPrimary ls e (.comma :: rest) _found
  simp only [List.length_cons] at this
  omega

/-- A filter after a bar. -/
def readFilter : List Lexeme → Reading FilterCall
  | [] => .error ⟨.noFilterAfterPipe, []⟩
  | .identifier name :: .leftParen :: .rightParen :: rest => .ok (⟨name, []⟩, rest)
  | .identifier name :: .leftParen :: rest => (readArgs name rest).map fun args => ⟨name, args⟩
  | .identifier name :: rest => .ok (⟨name, []⟩, rest)
  | found :: rest => .error ⟨.notAFilterName found, rest⟩

theorem consumes_readArgs (name : String) (ls : List Lexeme) : Consumes ls (readArgs name ls) := by
  induction ls using readArgs.induct with
  | case1 ls stuck found =>
    rw [readArgs, found]
    exact consumes_error
  | case2 ls e rest found ih =>
    have := consumes_readPrimary ls e _ found
    intro args left h
    rw [readArgs, found] at h
    have := ih.map (e :: ·) args left h
    simp only [List.length_cons] at *
    omega
  | case3 ls e rest found =>
    have := consumes_readPrimary ls e _ found
    intro args left h
    rw [readArgs, found] at h
    cases h
    simp only [List.length_cons] at *
    omega
  | case4 ls e rest noComma noParen found =>
    intro args left h
    rw [readArgs, found] at h
    split at h
    · cases h
    · rename_i same
      cases same
      exact absurd rfl (noComma _)
    · rename_i same
      cases same
      exact absurd rfl (noParen _)
    · cases h

theorem consumes_readFilter (ls : List Lexeme) : Consumes ls (readFilter ls) := by
  intro call left h
  unfold readFilter at h
  split at h
  · cases h
  · cases h
    simp only [List.length_cons]
    omega
  · rename_i name rest _
    have := (consumes_readArgs name rest).map (fun args => (⟨name, args⟩ : FilterCall)) call left h
    simp only [List.length_cons]
    omega
  · cases h
    simp
  · cases h

/-- The filters that follow, each after a bar. -/
def readFilters (ls : List Lexeme) : Reading (List FilterCall) :=
  match ls with
  | .pipe :: rest =>
    match _found : readFilter rest with
    | .error stuck => .error stuck
    | .ok (call, after) => Reading.map (call :: ·) (readFilters after)
  | rest => .ok ([], rest)
termination_by ls.length
decreasing_by
  have := consumes_readFilter rest call after _found
  simp only [List.length_cons]
  omega

theorem bounded_readFilters (ls : List Lexeme) : Bounded ls (readFilters ls) := by
  induction ls using readFilters.induct with
  | case1 rest stuck found =>
    rw [readFilters, found]
    exact bounded_error
  | case2 rest call after found ih =>
    have := consumes_readFilter rest call after found
    intro calls left h
    rw [readFilters, found] at h
    have := ih.map (call :: ·) calls left h
    simp only [List.length_cons]
    omega
  | case3 rest h₁ =>
    intro calls left h
    rw [readFilters] at h
    · cases h
      exact Nat.le_refl _
    · exact h₁

/-- A pipeline: a primary and its filters. -/
def readPipeline (span : Span) (ls : List Lexeme) : Reading Pipeline :=
  match readPrimary ls with
  | .error stuck => .error stuck
  | .ok (head, rest) => (readFilters rest).map fun filters => ⟨span, head, filters⟩

theorem consumes_readPipeline (span : Span) (ls : List Lexeme) :
    Consumes ls (readPipeline span ls) := by
  intro p left h
  unfold readPipeline at h
  split at h
  · cases h
  · rename_i head rest found
    have := consumes_readPrimary ls head rest found
    have := (bounded_readFilters rest).map
      (fun filters => (⟨span, head, filters⟩ : Pipeline)) p left h
    omega

/-! Conditions -/

/-- The comparison that a lexeme asks for, if it stands between two pipelines. -/
def comparison? : Lexeme → Option Operator
  | .operator op => some op
  | .identifier word => if word = "in" then some .within else none
  | _ => none

/-- A pipeline, or two with an operator between them. -/
def readComparison (span : Span) (ls : List Lexeme) : Reading Condition :=
  match readPipeline span ls with
  | .error stuck => .error stuck
  | .ok (lhs, []) => .ok (.value lhs, [])
  | .ok (lhs, l :: rest) =>
    match comparison? l with
    | some op => (readPipeline span rest).map fun rhs => .compare op lhs rhs
    | none => .ok (.value lhs, l :: rest)

/-- A comparison under any number of negations. -/
def readNegation (span : Span) : List Lexeme → Reading Condition
  | .identifier word :: rest =>
    if word = "not" then (readNegation span rest).map .not
    else readComparison span (.identifier word :: rest)
  | ls => readComparison span ls

theorem consumes_readComparison (span : Span) (ls : List Lexeme) :
    Consumes ls (readComparison span ls) := by
  intro c left h
  unfold readComparison at h
  split at h
  · cases h
  · rename_i lhs found
    have := consumes_readPipeline span ls lhs _ found
    cases h
    exact this
  · rename_i lhs l rest found
    have := consumes_readPipeline span ls lhs _ found
    simp only [List.length_cons] at this
    split at h
    · rename_i op _
      have := (consumes_readPipeline span rest).map (fun rhs => Condition.compare op lhs rhs) c left h
      omega
    · cases h
      simpa using this

theorem consumes_readNegation (span : Span) (ls : List Lexeme) :
    Consumes ls (readNegation span ls) := by
  induction ls with
  | nil =>
    unfold readNegation
    exact consumes_readComparison span []
  | cons l rest ih =>
    unfold readNegation
    split
    · rename_i word rest' same
      cases same
      split
      · intro c left h
        have := ih.map Condition.not c left h
        simp only [List.length_cons]
        omega
      · exact consumes_readComparison span _
    · exact consumes_readComparison span _

/-- The negations that follow, joined to a condition by `and`. -/
def readConjuncts (span : Span) (lhs : Condition) (ls : List Lexeme) : Reading Condition :=
  match ls with
  | .identifier word :: rest =>
    if word = "and" then
      match _found : readNegation span rest with
      | .error stuck => .error stuck
      | .ok (rhs, after) => readConjuncts span (.and lhs rhs) after
    else .ok (lhs, .identifier word :: rest)
  | rest => .ok (lhs, rest)
termination_by ls.length
decreasing_by
  have := consumes_readNegation span rest rhs after _found
  simp only [List.length_cons]
  omega

/-- Negations joined by `and`. -/
def readConjunction (span : Span) (ls : List Lexeme) : Reading Condition :=
  match readNegation span ls with
  | .error stuck => .error stuck
  | .ok (lhs, rest) => readConjuncts span lhs rest

theorem bounded_readConjuncts (span : Span) (lhs : Condition) (ls : List Lexeme) :
    Bounded ls (readConjuncts span lhs ls) := by
  induction lhs, ls using readConjuncts.induct span with
  | case1 lhs rest stuck found =>
    rw [readConjuncts, if_pos rfl, found]
    exact bounded_error
  | case2 lhs rest rhs after found ih =>
    have := consumes_readNegation span rest rhs after found
    intro c left h
    rw [readConjuncts, if_pos rfl, found] at h
    have := ih c left h
    simp only [List.length_cons]
    omega
  | case3 lhs word rest other =>
    intro c left h
    rw [readConjuncts, if_neg other] at h
    cases h
    exact Nat.le_refl _
  | case4 lhs rest other =>
    intro c left h
    rw [readConjuncts] at h
    · cases h
      exact Nat.le_refl _
    · exact other

theorem consumes_readConjunction (span : Span) (ls : List Lexeme) :
    Consumes ls (readConjunction span ls) := by
  intro c left h
  unfold readConjunction at h
  split at h
  · cases h
  · rename_i lhs rest found
    have := consumes_readNegation span ls lhs rest found
    have := bounded_readConjuncts span lhs rest c left h
    omega

/-- The conjunctions that follow, joined to a condition by `or`. -/
def readDisjuncts (span : Span) (lhs : Condition) (ls : List Lexeme) : Reading Condition :=
  match ls with
  | .identifier word :: rest =>
    if word = "or" then
      match _found : readConjunction span rest with
      | .error stuck => .error stuck
      | .ok (rhs, after) => readDisjuncts span (.or lhs rhs) after
    else .ok (lhs, .identifier word :: rest)
  | rest => .ok (lhs, rest)
termination_by ls.length
decreasing_by
  have := consumes_readConjunction span rest rhs after _found
  simp only [List.length_cons]
  omega

/-- A whole condition. -/
def readCondition (span : Span) (ls : List Lexeme) : Reading Condition :=
  match readConjunction span ls with
  | .error stuck => .error stuck
  | .ok (lhs, rest) => readDisjuncts span lhs rest

/-! Pieces of tag arguments -/

/-- Whether a word comes next. -/
def startsWith (word : String) (ls : List Lexeme) : Bool := ls.head? = some (.identifier word)

/-- A name other than the words that join conditions; `what` says in a report what was expected. -/
def readIdentifier (what : String) : List Lexeme → Reading String
  | .identifier word :: rest =>
    if isReserved word then .error ⟨.noIdentifier what (some (.identifier word)), rest⟩
    else .ok (word, rest)
  | found :: rest => .error ⟨.noIdentifier what (some found), rest⟩
  | [] => .error ⟨.noIdentifier what none, []⟩

/-- A given word. -/
def readWord (word : String) (ls : List Lexeme) : Reading Unit :=
  if startsWith word ls then .ok ((), ls.tail) else .error ⟨.wordExpected word, ls⟩

/-- The end of the lexemes. -/
def readEnd : List Lexeme → Reading Unit
  | [] => .ok ((), [])
  | found :: rest => .error ⟨.unexpectedLexeme found, found :: rest⟩

/-- The names of the variables of a loop, with commas between them. -/
def readVariables : List Lexeme → Reading (List String)
  | .identifier word :: .comma :: rest =>
    if isReserved word then
      .error ⟨.noIdentifier "loop variable" (some (.identifier word)), .comma :: rest⟩
    else Reading.map (word :: ·) (readVariables rest)
  | ls => (readIdentifier "loop variable" ls).map ([·])

/-- Filters with bars between them. -/
def readFilterChain (ls : List Lexeme) : Reading (List FilterCall) :=
  match ls with
  | [] => .error ⟨.noFilter, []⟩
  | ls =>
    match readFilter ls with
    | .error stuck => .error stuck
    | .ok (call, rest) => Reading.map (call :: ·) (readFilters rest)

/-! Whole texts -/

/-- What a reader makes of a whole text, down to its last lexeme. -/
def readWhole {α : Type} (reader : List Lexeme → Reading α) (text : String) : Except Fault α :=
  match Lexeme.ofText text.toList with
  | .error fault => .error fault
  | .ok ls =>
    match reader ls with
    | .error stuck => .error stuck.fault
    | .ok (a, []) => .ok a
    | .ok (_, found :: _) => .error (.unexpectedLexeme found)

/-- The pipeline that a text writes. -/
def Pipeline.ofText (span : Span) (text : String) : Except Fault Pipeline :=
  readWhole (readPipeline span) text

/-- The condition that a text writes. -/
def Condition.ofText (span : Span) (text : String) : Except Fault Condition :=
  readWhole (readCondition span) text

/-- The filters that a text writes, with bars between them. -/
def FilterCall.chainOfText (text : String) : Except Fault (List FilterCall) :=
  readWhole readFilterChain text

end TextTemplate
