import TextTemplate.Proofs.ExpressionReading

/-! Paths are read back from their text. A name ends at the point behind it, and so does an index, unless
an index without a sign follows: these two are one number among the lexemes and are parted again when
the path is read. So the steps of a path are taken one or two at a time. -/
namespace TextTemplate

/-! Names and numbers at the front of a text -/

namespace Lexeme

variable {c : Char} {cs whole fraction after : List Char} {pointed : Bool}

/-- A text that is a single name: a letter, and letters or digits behind it. -/
def isName : List Char → Bool
  | [] => false
  | c :: rest => startsIdentifier c && rest.all continuesIdentifier

/-- The characters that are lexemes, begin an operator, or open a string. -/
def signs : List Char := ['.', '|', ',', '(', ')', '=', '!', '<', '>', '"', '\'']

theorem next_plain (plain : c ∉ signs) (rest : List Char) :
    next c rest = if c.isDigit || (c = '-' && rest.head?.any Char.isDigit) then .ok (numberFrom c rest)
      else if startsIdentifier c then .ok (identifierFrom c rest)
      else .error (.unexpectedCharacter c) := by
  simp only [signs, List.mem_cons, List.not_mem_nil, not_or] at plain
  simp [next, isQuote, plain]

/-- No character with one of these codes starts a name if none of the codes is that of a letter. -/
theorem not_startsIdentifier {codes : List Nat}
    (none : ∀ code ∈ codes, startsIdentifier (Char.ofNat code) = false) (member : c.toNat ∈ codes) :
    startsIdentifier c = false := by
  have same := none c.toNat member
  rwa [Char.ofNat_toNat] at same

theorem startsIdentifier_not_digit (starts : startsIdentifier c) : c.isDigit = false := by
  by_contra digit
  have codes : ∀ code ∈ List.range' 48 10, startsIdentifier (Char.ofNat code) = false := by decide +kernel
  refine absurd starts (Bool.not_eq_true _ ▸ not_startsIdentifier codes ?_)
  simp only [Char.isDigit, Bool.not_eq_false, Bool.and_eq_true, decide_eq_true_eq] at digit
  rw [List.mem_range'_1]
  exact ⟨digit.1, Nat.lt_succ_of_le digit.2⟩

theorem startsIdentifier_not_space (starts : startsIdentifier c) : ¬ Text.isSpace c := by
  intro blank
  have codes : ∀ code ∈ List.range' 9 5 ++ [0x20, 0x85, 0xA0, 0x1680] ++ List.range' 0x2000 11 ++
      [0x2028, 0x2029, 0x202F, 0x205F, 0x3000], startsIdentifier (Char.ofNat code) = false := by
    decide +kernel
  refine absurd starts (Bool.not_eq_true _ ▸ not_startsIdentifier codes ?_)
  simp only [Text.isSpace, Bool.or_eq_true, Bool.and_eq_true, decide_eq_true_eq,
    beq_iff_eq] at blank
  simp only [List.mem_append, List.mem_range'_1, List.mem_cons, List.not_mem_nil]
  omega

/-- A character of a class is none of those that have been checked to lie outside of it. -/
theorem not_mem_of_all {p : Char → Bool} {others : List Char} (holds : p c)
    (none : others.all fun e => !p e) : c ∉ others := by
  intro member
  have other := List.all_eq_true.mp none c member
  simp [holds] at other

theorem startsIdentifier_not_sign (starts : startsIdentifier c) : c ∉ '-' :: signs :=
  not_mem_of_all starts (by decide +kernel)

theorem digit_not_sign (digit : c.isDigit = true) : c ∉ signs := not_mem_of_all digit (by decide)

theorem digit_not_space (digit : c.isDigit = true) : ¬ Text.isSpace c := by
  intro blank
  simp only [Text.isSpace, Bool.or_eq_true, Bool.and_eq_true, decide_eq_true_eq,
    beq_iff_eq] at blank
  simp only [Char.isDigit, Bool.and_eq_true, decide_eq_true_eq] at digit
  have low : 48 ≤ c.toNat := digit.1
  have high : c.toNat ≤ 57 := digit.2
  omega

theorem ofText_dot (rest : List Char) : ofText ('.' :: rest) = (ofText rest).map (.dot :: ·) :=
  ofText_next (by decide) rfl

/-- A name is read as one lexeme, if no character follows that could go on with it. -/
theorem ofText_name (name : isName cs) (ends : ∀ c ∈ after.head?, continuesIdentifier c = false) :
    ofText (cs ++ after) = (ofText after).map (.identifier (String.ofList cs) :: ·) := by
  cases cs with
  | nil => cases name
  | cons c rest =>
    obtain ⟨starts, goesOn⟩ : startsIdentifier c = true ∧ rest.all continuesIdentifier = true := by
      simpa [isName] using name
    obtain ⟨minus, plain⟩ := not_or.mp (mt List.mem_cons.mpr (startsIdentifier_not_sign starts))
    have taken : (rest ++ after).takeWhile continuesIdentifier = rest := by
      rw [List.takeWhile_append_of_pos (List.all_eq_true.mp goesOn)]
      cases after <;> simp_all
    have left : (rest ++ after).dropWhile continuesIdentifier = after := by
      rw [List.dropWhile_append_of_pos (List.all_eq_true.mp goesOn)]
      cases after <;> simp_all
    have read : next c (rest ++ after) = .ok (.identifier (String.ofList (c :: rest)), after) := by
      rw [next_plain plain, if_neg (by simp [startsIdentifier_not_digit starts, minus]), if_pos starts,
        identifierFrom, taken, left]
    exact ofText_next (startsIdentifier_not_space starts) read

/-- What comes next is nothing that a number could go on with: no digit and, before a point in it, no
point with a digit behind. -/
def EndsNumber (pointed : Bool) (after : List Char) : Prop :=
  ∀ c rest, after = c :: rest →
    c.isDigit = false ∧ (c = '.' → pointed = false → rest.head?.any Char.isDigit = false)

theorem endsNumber_nil : EndsNumber pointed [] := nofun

/-- Behind a point of its own, a number ends at the next one. -/
theorem endsNumber_second (rest : List Char) : EndsNumber true ('.' :: rest) := by
  rintro c _ ⟨⟩
  exact ⟨by decide, nofun⟩

/-- A number ends at a point that something else than a digit follows. -/
theorem endsNumber_point (other : c.isDigit = false) (rest : List Char) :
    EndsNumber pointed ('.' :: c :: rest) := by
  rintro d _ ⟨⟩
  exact ⟨by decide, fun _ _ => by simpa using other⟩

theorem splitNumber_end (ends : EndsNumber pointed after) : splitNumber pointed after = ([], after) := by
  cases after with
  | nil => rfl
  | cons c rest =>
    obtain ⟨other, point⟩ := ends c rest rfl
    rw [splitNumber, if_neg (by simp [other]), if_neg]
    simp only [Bool.and_eq_true, decide_eq_true_eq, Bool.not_eq_true']
    rintro ⟨⟨dot, before⟩, digit⟩
    rw [point dot before] at digit
    cases digit

theorem splitNumber_whole (digits : ∀ c ∈ whole, c.isDigit = true) (pointed : Bool) (rest : List Char) :
    splitNumber pointed (whole ++ rest) =
      (whole ++ (splitNumber pointed rest).1, (splitNumber pointed rest).2) := by
  induction whole with
  | nil => rfl
  | cons c whole ih =>
    obtain ⟨digit, others⟩ := List.forall_mem_cons.mp digits
    rw [List.cons_append, splitNumber, if_pos digit, ih others]
    rfl

/-- The digits on both sides of a point are taken for one number. -/
theorem splitNumber_numeral (before : ∀ c ∈ whole, c.isDigit = true)
    (behind : ∀ c ∈ fraction, c.isDigit = true) (ends : EndsNumber (decide (fraction ≠ [])) after) :
    splitNumber false (whole ++ (Numeral.pointText fraction ++ after)) =
      (whole ++ Numeral.pointText fraction, after) := by
  rw [splitNumber_whole before]
  cases fraction with
  | nil => simp [Numeral.pointText, splitNumber_end (by simpa using ends)]
  | cons c fraction =>
    have digit := behind c List.mem_cons_self
    have point : '.'.isDigit = false := by decide
    have ends : EndsNumber true after := by simpa using ends
    have inner : splitNumber true (c :: (fraction ++ after)) = (c :: fraction, after) := by
      have parts := splitNumber_whole behind true after
      rwa [splitNumber_end ends, List.append_nil] at parts
    simp only [Numeral.pointText, List.cons_ne_nil, if_false, List.cons_append]
    rw [splitNumber, if_neg (by simp [point]), if_pos (by simp [digit]), inner]

/-- A numeral is read as one lexeme, if nothing follows that it could go on with. -/
theorem ofText_numeral {n : Numeral} (plain : n.power = none)
    (ends : EndsNumber (decide (n.fraction ≠ [])) after) :
    ofText (n.text ++ after) = (ofText after).map (.number (String.ofList n.text) :: ·) := by
  obtain ⟨c, rest, first⟩ := List.exists_cons_of_ne_nil n.whole_nonempty
  have digits := n.whole_digits
  rw [first] at digits
  obtain ⟨digit, others⟩ := List.forall_mem_cons.mp digits
  have read : ∃ d more, n.text ++ after = d :: more ∧ ¬ Text.isSpace d ∧
      next d more = .ok (.number (String.ofList n.text), after) := by
    rw [Numeral.text_plain plain, Numeral.start, first]
    cases n.negative with
    | false =>
      refine ⟨c, rest ++ (Numeral.pointText n.fraction ++ after), by simp, digit_not_space digit, ?_⟩
      rw [next_plain (digit_not_sign digit), if_pos (by simp [digit]), numberFrom,
        splitNumber_numeral others n.fraction_digits ends]
      simp
    | true =>
      refine ⟨'-', c :: rest ++ (Numeral.pointText n.fraction ++ after), by simp, by decide, ?_⟩
      rw [next_plain (by decide), if_pos (by simp [digit]), numberFrom,
        splitNumber_numeral digits n.fraction_digits ends]
      simp
  obtain ⟨d, more, parts, visible, read⟩ := read
  rw [parts, ofText_next visible read]

end Lexeme

/-! Steps as they are written -/

/-- A step behind a point: a single name, or digits with a minus sign perhaps, whatever number they
write. -/
inductive WrittenStep where
  | name (letters : List Char) (single : Lexeme.isName letters = true)
  | number (negative : Bool) (digits : List Char) (nonempty : digits ≠ [])
      (decimal : ∀ c ∈ digits, c.isDigit = true)

namespace WrittenStep

/-- The characters behind the point. -/
def text : WrittenStep → List Char
  | .name letters _ => letters
  | .number negative digits _ _ => if negative then '-' :: digits else digits

/-- The step that is meant. -/
def segment : WrittenStep → PathSegment
  | .name letters _ => .key (String.ofList letters)
  | .number negative digits _ _ =>
    .index (if negative then -(digitsValue digits : Int) else digitsValue digits)

end WrittenStep

/-- Steps as they are written, with a point before each. -/
def writtenText (steps : List WrittenStep) : List Char := steps.flatMap fun step => '.' :: step.text

/-- What stands behind one point of a lookup: a name, or a number, which is one step, or two if it has a
point itself. -/
inductive StepWord where
  | name (letters : List Char) (single : Lexeme.isName letters = true)
  | number (n : Numeral) (plain : n.power = none)

namespace StepWord

/-- The characters of the word. -/
def text : StepWord → List Char
  | .name letters _ => letters
  | .number n _ => n.text

/-- The lexeme that the word is. -/
def lexeme : StepWord → Lexeme
  | .name letters _ => .identifier (String.ofList letters)
  | .number n _ => .number (String.ofList n.text)

/-- The steps that are written by the word. -/
def steps : StepWord → List WrittenStep
  | .name letters single => [.name letters single]
  | .number n _ => .number n.negative n.whole n.whole_nonempty n.whole_digits ::
      if nonempty : n.fraction = [] then [] else [.number false n.fraction nonempty n.fraction_digits]

/-- What the word would go on with does not come next. -/
def Ends (after : List Char) : StepWord → Prop
  | .name _ _ => ∀ c ∈ after.head?, Lexeme.continuesIdentifier c = false
  | .number n _ => Lexeme.EndsNumber (decide (n.fraction ≠ [])) after

theorem writtenText_steps (word : StepWord) : writtenText word.steps = '.' :: word.text := by
  cases word with
  | name letters single => simp [writtenText, steps, WrittenStep.text, text]
  | number n plain =>
    rw [text, Numeral.text_plain plain]
    by_cases whole : n.fraction = []
    · simp [writtenText, steps, WrittenStep.text, whole, Numeral.pointText, Numeral.start]
    · simp [writtenText, steps, WrittenStep.text, whole, Numeral.pointText, Numeral.start]

theorem ofText_word {word : StepWord} {after : List Char} (ends : word.Ends after) :
    Lexeme.ofText (word.text ++ after) = (Lexeme.ofText after).map (word.lexeme :: ·) := by
  cases word with
  | name letters single => exact Lexeme.ofText_name single ends
  | number n plain => exact Lexeme.ofText_numeral plain ends

end StepWord

/-- A name ends where parts with a point before each follow. -/
theorem pointed_ends {α : Type} (text : α → List Char) (parts : List α) :
    ∀ c ∈ (parts.flatMap fun part => '.' :: text part).head?, Lexeme.continuesIdentifier c = false := by
  cases parts with
  | nil => nofun
  | cons part parts =>
    rintro c ⟨⟩
    decide +kernel

/-- A number with a point of its own ends where steps follow. -/
theorem writtenText_endsNumber (steps : List WrittenStep) :
    Lexeme.EndsNumber true (writtenText steps) := by
  cases steps with
  | nil => exact Lexeme.endsNumber_nil
  | cons step steps => exact Lexeme.endsNumber_second _

/-- Any number ends where a step follows that does not begin with a digit. -/
theorem writtenText_cons_endsNumber {step : WrittenStep} {c : Char} {more : List Char} {pointed : Bool}
    (begins : step.text = c :: more) (other : c.isDigit = false) (rest : List WrittenStep) :
    Lexeme.EndsNumber pointed (writtenText (step :: rest)) := by
  rw [writtenText, List.flatMap_cons, begins]
  exact Lexeme.endsNumber_point other _

theorem WrittenStep.name_begins {letters : List Char} (single : Lexeme.isName letters) :
    ∃ c more, (name letters single).text = c :: more ∧ c.isDigit = false := by
  cases letters with
  | nil => cases single
  | cons c more =>
    rw [Lexeme.isName, Bool.and_eq_true] at single
    exact ⟨c, more, rfl, Lexeme.startsIdentifier_not_digit single.1⟩

/-- The steps are taken from their text as the words of a lookup. -/
def WordsRead (steps : List WrittenStep) : Prop :=
  ∃ words : List StepWord, words.flatMap StepWord.steps = steps ∧
    Lexeme.ofText (writtenText steps) = .ok (following .dot (fun word => [word.lexeme]) words)

/-- The steps of one word come before others, if the word ends where their text starts. -/
theorem WordsRead.cons {word : StepWord} {steps : List WrittenStep}
    (later : WordsRead steps) (ends : word.Ends (writtenText steps)) :
    WordsRead (word.steps ++ steps) := by
  obtain ⟨words, same, lexed⟩ := later
  refine ⟨word :: words, by rw [List.flatMap_cons, same], ?_⟩
  rw [writtenText, List.flatMap_append, ← writtenText, ← writtenText, word.writtenText_steps,
    List.cons_append, Lexeme.ofText_dot, StepWord.ofText_word ends, lexed]
  rfl

/-- A number in a word of its own comes before steps that do not begin with a digit. -/
theorem WordsRead.number {negative : Bool} {digits : List Char} (nonempty : digits ≠ [])
    (decimal : ∀ c ∈ digits, c.isDigit = true) {steps : List WrittenStep}
    (later : WordsRead steps) (ends : Lexeme.EndsNumber false (writtenText steps)) :
    WordsRead (.number negative digits nonempty decimal :: steps) := by
  let word : StepWord := .number (.decimal negative digits [] nonempty decimal (List.forall_mem_nil _)) rfl
  change WordsRead (word.steps ++ steps)
  exact later.cons ends

/-- A number and one without a sign behind it are in one word. -/
theorem WordsRead.numbers {negative : Bool} {whole fraction : List Char} (nonempty : whole ≠ [])
    (decimal : ∀ c ∈ whole, c.isDigit = true) (nonempty' : fraction ≠ [])
    (decimal' : ∀ c ∈ fraction, c.isDigit = true) {steps : List WrittenStep} (later : WordsRead steps) :
    WordsRead (.number negative whole nonempty decimal :: .number false fraction nonempty' decimal' ::
      steps) := by
  let word : StepWord := .number (.decimal negative whole fraction nonempty decimal decimal') rfl
  have pair : word.steps =
      [.number negative whole nonempty decimal, .number false fraction nonempty' decimal'] := by
    simp [word, StepWord.steps, Numeral.decimal, nonempty']
  have ends : word.Ends (writtenText steps) := by
    change Lexeme.EndsNumber (decide (fraction ≠ [])) _
    rw [decide_eq_true nonempty']
    exact writtenText_endsNumber steps
  have read := later.cons ends
  rwa [pair] at read

/-- Steps are read as words whatever their order. A number takes the next one with it if that has no
sign, so that numbers in a row are taken two by two up to one with a sign, where the pairs start anew. -/
theorem steps_words : ∀ steps : List WrittenStep, WordsRead steps
  | [] => ⟨[], rfl, Lexeme.ofText_nil⟩
  | .name letters single :: rest =>
    have ends : (StepWord.name letters single).Ends (writtenText rest) :=
      pointed_ends WrittenStep.text rest
    (steps_words rest).cons ends
  | [.number _ _ nonempty decimal] => (steps_words []).number nonempty decimal Lexeme.endsNumber_nil
  | .number _ _ nonempty decimal :: .name letters single :: rest => by
    obtain ⟨c, more, begins, other⟩ := WrittenStep.name_begins single
    exact (steps_words (.name letters single :: rest)).number nonempty decimal
      (writtenText_cons_endsNumber begins other rest)
  | .number _ _ nonempty decimal :: .number true digits nonempty' decimal' :: rest =>
    (steps_words (.number true digits nonempty' decimal' :: rest)).number nonempty decimal
      (writtenText_cons_endsNumber rfl (by decide) rest)
  | .number _ _ nonempty decimal :: .number false _ nonempty' decimal' :: rest =>
    (steps_words rest).numbers nonempty decimal nonempty' decimal'

/-! Steps that are written as they are -/

/-- A step that its text can stand for: a single name, or an index of 64 bits. -/
def PathSegment.Writable : PathSegment → Prop
  | .key name => Lexeme.isName name.toList
  | .index i => IndexRange i

instance (step : PathSegment) : Decidable step.Writable :=
  match step with
  | .key name => inferInstanceAs (Decidable (Lexeme.isName name.toList = true))
  | .index i => inferInstanceAs (Decidable (IndexRange i))

/-- A path that its text can stand for: the first name is no word with a meaning of its own. -/
structure Path.Writable (p : Path) : Prop where
  name : Lexeme.isName p.name.toList
  free : p.name ∉ reservedWords
  plain : p.name ∉ literalWords.map Prod.fst
  steps : ∀ step ∈ p.steps, step.Writable

/-- Steps as they are written, with a point before each. -/
def stepsText (steps : List PathSegment) : List Char :=
  steps.flatMap fun step => '.' :: step.text.toList

theorem Path.text_toList (p : Path) : p.text.toList = p.name.toList ++ stepsText p.steps := by
  have written (steps : List PathSegment) (s : String) :
      (steps.foldl (fun written step => written ++ "." ++ step.text) s).toList =
        s.toList ++ stepsText steps := by
    induction steps generalizing s with
    | nil => simp [stepsText]
    | cons step steps ih =>
      rw [List.foldl_cons, ih]
      simp [stepsText]
  exact written p.steps p.name

/-- A name ends where steps follow. -/
theorem stepsText_ends (steps : List PathSegment) :
    ∀ c ∈ (stepsText steps).head?, Lexeme.continuesIdentifier c = false :=
  pointed_ends (fun step : PathSegment => step.text.toList) steps

/-- A step that its text can stand for is written as that text. -/
theorem PathSegment.Writable.written {step : PathSegment} (writable : step.Writable) :
    ∃ w : WrittenStep, w.segment = step ∧ w.text = step.text.toList := by
  cases step with
  | key name => exact ⟨.name name.toList writable, by simp [WrittenStep.segment], rfl⟩
  | index i =>
    let n := Numeral.ofInt i
    refine ⟨.number n.negative n.whole n.whole_nonempty n.whole_digits, ?_, ?_⟩
    · exact congrArg PathSegment.index (Numeral.ofInt_integer i)
    · rw [PathSegment.text, ← Numeral.ofInt_text, String.toList_ofList, Numeral.text_plain rfl]
      exact (List.append_nil _).symm

/-- A word is a step of a lookup if its numbers are in range. -/
theorem StepWord.form {word : StepWord} (range : ∀ step ∈ word.steps, step.segment.Writable) :
    ∃ form : StepForm, form.lexeme = word.lexeme ∧
      form.segments = word.steps.map WrittenStep.segment := by
  cases word with
  | name letters single => exact ⟨.key (String.ofList letters), rfl, rfl⟩
  | number n plain =>
    have segments : n.indices.map .index = (number n plain).steps.map WrittenStep.segment := by
      by_cases whole : n.fraction = [] <;>
        simp [Numeral.indices, steps, WrittenStep.segment, whole, Numeral.integer]
    have each : ∀ i ∈ n.indices, IndexRange i := fun i member => by
      have among := List.mem_map_of_mem (f := PathSegment.index) member
      rw [segments] at among
      obtain ⟨step, member, same⟩ := List.mem_map.mp among
      exact (show (PathSegment.index i).Writable from same ▸ range step member)
    exact ⟨.indices (String.ofList n.text) n.indices ⟨n, plain, by simp, rfl, each⟩, rfl, segments⟩

/-- The steps are read as those that some lexemes of a lookup stand for. -/
def StepsRead (steps : List PathSegment) : Prop :=
  ∃ forms : List StepForm, forms.flatMap StepForm.segments = steps ∧
    Lexeme.ofText (stepsText steps) = .ok (following .dot (fun form => [form.lexeme]) forms)

theorem steps_written (steps : List PathSegment) (writable : ∀ step ∈ steps, step.Writable) :
    ∃ written : List WrittenStep,
      written.map WrittenStep.segment = steps ∧ writtenText written = stepsText steps := by
  induction steps with
  | nil => exact ⟨[], rfl, rfl⟩
  | cons step steps ih =>
    obtain ⟨first, others⟩ := List.forall_mem_cons.mp writable
    obtain ⟨w, same, text⟩ := first.written
    obtain ⟨ws, sames, texts⟩ := ih others
    refine ⟨w :: ws, by rw [List.map_cons, same, sames], ?_⟩
    rw [writtenText, stepsText, List.flatMap_cons, List.flatMap_cons, text]
    exact congrArg (_ ++ ·) texts

theorem words_forms (words : List StepWord)
    (range : ∀ step ∈ words.flatMap StepWord.steps, step.segment.Writable) :
    ∃ forms : List StepForm, following .dot (fun form => [form.lexeme]) forms =
        following .dot (fun word => [word.lexeme]) words ∧
      forms.flatMap StepForm.segments = (words.flatMap StepWord.steps).map WrittenStep.segment := by
  induction words with
  | nil => exact ⟨[], rfl, rfl⟩
  | cons word words ih =>
    rw [List.flatMap_cons] at range
    obtain ⟨first, others⟩ := List.forall_mem_append.mp range
    obtain ⟨form, lexeme, segments⟩ := StepWord.form first
    obtain ⟨forms, lexemes, rest⟩ := ih others
    refine ⟨form :: forms, ?_, ?_⟩
    · rw [following, following, List.flatMap_cons, List.flatMap_cons, lexeme]
      exact congrArg (_ ++ ·) lexemes
    · rw [List.flatMap_cons, List.flatMap_cons, List.map_append, segments, rest]

/-- Steps are read whatever their order. -/
theorem steps_read (steps : List PathSegment) (writable : ∀ step ∈ steps, step.Writable) :
    StepsRead steps := by
  obtain ⟨written, rfl, text⟩ := steps_written steps writable
  obtain ⟨words, rfl, lexed⟩ := steps_words written
  obtain ⟨forms, lexemes, segments⟩ :=
    words_forms words fun step member => writable _ (List.mem_map_of_mem member)
  exact ⟨forms, segments, by rw [← text, lexed, lexemes]⟩

/-- Paths are read back from their text. -/
theorem path_text_reads (span : Span) {p : Path} (writable : p.Writable) :
    Pipeline.ofText span p.text = .ok ⟨span, .lookup p, []⟩ := by
  obtain ⟨forms, same, lexed⟩ := steps_read p.steps writable.steps
  refine Pipeline.ofText_iff.mpr ⟨⟨.lookup p.name forms writable.free writable.plain, []⟩, ?_, ?_⟩
  · rw [p.text_toList, Lexeme.ofText_name writable.name (stepsText_ends p.steps), lexed,
      String.ofList_toList]
    simp [Except.map, PipelineForm.lexemes, PrimaryForm.lexemes, following]
  · simp [PipelineForm.meaning, PrimaryForm.meaning, same]

/-- Two indices in one number, a sign behind them, two in one number again, and words with a meaning of
their own behind points. -/
theorem path_text_reads_mixed :
    let p : Path := ⟨"a_1", [.index 0, .index 1, .index (-2), .index 3, .key "in", .index 7, .key "true"]⟩
    p.text = "a_1.0.1.-2.3.in.7.true" ∧ p.Writable ∧
      Lexeme.ofText p.text.toList = .ok [.identifier "a_1", .dot, .number "0.1", .dot, .number "-2.3",
        .dot, .identifier "in", .dot, .number "7", .dot, .identifier "true"] ∧
      Pipeline.ofText {} p.text = .ok ⟨{}, .lookup p, []⟩ := by
  intro p
  have writable : p.Writable := ⟨by decide +kernel, by decide, by decide, by decide +kernel⟩
  exact ⟨by decide +kernel, writable, by decide +kernel, path_text_reads {} writable⟩

end TextTemplate
