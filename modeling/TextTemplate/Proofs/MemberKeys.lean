import TextTemplate.Proofs.LookupPaths
import TextTemplate.Proofs.SingleOutputs

/-! Members of objects are found under the keys that a lookup writes. A name is the key itself. Digits
are an index first, whatever numbers the lexemes take them for: beyond 64 bits they are refused, and
otherwise the member is looked up under the digits that the index is written with. These are the
digits of the lookup but for the zeros at their start. -/
namespace TextTemplate

/-! Digits of a value -/

section Digits

variable {cs : List Char} {c : Char}

theorem toDigits_digit (digit : c.isDigit = true) : Nat.toDigits 10 (digitsValue [c]) = [c] := by
  have codes : ∀ n < 58, 48 ≤ n → Nat.toDigits 10 (digitsValue [Char.ofNat n]) = [Char.ofNat n] := by
    decide
  simp only [Char.isDigit, Bool.and_eq_true, decide_eq_true_eq] at digit
  have same := codes c.toNat (Nat.lt_succ_of_le digit.2) digit.1
  rwa [Char.ofNat_toNat] at same

/-- Digits that do not start with a zero are those of their value. -/
theorem toDigits_digitsValue (decimal : ∀ c ∈ cs, c.isDigit = true) (nonempty : cs ≠ [])
    (first : cs.head? ≠ some '0') : Nat.toDigits 10 (digitsValue cs) = cs := by
  induction cs using List.reverseRecOn with
  | nil => exact absurd rfl nonempty
  | append_singleton cs c ih =>
    obtain ⟨others, last⟩ := List.forall_mem_append.mp decimal
    have digit := last c List.mem_cons_self
    by_cases alone : cs = []
    · rw [alone, List.nil_append, toDigits_digit digit]
    · rw [List.head?_append_of_ne_nil _ alone] at first
      have before := ih others alone first
      have positive : 0 < digitsValue cs := by
        refine Nat.pos_of_ne_zero fun zero => first ?_
        rw [← before, zero, Nat.toDigits_zero]
        rfl
      have small : digitsValue [c] < 10 := by
        have short : (Nat.toDigits 10 (digitsValue [c])).length ≤ 1 := by
          rw [toDigits_digit digit]
          exact le_rfl
        exact (Nat.length_toDigits_le_iff (by decide) Nat.one_pos).mp short
      calc Nat.toDigits 10 (digitsValue (cs ++ [c]))
        _ = Nat.toDigits 10 (10 * digitsValue cs + digitsValue [c]) := by rw [digitsValue_append]; rfl
        _ = Nat.toDigits 10 (digitsValue cs) ++ Nat.toDigits 10 (digitsValue [c]) :=
          (Nat.toDigits_append_toDigits (by decide) positive small).symm
        _ = cs ++ [c] := by rw [before, toDigits_digit digit]

/-- An integer is written as the digits of its size, behind a sign if it is negative. -/
theorem int_text (i : Int) : (toString i).toList =
    if i < 0 then '-' :: Nat.toDigits 10 i.natAbs else Nat.toDigits 10 i.natAbs := by
  rw [← Numeral.ofInt_text, String.toList_ofList, Numeral.ofInt, Numeral.decimal_text, Numeral.pointText,
    if_pos rfl, List.append_nil]
  simp only [decide_eq_true_eq]

/-- Digits without the zeros at their start, of which one stays if nothing else is left. -/
def plainDigits (cs : List Char) : List Char :=
  if cs.dropWhile (· = '0') = [] then ['0'] else cs.dropWhile (· = '0')

theorem plainDigits_zero (cs : List Char) : plainDigits ('0' :: cs) = plainDigits cs := by
  rw [plainDigits, plainDigits, List.dropWhile_cons_of_pos (by decide)]

theorem plainDigits_of_ne (other : c ≠ '0') (cs : List Char) : plainDigits (c :: cs) = c :: cs := by
  rw [plainDigits, List.dropWhile_cons_of_neg (by simpa using other), if_neg (List.cons_ne_nil _ _)]

/-- A number is written without zeros at the start. -/
theorem toDigits_plain (decimal : ∀ c ∈ cs, c.isDigit = true) :
    Nat.toDigits 10 (digitsValue cs) = plainDigits cs := by
  induction cs with
  | nil => rfl
  | cons c cs ih =>
    by_cases zero : c = '0'
    · subst zero
      rw [plainDigits_zero, ← ih (List.forall_mem_cons.mp decimal).2]
      rfl
    · rw [plainDigits_of_ne zero]
      exact toDigits_digitsValue decimal (List.cons_ne_nil _ _) (by simpa using zero)

/-- Digits are plain unless they have a zero in front of others. -/
theorem plainDigits_eq_iff (nonempty : cs ≠ []) :
    plainDigits cs = cs ↔ cs = ['0'] ∨ cs.head? ≠ some '0' := by
  obtain ⟨c, cs, rfl⟩ := List.exists_cons_of_ne_nil nonempty
  by_cases zero : c = '0'
  · subst zero
    simp only [plainDigits_zero, List.head?_cons, ne_eq, not_true_eq_false, or_false]
    constructor
    · intro same
      by_cases zeros : cs.dropWhile (· = '0') = []
      · rw [← same, plainDigits, if_pos zeros]
      · have shorter := (List.dropWhile_suffix (· = '0') (l := cs)).length_le
        rw [plainDigits, if_neg zeros] at same
        rw [same, List.length_cons] at shorter
        omega
    · rintro ⟨⟩
      rfl
  · simp [plainDigits_of_ne zero, zero]

end Digits

/-! Steps and the members that they find -/

namespace WrittenStep

/-- The key that a member is found under. -/
def key : WrittenStep → List Char
  | .name letters _ => letters
  | .number negative digits _ _ =>
    if negative = true ∧ digitsValue digits ≠ 0 then '-' :: plainDigits digits else plainDigits digits

/-- A name, or a number without zeros in front of it and without a sign in front of zero. -/
def Plain : WrittenStep → Prop
  | .name _ _ => True
  | .number negative digits _ _ => digits.head? ≠ some '0' ∨ negative = false ∧ digits = ['0']

theorem segment_key (step : WrittenStep) : step.segment.text = String.ofList step.key := by
  cases step with
  | name letters single => rfl
  | number negative digits nonempty decimal =>
    refine String.toList_injective ?_
    rw [segment, PathSegment.text, int_text, key, String.toList_ofList, ← toDigits_plain decimal]
    cases negative with
    | false => simp
    | true =>
      by_cases zero : digitsValue digits = 0
      · simp [zero]
      · have below : -(digitsValue digits : Int) < 0 := by omega
        simp only [if_pos, below, Int.natAbs_neg, Int.natAbs_natCast, zero, ne_eq, not_false_eq_true,
          and_self]

theorem key_eq_iff (step : WrittenStep) : step.key = step.text ↔ step.Plain := by
  cases step with
  | name letters single => simp only [key, text, Plain]
  | number negative digits nonempty decimal =>
    have plain := plainDigits_eq_iff nonempty
    cases negative with
    | false => simpa [key, text, Plain, or_comm] using plain
    | true =>
      by_cases zero : digitsValue digits = 0
      · have written : plainDigits digits = ['0'] := by
          rw [← toDigits_plain decimal, zero, Nat.toDigits_zero]
        have first : digits.head? = some '0' := by
          by_contra other
          have same := plain.mpr (.inr other)
          rw [written] at same
          exact other (same ▸ rfl)
        simp [key, text, Plain, zero, written, first]
      · have other : digits ≠ ['0'] := fun same => zero (same ▸ rfl)
        simpa [key, text, Plain, zero, other] using plain

end WrittenStep

/-! Steps that are refused -/

/-- The first step whose number is beyond 64 bits. -/
def refused? (steps : List WrittenStep) : Option WrittenStep :=
  steps.find? fun step => ¬ step.segment.Writable

theorem refused?_none {steps : List WrittenStep} :
    refused? steps = none ↔ ∀ step ∈ steps, step.segment.Writable := by
  simp [refused?]

theorem StepWord.name_accepted (letters : List Char) (single : Lexeme.isName letters) :
    refused? (StepWord.name letters single).steps = none := by
  refine refused?_none.mpr (List.forall_mem_singleton.mpr ?_)
  simpa [WrittenStep.segment, PathSegment.Writable] using single

/-- The steps of a number are indices if none of them is refused. -/
theorem StepWord.readIndices_number {n : Numeral} (plain : n.power = none) :
    readIndices (Text.splitAtChar '.' n.text) = match refused? (StepWord.number n plain).steps with
      | none => .ok ((StepWord.number n plain).steps.map WrittenStep.segment)
      | some step => .error step.text := by
  have first : (WrittenStep.number n.negative n.whole n.whole_nonempty n.whole_digits).segment =
      .index n.integer := rfl
  rw [Numeral.splitAtChar_text plain, readIndices_parts n.readIndex_sides]
  by_cases whole : n.fraction = []
  · by_cases range : IndexRange n.integer <;>
      simp [Numeral.sides, steps, refused?, PathSegment.Writable, WrittenStep.text, Numeral.start, whole,
        range, first]
  · have second : (WrittenStep.number false n.fraction whole n.fraction_digits).segment =
        .index (digitsValue n.fraction) := rfl
    by_cases range : IndexRange n.integer <;> by_cases later : IndexRange (digitsValue n.fraction) <;>
      simp [Numeral.sides, steps, refused?, PathSegment.Writable, WrittenStep.text, Numeral.start, whole,
        range, later, first, second]

/-- The reading of a path stops at the first step that is refused. -/
theorem readSteps_refuses {words : List StepWord} {step : WrittenStep}
    (refused : refused? (words.flatMap StepWord.steps) = some step) (path : Path) :
    ∃ rest, readSteps path (following .dot (fun word => [word.lexeme]) words) =
      .error ⟨.invalidIndex (String.ofList step.text), rest⟩ := by
  induction words generalizing path with
  | nil => cases refused
  | cons word words ih =>
    rw [List.flatMap_cons, refused?, List.find?_append, ← refused?, ← refused?] at refused
    have lexemes : following .dot (fun word => [word.lexeme]) (word :: words) =
        .dot :: word.lexeme :: following .dot (fun word => [word.lexeme]) words := rfl
    rw [lexemes]
    cases word with
    | name letters single =>
      rw [StepWord.name_accepted, Option.none_or] at refused
      exact ih refused { path with steps := path.steps ++ [.key (String.ofList letters)] }
    | number n plain =>
      have read := StepWord.readIndices_number plain
      cases found : refused? (StepWord.number n plain).steps with
      | none =>
        rw [found, Option.none_or] at refused
        simp only [found] at read
        rw [StepWord.lexeme, readSteps, String.toList_ofList]
        simp only [read]
        exact ih refused _
      | some first =>
        rw [found, Option.some_or, Option.some.injEq] at refused
        simp only [found, refused] at read
        rw [StepWord.lexeme, readSteps, String.toList_ofList]
        simp only [read]
        exact ⟨_, rfl⟩

/-! Lookups -/

section Lookups

variable {name : String} {steps : List WrittenStep}

/-- A lookup as it is written. -/
def lookupText (name : String) (steps : List WrittenStep) : String :=
  String.ofList (name.toList ++ writtenText steps)

theorem lookupText_lexemes (alone : Path.Writable ⟨name, []⟩) (steps : List WrittenStep) :
    ∃ words : List StepWord, words.flatMap StepWord.steps = steps ∧
      Lexeme.ofText (lookupText name steps).toList =
        .ok (.identifier name :: following .dot (fun word => [word.lexeme]) words) := by
  obtain ⟨words, same, lexed⟩ := steps_words steps
  refine ⟨words, same, ?_⟩
  have ends : ∀ c ∈ (writtenText steps).head?, Lexeme.continuesIdentifier c = false :=
    pointed_ends WrittenStep.text steps
  rw [lookupText, String.toList_ofList, Lexeme.ofText_name alone.name ends, lexed,
    String.ofList_toList]
  rfl

/-- A lookup is read unless one of its steps is refused. -/
theorem lookupText_reads (alone : Path.Writable ⟨name, []⟩) (steps : List WrittenStep) (span : Span) :
    Pipeline.ofText span (lookupText name steps) = match refused? steps with
      | none => .ok ⟨span, .lookup ⟨name, steps.map WrittenStep.segment⟩, []⟩
      | some step => .error (.invalidIndex (String.ofList step.text)) := by
  obtain ⟨words, rfl, lexed⟩ := lookupText_lexemes alone steps
  cases found : refused? (words.flatMap StepWord.steps) with
  | none =>
    obtain ⟨forms, lexemes, segments⟩ := words_forms words (refused?_none.mp found)
    refine Pipeline.ofText_iff.mpr ⟨⟨.lookup name forms alone.free alone.plain, []⟩, ?_, ?_⟩
    · rw [lexed, ← lexemes]
      simp [PipelineForm.lexemes, PrimaryForm.lexemes, following]
    · simp [PipelineForm.meaning, PrimaryForm.meaning, segments]
  | some step =>
    obtain ⟨rest, failed⟩ := readSteps_refuses found ⟨name, []⟩
    have unreserved : isReserved name = false := by simpa [isReserved] using alone.free
    simp only [Pipeline.ofText, readWhole, lexed, readPipeline, readPrimary,
      wordLiteral_none_iff.mpr alone.plain, unreserved, failed, Reading.map]
    rfl

/-- The characters of names and of numbers, and the points between them. -/
def isLookupChar (c : Char) : Bool := Lexeme.continuesIdentifier c || c = '-' || c = '.'

theorem isLookupChar_of_continues {c : Char} (continues : Lexeme.continuesIdentifier c) :
    isLookupChar c := by
  rw [isLookupChar, continues, Bool.true_or, Bool.true_or]

/-- None of them is a blank, ends a line, opens quotes or closes an output. -/
theorem isLookupChar_ordinary {c : Char} (inside : isLookupChar c) :
    ¬ Text.isBlank c ∧ '\n' ≠ c ∧ ¬ isQuote c ∧ c ≠ '\x7d' := by
  have apart : c ∉ [' ', '\t', '\r', '\n', '"', '\x27', '\x7d'] :=
    Lexeme.not_mem_of_all inside (by decide +kernel)
  simp only [List.mem_cons, List.not_mem_nil, or_false, not_or] at apart
  simp [Text.isBlank, isQuote, apart, eq_comm]

theorem Lexeme.isName_chars {letters : List Char} (single : isName letters) :
    ∀ c ∈ letters, continuesIdentifier c := by
  cases letters with
  | nil => nofun
  | cons c rest =>
    rw [isName, Bool.and_eq_true] at single
    refine List.forall_mem_cons.mpr ⟨?_, List.all_eq_true.mp single.2⟩
    rw [continuesIdentifier, single.1, Bool.true_or]

theorem WrittenStep.text_chars (step : WrittenStep) : ∀ c ∈ step.text, isLookupChar c := by
  intro c member
  cases step with
  | name letters single => exact isLookupChar_of_continues (Lexeme.isName_chars single c member)
  | number negative digits nonempty decimal =>
    have digit : c ∈ digits → isLookupChar c := fun member =>
      isLookupChar_of_continues (by rw [Lexeme.continuesIdentifier, decimal c member, Bool.or_true])
    cases negative with
    | false => exact digit member
    | true => exact (List.mem_cons.mp member).elim (fun sign => sign ▸ rfl) digit

theorem lookupText_chars (alone : Path.Writable ⟨name, []⟩) (steps : List WrittenStep) :
    ∀ c ∈ (lookupText name steps).toList, isLookupChar c := by
  intro c member
  rw [lookupText, String.toList_ofList, List.mem_append] at member
  rcases member with first | later
  · exact isLookupChar_of_continues (Lexeme.isName_chars alone.name c first)
  · obtain ⟨step, -, inside⟩ := List.mem_flatMap.mp later
    rcases List.mem_cons.mp inside with rfl | inside
    · rfl
    · exact step.text_chars c inside

theorem lookupText_nonempty (alone : Path.Writable ⟨name, []⟩) (steps : List WrittenStep) :
    lookupText name steps ≠ "" := by
  intro empty
  have letters : name.toList ++ writtenText steps = [] := by
    simpa [lookupText] using congrArg String.toList empty
  have named := alone.name
  rw [(List.append_eq_nil_iff.mp letters).1] at named
  cases named

/-- An output of a lookup is a single token whose contents are the lookup. -/
theorem tokenize_lookup (alone : Path.Writable ⟨name, []⟩) (steps : List WrittenStep) :
    ∃ span, tokenize (outputText (lookupText name steps)) =
      [⟨.output, lookupText name steps, span⟩] := by
  have ordinary := fun c member => isLookupChar_ordinary (lookupText_chars alone steps c member)
  refine tokenize_line ⟨fun c first => ?_, fun c last => ?_⟩ (fun line => (ordinary _ line).2.1 rfl)
    fun c member => (ordinary c member).2.2
  · exact (ordinary c (List.mem_of_head? first)).1
  · exact (ordinary c (List.mem_of_getLast? last)).1

/-- An output of a lookup with a step that is refused does not compile. -/
theorem output_refused (alone : Path.Writable ⟨name, []⟩) {step : WrittenStep}
    (refused : refused? steps = some step) (env : Environment) (template : String) :
    ∃ span, env.template template (outputText (lookupText name steps)) =
      .error ((Error.spanned (.invalidIndex (String.ofList step.text)) span).inTemplate template) := by
  obtain ⟨span, tokens⟩ := tokenize_lookup alone steps
  have failed := lookupText_reads alone steps span
  rw [refused] at failed
  exact ⟨span, ofSource_output_fault tokens (lookupText_nonempty alone steps) failed⟩

/-- An output of a lookup gives the text of the value that the lookup has in the data. -/
theorem output_found (alone : Path.Writable ⟨name, []⟩) (accepted : refused? steps = none)
    (other : (⟨name, steps.map WrittenStep.segment⟩ : Path) ∉ [⟨"super", []⟩, ⟨"block", [.key "super"]⟩])
    {env : Environment} (room : 1 ≤ env.options.maxDepth) (template : String) :
    ∃ t, env.template template (outputText (lookupText name steps)) = .ok t ∧
      ∀ data value bound,
        (Scopes.ofData data).resolve ⟨name, steps.map WrittenStep.segment⟩ = some value →
        env.render (bound + 1) t data =
          .ok (if env.options.autoescape then env.escape value.text else value.text) := by
  obtain ⟨span, tokens⟩ := tokenize_lookup alone steps
  have read := lookupText_reads alone steps span
  rw [accepted] at read
  let p : Pipeline := ⟨span, .lookup ⟨name, steps.map WrittenStep.segment⟩, []⟩
  have plain : p.isSuper = false := by simpa [p, Pipeline.isSuper] using other
  refine ⟨_, ofSource_output tokens (lookupText_nonempty alone steps) read, fun data value bound found => ?_⟩
  have evaluated : env.evalPipeline (Scopes.ofData data) p = .ok value := by
    simp [p, Environment.evalPipeline, Environment.evalPipelineWith, Environment.evalExpr, found,
      Environment.applyFilters, bind, Except.bind]
  rw [render_output rfl rfl plain room evaluated bound]
  simp [Render.escaped, p]

end Lookups

/-- A lookup goes on from the member of an object that its first step finds. -/
theorem resolve_member {scopes : Scopes} {name : String} {members : Members}
    (bound : scopes.lookup name = some (.object members)) (step : WrittenStep) (later : List WrittenStep) :
    scopes.resolve ⟨name, (step :: later).map WrittenStep.segment⟩ =
      (Table.get? members (String.ofList step.key)).bind (·.follow (later.map WrittenStep.segment)) := by
  rw [Scopes.resolve, bound, List.map_cons, Option.bind_some, Value.follow, Value.step, step.segment_key]

/-- Members of objects are found under their keys. A lookup of a member, with any steps behind it, is
read as a pipeline and compiles as an output, unless one of its numbers is beyond 64 bits, and then the
first such number is refused. The lookup goes on from the member under the key of its step, which is
the key as it is written unless it is a number with zeros in front of it or a sign in front of zero.
An output that stands for inherited content is no lookup. -/
theorem member_found {name : String} (alone : Path.Writable ⟨name, []⟩) (step : WrittenStep)
    (later : List WrittenStep) :
    let steps := step :: later
    let path : Path := ⟨name, steps.map WrittenStep.segment⟩
    let member (members : Members) : Option Value :=
      (Table.get? members (String.ofList step.key)).bind (·.follow (later.map WrittenStep.segment))
    (∀ span, Pipeline.ofText span (lookupText name steps) = match refused? steps with
      | none => .ok ⟨span, .lookup path, []⟩
      | some refused => .error (.invalidIndex (String.ofList refused.text))) ∧
    (∀ (scopes : Scopes) (members : Members), scopes.lookup name = some (.object members) →
      scopes.resolve path = member members) ∧
    (step.key = step.text ↔ step.Plain) ∧
    ∀ (env : Environment) (template : String),
      (∀ refused, refused? steps = some refused →
        ∃ span, env.template template (outputText (lookupText name steps)) =
          .error ((Error.spanned (.invalidIndex (String.ofList refused.text)) span).inTemplate template)) ∧
      (refused? steps = none → path ≠ ⟨"block", [.key "super"]⟩ → 1 ≤ env.options.maxDepth →
        ∃ t, env.template template (outputText (lookupText name steps)) = .ok t ∧
          ∀ data members value bound, Table.get? data name = some (.object members) →
            member members = some value →
            env.render (bound + 1) t (.object data) =
              .ok (if env.options.autoescape then env.escape value.text else value.text)) := by
  intro steps path member
  refine ⟨lookupText_reads alone steps, fun scopes members bound => resolve_member bound step later,
    step.key_eq_iff, fun env template => ⟨fun refused => ?_, fun accepted other room => ?_⟩⟩
  · exact fun found => output_refused alone found env template
  · have apart : path ∉ [⟨"super", []⟩, ⟨"block", [.key "super"]⟩] := by
      simpa [path, steps] using other
    obtain ⟨t, compiled, gives⟩ := output_found alone accepted apart room template
    refine ⟨t, compiled, fun data members value bound object found => gives _ _ _ ?_⟩
    have inside : (Scopes.ofData (.object data)).lookup name = some (.object members) := object
    exact (resolve_member inside step later).trans found

/-- A member under a number, behind a name and before a number that the lexemes take for one with it. -/
theorem member_found_numbers :
    let step : WrittenStep := .name "in".toList (by decide +kernel)
    let later : List WrittenStep := [.number false "7".toList (by decide) (List.all_eq_true.mp (by decide)),
      .number false "12".toList (by decide) (List.all_eq_true.mp (by decide))]
    let data : Members := .ofList [("x", .object (Table.ofList [("in", .object (Table.ofList
      [("7", .object (Table.ofList [("12", .string "<found>")]))]))]))]
    Path.Writable ⟨"x", []⟩ ∧ lookupText "x" (step :: later) = "x.in.7.12" ∧
      refused? (step :: later) = none ∧
      Lexeme.ofText "x.in.7.12".toList =
        .ok [.identifier "x", .dot, .identifier "in", .dot, .number "7.12"] ∧
      ∃ t, Environment.builtin.template "page" (outputText (lookupText "x" (step :: later))) = .ok t ∧
        Environment.builtin.render 1 t (.object data) = .ok "&lt;found&gt;" := by
  intro step later data
  have alone : Path.Writable ⟨"x", []⟩ :=
    ⟨by decide +kernel, by decide, by decide, List.forall_mem_nil _⟩
  have accepted : refused? (step :: later) = none := by decide +kernel
  obtain ⟨t, compiled, gives⟩ := ((member_found alone step later).2.2.2
    Environment.builtin "page").2 accepted (by decide +kernel) (by decide)
  refine ⟨alone, by decide +kernel, accepted, by decide +kernel, t, compiled, ?_⟩
  rw [gives data _ (.string "<found>") 0 rfl rfl]
  rfl

/-- Zeros in front of a number do not count: the member under the key that is written is passed by. A
number of more than 64 bits is refused, whatever the members are. -/
theorem zeros_pass_member_by :
    let members : Members := .ofList [("01", .string "zero-one"), ("1", .string "one"),
      ("9223372036854775808", .string "wide")]
    let scopes : Scopes := ⟨[], .ofList [("x", .object members)]⟩
    Table.get? members "01" = some (.string "zero-one") ∧
      Pipeline.ofText {} "x.01" = .ok ⟨{}, .lookup ⟨"x", [.index 1]⟩, []⟩ ∧
      scopes.resolve ⟨"x", [.index 1]⟩ = some (.string "one") ∧
      Table.get? members "9223372036854775808" = some (.string "wide") ∧
      Pipeline.ofText {} "x.9223372036854775808" = .error (.invalidIndex "9223372036854775808") := by
  have alone : Path.Writable ⟨"x", []⟩ :=
    ⟨by decide +kernel, by decide, by decide, List.forall_mem_nil _⟩
  let zeros : WrittenStep := .number false "01".toList (by decide) (List.all_eq_true.mp (by decide))
  let wide : WrittenStep :=
    .number false "9223372036854775808".toList (by decide) (List.all_eq_true.mp (by decide))
  refine ⟨rfl, ?_, rfl, rfl, ?_⟩
  · have read := lookupText_reads alone [zeros] {}
    have accepted : refused? [zeros] = none := by decide +kernel
    have text : lookupText "x" [zeros] = "x.01" := by decide +kernel
    have index : [zeros].map WrittenStep.segment = [.index 1] := by decide +kernel
    rw [accepted, text, index] at read
    exact read
  · have read := lookupText_reads alone [wide] {}
    have refused : refused? [wide] = some wide := List.find?_cons_of_pos (by decide +kernel)
    have text : lookupText "x" [wide] = "x.9223372036854775808" := by decide +kernel
    have digits : String.ofList wide.text = "9223372036854775808" := by decide +kernel
    rw [refused, text] at read
    simp only [digits] at read
    exact read

end TextTemplate
