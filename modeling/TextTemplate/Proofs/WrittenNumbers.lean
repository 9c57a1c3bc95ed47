import TextTemplate.Expr.Parse
import TextTemplate.Proofs.Folding
import TextTemplate.Proofs.NumberText

/-! Numbers in expressions. The number lexemes of a text are numerals without a power of ten, and what
such a lexeme stands for is said of the numeral: a literal without a fraction is an integer, which
has to be one of 64 bits, and a literal with a fraction is the double that its value rounds to,
which has to be finite. After a dot the two sides of the point are indices of their own. -/
namespace TextTemplate

/-- The integers that may be indices, those of 64 bits with a sign. -/
def IndexRange (i : Int) : Prop := -2 ^ 63 ≤ i ∧ i < 2 ^ 63

instance (i : Int) : Decidable (IndexRange i) := inferInstanceAs (Decidable (_ ∧ _))

/-- Parts that are read as indices, each if it is in range, are read as all of them if all are, and
otherwise the first that is not is refused. -/
theorem readIndices_parts {parts : List (List Char × Int)}
    (each : ∀ part ∈ parts, readIndex? part.1 = if IndexRange part.2 then some part.2 else none) :
    readIndices (parts.map Prod.fst) = match parts.find? fun part => ¬ IndexRange part.2 with
      | none => .ok (parts.map fun part => .index part.2)
      | some refused => .error refused.1 := by
  induction parts with
  | nil => rfl
  | cons part rest ih =>
    have first := each part List.mem_cons_self
    have ih := ih fun other member => each other (List.mem_cons_of_mem part member)
    rw [List.map_cons, readIndices, first]
    by_cases range : IndexRange part.2
    · rw [if_pos range, List.find?_cons_of_neg (by simpa using range), List.map_cons]
      simp only [ih]
      split <;> rfl
    · rw [if_neg range, List.find?_cons_of_pos (by simpa using range)]

namespace Numeral

/-- The integer before the point. -/
def integer (n : Numeral) : Int :=
  if n.negative then -(digitsValue n.whole : Int) else digitsValue n.whole

theorem ofInt_integer (i : Int) : (ofInt i).integer = i := by
  simp only [integer, ofInt, decimal, digitsValue_toDigits, decide_eq_true_eq]
  split <;> omega

/-- The numbers that the two sides of the point are. -/
def indices (n : Numeral) : List Int :=
  n.integer :: if n.fraction = [] then [] else [(digitsValue n.fraction : Int)]

/-- The number that a numeral is as a literal. -/
inductive Denotes (n : Numeral) : Number → Prop where
  | integer (whole : n.fraction = []) (range : Number.inRange n.integer) :
      Denotes n (.integer n.integer)
  | double (pointed : n.fraction ≠ []) (rounds : Binary64.Rounds n.negative n.value (.finite d)) :
      Denotes n (.double d)

theorem decimal_text {negative : Bool} {whole fraction : List Char} (nonempty : whole ≠ [])
    (before : ∀ c ∈ whole, c.isDigit = true) (after : ∀ c ∈ fraction, c.isDigit = true) :
    (decimal negative whole fraction nonempty before after).text =
      (if negative then '-' :: whole else whole) ++ pointText fraction := by
  unfold text unsigned
  cases negative <;> simp [decimal, powerText]

theorem decimal_value {negative : Bool} {whole : List Char} (nonempty : whole ≠ [])
    (before : ∀ c ∈ whole, c.isDigit = true) (after : ∀ c ∈ ([] : List Char), c.isDigit = true) :
    (decimal negative whole [] nonempty before after).value = digitsValue whole := by
  simp [decimal, value, powerValue]

variable {n : Numeral}

theorem text_plain (plain : n.power = none) : n.text = n.start ++ pointText n.fraction := by
  rw [text_eq, plain, powerText, List.append_nil]

theorem whole_cons (n : Numeral) : ∃ c rest, n.whole = c :: rest ∧ c ≠ '-' := by
  obtain ⟨c, rest, first⟩ := List.exists_cons_of_ne_nil n.whole_nonempty
  exact ⟨c, rest, first, digit_ne (n.whole_digits c (by simp [first])) (by decide)⟩

/-- The literal reader finds the number of a numeral, and finds none if the numeral is none. -/
theorem readLiteral_iff (plain : n.power = none) {number : Number} :
    Number.readLiteral? n.text = some number ↔ n.Denotes number := by
  by_cases whole : n.fraction = []
  · have bare : '.' ∉ n.text := by simp [point_mem_iff, whole]
    have read : Number.readInteger? n.text =
        if Number.inRange n.integer then some (.integer n.integer) else none := by
      obtain ⟨c, rest, first, unsigned⟩ := n.whole_cons
      rw [text_plain plain, whole, pointText, if_pos rfl, List.append_nil]
      unfold Number.readInteger? integer start
      cases n.negative with
      | true => rfl
      | false => simp [first, unsigned]
    unfold Number.readLiteral?
    rw [if_neg (by simpa using bare), read]
    constructor
    · intro found
      split at found
      · rename_i range
        cases found
        exact .integer whole range
      · cases found
    · intro denotes
      cases denotes with
      | integer _ range => rw [if_pos range]
      | double pointed => exact absurd whole pointed
  · have pointed : n.text.contains '.' = true := by simp [point_mem_iff, whole]
    obtain ⟨b, read, rounds⟩ := n.read_rounds
    unfold Number.readLiteral?
    rw [if_pos pointed, read]
    constructor
    · intro found
      cases b with
      | finite d =>
        cases found
        exact .double whole rounds
      | infinite | nan => cases found
    · intro denotes
      cases denotes with
      | integer nothing => exact absurd nothing whole
      | double _ rounds' => rw [rounds.unique rounds']

/-- Digits, and perhaps a sign, are read as an index if they are one. -/
theorem readIndex_digits {cs : List Char} (digits : ∀ c ∈ cs, c.isDigit = true) (nonempty : cs ≠ [])
    (negative : Bool) {i : Int}
    (value : i = if negative then -(digitsValue cs : Int) else digitsValue cs) :
    readIndex? (if negative then '-' :: cs else cs) = if IndexRange i then some i else none := by
  have all : cs.all Char.isDigit = true := List.all_eq_true.mpr digits
  obtain ⟨c, rest, rfl⟩ := List.exists_cons_of_ne_nil nonempty
  have unsigned : c ≠ '-' := digit_ne (digits c List.mem_cons_self) (by decide)
  subst value
  unfold readIndex? IndexRange
  cases negative with
  | true => simp [all]
  | false => simp [all, unsigned]

/-- The two sides of the point, and the numbers that they are. -/
def sides (n : Numeral) : List (List Char × Int) :=
  (n.start, n.integer) :: if n.fraction = [] then [] else [(n.fraction, (digitsValue n.fraction : Int))]

theorem sides_indices (n : Numeral) : n.sides.map Prod.snd = n.indices := by
  unfold sides indices
  split <;> rfl

/-- A numeral is cut at its point into its sides. -/
theorem splitAtChar_text (plain : n.power = none) :
    Text.splitAtChar '.' n.text = n.sides.map Prod.fst := by
  have before : '.' ∉ n.start := start_ordinary (by decide) (by decide)
  rw [text_plain plain, sides]
  by_cases whole : n.fraction = []
  · rw [whole, pointText, if_pos rfl, List.append_nil, Text.splitAtChar_single before, if_pos rfl]
    rfl
  · have after : '.' ∉ n.fraction := fraction_ordinary (by decide)
    rw [pointText, if_neg whole, Text.splitAtChar_several before, Text.splitAtChar_single after,
      if_neg whole]
    rfl

theorem readIndex_sides (n : Numeral) : ∀ side ∈ n.sides,
    readIndex? side.1 = if IndexRange side.2 then some side.2 else none := by
  have first : readIndex? n.start = if IndexRange n.integer then some n.integer else none :=
    readIndex_digits n.whole_digits n.whole_nonempty n.negative rfl
  by_cases whole : n.fraction = []
  · simpa [sides, whole] using first
  · have second := readIndex_digits n.fraction_digits whole false rfl
    simpa [sides, whole] using ⟨first, second⟩

/-- The index reader finds the indices of a numeral if all of them are in range. -/
theorem readIndices_iff (plain : n.power = none) {steps : List PathSegment} :
    readIndices (Text.splitAtChar '.' n.text) = .ok steps ↔
      (∀ i ∈ n.indices, IndexRange i) ∧ n.indices.map .index = steps := by
  rw [splitAtChar_text plain, readIndices_parts n.readIndex_sides, ← sides_indices, List.map_map]
  cases found : n.sides.find? fun side => ¬ IndexRange side.2 with
  | none =>
    have range : ∀ i ∈ n.sides.map Prod.snd, IndexRange i := List.forall_mem_map.mpr fun side member =>
      of_not_not (by simpa using List.find?_eq_none.mp found side member)
    simp only [Except.ok.injEq]
    exact (and_iff_right range).symm
  | some refused =>
    have outside : ¬ IndexRange refused.2 := by simpa using List.find?_some found
    have member := List.mem_map_of_mem (f := Prod.snd) (List.mem_of_find?_eq_some found)
    exact iff_of_false nofun fun range => outside (range.1 _ member)

end Numeral

/-- A text writes a number as a literal. -/
def Number.WrittenAs (number : Number) (text : String) : Prop :=
  ∃ n : Numeral, n.power = none ∧ text.toList = n.text ∧ n.Denotes number

/-- A text writes indices that follow each other. -/
def IndicesWrittenAs (indices : List Int) (text : String) : Prop :=
  ∃ n : Numeral, n.power = none ∧ text.toList = n.text ∧ n.indices = indices ∧
    ∀ i ∈ indices, IndexRange i

/-- A lexeme that the text of an expression may hold: if it is a number, it is a numeral without a power
of ten. -/
def Lexeme.Spelled : Lexeme → Prop
  | .number text => ∃ n : Numeral, n.power = none ∧ text.toList = n.text
  | _ => True

variable {text : String}

theorem Number.WrittenAs.read {number : Number} (written : number.WrittenAs text) :
    readLiteral? text.toList = some number := by
  obtain ⟨n, plain, same, denotes⟩ := written
  rw [same]
  exact (Numeral.readLiteral_iff plain).mpr denotes

theorem Number.writtenAs_of_read {number : Number} (spelled : (Lexeme.number text).Spelled)
    (read : readLiteral? text.toList = some number) : number.WrittenAs text := by
  obtain ⟨n, plain, same⟩ := spelled
  rw [same] at read
  exact ⟨n, plain, same, (Numeral.readLiteral_iff plain).mp read⟩

theorem IndicesWrittenAs.read {indices : List Int} (written : IndicesWrittenAs indices text) :
    readIndices (Text.splitAtChar '.' text.toList) = .ok (indices.map .index) := by
  obtain ⟨n, plain, same, rfl, range⟩ := written
  rw [same]
  exact (Numeral.readIndices_iff plain).mpr ⟨range, rfl⟩

theorem indicesWrittenAs_of_read {steps : List PathSegment} (spelled : (Lexeme.number text).Spelled)
    (read : readIndices (Text.splitAtChar '.' text.toList) = .ok steps) :
    ∃ indices, IndicesWrittenAs indices text ∧ indices.map .index = steps := by
  obtain ⟨n, plain, same⟩ := spelled
  rw [same] at read
  obtain ⟨range, steps⟩ := (Numeral.readIndices_iff plain).mp read
  exact ⟨n.indices, ⟨n, plain, same, rfl, range⟩, steps⟩

/-- A text writes one number at most. -/
theorem Number.WrittenAs.unique {first second : Number} (one : first.WrittenAs text)
    (other : second.WrittenAs text) : first = second :=
  Option.some.inj (one.read.symm.trans other.read)

/-- A text writes one list of indices at most. -/
theorem IndicesWrittenAs.unique {first second : List Int} (one : IndicesWrittenAs first text)
    (other : IndicesWrittenAs second text) : first = second := by
  have same := Except.ok.inj (one.read.symm.trans other.read)
  exact List.map_injective_iff.mpr (fun _ _ => PathSegment.index.inj) same

/-! The number lexemes of a text -/

namespace Lexeme

theorem splitNumber_digits (cs : List Char) : ∀ c ∈ (splitNumber true cs).1, c.isDigit = true := by
  induction cs with
  | nil => nofun
  | cons c rest ih =>
    rw [splitNumber]
    by_cases digit : c.isDigit = true
    · simpa [digit] using ih
    · simp [digit]

/-- What is taken for a number are digits, and perhaps a point with digits behind it. -/
theorem splitNumber_parts (cs : List Char) : ∃ whole fraction,
    (splitNumber false cs).1 = whole ++ Numeral.pointText fraction ∧
      (∀ c ∈ whole, c.isDigit = true) ∧ ∀ c ∈ fraction, c.isDigit = true := by
  induction cs with
  | nil => exact ⟨[], [], rfl, nofun, nofun⟩
  | cons c rest ih =>
    rw [splitNumber]
    by_cases digit : c.isDigit = true
    · obtain ⟨whole, fraction, parts, before, after⟩ := ih
      refine ⟨c :: whole, fraction, by simp [digit, parts], ?_, after⟩
      exact List.forall_mem_cons.mpr ⟨digit, before⟩
    · rw [if_neg digit]
      split
      · rename_i point
        obtain ⟨rfl, next⟩ : c = '.' ∧ rest.head?.any Char.isDigit = true := by simpa using point
        refine ⟨[], (splitNumber true rest).1, ?_, nofun, splitNumber_digits rest⟩
        have some : (splitNumber true rest).1 ≠ [] := by
          cases rest with
          | nil => cases next
          | cons d rest =>
            rw [splitNumber, if_pos (by simpa using next)]
            exact List.cons_ne_nil _ _
        simp [Numeral.pointText, some]
      · exact ⟨[], [], rfl, nofun, nofun⟩

theorem numberFrom_spelled {c : Char} {rest : List Char}
    (starts : c.isDigit = true ∨ c = '-' ∧ rest.head?.any Char.isDigit = true) :
    (numberFrom c rest).1.Spelled := by
  obtain ⟨whole, fraction, parts, before, after⟩ := splitNumber_parts rest
  rcases starts with digit | ⟨rfl, next⟩
  · have digits : ∀ d ∈ c :: whole, d.isDigit = true := List.forall_mem_cons.mpr ⟨digit, before⟩
    exact ⟨.decimal false _ fraction (List.cons_ne_nil _ _) digits after, rfl, by
      simp [Numeral.decimal_text, parts]⟩
  · have some : whole ≠ [] := by
      rintro rfl
      cases rest with
      | nil => cases next
      | cons d rest =>
        have digit : d.isDigit = true := by simpa using next
        have point : d ≠ '.' := digit_ne digit (by decide)
        rw [splitNumber, if_pos digit, List.nil_append] at parts
        by_cases nothing : fraction = []
        · simp [Numeral.pointText, nothing] at parts
        · simp [Numeral.pointText, nothing, point] at parts
    exact ⟨.decimal true whole fraction some before after, rfl, by simp [Numeral.decimal_text, parts]⟩

/-- A lexeme that is read is spelled as it may be. -/
def Spells (read : Except Fault (Lexeme × List Char)) : Prop :=
  ∀ l after, read = .ok (l, after) → l.Spelled

theorem spells_ok {read : Lexeme × List Char} (spelled : read.1.Spelled) : Spells (.ok read) := by
  rintro l after ⟨rfl⟩
  exact spelled

theorem next_spelled (c : Char) (rest : List Char) : Spells (next c rest) := by
  apply next_cases
  case bare =>
    intro l member
    simp only [List.mem_cons, List.not_mem_nil, or_false] at member
    rcases member with rfl | rfl | rfl | rfl | rfl <;> exact spells_ok trivial
  case equals =>
    intro op fault _
    unfold withEquals
    split
    · exact spells_ok trivial
    · nofun
  case relation =>
    intro alone orEqual
    unfold relational
    split <;> exact spells_ok trivial
  case string =>
    intro _
    unfold stringAfter
    split
    · exact spells_ok trivial
    · nofun
  case number => exact fun starts => spells_ok (numberFrom_spelled starts)
  case word => exact fun _ => spells_ok trivial
  case unexpected => nofun

/-- The numbers among the lexemes of a text are spelled as numerals. -/
theorem ofText_spelled {cs : List Char} {ls : List Lexeme} (read : ofText cs = .ok ls) :
    ∀ l ∈ ls, l.Spelled := ofText_all next_spelled read

end Lexeme

end TextTemplate
