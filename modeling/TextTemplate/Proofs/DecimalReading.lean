import Mathlib.Data.Nat.Digits.Lemmas
import Mathlib.Data.List.DropRight
import TextTemplate.Number.Text
import TextTemplate.Proofs.Rounding

/-! Reading decimals. A numeral is a sign, digits on both sides of a point, and a power of ten that is
written after them. Whatever numeral a text consists of, it is read as the double that the value of the
numeral rounds to. Decimals that are far too great or too small for a double are recognised by their
length, and rounding them would have given the same. -/
namespace TextTemplate

/-- The natural number that decimal digits stand for, the first of the highest weight. -/
def weigh (digits : List Nat) : Nat := digits.foldl (fun n d => 10 * n + d) 0

/-- Digits that are added behind a number move it up by their count and stay below its next unit. -/
theorem weigh_from {digits : List Nat} (decimal : ∀ d ∈ digits, d < 10) (start : Nat) :
    start * 10 ^ digits.length ≤ digits.foldl (fun n d => 10 * n + d) start ∧
      digits.foldl (fun n d => 10 * n + d) start < (start + 1) * 10 ^ digits.length := by
  induction digits generalizing start with
  | nil => simp
  | cons d digits ih =>
    obtain ⟨least, most⟩ := ih (fun e member => decimal e (.tail d member)) (10 * start + d)
    have small : d < 10 := decimal d (.head digits)
    rw [List.foldl_cons, List.length_cons, pow_succ]
    constructor
    · calc start * (10 ^ digits.length * 10) = 10 * start * 10 ^ digits.length := by ring
        _ ≤ (10 * start + d) * 10 ^ digits.length := Nat.mul_le_mul_right _ (Nat.le_add_right _ _)
        _ ≤ _ := least
    · calc _ < (10 * start + d + 1) * 10 ^ digits.length := most
        _ ≤ (10 * (start + 1)) * 10 ^ digits.length := Nat.mul_le_mul_right _ (by omega)
        _ = (start + 1) * (10 ^ digits.length * 10) := by ring

theorem weigh_dropWhile (digits : List Nat) : weigh (digits.dropWhile (· = 0)) = weigh digits := by
  induction digits with
  | nil => rfl
  | cons d digits ih =>
    by_cases zero : d = 0
    · rw [List.dropWhile_cons_of_pos (by simpa using zero), ih, zero]
      rfl
    · rw [List.dropWhile_cons_of_neg (by simpa using zero)]

theorem weigh_bounds {d : Nat} {rest : List Nat} (decimal : ∀ e ∈ d :: rest, e < 10) (nonzero : d ≠ 0) :
    10 ^ rest.length ≤ weigh (d :: rest) ∧ weigh (d :: rest) < 10 ^ (rest.length + 1) := by
  obtain ⟨least, most⟩ := weigh_from (fun e member => decimal e (.tail d member)) d
  have value : weigh (d :: rest) = rest.foldl (fun n d => 10 * n + d) d := by simp [weigh]
  have first : 1 ≤ d := Nat.one_le_iff_ne_zero.mpr nonzero
  have last : d + 1 ≤ 10 := decimal d (.head rest)
  rw [value]
  constructor
  · exact (Nat.le_mul_of_pos_left _ first).trans least
  · rw [pow_succ, mul_comm]
    exact most.trans_le (Nat.mul_le_mul_right _ last)

namespace Binary64

variable {negative : Bool} {x : ℚ}

theorem two_le_ten : (2 : ℚ) ^ (1200 : Int) ≤ 10 ^ (400 : Int) := by
  calc (2 : ℚ) ^ (1200 : Int) = (2 ^ (3 : Int)) ^ (400 : Int) := by rw [← zpow_mul]; rfl
    _ ≤ 10 ^ (400 : Int) := zpow_le_zpow_left₀ (by norm_num) (by norm_num) (by norm_num)

theorem rounds_beyond (large : (10 : ℚ) ^ (400 : Int) ≤ x) : Rounds negative x (.infinite negative) := by
  refine ⟨rfl, ?_⟩
  calc Double.overflow ≤ 2 ^ (53 : Int) * Double.topStep := by
        refine mul_le_mul_of_nonneg_right ?_ Double.topStep_pos.le
        norm_num
    _ = 2 ^ (1024 : Int) := by
      rw [Double.topStep, ← zpow_add₀ two_ne_zero]
      rfl
    _ ≤ 2 ^ (1200 : Int) := zpow_le_zpow_right₀ one_le_two (by norm_num)
    _ ≤ 10 ^ (400 : Int) := two_le_ten
    _ ≤ x := large

theorem rounds_below (nonneg : 0 ≤ x) (small : x ≤ (10 : ℚ) ^ (-400 : Int)) :
    Rounds negative x (.finite (Double.zero negative)) := by
  refine ⟨rfl, ?_⟩
  have nothing : (Double.zero negative).magnitude = 0 := by simp [Double.magnitude, Double.zero]
  have half : (2 : ℚ) ^ (-1075 : Int) = (Double.zero negative).step / 2 := by
    have step : (Double.zero negative).step = 2 ^ (-1075 + 1 : Int) := rfl
    rw [step, zpow_add_one₀ two_ne_zero]
    ring
  have power : (10 : ℚ) ^ (-400 : Int) ≤ 2 ^ (-1075 : Int) := by
    calc (10 : ℚ) ^ (-400 : Int) = (10 ^ (400 : Int))⁻¹ := zpow_neg _ _
      _ ≤ (2 ^ (1200 : Int))⁻¹ := inv_anti₀ (by positivity) two_le_ten
      _ = 2 ^ (-1200 : Int) := (zpow_neg _ _).symm
      _ ≤ 2 ^ (-1075 : Int) := zpow_le_zpow_right₀ one_le_two (by norm_num)
  constructor
  · unfold Double.low
    linarith only [(Double.zero negative).stepDown_pos, nonneg, nothing]
  · rw [Double.high, nothing, zero_add, ← half]
    exact small.trans power
  · exact fun odd => absurd odd (by simp [Double.zero])

theorem scaled_rounds (value : Nat) (exponent : Int) :
    (if 0 ≤ exponent then ofRatio negative (value * Nat.pow 10 exponent.toNat) 1
    else ofRatio negative value (Nat.pow 10 (-exponent).toNat)).Rounds negative (value * 10 ^ exponent) := by
  by_cases up : 0 ≤ exponent
  · obtain ⟨k, rfl⟩ := Int.eq_ofNat_of_zero_le up
    rw [if_pos up, Int.toNat_natCast, zpow_natCast]
    simpa using ofRatio_rounds (value * 10 ^ k) negative one_pos
  · obtain ⟨k, same⟩ : ∃ k : Nat, -exponent = k := Int.eq_ofNat_of_zero_le (by omega)
    have down : exponent = -(k : Int) := by omega
    rw [if_neg up, same, Int.toNat_natCast, down, zpow_neg, zpow_natCast, ← div_eq_mul_inv]
    simpa using ofRatio_rounds value negative (pow_pos (by norm_num : 0 < 10) k)

variable (negative) in
/-- A decimal is read as the double that its value rounds to. -/
theorem ofDecimal_rounds {digits : List Nat} (decimal : ∀ d ∈ digits, d < 10) (exponent : Int) :
    (ofDecimal negative digits exponent).Rounds negative (weigh digits * 10 ^ exponent) := by
  have still : ∀ d ∈ digits.dropWhile (· = 0), d < 10 := fun d member =>
    decimal d ((List.dropWhile_sublist _).mem member)
  have leads : ∀ d rest, digits.dropWhile (· = 0) = d :: rest → d ≠ 0 := fun d rest same zero => by
    have := List.head?_dropWhile_not (fun d : Nat => decide (d = 0)) digits
    simp [same, zero] at this
  rw [← weigh_dropWhile digits]
  unfold ofDecimal
  simp only
  change (if weigh (digits.dropWhile (· = 0)) = 0 then _ else _ : Binary64).Rounds _ _
  generalize digits.dropWhile (· = 0) = significant at *
  by_cases nothing : weigh significant = 0
  · rw [if_pos nothing, nothing, Nat.cast_zero, zero_mul]
    exact rounds_zero negative
  · rw [if_neg nothing]
    cases significant with
    | nil => exact absurd rfl nothing
    | cons d rest =>
      obtain ⟨least, most⟩ := weigh_bounds still (leads d rest rfl)
      have power : (0 : ℚ) < 10 ^ exponent := by positivity
      have least : (10 : ℚ) ^ ((rest.length : Int) + exponent) ≤ weigh (d :: rest) * 10 ^ exponent := by
        rw [zpow_add₀ (by norm_num), zpow_natCast]
        exact mul_le_mul_of_nonneg_right (by exact_mod_cast least) power.le
      have most : (weigh (d :: rest) : ℚ) * 10 ^ exponent <
          10 ^ (((rest.length + 1 : Nat) : Int) + exponent) := by
        rw [zpow_add₀ (by norm_num), zpow_natCast]
        exact mul_lt_mul_of_pos_right (by exact_mod_cast most) power
      rw [List.length_cons]
      by_cases large : decimalReach < exponent + (rest.length + 1 : Nat)
      · rw [if_pos large]
        unfold decimalReach at large
        apply rounds_beyond
        exact (zpow_le_zpow_right₀ (by norm_num) (by omega)).trans least
      · rw [if_neg large]
        by_cases small : exponent + (rest.length + 1 : Nat) < -decimalReach
        · rw [if_pos small]
          unfold decimalReach at small
          apply rounds_below (by positivity)
          exact most.le.trans (zpow_le_zpow_right₀ (by norm_num) (by omega))
        · rw [if_neg small]
          exact scaled_rounds (weigh (d :: rest)) exponent

end Binary64

/-! Numerals -/

theorem digit_ne {c e : Char} (digit : c.isDigit = true) (other : e.isDigit = false) : c ≠ e := by
  rintro rfl
  rw [digit] at other
  cases other

theorem digit_toLower {c : Char} (digit : c.isDigit = true) : c.toLower = c := by
  simp only [Char.isDigit, Bool.and_eq_true, decide_eq_true_eq] at digit
  have last : c.val.toNat ≤ 57 := digit.2
  have low : ¬65 ≤ c.val := fun upper => by
    have : 65 ≤ c.val.toNat := upper
    omega
  unfold Char.toLower
  rw [dif_neg fun both => low both.1]

theorem digitValue_lt {c : Char} (digit : c.isDigit = true) : digitValue c < 10 := by
  simp only [Char.isDigit, Bool.and_eq_true, decide_eq_true_eq] at digit
  have last : c.toNat ≤ 57 := digit.2
  have zero : '0'.toNat = 48 := rfl
  unfold digitValue
  omega

/-- A number as it is written: digits with a point among them, unless no digit is behind it, and perhaps
a power of ten with its sign. -/
structure Numeral where
  negative : Bool
  whole : List Char
  fraction : List Char
  power : Option (Bool × List Char)
  whole_nonempty : whole ≠ []
  whole_digits : ∀ c ∈ whole, c.isDigit = true
  fraction_digits : ∀ c ∈ fraction, c.isDigit = true
  power_nonempty : ∀ sign, power ≠ some (sign, [])
  power_digits : ∀ sign digits, power = some (sign, digits) → ∀ c ∈ digits, c.isDigit = true

namespace Numeral

/-- A point and the digits behind it, or nothing. -/
def pointText (fraction : List Char) : List Char := if fraction = [] then [] else '.' :: fraction

/-- A power of ten as it is written, its sign being negative or not. -/
def powerText : Option (Bool × List Char) → List Char
  | none => []
  | some (negative, digits) => 'e' :: (if negative then '-' else '+') :: digits

/-- The exponent of a written power of ten. -/
def powerValue : Option (Bool × List Char) → Int
  | none => 0
  | some (negative, digits) => if negative then -(digitsValue digits : Int) else digitsValue digits

/-- The text of a numeral without its sign. -/
def unsigned (n : Numeral) : List Char := n.whole ++ pointText n.fraction ++ powerText n.power

/-- The text of a numeral. -/
def text (n : Numeral) : List Char := if n.negative then '-' :: n.unsigned else n.unsigned

/-- The value of a numeral without its sign. -/
def value (n : Numeral) : ℚ :=
  digitsValue (n.whole ++ n.fraction) * 10 ^ (powerValue n.power - n.fraction.length)

theorem readExponent_power (n : Numeral) :
    Binary64.readExponent? (powerText n.power) = some (powerValue n.power) := by
  have digits := n.power_digits
  have nonempty := n.power_nonempty
  cases power : n.power with
  | none => rfl
  | some written =>
    obtain ⟨negative, ds⟩ := written
    have all : ds.all Char.isDigit = true := List.all_eq_true.mpr (digits negative ds power)
    have some : ds.isEmpty = false := by
      rw [List.isEmpty_eq_false_iff]
      rintro rfl
      exact nonempty negative power
    cases negative <;> simp [powerText, powerValue, Binary64.readExponent?, all, some]

theorem readDecimal_unsigned (n : Numeral) (negative : Bool) :
    Binary64.readDecimal? negative n.unsigned =
      some (Binary64.ofDecimal negative ((n.whole ++ n.fraction).map digitValue)
        (powerValue n.power - n.fraction.length)) := by
  have whole : n.whole.isEmpty = false := List.isEmpty_eq_false_iff.mpr n.whole_nonempty
  have stops : (pointText n.fraction ++ powerText n.power).takeWhile Char.isDigit = [] ∧
      (pointText n.fraction ++ powerText n.power).dropWhile Char.isDigit =
        pointText n.fraction ++ powerText n.power := by
    have point : '.'.isDigit = false := by decide
    have letter : 'e'.isDigit = false := by decide
    unfold pointText
    split <;> cases n.power <;> simp [powerText, point, letter]
  have exponent := n.readExponent_power
  unfold Binary64.readDecimal? unsigned
  rw [List.append_assoc, List.takeWhile_append_of_pos n.whole_digits,
    List.dropWhile_append_of_pos n.whole_digits, stops.1, stops.2, List.append_nil]
  -- Behind the digits before the point come those behind it, and then the power of ten.
  by_cases nothing : n.fraction = []
  · rw [nothing, pointText, if_pos rfl, List.nil_append]
    generalize n.power = power at exponent ⊢
    cases power <;> simp_all [powerText]
  · rw [pointText, if_neg nothing, List.cons_append]
    simp only
    have letter : 'e'.isDigit = false := by decide
    rw [List.takeWhile_append_of_pos n.fraction_digits, List.dropWhile_append_of_pos n.fraction_digits]
    generalize n.power = power at exponent ⊢
    cases power <;> simp_all [powerText]

theorem weigh_digits (cs : List Char) : weigh (cs.map digitValue) = digitsValue cs := by
  simp [weigh, digitsValue, List.foldl_map]

/-- A numeral is read as the double that its value rounds to. -/
theorem read_rounds (n : Numeral) :
    ∃ b, Binary64.read? (String.ofList n.text) = some b ∧ b.Rounds n.negative n.value := by
  have decimal : ∀ d ∈ (n.whole ++ n.fraction).map digitValue, d < 10 := fun d member => by
    obtain ⟨c, inside, rfl⟩ := List.mem_map.mp member
    rcases List.mem_append.mp inside with inside | inside
    · exact digitValue_lt (n.whole_digits c inside)
    · exact digitValue_lt (n.fraction_digits c inside)
  have rounds := Binary64.ofDecimal_rounds n.negative decimal (powerValue n.power - n.fraction.length)
  rw [weigh_digits] at rounds
  refine ⟨_, ?_, rounds⟩
  -- The text starts with a digit behind its sign, so it is none of the words.
  obtain ⟨c, rest, first⟩ := List.exists_cons_of_ne_nil n.whole_nonempty
  have digit : c.isDigit = true := n.whole_digits c (by simp [first])
  have start : ∃ rest, n.unsigned = c :: rest := ⟨rest ++ pointText n.fraction ++ powerText n.power, by
    simp [unsigned, first]⟩
  have word : ∀ letter tail, letter.isDigit = false →
      String.ofList (n.unsigned.map Char.toLower) ≠ String.ofList (letter :: tail) := by
    intro letter tail other same
    obtain ⟨rest, starts⟩ := start
    rw [String.ofList_inj, starts, List.map_cons, digit_toLower digit, List.cons.injEq] at same
    exact digit_ne digit other same.1
  have number : (if String.ofList (n.unsigned.map Char.toLower) = "inf" ||
      String.ofList (n.unsigned.map Char.toLower) = "infinity" then some (Binary64.infinite n.negative)
    else if String.ofList (n.unsigned.map Char.toLower) = "nan" then some .nan
    else Binary64.readDecimal? n.negative n.unsigned) =
      some (Binary64.ofDecimal n.negative ((n.whole ++ n.fraction).map digitValue)
        (powerValue n.power - n.fraction.length)) := by
    have inf := word 'i' ['n', 'f'] (by decide)
    have infinity := word 'i' ['n', 'f', 'i', 'n', 'i', 't', 'y'] (by decide)
    have nan := word 'n' ['a', 'n'] (by decide)
    simp [inf, infinity, nan, n.readDecimal_unsigned]
  unfold Binary64.read?
  rw [String.toList_ofList]
  unfold text
  generalize n.negative = negative at *
  cases negative with
  | true => exact number
  | false =>
    obtain ⟨rest, starts⟩ := start
    have minus : c ≠ '-' := digit_ne digit (by decide)
    have plus : c ≠ '+' := digit_ne digit (by decide)
    rw [starts] at number ⊢
    simpa [minus, plus] using number

end Numeral

end TextTemplate
