import Mathlib.Algebra.Order.Field.Power
import Mathlib.Algebra.Order.Field.Rat
import Mathlib.Tactic.FieldSimp
import Mathlib.Tactic.Linarith
import Mathlib.Tactic.NormNum.Pow
import Mathlib.Tactic.Positivity
import Mathlib.Tactic.Ring
import TextTemplate.Number.Double

/-! Rounding to doubles. The ratios that round to a double make up an interval around it, from half-way
to the double below up to half-way to the one above; an end belongs to it if the significand is
even. The intervals of the doubles follow each other in order and share no point, so a ratio
rounds to one double only, which is nearest to it, and a greater ratio never to a lesser one.
Dividing, shifting and carrying in integers finds exactly that double. -/
namespace TextTemplate

namespace Double

variable {d e : Double} {x y : ℚ}

/-- The distance to the next double further from zero. -/
def step (d : Double) : ℚ := 2 ^ d.exponent

/-- The distance to the next double nearer to zero, which is half as far at a power of two. -/
def stepDown (d : Double) : ℚ :=
  if d.significand = significandStart ∧ -1074 < d.exponent then d.step / 2 else d.step

/-- The value of a double without its sign. -/
def magnitude (d : Double) : ℚ := d.significand * d.step

/-- The value of a double. -/
def value (d : Double) : ℚ := if d.negative then -d.magnitude else d.magnitude

/-- The least ratio that may round to a double. -/
def low (d : Double) : ℚ := d.magnitude - d.stepDown / 2

/-- The greatest ratio that may round to a double. -/
def high (d : Double) : ℚ := d.magnitude + d.step / 2

/-- A ratio, its sign apart, rounds to a double: it lies in the interval of the double, and inside of it if
the significand is odd. -/
structure Claims (d : Double) (x : ℚ) : Prop where
  low_le : d.low ≤ x
  le_high : x ≤ d.high
  inside : d.significand % 2 = 1 → d.low < x ∧ x < d.high

theorem step_pos (d : Double) : 0 < d.step := by
  unfold step
  positivity

theorem significand_le (d : Double) : (d.significand : ℚ) ≤ 2 ^ 53 - 1 := by
  have below : d.significand + 1 ≤ 2 ^ 53 := d.significand_lt
  have cast : ((d.significand + 1 : Nat) : ℚ) ≤ ((2 ^ 53 : Nat) : ℚ) := Nat.cast_le.mpr below
  push_cast at cast
  linarith

/-- The step at a greater exponent is at least twice as wide. -/
theorem step_double (less : d.exponent < e.exponent) : 2 * d.step ≤ e.step := by
  have next : (2 : ℚ) * 2 ^ d.exponent = 2 ^ (d.exponent + 1) := by
    rw [zpow_add_one₀ two_ne_zero, mul_comm]
  rw [step, step, next]
  exact zpow_le_zpow_right₀ one_le_two less

theorem stepDown_pos (d : Double) : 0 < d.stepDown := by
  have := d.step_pos
  unfold stepDown
  split <;> linarith

theorem stepDown_le (d : Double) : d.stepDown ≤ d.step := by
  have := d.step_pos
  unfold stepDown
  split <;> linarith

/-- A double of greater exponent is greater by a step at least, and by the step that it has downwards. -/
theorem gap_of_exponent (less : d.exponent < e.exponent) :
    d.magnitude + d.step ≤ e.magnitude ∧ d.magnitude ≤ e.magnitude - e.stepDown := by
  have wide := step_double less
  have pos := d.step_pos
  have below := d.significand_le
  have room : d.magnitude + d.step ≤ 2 ^ 53 * d.step := by
    unfold magnitude
    nlinarith
  have above : -1074 < e.exponent := lt_of_le_of_lt d.exponent_ge less
  by_cases start : e.significand = significandStart
  · have down : e.stepDown = e.step / 2 := if_pos ⟨start, above⟩
    have full : e.magnitude = 2 ^ 52 * e.step := by
      rw [magnitude, start]
      norm_num [significandStart]
    rw [down, full]
    constructor <;> linarith
  · have down : e.stepDown = e.step := if_neg fun both => start both.1
    have later : (2 ^ 52 + 1 : ℚ) ≤ e.significand := by
      have normal : 2 ^ 52 ≤ e.significand := e.normal.resolve_right (by omega)
      have least : 2 ^ 52 + 1 ≤ e.significand := lt_of_le_of_ne normal (Ne.symm start)
      exact_mod_cast least
    have full : (2 ^ 52 + 1) * e.step ≤ e.magnitude :=
      mul_le_mul_of_nonneg_right later e.step_pos.le
    rw [down]
    constructor <;> linarith

theorem exponent_le_of_lt (less : d.magnitude < e.magnitude) : d.exponent ≤ e.exponent := by
  by_contra greater
  have gap := (gap_of_exponent (not_le.mp greater)).1
  have := e.step_pos
  linarith

theorem step_of_exponent (same : d.exponent = e.exponent) : d.step = e.step := by
  rw [step, step, same]

/-- No double lies between a double and the next one: a greater double is greater by the step of the one
upwards, and by the step of the other downwards. -/
theorem gap (less : d.magnitude < e.magnitude) :
    d.magnitude + d.step ≤ e.magnitude ∧ d.magnitude ≤ e.magnitude - e.stepDown := by
  rcases (exponent_le_of_lt less).lt_or_eq with lower | same
  · exact gap_of_exponent lower
  · have steps := step_of_exponent same
    have pos := e.step_pos
    have significands : d.significand < e.significand := by
      rw [magnitude, magnitude, steps] at less
      exact_mod_cast lt_of_mul_lt_mul_right less pos.le
    have next : ((d.significand + 1 : Nat) : ℚ) ≤ e.significand := Nat.cast_le.mpr significands
    have scaled := mul_le_mul_of_nonneg_right next pos.le
    have down := e.stepDown_le
    push_cast at scaled
    rw [magnitude, magnitude, steps]
    constructor <;> linarith

/-- The interval of a double ends where that of a greater one has not begun yet. -/
theorem high_le_low (less : d.magnitude < e.magnitude) : d.high ≤ e.low := by
  obtain ⟨up, down⟩ := gap less
  unfold high low
  linarith

/-- Where two intervals touch, one of the significands is odd. -/
theorem odd_of_touching (less : d.magnitude < e.magnitude) (touching : d.high = e.low) :
    d.significand % 2 = 1 ∨ e.significand % 2 = 1 := by
  obtain ⟨up, down⟩ := gap less
  unfold high low at touching
  have next : e.magnitude = d.magnitude + d.step := by linarith
  have steps : e.stepDown = d.step := by linarith
  have pos := d.step_pos
  rcases (exponent_le_of_lt less).lt_or_eq with lower | same
  · -- The double below a power of two has the greatest significand.
    have wide := step_double lower
    have halved : e.significand = significandStart ∧ -1074 < e.exponent := by
      by_contra whole
      rw [stepDown, if_neg whole] at steps
      linarith
    rw [stepDown, if_pos halved] at steps
    have full : (d.significand + 1 : ℚ) * d.step = 2 ^ 53 * d.step := by
      have start : (e.significand : ℚ) = 2 ^ 52 := by
        rw [halved.1]
        norm_num [significandStart]
      have sum : (e.significand : ℚ) * e.step = d.significand * d.step + d.step := next
      rw [start] at sum
      linarith
    have last : (d.significand + 1 : ℚ) = 2 ^ 53 := mul_right_cancel₀ pos.ne' full
    have last : d.significand + 1 = 2 ^ 53 := by exact_mod_cast last
    omega
  · have sum : (e.significand : ℚ) * e.step = d.significand * d.step + d.step := next
    rw [← step_of_exponent same] at sum
    have full : (e.significand : ℚ) * d.step = (d.significand + 1) * d.step := by linarith
    have adjacent : (e.significand : ℚ) = d.significand + 1 := mul_right_cancel₀ pos.ne' full
    have adjacent : e.significand = d.significand + 1 := by exact_mod_cast adjacent
    omega

/-- A double rounds to itself. -/
theorem claims_magnitude (d : Double) : d.Claims d.magnitude := by
  have below : d.low < d.magnitude := by
    unfold low
    linarith [d.stepDown_pos]
  have above : d.magnitude < d.high := by
    unfold high
    linarith [d.step_pos]
  exact ⟨below.le, above.le, fun _ => ⟨below, above⟩⟩

/-- A greater ratio rounds to a double at least as great. -/
theorem Claims.mono (first : d.Claims x) (second : e.Claims y) (le : x ≤ y) :
    d.magnitude ≤ e.magnitude := by
  by_contra greater
  have less := not_le.mp greater
  have apart := high_le_low less
  have touching : e.high = d.low := by linarith [first.low_le, second.le_high]
  rcases odd_of_touching less touching with odd | odd
  · linarith [(second.inside odd).2, first.low_le]
  · linarith [(first.inside odd).1, second.le_high]

theorem magnitude_inj (same : d.magnitude = e.magnitude) :
    d.significand = e.significand ∧ d.exponent = e.exponent := by
  have exponents : d.exponent = e.exponent := by
    rcases lt_trichotomy d.exponent e.exponent with less | equal | greater
    · linarith [(gap_of_exponent less).1, d.step_pos]
    · exact equal
    · linarith [(gap_of_exponent greater).1, e.step_pos]
  rw [magnitude, magnitude, step_of_exponent exponents] at same
  exact ⟨by exact_mod_cast mul_right_cancel₀ e.step_pos.ne' same, exponents⟩

/-- A double is known from its sign and its magnitude. -/
theorem eq_of_magnitude (sign : d.negative = e.negative) (same : d.magnitude = e.magnitude) :
    d = e := by
  obtain ⟨significands, exponents⟩ := magnitude_inj same
  cases d
  cases e
  simp_all

/-- A ratio rounds to one double only. -/
theorem Claims.unique (sign : d.negative = e.negative) (first : d.Claims x) (second : e.Claims x) :
    d = e :=
  eq_of_magnitude sign (le_antisymm (first.mono second le_rfl) (second.mono first le_rfl))

/-- No double is nearer to a ratio than the one that it rounds to. -/
theorem Claims.nearest (claims : d.Claims x) (e : Double) : |x - d.magnitude| ≤ |x - e.magnitude| := by
  have first := claims.low_le
  have last := claims.le_high
  unfold low at first
  unfold high at last
  rcases lt_trichotomy e.magnitude d.magnitude with less | equal | greater
  · have down := (gap less).2
    rw [abs_of_nonneg (a := x - e.magnitude) (by linarith [d.stepDown_le, d.step_pos])]
    exact abs_le.mpr ⟨by linarith, by linarith⟩
  · rw [equal]
  · have up := (gap greater).1
    rw [abs_of_nonpos (a := x - e.magnitude) (by linarith [d.step_pos])]
    exact abs_le.mpr ⟨by linarith, by linarith⟩

/-- The step of the greatest doubles. -/
def topStep : ℚ := 2 ^ (971 : Int)

theorem topStep_pos : 0 < topStep := by
  unfold topStep
  positivity

theorem step_le_top (d : Double) : d.step ≤ topStep :=
  zpow_le_zpow_right₀ one_le_two d.exponent_le

/-- The end of the intervals of all doubles, half a step above the greatest double. -/
def overflow : ℚ := (2 ^ 53 - 1 / 2) * topStep

theorem Claims.lt_overflow (claims : d.Claims x) : x < overflow := by
  have wide := d.step_le_top
  have pos := d.step_pos
  unfold overflow
  by_cases odd : d.significand % 2 = 1
  · have inside := (claims.inside odd).2
    have below := d.significand_le
    unfold high magnitude at inside
    have most : (d.significand + 1 / 2 : ℚ) * d.step ≤ (2 ^ 53 - 1 / 2) * topStep :=
      mul_le_mul (by linarith) wide pos.le (by norm_num)
    linarith
  · have last := claims.le_high
    have below : (d.significand : ℚ) ≤ 2 ^ 53 - 2 := by
      have less : d.significand < 2 ^ 53 := d.significand_lt
      have most : d.significand + 2 ≤ 2 ^ 53 := by omega
      have cast : ((d.significand + 2 : Nat) : ℚ) ≤ ((2 ^ 53 : Nat) : ℚ) := Nat.cast_le.mpr most
      push_cast at cast
      linarith
    unfold high magnitude at last
    have most : (d.significand + 1 / 2 : ℚ) * d.step ≤ (2 ^ 53 - 3 / 2) * topStep :=
      mul_le_mul (by linarith) wide pos.le (by norm_num)
    linarith [topStep_pos]

end Double

namespace Binary64

/-- A ratio, whose sign is given apart, rounds to a floating-point value. -/
def Rounds (negative : Bool) (x : ℚ) : Binary64 → Prop
  | .finite d => d.negative = negative ∧ d.Claims x
  | .infinite sign => sign = negative ∧ Double.overflow ≤ x
  | .nan => False

/-- A ratio rounds to one value only. -/
theorem Rounds.unique {negative : Bool} {x : ℚ} {b c : Binary64} (first : b.Rounds negative x)
    (second : c.Rounds negative x) : b = c := by
  cases b with
  | nan => cases first
  | finite d =>
    cases c with
    | nan => cases second
    | finite e => rw [first.2.unique (first.1.trans second.1.symm) second.2]
    | infinite sign => exact absurd second.2 (not_le.mpr first.2.lt_overflow)
  | infinite sign =>
    cases c with
    | nan => cases second
    | finite e => exact absurd first.2 (not_le.mpr second.2.lt_overflow)
    | infinite sign' => rw [first.1, second.1]

theorem rounds_zero (negative : Bool) : Rounds negative 0 (.finite (Double.zero negative)) := by
  have nothing : (Double.zero negative).magnitude = 0 := by simp [Double.magnitude, Double.zero]
  refine ⟨rfl, ?_⟩
  rw [← nothing]
  exact Double.claims_magnitude _

/-! Rounding a quotient of naturals -/

variable {num den : Nat}

theorem quotient_eq (positive : 0 < den) :
    (num : ℚ) / den = (num / den : Nat) + (num % den : Nat) / den := by
  have split : ((den * (num / den) + num % den : Nat) : ℚ) = num := by rw [Nat.div_add_mod]
  have nonzero : (den : ℚ) ≠ 0 := by positivity
  push_cast at split
  field_simp
  linarith

variable (num) in
/-- A rounded quotient is at most a half away from the quotient, and less if it is odd. -/
theorem roundDiv_near (positive : 0 < den) :
    let r := roundDiv num den
    ((r : ℚ) - 1 / 2 ≤ num / den ∧ (num : ℚ) / den ≤ r + 1 / 2) ∧
      (r % 2 = 1 → (r : ℚ) - 1 / 2 < num / den ∧ (num : ℚ) / den < r + 1 / 2) := by
  intro r
  have whole : (0 : ℚ) < den := by exact_mod_cast positive
  rw [quotient_eq positive]
  have fraction : (0 : ℚ) ≤ (num % den : Nat) / den := by positivity
  by_cases less : 2 * (num % den) < den
  · have result : r = num / den := if_pos less
    have half : ((num % den : Nat) : ℚ) / den < 1 / 2 := by
      rw [div_lt_iff₀ whole]
      have : ((2 * (num % den) : Nat) : ℚ) < den := Nat.cast_lt.mpr less
      push_cast at this
      linarith
    rw [result]
    exact ⟨⟨by linarith, by linarith⟩, fun _ => ⟨by linarith, by linarith⟩⟩
  · by_cases more : den < 2 * (num % den)
    · have result : r = num / den + 1 := by
        simp only [r, roundDiv]
        rw [if_neg less, if_pos more]
      have half : 1 / 2 < ((num % den : Nat) : ℚ) / den := by
        rw [lt_div_iff₀ whole]
        have : (den : ℚ) < ((2 * (num % den) : Nat) : ℚ) := Nat.cast_lt.mpr more
        push_cast at this
        linarith
      have one : ((num % den : Nat) : ℚ) / den < 1 := by
        rw [div_lt_one whole]
        exact_mod_cast Nat.mod_lt num positive
      rw [result]
      push_cast
      exact ⟨⟨by linarith, by linarith⟩, fun _ => ⟨by linarith, by linarith⟩⟩
    · -- A tie goes to the even neighbour.
      have result : r = num / den + num / den % 2 := by
        simp only [r, roundDiv]
        rw [if_neg less, if_neg more]
      have half : ((num % den : Nat) : ℚ) / den = 1 / 2 := by
        rw [div_eq_iff whole.ne']
        have : ((2 * (num % den) : Nat) : ℚ) = den := by
          exact_mod_cast le_antisymm (not_lt.mp more) (not_lt.mp less)
        push_cast at this
        linarith
      have even : r % 2 = 0 := by omega
      rw [half]
      refine ⟨?_, fun odd => by omega⟩
      rcases Nat.mod_two_eq_zero_or_one (num / den) with parity | parity <;>
        rw [result, parity] <;> push_cast <;> exact ⟨by linarith, by linarith⟩

variable (num) in
theorem scaleDown_ratio (positive : 0 < den) (exponent : Int) :
    0 < (scaleDown num den exponent).2 ∧
      ((scaleDown num den exponent).1 : ℚ) / (scaleDown num den exponent).2 =
        num / den / 2 ^ exponent := by
  by_cases up : 0 ≤ exponent
  · obtain ⟨k, rfl⟩ := Int.eq_ofNat_of_zero_le up
    simp only [scaleDown, if_pos up, Int.toNat_natCast]
    refine ⟨Nat.mul_pos positive (Nat.two_pow_pos k), ?_⟩
    simp [div_div]
  · obtain ⟨k, same⟩ := Int.eq_ofNat_of_zero_le (a := -exponent) (by omega)
    simp only [scaleDown, if_neg up, same]
    refine ⟨positive, ?_⟩
    have : exponent = -(k : Int) := by omega
    rw [this, zpow_neg, zpow_natCast]
    simp [mul_div_right_comm]

variable (num) in
/-- The trial division tells whether a ratio, seen in steps of an exponent, has at most 53 bits. -/
theorem trial_iff (positive : 0 < den) (exponent : Int) :
    (scaleDown num den exponent).1 / (scaleDown num den exponent).2 < Double.significandEnd ↔
      (num : ℚ) / den / 2 ^ exponent < 2 ^ 53 := by
  obtain ⟨some, same⟩ := scaleDown_ratio num positive exponent
  have cast : (0 : ℚ) < (scaleDown num den exponent).2 := by exact_mod_cast some
  rw [← same, div_lt_iff₀ cast, Nat.div_lt_iff_lt_mul some]
  exact_mod_cast Iff.rfl

/-- The bit lengths tell a ratio up to a factor of two in either direction. -/
theorem ratio_log2 (nonzero : num ≠ 0) (positive : 0 < den) :
    (2 : ℚ) ^ ((num.log2 : Int) - den.log2 - 1) < num / den ∧
      (num : ℚ) / den < 2 ^ ((num.log2 : Int) - den.log2 + 1) := by
  have whole : (0 : ℚ) < den := by exact_mod_cast positive
  have least : ((2 ^ num.log2 : Nat) : ℚ) ≤ num := Nat.cast_le.mpr (Nat.log2_self_le nonzero)
  have most : (num : ℚ) < ((2 ^ (num.log2 + 1) : Nat) : ℚ) := Nat.cast_lt.mpr Nat.lt_log2_self
  have least' : ((2 ^ den.log2 : Nat) : ℚ) ≤ den :=
    Nat.cast_le.mpr (Nat.log2_self_le positive.ne')
  have most' : (den : ℚ) < ((2 ^ (den.log2 + 1) : Nat) : ℚ) := Nat.cast_lt.mpr Nat.lt_log2_self
  have power : (0 : ℚ) < 2 ^ ((num.log2 : Int) - den.log2 - 1) := by positivity
  push_cast at least most least' most'
  constructor
  · have low : (2 : ℚ) ^ num.log2 = 2 ^ ((num.log2 : Int) - den.log2 - 1) * 2 ^ (den.log2 + 1) := by
      rw [← zpow_natCast, ← zpow_natCast, ← zpow_add₀ two_ne_zero]
      congr 1
      push_cast
      omega
    rw [lt_div_iff₀ whole]
    calc (2 : ℚ) ^ ((num.log2 : Int) - den.log2 - 1) * den
        < 2 ^ ((num.log2 : Int) - den.log2 - 1) * 2 ^ (den.log2 + 1) :=
          mul_lt_mul_of_pos_left most' power
      _ = 2 ^ num.log2 := low.symm
      _ ≤ num := least
  · have high : (2 : ℚ) ^ (num.log2 + 1) = 2 ^ ((num.log2 : Int) - den.log2 + 1) * 2 ^ den.log2 := by
      rw [← zpow_natCast, ← zpow_natCast, ← zpow_add₀ two_ne_zero]
      congr 1
      push_cast
      omega
    rw [div_lt_iff₀ whole]
    calc (num : ℚ) < 2 ^ (num.log2 + 1) := most
      _ = 2 ^ ((num.log2 : Int) - den.log2 + 1) * 2 ^ den.log2 := high
      _ ≤ 2 ^ ((num.log2 : Int) - den.log2 + 1) * den :=
        mul_le_mul_of_nonneg_left least' (by positivity)

/-- Seen in steps of the exponent that is chosen, a ratio has 53 bits, or fewer if the exponent is the least
one. -/
theorem exponentOf_normal (nonzero : num ≠ 0) (positive : 0 < den) :
    let e := exponentOf num den
    (num : ℚ) / den / 2 ^ e < 2 ^ 53 ∧ -1074 ≤ e ∧
      (e = -1074 ∨ (2 ^ 52 : ℚ) ≤ num / den / 2 ^ e) := by
  intro e
  set x : ℚ := num / den with ratio
  have positiveRatio : 0 < x := by
    have : 0 < num := Nat.pos_of_ne_zero nonzero
    rw [ratio]
    positivity
  obtain ⟨least, trial⟩ : ∃ least : Int, (num.log2 : Int) - den.log2 - 53 = least := ⟨_, rfl⟩
  have halved : x / 2 ^ (least + 1) = x / 2 ^ least / 2 := by
    rw [zpow_add_one₀ two_ne_zero, ← div_div]
  obtain ⟨above, below⟩ := ratio_log2 nonzero positive
  have bits : (2 : ℚ) ^ 52 < x / 2 ^ least ∧ x / 2 ^ least < 2 ^ 54 := by
    have power : (0 : ℚ) < 2 ^ least := by positivity
    have first : (num.log2 : Int) - den.log2 - 1 = (52 : Nat) + least := by omega
    have last : (num.log2 : Int) - den.log2 + 1 = (54 : Nat) + least := by omega
    rw [first, zpow_add₀ two_ne_zero, zpow_natCast] at above
    rw [last, zpow_add₀ two_ne_zero, zpow_natCast] at below
    exact ⟨(lt_div_iff₀ power).mpr above, (div_lt_iff₀ power).mpr below⟩
  -- The trial division decides between the two exponents that the bit lengths leave.
  obtain ⟨middle, chosen, fits, full⟩ : ∃ middle : Int, e = max middle (-1074) ∧
      x / 2 ^ middle < 2 ^ 53 ∧ (2 ^ 52 : ℚ) ≤ x / 2 ^ middle := by
    have tried := trial_iff num positive least
    by_cases small : (scaleDown num den least).1 / (scaleDown num den least).2 < Double.significandEnd
    · refine ⟨least, ?_, tried.mp small, bits.1.le⟩
      simp only [e, exponentOf, trial]
      rw [if_pos small]
    · have many : (2 ^ 53 : ℚ) ≤ x / 2 ^ least := not_lt.mp fun less => small (tried.mpr less)
      refine ⟨least + 1, ?_, ?_, ?_⟩
      · simp only [e, exponentOf, trial]
        rw [if_neg small]
      · rw [halved]
        linarith [bits.2]
      · rw [halved]
        linarith
  by_cases enough : -1074 ≤ middle
  · have same : e = middle := by omega
    rw [same]
    exact ⟨fits, enough, .inr full⟩
  · have same : e = -1074 := by omega
    refine ⟨?_, by omega, .inl same⟩
    have wider : (2 : ℚ) ^ middle ≤ 2 ^ e := zpow_le_zpow_right₀ one_le_two (by omega)
    exact lt_of_le_of_lt (div_le_div_of_nonneg_left positiveRatio.le (by positivity) wider) fits

/-- A significand at an exponent, if it makes a double at all, makes the one that the ratios around it round
to. At a greater exponent they are beyond all doubles. -/
theorem placed_rounds {negative : Bool} {m : Nat} {q : Int} {x : ℚ}
    (bits : m < Double.significandEnd) (least : -1074 ≤ q)
    (normal : Double.significandStart ≤ m ∨ q = -1074)
    (low : (m : ℚ) * 2 ^ q -
      (if m = Double.significandStart ∧ -1074 < q then 2 ^ q / 2 else 2 ^ q) / 2 ≤ x)
    (high : x ≤ m * 2 ^ q + 2 ^ q / 2)
    (inside : m % 2 = 1 → (m : ℚ) * 2 ^ q -
      (if m = Double.significandStart ∧ -1074 < q then 2 ^ q / 2 else 2 ^ q) / 2 < x ∧
      x < m * 2 ^ q + 2 ^ q / 2) :
    (if h : (m < Double.significandEnd ∧ -1074 ≤ q) ∧
        q ≤ 971 ∧ (Double.significandStart ≤ m ∨ q = -1074) then
      Binary64.finite ⟨negative, m, q, h.1.1, h.1.2, h.2.1, h.2.2⟩
    else .infinite negative).Rounds negative x := by
  by_cases small : q ≤ 971
  · rw [dif_pos ⟨⟨bits, least⟩, small, normal⟩]
    exact ⟨rfl, low, high, inside⟩
  · rw [dif_neg fun all => small all.2.1]
    refine ⟨rfl, ?_⟩
    have wide : 2 * Double.topStep ≤ 2 ^ q := by
      have next : 2 * Double.topStep = 2 ^ (972 : Int) := by
        rw [Double.topStep, show (972 : Int) = 971 + 1 from rfl, zpow_add_one₀ two_ne_zero, mul_comm]
      rw [next]
      exact zpow_le_zpow_right₀ one_le_two (by omega)
    have positive := Double.topStep_pos
    have started : Double.significandStart ≤ m := normal.resolve_right (by omega)
    unfold Double.overflow
    by_cases first : m = Double.significandStart
    · rw [if_pos ⟨first, by omega⟩, first] at low
      norm_num [Double.significandStart] at low ⊢
      linarith
    · rw [if_neg fun both => first both.1] at low
      have later : (2 ^ 52 + 1 : ℚ) ≤ m := by
        have : 2 ^ 52 + 1 ≤ m := lt_of_le_of_ne started (Ne.symm first)
        exact_mod_cast this
      have scaled : (2 ^ 52 + 1) * (2 : ℚ) ^ q ≤ m * 2 ^ q :=
        mul_le_mul_of_nonneg_right later (by positivity)
      linarith

/-- A rounded significand of 53 bits, or of 54 if it has been carried to the next power of two, is assembled
to the double that the ratio rounds to. -/
theorem assemble_rounds {negative : Bool} {r : Nat} {e : Int} {x : ℚ} (least : -1074 ≤ e)
    (bits : r ≤ 2 ^ 53) (normal : e = -1074 ∨ 2 ^ 52 ≤ r)
    (near : ((r : ℚ) - 1 / 2) * 2 ^ e ≤ x ∧ x ≤ (r + 1 / 2) * 2 ^ e)
    (inside : r % 2 = 1 → ((r : ℚ) - 1 / 2) * 2 ^ e < x ∧ x < (r + 1 / 2) * 2 ^ e)
    (above : e = -1074 ∨ (2 ^ 52 : ℚ) * 2 ^ e ≤ x) :
    (assemble negative r e).Rounds negative x := by
  have power : (0 : ℚ) < 2 ^ e := by positivity
  by_cases carried : r = Double.significandEnd
  · simp only [assemble, if_pos carried]
    have next : (2 : ℚ) ^ (e + 1) = 2 * 2 ^ e := by rw [zpow_add_one₀ two_ne_zero, mul_comm]
    rw [carried] at near
    refine placed_rounds (by decide) (by omega) (.inl le_rfl) ?_ ?_ (fun odd => absurd odd (by decide))
    · rw [if_pos ⟨rfl, by omega⟩, next]
      norm_num [Double.significandStart, Double.significandEnd] at near ⊢
      linarith
    · rw [next]
      norm_num [Double.significandStart, Double.significandEnd] at near ⊢
      linarith
  · simp only [assemble, if_neg carried]
    have less : r < Double.significandEnd := lt_of_le_of_ne bits carried
    refine placed_rounds less least normal.symm ?_ (by linarith) fun odd => ?_
    · by_cases start : r = Double.significandStart ∧ -1074 < e
      · have enough := above.resolve_left (by omega)
        rw [if_pos start, start.1]
        norm_num [Double.significandStart]
        linarith
      · rw [if_neg start]
        linarith
    · have whole : ¬(r = Double.significandStart ∧ -1074 < e) := by
        rintro ⟨rfl, -⟩
        exact absurd odd (by decide)
      obtain ⟨first, last⟩ := inside odd
      rw [if_neg whole]
      constructor <;> linarith

variable (num) in
/-- The double that is computed for a ratio is the one that the ratio rounds to. -/
theorem ofRatio_rounds (negative : Bool) (positive : 0 < den) :
    (ofRatio negative num den).Rounds negative (num / den) := by
  by_cases nothing : num = 0
  · subst nothing
    simpa [ofRatio] using rounds_zero negative
  · obtain ⟨fits, least, full⟩ := exponentOf_normal nothing positive
    have result : ofRatio negative num den = assemble negative
        (roundDiv (scaleDown num den (exponentOf num den)).1 (scaleDown num den (exponentOf num den)).2)
        (exponentOf num den) := by
      simp only [ofRatio, if_neg nothing]
    rw [result]
    generalize exponentOf num den = e at *
    obtain ⟨some, same⟩ := scaleDown_ratio num positive e
    obtain ⟨⟨low, high⟩, inside⟩ := roundDiv_near (scaleDown num den e).1 some
    generalize roundDiv (scaleDown num den e).1 (scaleDown num den e).2 = r at *
    rw [same] at low high inside
    have power : (0 : ℚ) < 2 ^ e := by positivity
    have scaled : (num : ℚ) / den = num / den / 2 ^ e * 2 ^ e := (div_mul_cancel₀ _ power.ne').symm
    generalize (num : ℚ) / den / 2 ^ e = y at *
    rw [scaled]
    refine assemble_rounds least ?_ ?_ ?_ ?_ ?_
    · have : (r : ℚ) < ((2 ^ 53 + 1 : Nat) : ℚ) := by
        push_cast
        linarith
      have := Nat.cast_lt.mp this
      omega
    · refine full.imp_right fun enough => ?_
      have : ((2 ^ 52 : Nat) : ℚ) < ((r + 1 : Nat) : ℚ) := by
        push_cast
        linarith
      have := Nat.cast_lt.mp this
      omega
    · exact ⟨mul_le_mul_of_nonneg_right low power.le, mul_le_mul_of_nonneg_right high power.le⟩
    · exact fun odd => ⟨mul_lt_mul_of_pos_right (inside odd).1 power,
        mul_lt_mul_of_pos_right (inside odd).2 power⟩
    · exact full.imp_right fun enough => mul_le_mul_of_nonneg_right enough power.le

end Binary64

end TextTemplate
