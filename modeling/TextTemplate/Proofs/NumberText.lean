import TextTemplate.Proofs.DecimalReading
import TextTemplate.Proofs.ShortestDecimal
import TextTemplate.Value.Compare

/-! The text of a number in the output of a template reads back as the same number, unless zeros have
been cut off where they count. Zeros at the end of a fraction do not count. Those at the end of
a power of ten do, and the text of a double that has both a point and a power of ten loses them. -/
namespace TextTemplate

/-! Digits -/

variable {cs ds : List Char} {n z : Nat}

theorem digitsValue_append : digitsValue (cs ++ ds) = 10 ^ ds.length * digitsValue cs + digitsValue ds := by
  change Nat.ofDigitChars 10 (cs ++ ds) 0 = _
  rw [Nat.ofDigitChars_append, Nat.ofDigitChars_eq_ofDigitChars_zero]
  rfl

theorem digitsValue_zeros : digitsValue (List.replicate z '0') = 0 := by
  change Nat.ofDigitChars 10 _ 0 = 0
  rw [Nat.ofDigitChars_replicate_zero, mul_zero]

theorem digitsValue_toDigits : digitsValue (Nat.toDigits 10 n) = n := Nat.ofDigitChars_ten_toDigits

theorem toDigits_isDigit : ∀ c ∈ Nat.toDigits 10 n, c.isDigit = true := fun _ member =>
  Nat.isDigit_of_mem_toDigits (by norm_num) (by norm_num) member

/-- Zeros at the end are a factor of the value. -/
theorem digitsValue_append_zeros : digitsValue (cs ++ List.replicate z '0') = digitsValue cs * 10 ^ z := by
  rw [digitsValue_append, digitsValue_zeros, List.length_replicate, add_zero, mul_comm]

/-- Text without the zeros at its end. -/
def withoutZeros (cs : List Char) : List Char := (cs.reverse.dropWhile (· = '0')).reverse

/-- What is cut off the end are zeros. -/
theorem withoutZeros_append (cs : List Char) : ∃ z, cs = withoutZeros cs ++ List.replicate z '0' := by
  refine ⟨(cs.reverse.takeWhile (· = '0')).length, ?_⟩
  have zeros : cs.reverse.takeWhile (· = '0') =
      List.replicate (cs.reverse.takeWhile (· = '0')).length '0' := by
    rw [List.eq_replicate_iff]
    refine ⟨rfl, fun c member => ?_⟩
    simpa using List.mem_takeWhile_imp member
  have parts := congrArg List.reverse (List.takeWhile_append_dropWhile (p := (· = '0')) (l := cs.reverse))
  rw [zeros] at parts
  simpa [withoutZeros] using parts.symm

theorem withoutZeros_mem {c : Char} (member : c ∈ withoutZeros cs) : c ∈ cs := by
  obtain ⟨z, parts⟩ := withoutZeros_append cs
  rw [parts]
  exact List.mem_append_left _ member

/-- Where something else than zeros stands at the end, nothing in front of it is cut off. -/
theorem withoutZeros_append_of_ne (ds : List Char) (kept : withoutZeros cs ≠ []) :
    withoutZeros (ds ++ cs) = ds ++ withoutZeros cs := by
  unfold withoutZeros at *
  rw [List.reverse_append, List.dropWhile_append]
  rw [ne_eq, List.reverse_eq_nil_iff] at kept
  rw [if_neg (by simpa using kept)]
  simp

theorem withoutZeros_eq_nil (zeros : withoutZeros cs = []) : digitsValue cs = 0 := by
  obtain ⟨z, parts⟩ := withoutZeros_append cs
  rw [zeros, List.nil_append] at parts
  rw [parts, digitsValue_zeros]

namespace Value

/-- Of a text with one point, zeros and then the point are cut off at the end. -/
theorem dropFraction_point {before after : List Char} (single : '.' ∉ after) :
    dropFraction (before ++ '.' :: after) = before ++ Numeral.pointText (withoutZeros after) := by
  have has : (before ++ '.' :: after).contains '.' = true := by simp
  have turned : (before ++ '.' :: after).reverse = after.reverse ++ '.' :: before.reverse := by simp
  unfold dropFraction
  rw [if_pos has, turned, List.dropWhile_append]
  by_cases zeros : after.reverse.dropWhile (· = '0') = []
  · simp [zeros, Numeral.pointText, withoutZeros]
  · obtain ⟨c, rest, kept⟩ := List.exists_cons_of_ne_nil zeros
    have other : c ≠ '.' := by
      rintro rfl
      apply single
      have : '.' ∈ after.reverse.dropWhile (· = '0') := by simp [kept]
      simpa using (List.dropWhile_sublist _).mem this
    simp [kept, other, Numeral.pointText, withoutZeros]

theorem dropFraction_plain (plain : '.' ∉ cs) : dropFraction cs = cs := by
  simp [dropFraction, plain]

end Value

namespace Numeral

variable {n : Numeral}

/-- The sign and the digits before the point. -/
def start (n : Numeral) : List Char := if n.negative then '-' :: n.whole else n.whole

theorem text_eq (n : Numeral) : n.text = n.start ++ (pointText n.fraction ++ powerText n.power) := by
  unfold text start unsigned
  split <;> simp

theorem start_ordinary {c : Char} (other : c.isDigit = false) (sign : c ≠ '-') : c ∉ n.start := by
  intro member
  have inside : c ∈ n.whole := by
    unfold start at member
    split at member
    · exact (List.mem_cons.mp member).resolve_left sign
    · exact member
  exact digit_ne (n.whole_digits c inside) other rfl

theorem fraction_ordinary {c : Char} (other : c.isDigit = false) : c ∉ n.fraction := fun member =>
  digit_ne (n.fraction_digits c member) other rfl

theorem point_not_power (n : Numeral) : '.' ∉ powerText n.power := by
  cases power : n.power with
  | none => simp [powerText]
  | some written =>
    obtain ⟨sign, digits⟩ := written
    have inside : '.' ∉ digits := fun member =>
      digit_ne (n.power_digits sign digits power '.' member) (by decide) rfl
    cases sign <;> simp [powerText, inside]

/-- The numeral without a power of ten that has these digits before the point and behind it. -/
def decimal (negative : Bool) (whole fraction : List Char) (nonempty : whole ≠ [])
    (before : ∀ c ∈ whole, c.isDigit = true) (after : ∀ c ∈ fraction, c.isDigit = true) : Numeral :=
  ⟨negative, whole, fraction, none, nonempty, before, after, nofun, nofun⟩

/-- The numeral that an integer is written as. -/
def ofInt (i : Int) : Numeral :=
  decimal (decide (i < 0)) (Nat.toDigits 10 i.natAbs) [] Nat.toDigits_ne_nil toDigits_isDigit
    (List.forall_mem_nil _)

theorem ofInt_text (i : Int) : String.ofList (ofInt i).text = toString i := by
  rw [← String.toList_inj, String.toList_ofList]
  cases i with
  | ofNat k =>
    change _ = (toString k).toList
    simp [ofInt, decimal, text, unsigned, pointText, powerText]
  | negSucc k =>
    change _ = ("-" ++ toString (k + 1)).toList
    simp [ofInt, decimal, text, unsigned, pointText, powerText]

/-- A numeral has a point if it has digits behind it. -/
theorem point_mem_iff : '.' ∈ n.text ↔ n.fraction ≠ [] := by
  have before : '.' ∉ n.start := start_ordinary (by decide) (by decide)
  rw [text_eq, List.mem_append, List.mem_append]
  by_cases nothing : n.fraction = [] <;> simp [before, n.point_not_power, pointText, nothing]

/-- A numeral without digits behind a point is left as it is. -/
theorem dropFraction_whole (nothing : n.fraction = []) : Value.dropFraction n.text = n.text :=
  Value.dropFraction_plain (by simp [point_mem_iff, nothing])

/-- The zeros at the end of a fraction do not count. -/
theorem dropFraction_fraction (plain : n.power = none) :
    ∃ m : Numeral, m.negative = n.negative ∧ m.value = n.value ∧
      Value.dropFraction n.text = m.text := by
  by_cases nothing : n.fraction = []
  · exact ⟨n, rfl, rfl, dropFraction_whole nothing⟩
  · obtain ⟨m, negative, whole, fraction, power⟩ : ∃ m : Numeral, m.negative = n.negative ∧
        m.whole = n.whole ∧ m.fraction = withoutZeros n.fraction ∧ m.power = none :=
      ⟨{ n with
        fraction := withoutZeros n.fraction
        fraction_digits := fun c member => n.fraction_digits c (withoutZeros_mem member) },
        rfl, rfl, rfl, plain⟩
    refine ⟨m, negative, ?_, ?_⟩
    · obtain ⟨z, parts⟩ := withoutZeros_append n.fraction
      have length : (n.fraction.length : Int) = (withoutZeros n.fraction).length + z := by
        conv_lhs => rw [parts]
        simp
      have digits : digitsValue (n.whole ++ n.fraction) =
          digitsValue (n.whole ++ withoutZeros n.fraction) * 10 ^ z := by
        conv_lhs => rw [parts, ← List.append_assoc]
        exact digitsValue_append_zeros
      have places : (10 : ℚ) ^ (powerValue none - (withoutZeros n.fraction).length : Int) =
          10 ^ z * 10 ^ (powerValue none - ((withoutZeros n.fraction).length + z) : Int) := by
        rw [← zpow_natCast, ← zpow_add₀ (by norm_num)]
        congr 1
        ring
      rw [value, value, whole, fraction, power, plain, digits, length, places]
      push_cast
      ring
    · have same : m.start = n.start := by rw [start, start, negative, whole]
      rw [text_eq, text_eq, same, fraction, power, plain, powerText, List.append_nil, List.append_nil,
        pointText, if_neg nothing]
      exact Value.dropFraction_point (fraction_ordinary (by decide))

variable {sign : Bool} {digits : List Char}

/-- Behind a fraction, the zeros at the end of the power of ten are cut off. -/
theorem dropFraction_power (power : n.power = some (sign, digits)) (nonzero : digitsValue digits ≠ 0)
    (some : n.fraction ≠ []) :
    ∃ m : Numeral, m.negative = n.negative ∧ m.whole = n.whole ∧ m.fraction = n.fraction ∧
      m.power = .some (sign, withoutZeros digits) ∧ Value.dropFraction n.text = m.text := by
  have kept : withoutZeros digits ≠ [] := fun zeros => nonzero (withoutZeros_eq_nil zeros)
  obtain ⟨m, negative, whole, fraction, shorter⟩ : ∃ m : Numeral, m.negative = n.negative ∧
      m.whole = n.whole ∧ m.fraction = n.fraction ∧ m.power = .some (sign, withoutZeros digits) :=
    ⟨{ n with
      power := .some (sign, withoutZeros digits)
      power_nonempty := fun other same => kept (Prod.mk.inj (Option.some.inj same)).2
      power_digits := fun other found same c member => by
        rw [← (Prod.mk.inj (Option.some.inj same)).2] at member
        exact n.power_digits sign digits power c (withoutZeros_mem member) }, rfl, rfl, rfl, rfl⟩
  refine ⟨m, negative, whole, fraction, shorter, ?_⟩
  have single : '.' ∉ n.fraction ++ powerText n.power := by
    rw [List.mem_append, not_or]
    exact ⟨fraction_ordinary (by decide), n.point_not_power⟩
  have behind (ds : List Char) : n.fraction ++ powerText (.some (sign, ds)) =
      n.fraction ++ ['e', if sign then '-' else '+'] ++ ds := by simp [powerText]
  have same : m.start = n.start := by rw [start, start, negative, whole]
  rw [text_eq, text_eq, same, fraction, shorter, pointText, if_neg some, List.cons_append,
    List.cons_append, Value.dropFraction_point single, power, behind, behind,
    withoutZeros_append_of_ne _ kept, pointText, if_neg (by simp)]

/-- Without a zero at its end, the power of ten stays. -/
theorem withoutZeros_eq_self (last : ds.getLast? ≠ some '0') : withoutZeros ds = ds := by
  rw [← List.head?_reverse] at last
  unfold withoutZeros
  cases turned : ds.reverse with
  | nil => simpa using turned.symm
  | cons c rest =>
    have other : c ≠ '0' := by simpa [turned] using last
    rw [List.dropWhile_cons_of_neg (by simpa using other), ← turned, List.reverse_reverse]

theorem withoutZeros_concat (last : ds.getLast? = some '0') :
    ∃ z, 0 < z ∧ ds = withoutZeros ds ++ List.replicate z '0' := by
  obtain ⟨z, parts⟩ := withoutZeros_append ds
  refine ⟨z, Nat.pos_of_ne_zero ?_, parts⟩
  rintro rfl
  rw [← List.head?_reverse] at last
  have kept : (ds.reverse.dropWhile (· = '0')) = ds.reverse := by
    have := congrArg List.reverse parts
    simpa [withoutZeros] using this.symm
  have first := List.head?_dropWhile_not (fun c : Char => decide (c = '0')) ds.reverse
  rw [kept, last] at first
  simp at first

end Numeral

namespace Double

variable {d : Double} {x : ℚ} {digits : List Char}

/-- A positional text has digits on both sides of its point, and the value of the decimal that it writes. -/
theorem positional_parts (nonempty : digits ≠ []) (decimal : ∀ c ∈ digits, c.isDigit = true)
    (exponent : Int) :
    ∃ whole fraction, positional digits exponent = whole ++ '.' :: fraction ∧
      (whole ≠ [] ∧ ∀ c ∈ whole, c.isDigit = true) ∧
      (fraction ≠ [] ∧ ∀ c ∈ fraction, c.isDigit = true) ∧
      (digitsValue (whole ++ fraction) : ℚ) * 10 ^ (0 - (fraction.length : Int)) =
        digitsValue digits * 10 ^ exponent := by
  have zero : '0'.isDigit = true := by decide
  have zeros (z : Nat) : ∀ c ∈ List.replicate z '0', c.isDigit = true := fun c member => by
    rw [(List.mem_replicate.mp member).2]
    exact zero
  unfold positional
  by_cases up : 0 ≤ exponent
  · obtain ⟨z, rfl⟩ := Int.eq_ofNat_of_zero_le up
    rw [if_pos up, Int.toNat_natCast]
    refine ⟨digits ++ List.replicate z '0', ['0'], rfl, ⟨by simp [nonempty], ?_⟩,
      ⟨by simp, by simp⟩, ?_⟩
    · intro c member
      rcases List.mem_append.mp member with inside | inside
      · exact decimal c inside
      · exact zeros z c inside
    · rw [digitsValue_append, digitsValue_append_zeros]
      have last : digitsValue ['0'] = 0 := rfl
      rw [last]
      push_cast
      norm_num
      ring
  · obtain ⟨places, same⟩ : ∃ places : Nat, -exponent = places := Int.eq_ofNat_of_zero_le (by omega)
    have down : exponent = 0 - (places : Int) := by omega
    rw [if_neg up, same, Int.toNat_natCast]
    simp only
    by_cases inner : places < digits.length
    · rw [if_pos inner]
      refine ⟨digits.take (digits.length - places), digits.drop (digits.length - places), rfl,
        ⟨?_, fun c member => decimal c (List.mem_of_mem_take member)⟩,
        ⟨?_, fun c member => decimal c (List.mem_of_mem_drop member)⟩, ?_⟩
      · simp [nonempty]
        omega
      · simp
        omega
      · rw [List.take_append_drop, List.length_drop, down]
        congr 3
        omega
    · rw [if_neg inner]
      refine ⟨['0'], List.replicate (places - digits.length) '0' ++ digits, rfl, ⟨by simp, by simp⟩,
        ⟨by simp [nonempty], ?_⟩, ?_⟩
      · intro c member
        rcases List.mem_append.mp member with inside | inside
        · exact zeros _ c inside
        · exact decimal c inside
      · have value : digitsValue (['0'] ++ (List.replicate (places - digits.length) '0' ++ digits)) =
            digitsValue digits := by
          rw [digitsValue_append, digitsValue_append, digitsValue_zeros]
          simp [digitsValue, digitValue]
        rw [value, down, List.length_append, List.length_replicate]
        congr 3
        omega

/-- A scientific text has one digit before its point, and a signed exponent. -/
theorem scientific_parts (first : Char) (rest : List Char) (exponent : Int) :
    scientific (first :: rest) exponent = first :: (Numeral.pointText rest ++
      Numeral.powerText (some (decide (exponent < 0), Nat.toDigits 10 exponent.natAbs))) := by
  cases rest <;> simp [scientific, Numeral.pointText, Numeral.powerText]

theorem powerValue_toDigits (exponent : Int) :
    Numeral.powerValue (some (decide (exponent < 0), Nat.toDigits 10 exponent.natAbs)) = exponent := by
  simp only [Numeral.powerValue, digitsValue_toDigits, decide_eq_true_eq]
  split <;> omega

/-- A positional text is that of a numeral without a power of ten. -/
theorem positional_numeral (negative : Bool) (nonempty : digits ≠ [])
    (decimal : ∀ c ∈ digits, c.isDigit = true) (exponent : Int) :
    ∃ n : Numeral, n.negative = negative ∧ n.unsigned = positional digits exponent ∧
      n.value = digitsValue digits * 10 ^ exponent ∧ n.power = none := by
  obtain ⟨whole, fraction, parts, ⟨some, all⟩, ⟨some', all'⟩, same⟩ :=
    positional_parts nonempty decimal exponent
  refine ⟨⟨negative, whole, fraction, none, some, all, all', nofun, nofun⟩, rfl, ?_, same, rfl⟩
  rw [parts]
  simp [Numeral.unsigned, Numeral.pointText, Numeral.powerText, some']

/-- A scientific text is that of a numeral with one digit before its point. -/
theorem scientific_numeral (negative : Bool) (nonempty : digits ≠ [])
    (decimal : ∀ c ∈ digits, c.isDigit = true) (exponent : Int) :
    ∃ n : Numeral, n.negative = negative ∧ n.unsigned = scientific digits exponent ∧
      n.value = digitsValue digits * 10 ^ (exponent - (digits.length - 1 : Int)) ∧
      n.power = some (decide (exponent < 0), Nat.toDigits 10 exponent.natAbs) := by
  obtain ⟨first, rest, rfl⟩ := List.exists_cons_of_ne_nil nonempty
  have head : ∀ c ∈ [first], c.isDigit = true := by simpa using decimal first List.mem_cons_self
  have tail : ∀ c ∈ rest, c.isDigit = true := fun c member =>
    decimal c (List.mem_cons_of_mem first member)
  refine ⟨⟨negative, [first], rest, _, by simp, head, tail, ?_, ?_⟩, rfl, ?_, ?_, rfl⟩
  · simp [Nat.toDigits_ne_nil]
  · rintro sign digits same
    rw [← (Prod.mk.inj (Option.some.inj same)).2]
    exact toDigits_isDigit
  · rw [scientific_parts]
    simp [Numeral.unsigned]
  · simp [Numeral.value, powerValue_toDigits]

/-- The text of a double is a numeral whose value rounds to the double. With a power of ten, the power is not
that of one. -/
theorem text_numeral (d : Double) : ∃ n : Numeral, n.negative = d.negative ∧
    d.text = String.ofList n.text ∧ d.Claims n.value ∧
    ∀ sign digits, n.power = some (sign, digits) →
      d.significand ≠ 0 ∧ digitsValue digits ≠ 0 := by
  by_cases nothing : d.significand = 0
  · have digit : ∀ c ∈ ['0'], c.isDigit = true := by simp
    obtain ⟨n, sign, written, value, power⟩ :=
      positional_numeral d.negative (List.cons_ne_nil '0' []) digit 0
    refine ⟨n, sign, ?_, ?_, by simp [power]⟩
    · simp only [text, if_pos nothing, Numeral.text, sign, written]
      rfl
    · have zero : n.value = d.magnitude := by
        rw [value, magnitude, nothing]
        simp [digitsValue, digitValue]
      rw [zero]
      exact d.claims_magnitude
  · have claims := shortest_claims nothing
    obtain ⟨digits, same⟩ : ∃ digits, Nat.toDigits 10 d.shortest.digits = digits := ⟨_, rfl⟩
    have printed : (toString d.shortest.digits).toList = digits := by simpa using same
    have value : digitsValue digits = d.shortest.digits := by rw [← same, digitsValue_toDigits]
    have decimal : ∀ c ∈ digits, c.isDigit = true := by rw [← same]; exact toDigits_isDigit
    have nonempty : digits ≠ [] := by rw [← same]; exact Nat.toDigits_ne_nil
    rw [Decimal.value, ← value] at claims
    obtain ⟨place, placed⟩ : ∃ place, d.shortest.exponent + digits.length - 1 = place := ⟨_, rfl⟩
    by_cases inner : positionalExponents.1 ≤ place ∧ place ≤ positionalExponents.2
    · obtain ⟨n, sign, written, value, power⟩ :=
        positional_numeral d.negative nonempty decimal d.shortest.exponent
      refine ⟨n, sign, ?_, by rwa [value], by simp [power]⟩
      simp only [text, if_neg nothing, printed, placed, if_pos inner, Numeral.text, sign, written]
    · obtain ⟨n, sign, written, value, power⟩ :=
        scientific_numeral d.negative nonempty decimal place
      have exponent : place - (digits.length - 1 : Int) = d.shortest.exponent := by omega
      rw [exponent] at value
      refine ⟨n, sign, ?_, by rwa [value], ?_⟩
      · simp only [text, if_neg nothing, printed, placed, if_neg inner, Numeral.text, sign, written]
      · rintro negative power' same
        rw [power] at same
        refine ⟨nothing, ?_⟩
        rw [← (Prod.mk.inj (Option.some.inj same)).2, digitsValue_toDigits]
        simp only [positionalExponents, not_and_or, not_le] at inner
        omega

/-- Two ratios that round to the same double are not more than three times apart. -/
theorem Claims.within_three {y : ℚ} (nonzero : d.significand ≠ 0) (first : d.Claims x)
    (second : d.Claims y) : 0 < x ∧ y ≤ 3 * x := by
  have one : (1 : ℚ) ≤ d.significand := by exact_mod_cast Nat.one_le_iff_ne_zero.mpr nonzero
  have wide : d.step ≤ d.magnitude := by
    unfold magnitude
    nlinarith [d.step_pos]
  have low := first.low_le
  have high := second.le_high
  unfold Double.low at low
  unfold Double.high at high
  constructor <;> linarith [d.stepDown_le, d.step_pos]

/-- A shift of the decimal point leads to another double. -/
theorem Claims.not_shifted {y : ℚ} {k : Nat} (nonzero : d.significand ≠ 0) (first : d.Claims x)
    (second : d.Claims y) (shifted : 0 < k) : y ≠ x * 10 ^ k := by
  rintro rfl
  obtain ⟨positive, near⟩ := first.within_three nonzero second
  have wide : (10 : ℚ) ^ 1 ≤ 10 ^ k := pow_le_pow_right₀ (by norm_num) shifted
  nlinarith

/-- The text of a double has a point and a power of ten, and the power ends in a zero. -/
def Clipped (d : Double) : Prop :=
  '.' ∈ d.text.toList ∧ 'e' ∈ d.text.toList ∧ d.text.toList.getLast? = some '0'

end Double

namespace Numeral

variable {n : Numeral} {sign : Bool} {digits : List Char}

theorem power_mem_iff : 'e' ∈ n.text ↔ n.power ≠ none := by
  have before : 'e' ∉ n.start := start_ordinary (by decide) (by decide)
  have inside : 'e' ∉ pointText n.fraction := by
    unfold pointText
    split
    · simp
    · simpa using fraction_ordinary (n := n) (by decide)
  rw [text_eq, List.mem_append, List.mem_append]
  cases n.power <;> simp [before, inside, powerText]

theorem getLast?_text (power : n.power = some (sign, digits)) : n.text.getLast? = digits.getLast? := by
  have nonempty : digits ≠ [] := by
    rintro rfl
    exact n.power_nonempty sign power
  have split : n.text = n.start ++ (pointText n.fraction ++ ['e', if sign then '-' else '+']) ++ digits := by
    rw [text_eq, power]
    simp [powerText]
  rw [split, List.getLast?_append_of_ne_nil _ nonempty]

/-- With zeros cut off its end, a power of ten is another one by nine places at least. -/
theorem clipped_apart {m : Numeral} (whole : m.whole = n.whole) (fraction : m.fraction = n.fraction)
    (power : n.power = some (sign, digits)) (shorter : m.power = some (sign, withoutZeros digits))
    (nonzero : digitsValue digits ≠ 0) (last : digits.getLast? = some '0') :
    ∃ k, 9 ≤ k ∧ (n.value = m.value * 10 ^ k ∨ m.value = n.value * 10 ^ k) := by
  obtain ⟨z, positive, parts⟩ := withoutZeros_concat last
  have factor : digitsValue digits = digitsValue (withoutZeros digits) * 10 ^ z := by
    conv_lhs => rw [parts]
    exact digitsValue_append_zeros
  obtain ⟨short, known⟩ : ∃ short, digitsValue (withoutZeros digits) = short := ⟨_, rfl⟩
  rw [known] at factor
  have tens : short * 10 ≤ digitsValue digits := by
    rw [factor]
    exact Nat.mul_le_mul_left _ (Nat.le_self_pow positive.ne' 10)
  have some : short ≠ 0 := by
    rintro rfl
    exact nonzero (by simpa using factor)
  refine ⟨digitsValue digits - short, by omega, ?_⟩
  have moved (i : Int) : (10 : ℚ) ^ (i + (digitsValue digits - short : Nat)) =
      10 ^ i * 10 ^ (digitsValue digits - short) := by
    rw [zpow_add₀ (by norm_num), zpow_natCast]
  cases sign with
  | false =>
    left
    rw [value, value, whole, fraction, power, shorter, mul_assoc, ← moved]
    simp only [powerValue, Bool.false_eq_true, if_false, known]
    congr 2
    omega
  | true =>
    right
    rw [value, value, whole, fraction, power, shorter, mul_assoc, ← moved]
    simp only [powerValue, if_true, known]
    congr 2
    omega

end Numeral

/-- A number whose text in the output loses zeros of its power of ten. -/
def Number.Clipped : Number → Prop
  | .integer _ => False
  | .double d => d.Clipped

namespace Value

/-- A double is read back from its text exactly if no zero of its power of ten has been cut off. -/
theorem double_text_read (d : Double) :
    ∃ b, Binary64.read? (Value.number (.double d)).text = some b ∧ (b = .finite d ↔ ¬d.Clipped) := by
  obtain ⟨n, negative, written, claims, scientific⟩ := d.text_numeral
  have letters : d.text.toList = n.text := by rw [written, String.toList_ofList]
  have clipped : d.Clipped ↔ n.fraction ≠ [] ∧ n.power ≠ none ∧ n.text.getLast? = some '0' := by
    rw [Double.Clipped, letters, Numeral.point_mem_iff, Numeral.power_mem_iff]
  have output : (Value.number (.double d)).text = String.ofList (dropFraction n.text) := by
    rw [text, letters]
  -- A numeral that has kept its value is read as the double itself.
  have kept (m : Numeral) (sign : m.negative = n.negative) (value : m.value = n.value)
      (same : dropFraction n.text = m.text) :
      ∃ b, Binary64.read? (Value.number (.double d)).text = some b ∧ b = .finite d := by
    obtain ⟨b, read, rounds⟩ := m.read_rounds
    rw [output, same]
    refine ⟨b, read, rounds.unique ?_⟩
    rw [value, sign]
    exact ⟨negative.symm, claims⟩
  by_cases whole : n.fraction = []
  · obtain ⟨b, read, same⟩ := kept n rfl rfl (Numeral.dropFraction_whole whole)
    exact ⟨b, read, by simp [same, clipped, whole]⟩
  · cases power : n.power with
    | none =>
      obtain ⟨m, sign, value, same⟩ := Numeral.dropFraction_fraction power
      obtain ⟨b, read, same⟩ := kept m sign value same
      exact ⟨b, read, by simp [same, clipped, power]⟩
    | some power' =>
      obtain ⟨sign, digits⟩ := power'
      obtain ⟨nonzero, counted⟩ := scientific sign digits power
      obtain ⟨m, sameSign, sameWhole, sameFraction, shorter, same⟩ :=
        Numeral.dropFraction_power power counted whole
      by_cases last : digits.getLast? = some '0'
      · obtain ⟨b, read, rounds⟩ := m.read_rounds
        rw [output, same]
        refine ⟨b, read, ?_⟩
        have zero : n.text.getLast? = some '0' := by rw [Numeral.getLast?_text power, last]
        have lost : d.Clipped := clipped.mpr ⟨whole, by simp [power], zero⟩
        refine iff_of_false ?_ (not_not.mpr lost)
        rintro rfl
        obtain ⟨k, far, apart⟩ := Numeral.clipped_apart sameWhole sameFraction power shorter counted last
        rcases apart with up | down
        · exact Double.Claims.not_shifted nonzero rounds.2 claims (by omega) up
        · exact claims.not_shifted nonzero rounds.2 (by omega) down
      · have value : m.value = n.value := by
          rw [Numeral.value, Numeral.value, sameWhole, sameFraction, shorter, power,
            Numeral.withoutZeros_eq_self last]
        obtain ⟨b, read, same⟩ := kept m sameSign value same
        refine ⟨b, read, ?_⟩
        rw [clipped, Numeral.getLast?_text power]
        simp [same, last]

/-- An integer is read back from its text as the double that it is taken as. -/
theorem integer_text_read (i : Int) :
    Binary64.read? (Value.number (.integer i)).text = some (Binary64.ofInt i) := by
  obtain ⟨b, read, rounds⟩ := (Numeral.ofInt i).read_rounds
  rw [text, ← Numeral.ofInt_text, read]
  have same := Binary64.ofRatio_rounds i.natAbs (decide (i < 0)) one_pos
  have value : (Numeral.ofInt i).value = (i.natAbs : ℚ) / (1 : Nat) := by
    simp [Numeral.ofInt, Numeral.decimal, Numeral.value, Numeral.powerValue, digitsValue_toDigits]
  rw [value] at rounds
  rw [rounds.unique same]
  rfl

theorem number_text_reads (n : Number) :
    ∃ b, toBinary64 (.string (Value.number n).text) = .ok b ∧ (b = n.toBinary64 ↔ ¬n.Clipped) := by
  cases n with
  | integer i =>
    refine ⟨Binary64.ofInt i, ?_, by simp [Number.Clipped, Number.toBinary64]⟩
    rw [toBinary64, integer_text_read]
  | double d =>
    obtain ⟨b, read, same⟩ := double_text_read d
    exact ⟨b, by rw [toBinary64, read], same⟩

/-- The text of a number in the output is always read as a double, and this is the double of the number
unless zeros have been cut off its power of ten. So two numbers of one text have the same double if
neither has lost such zeros. -/
theorem number_text_read_back (n : Number) :
    (∃ b, toBinary64 (.string (Value.number n).text) = .ok b ∧ (b = n.toBinary64 ↔ ¬n.Clipped)) ∧
      ∀ m : Number, ¬n.Clipped → ¬m.Clipped → (Value.number n).text = (Value.number m).text →
        n.toBinary64 = m.toBinary64 := by
  refine ⟨number_text_reads n, fun m kept kept' same => ?_⟩
  obtain ⟨b, read, back⟩ := number_text_reads n
  obtain ⟨c, read', back'⟩ := number_text_reads m
  rw [same, read'] at read
  rw [← back.mpr kept, ← back'.mpr kept']
  exact (Except.ok.inj read).symm

/-- The double `1.5e+20`. -/
def longDouble : Double where
  negative := false
  significand := 4577636718750000
  exponent := 15
  significand_lt := by decide
  exponent_ge := by decide
  exponent_le := by decide
  normal := .inl (by decide)

/-- Of `1.5e+20` the output shows `1.5e+2`, which is `150`. -/
theorem number_text_clipped :
    longDouble.text = "1.5e+20" ∧ (Value.number (.double longDouble)).text = "1.5e+2" ∧
      toBinary64 (.string "1.5e+2") = .ok (Binary64.ofInt 150) ∧
      (Number.double longDouble).toBinary64 ≠ Binary64.ofInt 150 := by
  refine ⟨by decide +kernel, by decide +kernel, by decide +kernel, by decide +kernel⟩

end Value

end TextTemplate
