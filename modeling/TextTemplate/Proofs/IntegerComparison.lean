import TextTemplate.Proofs.ComparisonLaws
import TextTemplate.Proofs.Rounding

/-! Comparison of integers. Two integers are compared through the doubles nearest to them. Below 2 ^ 53 every
integer is a double, and comparison is that of the integers. Further out neighbours may
share a double and then count as equal, but no order is ever reversed. -/
namespace TextTemplate

namespace Double

variable {d e : Double} {x : ℚ}

/-- No double is nearer to a number, and if another one is as near, then this is the one with the even
significand. -/
structure IsNearest (d : Double) (x : ℚ) : Prop where
  nearest : ∀ e : Double, |x - d.value| ≤ |x - e.value|
  even : ∀ e : Double, |x - e.value| = |x - d.value| → e.value = d.value ∨ d.significand % 2 = 0

theorem magnitude_nonneg (d : Double) : 0 ≤ d.magnitude :=
  mul_nonneg (Nat.cast_nonneg _) d.step_pos.le

theorem abs_value (d : Double) : |d.value| = d.magnitude := by
  unfold value
  split
  · rw [abs_neg, abs_of_nonneg d.magnitude_nonneg]
  · exact abs_of_nonneg d.magnitude_nonneg

/-- The smallest positive double. -/
def smallest : ℚ := 2 ^ (-1074 : Int)

theorem smallest_pos : 0 < smallest := by
  unfold smallest
  positivity

/-- Order is decided on multiples of the smallest positive double, which are to scale. -/
theorem value_eq (d : Double) : d.value = d.units * smallest := by
  obtain ⟨k, shifted⟩ := Int.eq_ofNat_of_zero_le (a := d.exponent + 1074) (by linarith [d.exponent_ge])
  have scale : d.magnitude =
      ((d.significand * Nat.pow 2 (d.exponent + 1074).toNat : Nat) : ℚ) * smallest := by
    have power : (2 : ℚ) ^ d.exponent = 2 ^ k * smallest := by
      rw [smallest, ← zpow_natCast, ← zpow_add₀ two_ne_zero]
      congr 1
      omega
    rw [shifted, magnitude, step, power]
    simp [mul_assoc]
  unfold units value
  split
  · rw [scale]
    push_cast
    ring
  · exact_mod_cast scale

theorem units_lt_iff : d.units < e.units ↔ d.value < e.value := by
  rw [value_eq, value_eq, mul_lt_mul_iff_left₀ smallest_pos, Int.cast_lt]

theorem units_eq_iff : d.units = e.units ↔ d.value = e.value := by
  rw [value_eq, value_eq, mul_left_inj' smallest_pos.ne', Int.cast_inj]

theorem compare_units : compare d.units e.units = cmp d.value e.value := by
  rw [← cmp_eq_compare]
  rcases lt_trichotomy d.value e.value with less | equal | greater
  · rw [(cmp_eq_lt_iff _ _).mpr less, (cmp_eq_lt_iff _ _).mpr (units_lt_iff.mpr less)]
  · rw [(cmp_eq_eq_iff _ _).mpr equal, (cmp_eq_eq_iff _ _).mpr (units_eq_iff.mpr equal)]
  · rw [(cmp_eq_gt_iff _ _).mpr greater, (cmp_eq_gt_iff _ _).mpr (units_lt_iff.mpr greater)]

/-- A ratio that rounds to a double of odd significand is nearer to it than to any other. -/
theorem Claims.nearer (claims : d.Claims x) (odd : d.significand % 2 = 1)
    (other : e.magnitude ≠ d.magnitude) : |x - d.magnitude| < |x - e.magnitude| := by
  obtain ⟨first, last⟩ := claims.inside odd
  unfold low at first
  unfold high at last
  rcases other.lt_or_gt with less | greater
  · have down := (gap less).2
    rw [abs_of_nonneg (a := x - e.magnitude) (by linarith [d.stepDown_pos])]
    exact abs_lt.mpr ⟨by linarith [d.stepDown_le], by linarith⟩
  · have up := (gap greater).1
    rw [abs_of_nonpos (a := x - e.magnitude) (by linarith [d.step_pos])]
    exact abs_lt.mpr ⟨by linarith, by linarith [d.stepDown_le]⟩

/-- What rounds to a double, without the sign, has it as its nearest one with the sign. -/
theorem Claims.isNearest (claims : d.Claims |x|) (sign : d.negative = decide (x < 0)) :
    d.IsNearest x := by
  have together : |x - d.value| = |(|x| - d.magnitude)| := by
    unfold value
    by_cases negative : x < 0
    · rw [sign, if_pos (by simpa using negative), abs_of_neg negative, ← abs_neg]
      congr 1
      ring
    · rw [sign, if_neg (by simpa using negative), abs_of_nonneg (not_lt.mp negative)]
  have apart (e : Double) : |(|x| - e.magnitude)| ≤ |x - e.value| := by
    rw [← abs_value e]
    exact abs_abs_sub_abs_le x e.value
  refine ⟨fun e => ?_, fun e tie => ?_⟩
  · rw [together]
    exact (claims.nearest e).trans (apart e)
  · by_cases odd : d.significand % 2 = 1
    · left
      have same : e.magnitude = d.magnitude := by
        by_contra other
        exact absurd (claims.nearer odd other)
          (not_lt.mpr ((apart e).trans (tie.trans together).le))
      -- Of two doubles that differ in sign only, the one on the side of the number is nearer.
      have absolutes : |e.value| = |d.value| := by rw [abs_value, abs_value, same]
      rcases abs_eq_abs.mp absolutes with equal | opposite
      · exact equal
      · rw [opposite] at tie ⊢
        rcases abs_eq_abs.mp tie with middle | middle
        · linarith
        · have centre : x = 0 := by linarith
          have least := claims.nearest (zero false)
          have nothing : (zero false).magnitude = 0 := by simp [magnitude, zero]
          rw [centre, nothing, abs_zero, zero_sub, abs_neg, sub_zero, abs_zero,
            abs_of_nonneg d.magnitude_nonneg, ← abs_value] at least
          have : d.value = 0 := abs_eq_zero.mp (le_antisymm least (abs_nonneg _))
          linarith
    · right
      omega

/-- Every natural number up to `2 ^ 53` is a double. -/
theorem exists_magnitude {n : Nat} (small : n ≤ 2 ^ 53) (negative : Bool) :
    ∃ d : Double, d.negative = negative ∧ d.magnitude = n := by
  by_cases nothing : n = 0
  · exact ⟨zero negative, rfl, by simp [magnitude, zero, nothing]⟩
  · by_cases last : n = 2 ^ 53
    · refine ⟨⟨negative, 2 ^ 52, 1, by decide, by decide, by decide, .inl le_rfl⟩, rfl, ?_⟩
      rw [magnitude, step, last]
      norm_num
    · -- The significand is the number moved up to 53 bits.
      have least := Nat.log2_self_le nothing
      have most : n < 2 ^ (n.log2 + 1) := Nat.lt_log2_self
      have bits : n.log2 ≤ 52 := by
        have : n.log2 < 53 := (Nat.log2_lt nothing).mpr (by omega)
        omega
      have upper : n * 2 ^ (52 - n.log2) < significandEnd := by
        calc n * 2 ^ (52 - n.log2) < 2 ^ (n.log2 + 1) * 2 ^ (52 - n.log2) :=
              Nat.mul_lt_mul_of_pos_right most (Nat.two_pow_pos _)
          _ = 2 ^ 53 := by rw [← pow_add]; congr 1; omega
      have lower : significandStart ≤ n * 2 ^ (52 - n.log2) := by
        calc significandStart = 2 ^ n.log2 * 2 ^ (52 - n.log2) := by
              rw [← pow_add, significandStart]; congr 1; omega
          _ ≤ n * 2 ^ (52 - n.log2) := Nat.mul_le_mul_right _ least
      refine ⟨⟨negative, n * 2 ^ (52 - n.log2), (n.log2 : Int) - 52, upper, by omega, by omega,
        .inl lower⟩, rfl, ?_⟩
      have power : (2 : ℚ) ^ (52 - n.log2) * 2 ^ ((n.log2 : Int) - 52) = 1 := by
        rw [← zpow_natCast, ← zpow_add₀ two_ne_zero, Nat.cast_sub bits]
        simp
      rw [magnitude, step]
      push_cast
      rw [mul_assoc, power, mul_one]

end Double

/-- The double that an integer is taken as; there is one, since no integer of the range is beyond the greatest
double. -/
def Double.ofInt (i : Int) : Double :=
  match Binary64.ofInt i with
  | .finite d => d
  | _ => Double.zero false

theorem Number.inRange_iff {i : Int} : Number.inRange i = true ↔ -2 ^ 63 ≤ i ∧ i < 2 ^ 64 := by
  simp [Number.inRange]

section Integers
open Double

variable {a b i : Int}

theorem ofInt_claims (range : Number.inRange i = true) :
    Binary64.ofInt i = .finite (ofInt i) ∧ (ofInt i).negative = decide (i < 0) ∧
      (ofInt i).Claims |(i : ℚ)| := by
  have rounds := Binary64.ofRatio_rounds i.natAbs (decide (i < 0)) one_pos
  rw [Nat.cast_one, div_one, Nat.cast_natAbs, Int.cast_abs] at rounds
  unfold Double.ofInt
  change (Binary64.ofInt i).Rounds _ _ at rounds
  cases result : Binary64.ofInt i with
  | nan => rw [result] at rounds; cases rounds
  | finite d => rw [result] at rounds; exact ⟨rfl, rounds⟩
  | infinite sign =>
    rw [result] at rounds
    obtain ⟨first, last⟩ := Number.inRange_iff.mp range
    have first : (-2 ^ 63 : ℚ) ≤ i := by exact_mod_cast first
    have last : (i : ℚ) < 2 ^ 64 := by exact_mod_cast last
    have small : |(i : ℚ)| < 2 ^ 64 := abs_lt.mpr ⟨by linarith, last⟩
    have large : (1 : ℚ) * 2 ^ 64 ≤ (2 ^ 53 - 1 / 2) * topStep := by
      refine mul_le_mul (by norm_num) ?_ (by norm_num) (by norm_num)
      rw [topStep, ← zpow_natCast]
      exact zpow_le_zpow_right₀ one_le_two (by norm_num)
    have beyond := rounds.2
    unfold overflow at beyond
    linarith

/-- An integer is compared as the double nearest to it. -/
theorem ofInt_nearest (range : Number.inRange i = true) : (ofInt i).IsNearest i := by
  obtain ⟨-, sign, claims⟩ := ofInt_claims range
  apply claims.isNearest
  rw [sign]
  simp

/-- Integers of at most 53 bits are doubles. -/
theorem ofInt_exact (small : i.natAbs ≤ 2 ^ 53) : (ofInt i).value = i := by
  have range : Number.inRange i = true := Number.inRange_iff.mpr (by omega)
  obtain ⟨-, sign, claims⟩ := ofInt_claims range
  obtain ⟨d, same, magnitude⟩ := exists_magnitude (n := i.natAbs) small (decide (i < 0))
  rw [Nat.cast_natAbs, Int.cast_abs] at magnitude
  rw [← magnitude] at claims
  rw [claims.unique (sign.trans same.symm) (claims_magnitude d), value, magnitude, same]
  by_cases negative : i < 0
  · have : (i : ℚ) < 0 := by exact_mod_cast negative
    rw [if_pos (by simpa using negative), abs_of_neg this, neg_neg]
  · have : (0 : ℚ) ≤ i := by exact_mod_cast not_lt.mp negative
    rw [if_neg (by simpa using negative), abs_of_nonneg this]

/-- The order of two integers is never reversed. -/
theorem ofInt_mono (first : Number.inRange a = true) (second : Number.inRange b = true)
    (le : a ≤ b) : (ofInt a).value ≤ (ofInt b).value := by
  obtain ⟨-, signA, claimsA⟩ := ofInt_claims first
  obtain ⟨-, signB, claimsB⟩ := ofInt_claims second
  have cast : (a : ℚ) ≤ b := by exact_mod_cast le
  have leastA := (ofInt a).magnitude_nonneg
  have leastB := (ofInt b).magnitude_nonneg
  unfold value
  rw [signA, signB]
  by_cases negativeA : a < 0
  · rw [if_pos (by simpa using negativeA)]
    by_cases negativeB : b < 0
    · have less : (b : ℚ) < 0 := by exact_mod_cast negativeB
      rw [if_pos (by simpa using negativeB)]
      rw [abs_of_neg (cast.trans_lt less)] at claimsA
      rw [abs_of_neg less] at claimsB
      exact neg_le_neg (claimsB.mono claimsA (neg_le_neg cast))
    · rw [if_neg (by simpa using negativeB)]
      linarith
  · have nonneg : (0 : ℚ) ≤ a := by exact_mod_cast not_lt.mp negativeA
    have negativeB : ¬b < 0 := by omega
    rw [if_neg (by simpa using negativeA), if_neg (by simpa using negativeB)]
    rw [abs_of_nonneg nonneg] at claimsA
    rw [abs_of_nonneg (nonneg.trans cast)] at claimsB
    exact claimsA.mono claimsB cast

/-- Integers of which one has at most 53 bits keep their order strictly: next to it there is room for no
other integer. -/
theorem ofInt_strict (first : Number.inRange a = true) (second : Number.inRange b = true)
    (small : a.natAbs < 2 ^ 53 ∨ b.natAbs < 2 ^ 53) (less : a < b) : (ofInt a).value < (ofInt b).value := by
  obtain ⟨leastA, mostA⟩ := Number.inRange_iff.mp first
  obtain ⟨leastB, mostB⟩ := Number.inRange_iff.mp second
  rcases small with small | small
  · have next : (a + 1).natAbs ≤ 2 ^ 53 := by omega
    calc (ofInt a).value = a := ofInt_exact small.le
      _ < (a + 1 : Int) := by exact_mod_cast lt_add_one a
      _ = (ofInt (a + 1)).value := (ofInt_exact next).symm
      _ ≤ (ofInt b).value := ofInt_mono (Number.inRange_iff.mpr (by omega)) second less
  · have next : (b - 1).natAbs ≤ 2 ^ 53 := by omega
    calc (ofInt a).value ≤ (ofInt (b - 1)).value :=
          ofInt_mono first (Number.inRange_iff.mpr (by omega)) (by omega)
      _ = (b - 1 : Int) := ofInt_exact next
      _ < b := by exact_mod_cast sub_one_lt b
      _ = (ofInt b).value := (ofInt_exact small.le).symm

/-- The relation of two numbers that an operator other than membership asks for. -/
def Operator.relates (op : Operator) (x y : ℚ) : Bool :=
  match op with
  | .equal => x = y
  | .notEqual => x ≠ y
  | .less => x < y
  | .lessOrEqual => x ≤ y
  | .greater => y < x
  | .greaterOrEqual => y ≤ x
  | .within => false

theorem Operator.relates_iff (op : Operator) (x y : ℚ) : op.relates x y = true ↔ op.Asks x y := by
  cases op <;> simp [Operator.relates, Operator.Asks]

namespace Value

/-- An integer as template data. -/
def ofInt (i : Int) : Value := .number (.integer i)

theorem order_doubles (first : Number.inRange a = true) (second : Number.inRange b = true) :
    (Number.integer a).toBinary64.compare? (Number.integer b).toBinary64 =
      some (cmp (Double.ofInt a).value (Double.ofInt b).value) := by
  rw [Number.toBinary64, Number.toBinary64, (ofInt_claims first).1, (ofInt_claims second).1,
    Binary64.compare?, compare_units]

theorem equals_doubles (first : Number.inRange a = true) (second : Number.inRange b = true) :
    (ofInt a).equals (ofInt b) = decide ((Double.ofInt a).value = (Double.ofInt b).value) := by
  simp only [equals, ofInt, Binary64.equals]
  rw [order_doubles first second, Bool.eq_iff_iff, beq_iff_eq, Option.some.injEq, decide_eq_true_iff]
  exact cmp_eq_eq_iff _ _

/-- Every operator but membership gives what the doubles nearest to two integers relate to. -/
theorem compare_doubles {op : Operator} (first : Number.inRange a = true)
    (second : Number.inRange b = true) (relation : op ≠ .within) :
    compare op (ofInt a) (ofInt b) =
      .ok (op.relates (Double.ofInt a).value (Double.ofInt b).value) := by
  have ordered : order (ofInt a) (ofInt b) = .ok (cmp (Double.ofInt a).value (Double.ofInt b).value) := by
    dsimp only [order, ofInt]
    rw [order_doubles first second]
  obtain ⟨answer, answered, asked⟩ :=
    comparedAs_of_order ordered (equals_doubles first second) op relation
  rw [answered, Except.ok.injEq, Bool.eq_iff_iff, asked, Operator.relates_iff]

/-- The doubles of two integers relate as the integers do if one of these has at most 53 bits. -/
theorem relates_exact (op : Operator) (first : Number.inRange a = true)
    (second : Number.inRange b = true) (small : a.natAbs < 2 ^ 53 ∨ b.natAbs < 2 ^ 53) :
    op.relates (Double.ofInt a).value (Double.ofInt b).value = op.relates a b := by
  rcases lt_trichotomy a b with less | equal | greater
  · have values := ofInt_strict first second small less
    have cast : (a : ℚ) < b := by exact_mod_cast less
    cases op <;> simp [Operator.relates, values, cast, values.ne, cast.ne, values.le, cast.le,
      values.not_ge, cast.not_ge, values.not_gt, cast.not_gt]
  · rw [equal]
    cases op <;> simp [Operator.relates]
  · have values := ofInt_strict second first small.symm greater
    have cast : (b : ℚ) < a := by exact_mod_cast greater
    cases op <;> simp [Operator.relates, values, cast, values.ne', cast.ne', values.le, cast.le,
      values.not_ge, cast.not_ge, values.not_gt, cast.not_gt]

theorem within_doubles {items : List Int} (range : Number.inRange a = true)
    (ranges : ∀ b ∈ items, Number.inRange b = true) :
    compare .within (ofInt a) (.array (items.map ofInt)) =
      .ok (items.any fun b => (Double.ofInt b).value = (Double.ofInt a).value) := by
  simp only [compare, isWithin, List.any_map, Except.ok.injEq]
  rw [Bool.eq_iff_iff, List.any_eq_true, List.any_eq_true]
  exact exists_congr fun b => and_congr_right fun member => by
    rw [Function.comp, equals_doubles (ranges b member) range]

/-- Comparing integers is comparing the doubles nearest to them. It never fails and never reverses an order,
and it is exact where one of the integers lies strictly between `-2 ^ 53` and `2 ^ 53`. An integer is
within an array of integers where one of them has the same nearest double; so an element always is,
and nothing else is if the integer lies between these bounds. -/
theorem compare_integers {items : List Int} (first : Number.inRange a = true)
    (second : Number.inRange b = true) (ranges : ∀ i ∈ items, Number.inRange i = true) :
    (∀ i ∈ a :: b :: items, (Double.ofInt i).IsNearest i) ∧
      (a ≤ b → (Double.ofInt a).value ≤ (Double.ofInt b).value) ∧
      (∀ op ≠ .within, compare op (ofInt a) (ofInt b) =
        .ok (op.relates (Double.ofInt a).value (Double.ofInt b).value)) ∧
      (a.natAbs < 2 ^ 53 ∨ b.natAbs < 2 ^ 53 → ∀ op ≠ .within,
        compare op (ofInt a) (ofInt b) = .ok (op.relates a b)) ∧
      compare .within (ofInt a) (.array (items.map ofInt)) =
        .ok (items.any fun i => (Double.ofInt i).value = (Double.ofInt a).value) ∧
      (a ∈ items → compare .within (ofInt a) (.array (items.map ofInt)) = .ok true) ∧
      (a.natAbs < 2 ^ 53 →
        compare .within (ofInt a) (.array (items.map ofInt)) = .ok (decide (a ∈ items))) := by
  refine ⟨fun i member => ?_, ofInt_mono first second,
    fun op relation => compare_doubles first second relation, fun small op relation => ?_,
    within_doubles first ranges, fun member => ?_, fun small => ?_⟩
  · apply ofInt_nearest
    rcases List.mem_cons.mp member with rfl | member
    · exact first
    · rcases List.mem_cons.mp member with rfl | member
      · exact second
      · exact ranges i member
  · rw [compare_doubles first second relation, relates_exact op first second small]
  · rw [within_doubles first ranges, List.any_eq_true.mpr ⟨a, member, by simp⟩]
  · rw [within_doubles first ranges, Except.ok.injEq, Bool.eq_iff_iff, List.any_eq_true,
      decide_eq_true_iff]
    constructor
    · rintro ⟨i, member, same⟩
      have equal := relates_exact .equal (ranges i member) first (.inr small)
      simp only [Operator.relates, same] at equal
      have : i = a := by simpa using equal
      rwa [← this]
    · exact fun member => ⟨a, member, by simp⟩

/-- Two neighbours above `2 ^ 53` count as equal, and the one is found in an array of the other. -/
theorem compare_neighbours :
    (Number.inRange (2 ^ 53 + 1) ∧ Number.inRange (2 ^ 53) ∧ (2 ^ 53 + 1 : Int) ≠ 2 ^ 53) ∧
      compare .equal (ofInt (2 ^ 53 + 1)) (ofInt (2 ^ 53)) = .ok true ∧
      compare .less (ofInt (2 ^ 53)) (ofInt (2 ^ 53 + 1)) = .ok false ∧
      compare .within (ofInt (2 ^ 53 + 1)) (.array [ofInt (2 ^ 53)]) = .ok true := by
  refine ⟨by decide, by decide +kernel, by decide +kernel, by decide +kernel⟩

/-- The greatest integer of the range, the greatest one below `2 ^ 53`, and an array of the least one. -/
theorem compare_integers_ends :
    Number.inRange (2 ^ 64 - 1) = true ∧ Number.inRange (2 ^ 53 - 1) = true ∧
      (∀ i ∈ [-2 ^ 63], Number.inRange i = true) ∧
      compare .greater (ofInt (2 ^ 64 - 1)) (ofInt (2 ^ 53 - 1)) = .ok true := by
  refine ⟨by decide, by decide, by decide, ?_⟩
  obtain ⟨-, -, -, exact, -⟩ :=
    @compare_integers (2 ^ 64 - 1) (2 ^ 53 - 1) [-2 ^ 63] (by decide) (by decide) (by decide)
  rw [exact (.inr (by decide)) .greater (by decide)]
  norm_num [Operator.relates]

end Value

end Integers

end TextTemplate
