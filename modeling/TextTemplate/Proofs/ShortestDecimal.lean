import TextTemplate.Number.Shortest
import TextTemplate.Proofs.Rounding

/-! The shortest decimal of a double rounds to the double. On every grid the multiple that is chosen lies in
the interval of the double, and the search, which starts above the interval, comes to a grid
that is finer than the interval before it ends. -/
namespace TextTemplate.Double

variable {d : Double} {exponent : Int} {k : Nat}

/-- The value of a decimal. -/
def Decimal.value (decimal : Decimal) : ℚ := decimal.digits * 10 ^ decimal.exponent

/-- A power with its negative part on the other side. -/
theorem power_toNat {base : ℚ} (nonzero : base ≠ 0) (i : Int) :
    base ^ i.toNat = base ^ i * base ^ (-i).toNat := by
  rw [← zpow_natCast, ← zpow_natCast, ← zpow_add₀ nonzero]
  congr 1
  omega

/-- The view on a grid shows the double and the ends of its interval to scale. -/
theorem onGrid_scale (nonzero : d.significand ≠ 0) (exponent : Int) :
    let view := d.onGrid exponent
    0 < view.unit ∧ (view.value : ℚ) * 10 ^ exponent = d.magnitude * view.unit ∧
      (view.low : ℚ) * 10 ^ exponent = d.low * view.unit ∧
      (view.high : ℚ) * 10 ^ exponent = d.high * view.unit := by
  intro view
  obtain ⟨scale, hscale⟩ :
      ∃ scale, Nat.pow 2 (d.exponent - 2).toNat * Nat.pow 10 (-exponent).toNat = scale := ⟨_, rfl⟩
  obtain ⟨below, hbelow⟩ : ∃ below : Nat,
      (if d.significand = significandStart ∧ -1074 < d.exponent then 1 else 2) = below := ⟨_, rfl⟩
  have places : (scale : ℚ) * 10 ^ exponent = 2 ^ (d.exponent - 2) * view.unit := by
    have twos := power_toNat (two_ne_zero (α := ℚ)) (d.exponent - 2)
    have tens := power_toNat (by norm_num : (10 : ℚ) ≠ 0) exponent
    have unit : (view.unit : ℚ) = 2 ^ (-(d.exponent - 2)).toNat * 10 ^ exponent.toNat := by
      simp [view, onGrid]
    rw [unit, ← hscale, tens]
    push_cast
    rw [Nat.pow_eq, Nat.pow_eq]
    push_cast
    rw [twos]
    ring
  have step : d.step = 4 * 2 ^ (d.exponent - 2) := by
    rw [Double.step, zpow_sub₀ two_ne_zero]
    norm_num
    ring
  have down : d.stepDown / 2 = below * 2 ^ (d.exponent - 2) := by
    rw [← hbelow, stepDown, step]
    split <;> push_cast <;> ring
  have less : below ≤ 4 * d.significand := by
    rw [← hbelow]
    split <;> omega
  refine ⟨?_, ?_, ?_, ?_⟩
  · exact Nat.mul_pos (Nat.two_pow_pos _) (Nat.pow_pos (by norm_num))
  · have value : (view.value : ℚ) = 4 * d.significand * scale := by
      simp [view, onGrid, ← hscale]
    rw [value, mul_assoc, places, magnitude, step]
    ring
  · have low : (view.low : ℚ) = (4 * d.significand - below) * scale := by
      have same : view.low = (4 * d.significand - below) * scale := by rw [← hscale, ← hbelow]; rfl
      rw [same, Nat.cast_mul, Nat.cast_sub less]
      push_cast
      ring
    rw [low, mul_assoc, places, Double.low, down, magnitude, step]
    ring
  · have high : (view.high : ℚ) = (4 * d.significand + 2) * scale := by
      simp [view, onGrid, ← hscale]
    rw [high, mul_assoc, places, Double.high, magnitude, step]
    ring

/-- What is seen to scale on a grid compares with its multiples as the multiples of the unit do. -/
theorem compare_scaled {seen unit : Nat} {x place : ℚ} (positive : 0 < unit) (wide : 0 < place)
    (scale : (seen : ℚ) * place = x * unit) (k : Nat) :
    (seen < k * unit ↔ x < k * place) ∧ (k * unit < seen ↔ k * place < x) := by
  have cast : (0 : ℚ) < unit := by exact_mod_cast positive
  have swap : (k : ℚ) * place * unit = (k * unit : Nat) * place := by
    push_cast
    ring
  constructor
  · rw [← mul_lt_mul_iff_left₀ cast, ← scale, swap, mul_lt_mul_iff_left₀ wide, Nat.cast_lt]
  · rw [← mul_lt_mul_iff_left₀ cast, ← scale, swap, mul_lt_mul_iff_left₀ wide, Nat.cast_lt]

/-- The double lies between two neighbouring multiples of a grid. -/
theorem grid_neighbours (nonzero : d.significand ≠ 0) (exponent : Int) :
    let k := (d.onGrid exponent).value / (d.onGrid exponent).unit
    (k : ℚ) * 10 ^ exponent ≤ d.magnitude ∧ d.magnitude < (k + 1 : Nat) * 10 ^ exponent := by
  obtain ⟨positive, value, -, -⟩ := onGrid_scale nonzero exponent
  have wide : (0 : ℚ) < 10 ^ exponent := by positivity
  constructor
  · rw [← not_lt, ← (compare_scaled positive wide value _).1, not_lt]
    exact Nat.div_mul_le_self _ _
  · rw [← (compare_scaled positive wide value _).1]
    exact Nat.lt_mul_of_div_lt (Nat.lt_succ_self _) positive

/-- The multiples on both sides of the double: the lower one rounds to the double if it has not left the
interval downwards, and the upper one if it has not left it upwards. -/
theorem neighbours_claim (nonzero : d.significand ≠ 0) (exponent : Int) :
    let view := d.onGrid exponent
    let k := view.value / view.unit
    ((view.low < k * view.unit || (d.significand % 2 = 0 && view.low = k * view.unit)) = true →
        d.Claims (k * 10 ^ exponent)) ∧
      ((k * view.unit + view.unit < view.high ||
          (d.significand % 2 = 0 && k * view.unit + view.unit = view.high)) = true →
        d.Claims ((k + 1 : Nat) * 10 ^ exponent)) := by
  obtain ⟨positive, -, low, high⟩ := onGrid_scale nonzero exponent
  obtain ⟨under, above⟩ := grid_neighbours nonzero exponent
  dsimp only
  generalize d.onGrid exponent = view at *
  have wide : (0 : ℚ) < 10 ^ exponent := by positivity
  generalize view.value / view.unit = k at *
  have first : d.low < d.magnitude := by
    unfold Double.low
    linarith [d.stepDown_pos]
  have last : d.magnitude < d.high := by
    unfold Double.high
    linarith [d.step_pos]
  constructor
  · intro fits
    simp only [Bool.or_eq_true, Bool.and_eq_true, decide_eq_true_eq] at fits
    refine ⟨?_, by linarith, fun odd => ⟨?_, by linarith⟩⟩
    · rw [← not_lt, ← (compare_scaled positive wide low k).2]
      omega
    · rw [← (compare_scaled positive wide low k).1]
      omega
  · intro fits
    simp only [Bool.or_eq_true, Bool.and_eq_true, decide_eq_true_eq] at fits
    rw [← Nat.add_one_mul] at fits
    refine ⟨by linarith, ?_, fun odd => ⟨by linarith, ?_⟩⟩
    · rw [← not_lt, ← (compare_scaled positive wide high (k + 1)).1]
      omega
    · rw [← (compare_scaled positive wide high (k + 1)).2]
      omega

/-- The multiple of a grid that is chosen rounds to the double. -/
theorem gridPoint?_claims (nonzero : d.significand ≠ 0) (found : d.gridPoint? exponent = some k) :
    d.Claims (k * 10 ^ exponent) := by
  obtain ⟨down, up⟩ := neighbours_claim nonzero exponent
  unfold gridPoint? at found
  simp only at down up found
  split at found
  · rename_i lowFits highFits
    -- Between the two the nearer one is taken, or the even one.
    have either : k = (d.onGrid exponent).value / (d.onGrid exponent).unit ∨
        k = (d.onGrid exponent).value / (d.onGrid exponent).unit + 1 := by
      split at found
      · exact .inl (Option.some.inj found).symm
      · split at found
        · exact .inr (Option.some.inj found).symm
        · have := Option.some.inj found
          omega
    rcases either with rfl | rfl
    · exact down lowFits
    · exact up highFits
  · rename_i lowFits _
    rw [← Option.some.inj found]
    exact down lowFits
  · rename_i _ highFits
    rw [← Option.some.inj found]
    exact up highFits
  · cases found

/-- A grid that is finer than half the step of the double has a point. -/
theorem gridPoint?_fine (nonzero : d.significand ≠ 0) (fine : (10 : ℚ) ^ exponent < d.step / 2) :
    ∃ k, d.gridPoint? exponent = some k := by
  obtain ⟨positive, -, -, high⟩ := onGrid_scale nonzero exponent
  obtain ⟨under, -⟩ := grid_neighbours nonzero exponent
  unfold gridPoint?
  simp only
  generalize d.onGrid exponent = view at *
  have wide : (0 : ℚ) < 10 ^ exponent := by positivity
  have above : view.value / view.unit * view.unit + view.unit < view.high := by
    rw [← Nat.succ_mul, (compare_scaled positive wide high _).2]
    unfold Double.high
    push_cast
    linarith
  simp only [above, decide_true, Bool.true_or]
  split
  · split_ifs <;> exact ⟨_, rfl⟩
  · exact ⟨_, rfl⟩
  · exact ⟨_, rfl⟩
  · rename_i none
    cases none

theorem coarsest_claims (nonzero : d.significand ≠ 0) {steps : Nat}
    (fine : (10 : ℚ) ^ (exponent - steps + 1) < d.step / 2) (some : 0 < steps) :
    d.Claims (d.coarsest steps exponent).value := by
  induction steps generalizing exponent with
  | zero => cases some
  | succ steps ih =>
    unfold coarsest
    cases found : d.gridPoint? exponent with
    | some k => exact gridPoint?_claims nonzero found
    | none =>
      by_cases last : steps = 0
      · subst last
        have final : (10 : ℚ) ^ exponent < d.step / 2 := by simpa using fine
        obtain ⟨k, point⟩ := gridPoint?_fine nonzero final
        rw [found] at point
        cases point
      · apply ih _ (Nat.pos_of_ne_zero last)
        convert fine using 2
        push_cast
        ring

/-- A power of ten is below a power of two if its exponent is about a third, with what is left over for the
range of the doubles. Upwards three decimal places make ten binary ones at most, and downwards ten
make thirty-three at least. -/
theorem ten_lt_two {down place : Int} (least : -1074 ≤ place) (most : place ≤ 971)
    (apart : 100000 * down ≤ 30103 * place - 474438) : (10 : ℚ) ^ down < 2 ^ (place - 1) := by
  by_cases up : 0 ≤ down
  · obtain ⟨n, rfl⟩ := Int.eq_ofNat_of_zero_le up
    calc (10 : ℚ) ^ (n : Int) ≤ 10 ^ (3 * ((n + 2) / 3)) := by
          rw [zpow_natCast]
          exact pow_le_pow_right₀ (by norm_num) (by omega)
      _ = (10 ^ 3) ^ ((n + 2) / 3) := pow_mul _ _ _
      _ ≤ (2 ^ 10) ^ ((n + 2) / 3) := pow_le_pow_left₀ (by norm_num) (by norm_num) _
      _ = 2 ^ ((10 * ((n + 2) / 3) : Nat) : Int) := by rw [← pow_mul, zpow_natCast]
      _ < 2 ^ (place - 1) := zpow_lt_zpow_right₀ one_lt_two (by omega)
  · obtain ⟨n, same⟩ : ∃ n : Nat, -down = n := Int.eq_ofNat_of_zero_le (by omega)
    have turned : down = -(n : Int) := by omega
    have count : n = 10 * (n / 10) + n % 10 := by omega
    have places : (2 : ℚ) ^ (33 * (n / 10) + 3 * (n % 10)) ≤ 10 ^ n := by
      calc (2 : ℚ) ^ (33 * (n / 10) + 3 * (n % 10)) = (2 ^ 33) ^ (n / 10) * (2 ^ 3) ^ (n % 10) := by
            rw [pow_add, pow_mul, pow_mul]
        _ ≤ (10 ^ 10) ^ (n / 10) * 10 ^ (n % 10) :=
          mul_le_mul (pow_le_pow_left₀ (by norm_num) (by norm_num) _)
            (pow_le_pow_left₀ (by norm_num) (by norm_num) _) (by positivity) (by positivity)
        _ = 10 ^ n := by rw [← pow_mul, ← pow_add, ← count]
    calc (10 : ℚ) ^ down = (10 ^ n)⁻¹ := by rw [turned, zpow_neg, zpow_natCast]
      _ ≤ (2 ^ (33 * (n / 10) + 3 * (n % 10)))⁻¹ := inv_anti₀ (by positivity) places
      _ = 2 ^ (-((33 * (n / 10) + 3 * (n % 10) : Nat) : Int)) := by rw [zpow_neg, zpow_natCast]
      _ < 2 ^ (place - 1) := zpow_lt_zpow_right₀ one_lt_two (by omega)

/-- The shortest decimal of a double that is not zero rounds to it. -/
theorem shortest_claims (nonzero : d.significand ≠ 0) : d.Claims d.shortest.value := by
  apply coarsest_claims nonzero _ (by norm_num)
  have bits : d.significand.log2 ≤ 52 := by
    have : d.significand.log2 < 53 := (Nat.log2_lt nonzero).mpr d.significand_lt
    omega
  have half : d.step / 2 = 2 ^ (d.exponent - 1) := by
    rw [Double.step, zpow_sub_one₀ two_ne_zero]
    rfl
  rw [half]
  apply ten_lt_two d.exponent_ge d.exponent_le
  have top : d.topExponent - 2 = ((d.significand.log2 + d.exponent + 2) * 30103).fdiv 100000 := by
    unfold topExponent
    ring
  have divided : 100000 * (d.topExponent - 2) ≤ (d.significand.log2 + d.exponent + 2) * 30103 := by
    rw [top, Int.fdiv_eq_ediv_of_nonneg _ (by norm_num)]
    omega
  push_cast
  omega

end TextTemplate.Double
