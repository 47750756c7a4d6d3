/-
# The digits that are chosen read back

The interval of a magnitude holds the numbers that the magnitude is nearest to
(`interval_contains_iff`).  Among seventeen decimal digits there is always a number in it, so the
digits that are chosen have a value in it: `contains_shortest`.
-/
import GridRecords.Proofs.Decimal.Digits
import GridRecords.Proofs.Decimal.Rounding

namespace GridRecords.Decimal

open Text

/-- The value of digits. -/
def Digits.value (d : Digits) : ℚ := digitsValue d.digits * 10 ^ d.place

/-- The number that a magnitude stands for, without its sign. -/
def Binary.magnitude (b : Binary) : ℚ := b.significand * 2 ^ b.exponent

/-- A number lies in an interval. -/
structure Interval.Contains (i : Interval) (q : ℚ) : Prop where
  lower : i.lower ≤ q * i.unit
  upper : q * i.unit ≤ i.upper
  ends : i.closed = true ∨ i.lower < q * i.unit ∧ q * i.unit < i.upper

variable {i : Interval} {b : Binary} {q : ℚ}

theorem Interval.holds_iff (n : Nat) : i.holds n = true ↔ i.Contains n := by
  have lower : (i.lower : ℚ) ≤ n * i.unit ↔ i.lower ≤ n * i.unit := by exact_mod_cast Iff.rfl
  have upper : (n : ℚ) * i.unit ≤ i.upper ↔ n * i.unit ≤ i.upper := by exact_mod_cast Iff.rfl
  have above : (i.lower : ℚ) < n * i.unit ↔ i.lower < n * i.unit := by exact_mod_cast Iff.rfl
  have below : (n : ℚ) * i.unit < i.upper ↔ n * i.unit < i.upper := by exact_mod_cast Iff.rfl
  unfold Interval.holds
  constructor
  · intro holds
    cases closed : i.closed with
    | true =>
        rw [closed, if_pos rfl, Bool.and_eq_true, decide_eq_true_iff, decide_eq_true_iff] at holds
        exact ⟨lower.2 holds.1, upper.2 holds.2, .inl closed⟩
    | false =>
        rw [closed, if_neg (by decide), Bool.and_eq_true, decide_eq_true_iff,
          decide_eq_true_iff] at holds
        exact ⟨lower.2 holds.1.le, upper.2 holds.2.le, .inr ⟨above.2 holds.1, below.2 holds.2⟩⟩
  · rintro ⟨least, most, ends⟩
    cases closed : i.closed with
    | true => simp [lower.1 least, upper.1 most]
    | false =>
        have ⟨inside, inside'⟩ := ends.resolve_left (by simp [closed])
        simp [above.1 inside, below.1 inside']

/-- A power of ten or two as the quotient of the natural powers that stand for it. -/
theorem zpow_mul_toNat {a : ℚ} (h : a ≠ 0) (e : Int) : a ^ e * a ^ (-e).toNat = a ^ e.toNat := by
  rw [← zpow_natCast a, ← zpow_natCast a, ← zpow_add₀ h]
  congr 1
  omega

theorem Interval.contains_atPlace (place : Int) :
    (i.atPlace place).Contains q ↔ i.Contains (q * 10 ^ place) := by
  have positive : (0 : ℚ) < 10 ^ (-place).toNat := by positivity
  have scaled : q * ((i.unit * 10 ^ place.toNat : Nat) : ℚ) =
      q * 10 ^ place * i.unit * 10 ^ (-place).toNat := by
    push_cast
    rw [← zpow_mul_toNat (by norm_num) place]
    ring
  unfold Interval.atPlace
  constructor
  · rintro ⟨lower, upper, ends⟩
    dsimp only at lower upper ends
    rw [scaled] at lower upper ends
    push_cast at lower upper ends
    rw [mul_lt_mul_iff_left₀ positive, mul_lt_mul_iff_left₀ positive] at ends
    exact ⟨le_of_mul_le_mul_right lower positive, le_of_mul_le_mul_right upper positive, ends⟩
  · rintro ⟨lower, upper, ends⟩
    refine ⟨?_, ?_, ?_⟩
    · dsimp only
      rw [scaled]
      push_cast
      exact mul_le_mul_of_nonneg_right lower positive.le
    · dsimp only
      rw [scaled]
      push_cast
      exact mul_le_mul_of_nonneg_right upper positive.le
    · dsimp only
      rw [scaled]
      push_cast
      rwa [mul_lt_mul_iff_left₀ positive, mul_lt_mul_iff_left₀ positive]

/-- A magnitude lies in the units of its interval. -/
theorem interval_value (b : Binary) :
    (b.interval.value : ℚ) / b.interval.unit = b.magnitude := by
  have scale := zpow_mul_toNat (show (2 : ℚ) ≠ 0 by norm_num) (b.exponent - 2)
  have exponent : (2 : ℚ) ^ b.exponent = 2 ^ (b.exponent - 2) * 4 := by
    rw [zpow_sub₀ (by norm_num)]
    norm_num
  rw [neg_sub] at scale
  unfold Binary.interval Binary.magnitude
  dsimp only
  push_cast
  rw [← scale, exponent]
  field_simp

theorem interval_unit_pos (b : Binary) : 0 < b.interval.unit := Nat.pow_pos (by decide)

/-- **The interval of a magnitude holds what the magnitude is nearest to.** -/
theorem interval_contains_iff (some' : b.significand ≠ 0) :
    b.interval.Contains q ↔ b.Nearest q := by
  have scale := zpow_mul_toNat (show (2 : ℚ) ≠ 0 by norm_num) (b.exponent - 2)
  rw [neg_sub] at scale
  have positive : (0 : ℚ) < 4 * 2 ^ (b.exponent - 2).toNat := by positivity
  -- the interval is measured in quarters of the last place
  have number : q * (b.interval.unit : ℚ) =
      q / 2 ^ b.exponent * (4 * 2 ^ (b.exponent - 2).toNat) := by
    have exponent : (2 : ℚ) ^ b.exponent = 2 ^ (b.exponent - 2) * 4 := by
      rw [zpow_sub₀ (by norm_num)]
      norm_num
    rw [← scale, exponent]
    unfold Binary.interval
    push_cast
    field_simp
  have lower : (b.interval.lower : ℚ) =
      (b.significand - b.reach) * (4 * 2 ^ (b.exponent - 2).toNat) := by
    unfold Binary.interval Binary.reach
    split
    · rw [Nat.cast_mul, Nat.cast_sub (by omega)]
      push_cast
      ring
    · rw [Nat.cast_mul, Nat.cast_sub (by omega)]
      push_cast
      ring
  have upper : (b.interval.upper : ℚ) =
      (b.significand + 1 / 2) * (4 * 2 ^ (b.exponent - 2).toNat) := by
    unfold Binary.interval
    push_cast
    ring
  have closed : b.interval.closed = true ↔ b.significand % 2 = 0 := decide_eq_true_iff
  constructor
  · rintro ⟨least, most, ends⟩
    rw [number, lower, upper, closed, mul_lt_mul_iff_left₀ positive,
      mul_lt_mul_iff_left₀ positive] at ends
    rw [number, lower] at least
    rw [number, upper] at most
    exact ⟨le_of_mul_le_mul_right least positive, le_of_mul_le_mul_right most positive, ends⟩
  · rintro ⟨least, most, ends⟩
    refine ⟨?_, ?_, ?_⟩
    · rw [number, lower]
      exact mul_le_mul_of_nonneg_right least positive.le
    · rw [number, upper]
      exact mul_le_mul_of_nonneg_right most positive.le
    · rwa [number, lower, upper, closed, mul_lt_mul_iff_left₀ positive,
        mul_lt_mul_iff_left₀ positive]

/-! ## The point -/

theorem lt_pow_width (n : Nat) : n < 10 ^ width n :=
  (Nat.length_toDigits_le_iff (by decide) Nat.length_toDigits_pos).1 (le_refl _)

theorem pow_width_le {n : Nat} (h : n ≠ 0) : 10 ^ (width n - 1) ≤ n := by
  by_cases one : width n - 1 = 0
  · rw [one]
    omega
  · by_contra less
    have short : width n ≤ width n - 1 :=
      (Nat.length_toDigits_le_iff (by decide) (by omega)).2 (not_le.1 less)
    omega

theorem width_pos (n : Nat) : 0 < width n := Nat.length_toDigits_pos

theorem lt_zpow_width (n : Nat) : (n : ℚ) < 10 ^ (width n : Int) := by
  rw [zpow_natCast]
  exact_mod_cast lt_pow_width n

theorem zpow_width_le {n : Nat} (h : n ≠ 0) : (10 : ℚ) ^ ((width n : Int) - 1) ≤ n := by
  have natural : (10 : ℚ) ^ (width n - 1) ≤ n := by exact_mod_cast pow_width_le h
  have width_pos := width_pos n
  rwa [← zpow_natCast, Nat.cast_sub width_pos] at natural

/-- **The point of a value is where its digits begin.** -/
theorem Interval.point_spec (value : i.value ≠ 0) (unit : i.unit ≠ 0) :
    (10 : ℚ) ^ (i.point - 1) ≤ i.value / i.unit ∧ (i.value : ℚ) / i.unit < 10 ^ i.point := by
  have unit_pos : (0 : ℚ) < i.unit := by exact_mod_cast Nat.pos_of_ne_zero unit
  have ten : (10 : ℚ) ≠ 0 := by norm_num
  unfold Interval.point
  generalize shift : (width i.value : Int) - width i.unit = p
  -- the widths leave two places open, which the comparison tells apart
  have test : i.unit * 10 ^ p.toNat ≤ i.value * 10 ^ (-p).toNat ↔
      (10 : ℚ) ^ p ≤ i.value / i.unit := by
    have positive : (0 : ℚ) < 10 ^ (-p).toNat := by positivity
    rw [le_div_iff₀ unit_pos, ← mul_le_mul_iff_left₀ positive, mul_right_comm,
      zpow_mul_toNat ten, mul_comm (10 ^ p.toNat : ℚ)]
    exact_mod_cast Iff.rfl
  dsimp only
  split
  · rename_i above
    refine ⟨?_, ?_⟩
    · rw [add_sub_cancel_right]
      exact test.1 above
    · rw [div_lt_iff₀ unit_pos]
      calc (i.value : ℚ) < 10 ^ (width i.value : Int) := lt_zpow_width i.value
        _ = 10 ^ (p + 1) * 10 ^ ((width i.unit : Int) - 1) := by
            rw [← zpow_add₀ ten]
            congr 1
            omega
        _ ≤ 10 ^ (p + 1) * i.unit := mul_le_mul_of_nonneg_left (zpow_width_le unit) (by positivity)
  · rename_i below
    refine ⟨?_, not_le.1 (mt test.2 below)⟩
    rw [le_div_iff₀ unit_pos]
    calc (10 : ℚ) ^ (p - 1) * i.unit ≤ 10 ^ (p - 1) * 10 ^ (width i.unit : Int) :=
          mul_le_mul_of_nonneg_left (lt_zpow_width i.unit).le (by positivity)
      _ = 10 ^ ((width i.value : Int) - 1) := by
          rw [← zpow_add₀ ten]
          congr 1
          omega
      _ ≤ i.value := zpow_width_le value

/-! ## The digits -/

theorem holds_of_nearest? {tie : Tie} {n : Nat} (h : i.nearest? tie = some n) :
    i.holds n = true := by
  unfold Interval.nearest? at h
  dsimp only at h
  generalize i.value / i.unit = below at h
  split at h
  · cases h
  · rename_i hit _
    cases h
    exact hit
  · rename_i _ hit
    cases h
    exact hit
  · rename_i hit hit'
    split at h
    · cases h
      exact hit
    · cases h
      exact hit'
    · split at h <;> (cases h; assumption)

theorem neighbours_of_nearest? {tie : Tie} (h : i.nearest? tie = none) :
    i.holds (i.value / i.unit) = false ∧ i.holds (i.value / i.unit + 1) = false := by
  unfold Interval.nearest? at h
  dsimp only at h
  split at h
  · exact ⟨by assumption, by assumption⟩
  · cases h
  · cases h
  · split at h <;> cases h

theorem Interval.value_atPlace (i : Interval) (place : Int) :
    ((i.atPlace place).value : ℚ) / (i.atPlace place).unit = i.value / i.unit / 10 ^ place := by
  unfold Interval.atPlace
  push_cast
  rw [← zpow_mul_toNat (by norm_num) place]
  field_simp

/-- Of two neighbours on a grid that is finer than the gaps between doubles, one is near
enough. At a power of two the gap below is half as wide, but so is the grid. -/
theorem Binary.nearest_neighbour (canonical : b.Canonical) {step : ℚ}
    (fine : 10 ^ 16 * step ≤ b.magnitude) {n : Nat} (le : n * step ≤ b.magnitude)
    (lt : b.magnitude < (n + 1) * step) : b.Nearest (n * step) ∨ b.Nearest ((n + 1) * step) := by
  have two : (0 : ℚ) < 2 ^ b.exponent := by positivity
  unfold Binary.magnitude at fine le lt
  rw [← div_le_iff₀ two, mul_div_assoc] at fine le
  rw [← lt_div_iff₀ two, mul_div_assoc] at lt
  have below : n * step / 2 ^ b.exponent = n * (step / 2 ^ b.exponent) := mul_div_assoc _ _ _
  have above : (n + 1) * step / 2 ^ b.exponent = (n + 1) * (step / 2 ^ b.exponent) :=
    mul_div_assoc _ _ _
  -- from here on in units of the last place
  generalize step / 2 ^ b.exponent = u at *
  have narrow : u < 1 / 2 + b.reach := by
    have significand : (b.significand : ℚ) + 1 ≤ 2 ^ 53 := by
      exact_mod_cast canonical.significand_lt
    unfold Binary.reach
    split
    · rename_i power
      rw [power.1] at fine
      norm_num at fine ⊢
      linarith
    · norm_num
      linarith
  have reach := b.reach_le
  have reach_pos : 0 < b.reach := by
    unfold Binary.reach
    split <;> norm_num
  by_cases near : (b.significand : ℚ) - b.reach < n * u
  · left
    rw [← below] at near le
    exact ⟨near.le, by linarith, .inr ⟨near, by linarith⟩⟩
  · right
    have near : (n + 1) * u < b.significand + 1 / 2 := by linarith
    rw [← above] at near lt
    exact ⟨by linarith, near.le, .inr ⟨by linarith, near⟩⟩

/-- **Seventeen digits tell any two doubles apart.** -/
theorem nearest?_mostDigits (canonical : b.Canonical) (some' : b.significand ≠ 0) (tie : Tie) :
    (b.interval.atPlace (b.interval.point - mostDigits)).nearest? tie ≠ none := by
  intro missed
  have value_ne : b.interval.value ≠ 0 :=
    Nat.mul_ne_zero (Nat.mul_ne_zero (by decide) some') (Nat.pow_pos (by decide)).ne'
  have start := (Interval.point_spec value_ne (interval_unit_pos b).ne').1
  obtain ⟨low, high⟩ := neighbours_of_nearest? missed
  have point : b.interval.point - 1 = b.interval.point - mostDigits + 16 := by
    unfold mostDigits
    omega
  rw [interval_value, point, zpow_add₀ (by norm_num)] at start
  generalize b.interval.point - mostDigits = place at *
  have step : (0 : ℚ) < 10 ^ place := by positivity
  have unit : 0 < (b.interval.atPlace place).unit :=
    Nat.mul_pos (interval_unit_pos b) (Nat.pow_pos (by decide))
  -- the lower neighbour is the value rounded down
  have rounded := truncates_div (b.interval.atPlace place).value unit
  have floor := rounded.mantissa_le
  have ceil := rounded.lt_mantissa
  rw [mantissa_ofMantissaAndAccuracy, Interval.value_atPlace, interval_value] at floor ceil
  rw [le_div_iff₀ step] at floor
  rw [div_lt_iff₀ step] at ceil
  have fine : 10 ^ 16 * (10 : ℚ) ^ place ≤ b.magnitude := by
    rw [mul_comm]
    exact_mod_cast start
  have holds (n : Nat) (near : b.Nearest (n * 10 ^ place)) :
      (b.interval.atPlace place).holds n = true :=
    (Interval.holds_iff n).2
      ((Interval.contains_atPlace place).2 ((interval_contains_iff some').2 near))
  -- a neighbour that is near enough would not have been missed
  rcases Binary.nearest_neighbour canonical fine floor ceil with near | near
  · rw [holds _ near] at low
    cases low
  · rw [holds _ (by exact_mod_cast near)] at high
    cases high

theorem Digits.value_ofNat (n : Nat) (place : Int) :
    (Digits.ofNat n place).value = n * 10 ^ place := by
  by_cases h : n = 0
  · subst h
    unfold Digits.ofNat Digits.value
    rw [if_pos rfl]
    show ((0 : Nat) : ℚ) * _ = (0 : Nat) * _
    rw [Nat.cast_zero, zero_mul, zero_mul]
  · obtain ⟨-, k, value, place_eq⟩ := Digits.ofNat_spec h place
    generalize Digits.ofNat n place = d at value place_eq
    unfold Digits.value
    rw [value, place_eq, zpow_sub₀ (by norm_num), zpow_natCast]
    push_cast
    field_simp

/-- **The digits that are chosen for a magnitude lie in its interval.** -/
theorem Binary.contains_shortest (canonical : b.Canonical) (some' : b.significand ≠ 0) (tie : Tie) :
    b.interval.Contains (b.shortest tie).value := by
  unfold Binary.shortest
  rw [if_neg some']
  dsimp only
  generalize found : List.findSome? _ _ = result
  cases result with
  | none =>
      -- the last of the attempts is the one with seventeen digits
      have missed := List.findSome?_eq_none_iff.1 found 16 (by decide)
      rw [Option.map_eq_none_iff] at missed
      exact absurd missed (nearest?_mostDigits canonical some' tie)
  | some d =>
      obtain ⟨k, -, hit⟩ := List.exists_of_findSome?_eq_some found
      obtain ⟨n, nearest, rfl⟩ := Option.map_eq_some_iff.1 hit
      have contains := (Interval.holds_iff n).1 (holds_of_nearest? nearest)
      rw [Interval.contains_atPlace] at contains
      rw [Option.getD_some, Digits.value_ofNat]
      exact contains

end GridRecords.Decimal
