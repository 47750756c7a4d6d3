/-
# Rounding to the nearest double

The logical model of doubles rounds a mantissa with a round bit and a sticky bit.  `Truncates`
says of which numbers these bits are kept, and `Binary.Nearest` which numbers a magnitude is
nearest to.  `roundWithAccuracy_of_nearest` joins the two: a number that a canonical magnitude is
nearest to is rounded to it, and so are quotients (`div_of_nearest`) and products
(`mul_of_nearest`).
-/
import GridRecords.Proofs.Decimal.Pack
import Mathlib.Algebra.Order.Field.Power
import Mathlib.Algebra.Order.Field.Rat
import Mathlib.Tactic.Linarith
import Mathlib.Tactic.FieldSimp
import Mathlib.Tactic.Ring

namespace GridRecords.Decimal

open Float.Model Float.Model.UnpackedFloat

/-! ## Mantissas with residual bits -/

/-- The value of a mantissa with its round bit. -/
def halves (em : ExtendedMantissa) : ℚ := em.mantissa + if em.roundBit then 1 / 2 else 0

/-- A mantissa and its residual bits are what is kept of a number. -/
structure Truncates (em : ExtendedMantissa) (x : ℚ) : Prop where
  le : halves em ≤ x
  lt : x < halves em + 1 / 2
  exact_iff : em.stickyBit = false ↔ x = halves em

variable {em : ExtendedMantissa} {x : ℚ}

theorem Truncates.mantissa_le (h : Truncates em x) : (em.mantissa : ℚ) ≤ x := by
  have le := h.le
  unfold halves at le
  split at le <;> linarith

theorem Truncates.lt_mantissa (h : Truncates em x) : x < em.mantissa + 1 := by
  have lt := h.lt
  unfold halves at lt
  split at lt <;> linarith

theorem halves_shiftRightOne (em : ExtendedMantissa) :
    halves em.shiftRightOne = (em.mantissa : ℚ) / 2 := by
  obtain ⟨m, r, s⟩ := em
  have split : ((m / 2 : Nat) : ℚ) * 2 + ((m % 2 : Nat) : ℚ) = m := by
    exact_mod_cast Nat.div_add_mod' m 2
  unfold halves ExtendedMantissa.shiftRightOne
  rcases Nat.mod_two_eq_zero_or_one m with even | odd
  · rw [even] at split
    simp only [even, Nat.cast_zero] at split ⊢
    simp
    linarith
  · rw [odd] at split
    simp only [odd, Nat.cast_one] at split ⊢
    simp
    linarith

/-- One bit less is kept of half the number. -/
theorem Truncates.shiftRightOne (h : Truncates em x) : Truncates em.shiftRightOne (x / 2) := by
  have le := h.mantissa_le
  have lt := h.lt_mantissa
  have half := halves_shiftRightOne em
  refine ⟨by linarith, by linarith, ?_⟩
  rw [half]
  have sticky : em.shiftRightOne.stickyBit = (em.roundBit || em.stickyBit) := rfl
  have exact_iff := h.exact_iff
  have bounds := h.le
  rw [sticky, Bool.or_eq_false_iff, exact_iff]
  unfold halves at *
  constructor
  · rintro ⟨round, value⟩
    rw [round, if_neg (by decide)] at value
    linarith
  · intro value
    cases round : em.roundBit with
    | true =>
        rw [round, if_pos rfl] at bounds
        exfalso
        linarith
    | false =>
        refine ⟨rfl, ?_⟩
        rw [if_neg (by decide)]
        linarith

theorem Truncates.shiftRight (h : Truncates em x) (n : Nat) :
    Truncates (em >>> n) (x / 2 ^ n) := by
  induction n with
  | zero =>
      rw [pow_zero, div_one]
      exact h
  | succ n ih =>
      rw [pow_succ, ← div_div]
      exact ih.shiftRightOne

@[simp] theorem mantissa_ofMantissaAndAccuracy (m : Nat) (accuracy : Accuracy) :
    (ExtendedMantissa.ofMantissaAndAccuracy m accuracy).mantissa = m := by
  cases accuracy with
  | exact => rfl
  | inexact half => cases half <;> rfl

/-- A number that is not kept whole lies above what is kept of it. -/
theorem Truncates.halves_lt (h : Truncates em x) (inexact : em.stickyBit = true) :
    halves em < x := by
  refine lt_of_le_of_ne h.le ?_
  intro value
  have exact := h.exact_iff.2 value.symm
  rw [inexact] at exact
  cases exact

/-- A number within a half of a natural number is rounded to it, ties only to even ones. -/
theorem Truncates.roundedMantissa (h : Truncates em x) {n : Nat} (lower : (n : ℚ) - 1 / 2 ≤ x)
    (upper : x ≤ n + 1 / 2) (tie : n % 2 = 0 ∨ ((n : ℚ) - 1 / 2 < x ∧ x < n + 1 / 2)) :
    em.roundedMantissa = n := by
  obtain ⟨m, r, s⟩ := em
  have le := h.le
  have lt := h.lt
  have exact_iff := h.exact_iff
  unfold halves at le lt exact_iff
  simp only at le lt exact_iff
  have atMost : (n : ℚ) < m + 2 → n ≤ m + 1 := by
    intro lt
    have : n < m + 2 := by exact_mod_cast lt
    omega
  have atLeast : (m : ℚ) < n + 1 → m ≤ n := by
    intro lt
    have : m < n + 1 := by exact_mod_cast lt
    omega
  cases r <;> cases s
  · -- the number is the mantissa
    have value : x = m := by simpa using exact_iff.1 rfl
    have n_le : (n : ℚ) < m + 1 := by linarith
    have le_n : m ≤ n := atLeast (by linarith)
    have : n < m + 1 := by exact_mod_cast n_le
    show m = n
    omega
  · -- less than a half above the mantissa
    have above : (m : ℚ) < x := by simpa [halves] using h.halves_lt rfl
    simp only [Bool.false_eq_true, if_false] at le lt
    have n_le : (n : ℚ) < m + 1 := by linarith
    have le_n := atLeast (by linarith)
    have : n < m + 1 := by exact_mod_cast n_le
    show m = n
    omega
  · -- a tie
    have value : x = m + 1 / 2 := by simpa using exact_iff.1 rfl
    have n_le := atMost (by linarith)
    have le_n := atLeast (by linarith)
    have even : n % 2 = 0 := by
      rcases tie with even | ⟨above, below⟩
      · exact even
      · rcases Nat.eq_or_lt_of_le le_n with same | more
        · rw [← same, value] at below
          exact absurd below (lt_irrefl _)
        · have next : n = m + 1 := by omega
          rw [next, value] at above
          push_cast at above
          linarith
    show m + m % 2 = n
    omega
  · -- more than a half above the mantissa
    have above : (m : ℚ) + 1 / 2 < x := by simpa [halves] using h.halves_lt rfl
    simp only [if_true] at le lt
    have n_le := atMost (by linarith)
    have more : (m : ℚ) < n := by linarith
    have : m < n := by exact_mod_cast more
    show m + 1 = n
    omega

/-! ## The numbers that a magnitude is nearest to -/

/-- The distance from a significand down to the middle of the gap below it: the gap below a
power of two is half the gap above it. -/
def Binary.reach (b : Binary) : ℚ :=
  if b.significand = 2 ^ 52 ∧ leastExponent < b.exponent then 1 / 4 else 1 / 2

/-- A number in units of a magnitude's last place is nearest to its significand. -/
structure Binary.Nearest (b : Binary) (q : ℚ) : Prop where
  lower : b.significand - b.reach ≤ q / 2 ^ b.exponent
  upper : q / 2 ^ b.exponent ≤ b.significand + 1 / 2
  tie : b.significand % 2 = 0 ∨
    b.significand - b.reach < q / 2 ^ b.exponent ∧ q / 2 ^ b.exponent < b.significand + 1 / 2

variable {b : Binary} {q : ℚ}

theorem Binary.reach_le (b : Binary) : b.reach ≤ 1 / 2 := by
  unfold Binary.reach
  split <;> norm_num

theorem div_zpow_add (q : ℚ) (e : Int) (n : Nat) : q / 2 ^ (e + n) = q / 2 ^ e / 2 ^ n := by
  rw [zpow_add₀ (by norm_num), zpow_natCast, div_div]

/-! ## The exponent of the result -/

theorem targetExponent_eq (t : Int) : Format.binary64.targetExponent t = max (t - 53) (-1074) := rfl

/-- A mantissa is shifted until fifty-three bits are left, or fewer at the least exponent. -/
theorem exists_shift {m : Nat} {e : Int} (le : (m : ℚ) ≤ x) (lt : x < m + 1)
    (enough : e ≤ leastExponent ∨ 2 ^ 52 ≤ x) :
    ∃ k : Nat, Format.binary64.targetExponent (totalExponent m e) = e + k ∧
      leastExponent ≤ e + k ∧ x / 2 ^ k < 2 ^ 53 ∧
      (e + k = leastExponent ∨ 2 ^ 52 ≤ x / 2 ^ k) := by
  have bits : (m : ℚ) + 1 ≤ 2 ^ (m.log2 + 1) := by exact_mod_cast Nat.lt_log2_self
  have many : e ≤ -1074 ∨ 52 ≤ m.log2 := by
    refine enough.imp (fun least => least) ?_
    intro large
    have large : 2 ^ 52 < m + 1 := by exact_mod_cast lt_of_le_of_lt large lt
    exact (Nat.le_log2 (by omega)).2 (by omega)
  rw [targetExponent_eq]
  unfold totalExponent leastExponent
  -- the shift leaves fifty-three bits, or stops at the least exponent
  refine ⟨(max ((m.log2 : Int) + 1 + e - 53) (-1074) - e).toNat, by omega, by omega, ?_, ?_⟩
  · rw [div_lt_iff₀ (by positivity), ← pow_add]
    have fits : (2 : ℚ) ^ (m.log2 + 1) ≤
        2 ^ (53 + (max ((m.log2 : Int) + 1 + e - 53) (-1074) - e).toNat) :=
      pow_le_pow_right₀ (by norm_num) (by omega)
    linarith
  · by_cases least : (m.log2 : Int) + 1 + e - 53 ≤ -1074
    · left
      omega
    · right
      rw [le_div_iff₀ (by positivity), ← pow_add]
      have shift : 52 + (max ((m.log2 : Int) + 1 + e - 53) (-1074) - e).toNat = m.log2 := by omega
      have some' : m ≠ 0 := by
        rintro rfl
        rw [Nat.log2_zero] at shift least many
        omega
      have first : (2 : ℚ) ^ m.log2 ≤ m := by exact_mod_cast Nat.log2_self_le some'
      rw [shift]
      linarith

/-- A number that a magnitude is nearest to has no exponent above that of the magnitude. -/
theorem Binary.Nearest.le_exponent (h : b.Nearest q) (canonical : b.Canonical) {t : Int}
    (full : t = leastExponent ∨ 2 ^ 52 ≤ q / 2 ^ t) : t ≤ b.exponent := by
  by_contra more
  obtain ⟨j, exponent⟩ : ∃ j : Nat, t = b.exponent + j := ⟨(t - b.exponent).toNat, by omega⟩
  have full := full.resolve_left (by have := canonical.least; omega)
  have upper := h.upper
  rw [exponent, div_zpow_add, le_div_iff₀ (by positivity)] at full
  have two_le : (2 : ℚ) ^ 1 ≤ 2 ^ j := pow_le_pow_right₀ (by norm_num) (by omega)
  have significand : (b.significand : ℚ) + 1 ≤ 2 ^ 53 := by
    exact_mod_cast canonical.significand_lt
  linarith

/-- A number has a lower exponent than the magnitude that it is nearest to only just below a power
of two. -/
theorem Binary.Nearest.exponent_lt (h : b.Nearest q) (canonical : b.Canonical) {t : Int}
    (least : leastExponent ≤ t) (lt : q / 2 ^ t < 2 ^ 53) (less : t < b.exponent) :
    t + 1 = b.exponent ∧ b.significand = 2 ^ 52 ∧ 2 ^ 53 - 1 / 2 ≤ q / 2 ^ t := by
  obtain ⟨j, exponent⟩ : ∃ j : Nat, b.exponent = t + j := ⟨(b.exponent - t).toNat, by omega⟩
  have significand := canonical.full.resolve_right (by omega)
  have lower := h.lower
  rw [exponent, div_zpow_add q t j, le_div_iff₀ (by positivity)] at lower
  have two_le : (2 : ℚ) ^ 1 ≤ 2 ^ j := pow_le_pow_right₀ (by norm_num) (by omega)
  -- more than the least full significand would be a step too far
  have power : b.significand = 2 ^ 52 := by
    refine le_antisymm ?_ significand
    by_contra more
    have more : (2 : ℚ) ^ 52 + 1 ≤ b.significand := by exact_mod_cast not_le.1 more
    have := b.reach_le
    nlinarith
  have reach : b.reach = 1 / 4 := if_pos ⟨power, by omega⟩
  rw [power, reach] at lower
  push_cast at lower
  have one : j = 1 := by
    refine le_antisymm ?_ (by omega)
    by_contra more
    have four_le : (2 : ℚ) ^ 2 ≤ 2 ^ j := pow_le_pow_right₀ (by norm_num) (by omega)
    nlinarith
  subst one
  refine ⟨by omega, power, ?_⟩
  linarith

/-- **Numbers that a magnitude is nearest to have its exponent**, but for those just below a
power of two, which have one less. -/
theorem Binary.Nearest.exponent (h : b.Nearest q) (canonical : b.Canonical) {t : Int}
    (least : leastExponent ≤ t) (lt : q / 2 ^ t < 2 ^ 53)
    (full : t = leastExponent ∨ 2 ^ 52 ≤ q / 2 ^ t) :
    t = b.exponent ∨
      t + 1 = b.exponent ∧ b.significand = 2 ^ 52 ∧ 2 ^ 53 - 1 / 2 ≤ q / 2 ^ t := by
  rcases (h.le_exponent canonical full).eq_or_lt with same | less
  · exact .inl same
  · exact .inr (h.exponent_lt canonical least lt less)

/-! ## Rounding -/

/-- A canonical magnitude is left where it is. -/
theorem shiftToTargetExponent_canonical (canonical : b.Canonical) :
    shiftToTargetExponent Format.binary64 b.significand b.exponent .exact =
      (⟨b.significand, false, false⟩, b.exponent) := by
  have ⟨lt, least, most, full⟩ := canonical
  have target : Format.binary64.targetExponent (totalExponent b.significand b.exponent) =
      b.exponent := by
    rw [targetExponent_eq]
    unfold totalExponent
    unfold leastExponent at least full
    have small : b.significand.log2 < 53 := by
      by_cases zero : b.significand = 0
      · rw [zero]
        decide
      · exact (Nat.log2_lt zero).2 lt
    have large : 2 ^ 52 ≤ b.significand → 52 ≤ b.significand.log2 := fun large =>
      (Nat.le_log2 (by omega)).2 large
    omega
  unfold shiftToTargetExponent shiftToExponent
  simp only [target, Int.sub_self]
  simp [HShiftRight.hShiftRight, Nat.repeat, ExtendedMantissa.ofMantissaAndAccuracy]

theorem roundWithAccuracy_canonical (canonical : b.Canonical) (some' : b.significand ≠ 0)
    (sign : Sign) :
    roundWithAccuracy Format.binary64 sign b.significand b.exponent .exact =
      .finite sign b.significand b.exponent (Nat.pos_of_ne_zero some') := by
  have same : (ExtendedMantissa.mk b.significand false false).roundedMantissa = b.significand := rfl
  unfold roundWithAccuracy
  simp only [shiftToTargetExponent_canonical canonical, same, dif_neg some']

/-- A significand of one bit too many is halved. -/
theorem shiftToTargetExponent_overflow {t : Int} (least : leastExponent ≤ t) :
    shiftToTargetExponent Format.binary64 (2 ^ 53) t .exact = (⟨2 ^ 52, false, false⟩, t + 1) := by
  have target : Format.binary64.targetExponent (totalExponent (2 ^ 53) t) = t + 1 := by
    rw [targetExponent_eq]
    unfold totalExponent
    unfold leastExponent at least
    rw [Nat.log2_two_pow]
    omega
  have one : (t + 1 - t).toNat = 1 := by omega
  unfold shiftToTargetExponent shiftToExponent
  simp only [target, one]
  rfl

/-- **A number is rounded to the magnitude that it is nearest to.** -/
theorem roundWithAccuracy_of_nearest (h : b.Nearest q) (canonical : b.Canonical)
    (some' : b.significand ≠ 0) (sign : Sign) {m : Nat} {e : Int} {accuracy : Accuracy}
    (truncates : Truncates (.ofMantissaAndAccuracy m accuracy) (q / 2 ^ e))
    (enough : e ≤ leastExponent ∨ 2 ^ 52 ≤ q / 2 ^ e) :
    roundWithAccuracy Format.binary64 sign m e accuracy =
      .finite sign b.significand b.exponent (Nat.pos_of_ne_zero some') := by
  have floor := truncates.mantissa_le
  have ceil := truncates.lt_mantissa
  rw [mantissa_ofMantissaAndAccuracy] at floor ceil
  obtain ⟨k, target, least, lt, full⟩ := exists_shift floor ceil enough
  have shifted := truncates.shiftRight k
  rw [← div_zpow_add] at lt full shifted
  have first : shiftToTargetExponent Format.binary64 m e accuracy =
      (ExtendedMantissa.ofMantissaAndAccuracy m accuracy >>> k, e + k) := by
    have amount : (e + (k : Int) - e).toNat = k := by omega
    unfold shiftToTargetExponent shiftToExponent
    simp only [target, amount]
  unfold roundWithAccuracy
  -- rounding may carry into the next power of two, which is then shifted once more
  rcases h.exponent canonical least lt full with same | ⟨less, power, near⟩
  · rw [same] at shifted first
    have reach := b.reach_le
    have rounded := shifted.roundedMantissa (by linarith [h.lower]) h.upper
      (h.tie.imp_right fun ⟨above, below⟩ => ⟨by linarith, below⟩)
    simp only [first, rounded, shiftToTargetExponent_canonical canonical, dif_neg some']
  · have rounded := shifted.roundedMantissa (n := 2 ^ 53) (by push_cast; linarith)
      (by push_cast; linarith) (.inl (by decide))
    simp only [first, rounded, shiftToTargetExponent_overflow least, less, ← power, dif_neg some']

/-! ## Quotients and products -/

theorem truncates_exact (m : Nat) : Truncates (.ofMantissaAndAccuracy m .exact) m := by
  refine ⟨?_, ?_, ?_⟩ <;> simp [halves, ExtendedMantissa.ofMantissaAndAccuracy]

/-- The bits of a quotient that is rounded down. -/
theorem truncates_div (m : Nat) {n : Nat} (positive : 0 < n) :
    Truncates (.ofMantissaAndAccuracy (m / n) (accuracyOfFraction (m % n) n)) ((m : ℚ) / n) := by
  have n_pos : (0 : ℚ) < n := by exact_mod_cast positive
  have split : (m : ℚ) / n = (m / n : Nat) + ((m % n : Nat) : ℚ) / n := by
    rw [div_eq_iff n_pos.ne', add_mul, div_mul_cancel₀ _ n_pos.ne']
    exact_mod_cast (Nat.div_add_mod' m n).symm
  have less : ((m % n : Nat) : ℚ) / n < 1 := by
    rw [div_lt_one₀ n_pos]
    exact_mod_cast Nat.mod_lt m positive
  rw [split]
  generalize m / n = whole
  unfold accuracyOfFraction
  by_cases zero : m % n = 0
  · rw [if_pos zero, zero, Nat.cast_zero, zero_div, add_zero]
    exact truncates_exact whole
  · rw [if_neg zero]
    have some' : (0 : ℚ) < ((m % n : Nat) : ℚ) / n := by
      have : (0 : ℚ) < ((m % n : Nat) : ℚ) := by exact_mod_cast Nat.pos_of_ne_zero zero
      exact div_pos this n_pos
    cases order : compare (2 * (m % n)) n with
    | lt =>
        have below : ((m % n : Nat) : ℚ) / n < 1 / 2 := by
          have : 2 * ((m % n : Nat) : ℚ) < n := by exact_mod_cast Nat.compare_eq_lt.1 order
          rw [div_lt_iff₀ n_pos]
          linarith
        refine ⟨?_, ?_, ?_⟩ <;> simp [halves, ExtendedMantissa.ofMantissaAndAccuracy]
        · exact some'.le
        · linarith
        · exact ⟨zero, positive.ne'⟩
    | eq =>
        have half : ((m % n : Nat) : ℚ) / n = 1 / 2 := by
          have : 2 * ((m % n : Nat) : ℚ) = n := by exact_mod_cast Nat.compare_eq_eq.1 order
          rw [div_eq_iff n_pos.ne']
          linarith
        rw [half]
        refine ⟨?_, ?_, ?_⟩ <;> simp [halves, ExtendedMantissa.ofMantissaAndAccuracy]
    | gt =>
        have above : 1 / 2 < ((m % n : Nat) : ℚ) / n := by
          have : (n : ℚ) < 2 * ((m % n : Nat) : ℚ) := by exact_mod_cast Nat.compare_eq_gt.1 order
          rw [lt_div_iff₀ n_pos]
          linarith
        refine ⟨?_, ?_, ?_⟩ <;> simp [halves, ExtendedMantissa.ofMantissaAndAccuracy]
        · linarith
        · linarith
        · intro value
          rw [value] at above
          norm_num at above

/-- **A quotient is rounded to the magnitude that it is nearest to.** -/
theorem div_of_nearest {m₁ m₂ : Nat} {e₁ e₂ : Int} (pos₁ : 0 < m₁) (pos₂ : 0 < m₂)
    (h : b.Nearest (m₁ * 2 ^ e₁ / (m₂ * 2 ^ e₂))) (canonical : b.Canonical)
    (some' : b.significand ≠ 0) (s₁ s₂ : Sign) :
    UnpackedFloat.div Format.binary64 (.finite s₁ m₁ e₁ pos₁) (.finite s₂ m₂ e₂ pos₂) =
      .finite (s₁ / s₂) b.significand b.exponent (Nat.pos_of_ne_zero some') := by
  simp only [UnpackedFloat.div, divCore, targetExponent_eq]
  generalize target : min (e₁ - e₂) (max (totalExponent m₁ e₁ - totalExponent m₂ e₂ - 53) (-1074))
    = t
  obtain ⟨k, shift⟩ : ∃ k : Nat, e₁ - e₂ = t + k := ⟨(e₁ - e₂ - t).toNat, by omega⟩
  have amount : (e₁ - e₂ - t).toNat = k := by omega
  rw [amount]
  -- the dividend is shifted so far that its quotient has enough bits
  have value : m₁ * 2 ^ e₁ / (m₂ * 2 ^ e₂) / 2 ^ t = ((m₁ <<< k : Nat) : ℚ) / m₂ := by
    have powers : (2 : ℚ) ^ e₁ = 2 ^ t * 2 ^ k * 2 ^ e₂ := by
      rw [← zpow_natCast (2 : ℚ) k, ← zpow_add₀ (by norm_num), ← zpow_add₀ (by norm_num), ← shift]
      congr 1
      omega
    rw [powers, Nat.shiftLeft_eq]
    push_cast
    field_simp
  refine roundWithAccuracy_of_nearest h canonical some' _ ?_ ?_
  · rw [value]
    exact truncates_div _ pos₂
  · rw [value]
    by_cases least : t ≤ leastExponent
    · exact .inl least
    · right
      unfold leastExponent at least
      unfold totalExponent at target
      have bits : 53 + m₂.log2 ≤ m₁.log2 + k := by omega
      have first : 2 ^ m₁.log2 ≤ m₁ := Nat.log2_self_le pos₁.ne'
      have second : m₂ < 2 ^ (m₂.log2 + 1) := Nat.lt_log2_self
      rw [le_div_iff₀ (by exact_mod_cast pos₂)]
      have natural : 2 ^ 52 * m₂ ≤ m₁ <<< k := by
        calc 2 ^ 52 * m₂ ≤ 2 ^ 52 * 2 ^ (m₂.log2 + 1) := Nat.mul_le_mul_left _ second.le
          _ = 2 ^ (53 + m₂.log2) := by rw [← Nat.pow_add]; congr 1; omega
          _ ≤ 2 ^ (m₁.log2 + k) := Nat.pow_le_pow_right (by decide) bits
          _ = 2 ^ m₁.log2 * 2 ^ k := Nat.pow_add _ _ _
          _ ≤ m₁ * 2 ^ k := Nat.mul_le_mul_right _ first
          _ = m₁ <<< k := (Nat.shiftLeft_eq _ _).symm
      exact_mod_cast natural

/-- **A product is rounded to the magnitude that it is nearest to.** -/
theorem mul_of_nearest {m₁ m₂ : Nat} {e₁ e₂ : Int} (large : 2 ^ 52 ≤ m₁) (pos₁ : 0 < m₁)
    (pos₂ : 0 < m₂) (h : b.Nearest (m₁ * 2 ^ e₁ * (m₂ * 2 ^ e₂))) (canonical : b.Canonical)
    (some' : b.significand ≠ 0) (s₁ s₂ : Sign) :
    UnpackedFloat.mul Format.binary64 (.finite s₁ m₁ e₁ pos₁) (.finite s₂ m₂ e₂ pos₂) =
      .finite (s₁ * s₂) b.significand b.exponent (Nat.pos_of_ne_zero some') := by
  have value : m₁ * 2 ^ e₁ * (m₂ * 2 ^ e₂) / (2 : ℚ) ^ (e₁ + e₂) = ((m₁ * m₂ : Nat) : ℚ) := by
    rw [zpow_add₀ (by norm_num)]
    push_cast
    field_simp
  simp only [UnpackedFloat.mul]
  refine roundWithAccuracy_of_nearest h canonical some' _ ?_ ?_
  · rw [value]
    exact truncates_exact _
  · right
    rw [value]
    have natural : 2 ^ 52 ≤ m₁ * m₂ := le_trans large (Nat.le_mul_of_pos_right _ pos₂)
    exact_mod_cast natural

end GridRecords.Decimal
