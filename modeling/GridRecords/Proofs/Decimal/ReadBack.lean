/-
# Numbers read back

A numeral with the value of the digits that were chosen for a double stands for that double:
`toFloat_of_denotes`.
-/
import GridRecords.Proofs.Decimal.Interval

namespace GridRecords.Decimal

open Float.Model Float.Model.UnpackedFloat

variable {b : Binary} {q : ℚ} {m : Nat} {scale : Int}

/-! ## Magnitudes of whole numbers and powers of ten -/

theorem unpacked_of_positive (some' : b.significand ≠ 0) (positive : b.negative = false) :
    b.unpacked = .finite .positive b.significand b.exponent (Nat.pos_of_ne_zero some') := by
  unfold Binary.unpacked
  rw [dif_neg some', positive]
  rfl

/-- A whole number of at most fifty-three bits, shifted until it fills them. -/
def Binary.ofWhole (m : Nat) : Binary where
  negative := false
  significand := m * 2 ^ (52 - m.log2)
  exponent := -(52 - m.log2 : Nat)

theorem magnitude_ofWhole (m : Nat) : (Binary.ofWhole m).magnitude = m := by
  unfold Binary.magnitude Binary.ofWhole
  rw [zpow_neg, zpow_natCast]
  push_cast
  field_simp

section

variable (some' : m ≠ 0) (small : m < 2 ^ 53)
include some' small

theorem log2_le_of_lt : m.log2 ≤ 52 := by
  have := (Nat.log2_lt some').2 small
  omega

theorem full_ofWhole : 2 ^ 52 ≤ (Binary.ofWhole m).significand := by
  have bits := log2_le_of_lt some' small
  calc 2 ^ 52 = 2 ^ m.log2 * 2 ^ (52 - m.log2) := by rw [← Nat.pow_add, Nat.add_sub_cancel' bits]
    _ ≤ m * 2 ^ (52 - m.log2) := Nat.mul_le_mul_right _ (Nat.log2_self_le some')

theorem canonical_ofWhole : (Binary.ofWhole m).Canonical := by
  have bits := log2_le_of_lt some' small
  refine ⟨?_, ?_, ?_, .inl (full_ofWhole some' small)⟩
  · calc m * 2 ^ (52 - m.log2) < 2 ^ (m.log2 + 1) * 2 ^ (52 - m.log2) :=
          Nat.mul_lt_mul_of_pos_right Nat.lt_log2_self (Nat.pow_pos (by decide))
      _ = 2 ^ 53 := by rw [← Nat.pow_add]; congr 1; omega
  · show -1074 ≤ -((52 - m.log2 : Nat) : Int)
    omega
  · show -((52 - m.log2 : Nat) : Int) ≤ 971
    omega

theorem ofNat_eq_ofWhole :
    UnpackedFloat.ofNat Format.binary64 m = (Binary.ofWhole m).unpacked := by
  have bits := log2_le_of_lt some' small
  have full := full_ofWhole some' small
  have order : compare (m : Int) 0 = .gt := Int.compare_eq_gt.2 (by omega)
  have target : Format.binary64.targetExponent (totalExponent m 0) = -(52 - m.log2 : Nat) := by
    rw [targetExponent_eq]
    unfold totalExponent
    omega
  have amount : (0 - -((52 - m.log2 : Nat) : Int)).toNat = 52 - m.log2 := by omega
  have exponent : (0 : Int) - (52 - m.log2 : Nat) = -(52 - m.log2 : Nat) := by omega
  have nonzero : (Binary.ofWhole m).significand ≠ 0 := by omega
  rw [unpacked_of_positive nonzero rfl,
    ← roundWithAccuracy_canonical (canonical_ofWhole some' small) nonzero]
  simp only [UnpackedFloat.ofNat, UnpackedFloat.ofInt, UnpackedFloat.normalize, order,
    UnpackedFloat.round, decreaseExponent, Int.toNat_natCast, target, amount, exponent,
    Nat.shiftLeft_eq]
  rfl

/-- A whole number of at most fifty-three bits is a double. -/
theorem unpacked_ofWhole : (Binary.ofWhole m).unpacked = m.toUInt64.toFloat.toModel.unpack := by
  have value : m.toUInt64.toNat = m := by
    rw [Nat.toUInt64_eq, UInt64.toNat_ofNat']
    omega
  have model : m.toUInt64.toFloat.toModel = .pack (UnpackedFloat.ofNat Format.binary64 m) := by
    show Float.Model.pack (UnpackedFloat.ofNat Format.binary64 m.toUInt64.toNat) = _
    rw [value]
  rw [model, ofNat_eq_ofWhole some' small, unpack_pack (canonical_ofWhole some' small)]

end

/-- A power of ten in fifty-three bits. -/
def Binary.powerOfTen (e : Nat) : Binary where
  negative := false
  significand := 10 ^ e * 2 ^ 52 / 2 ^ (10 ^ e).log2
  exponent := (10 ^ e).log2 - 52

/-- The powers of ten up to `10 ^ 22` are doubles. -/
theorem powerOfTen_spec {e : Nat} (h : e < Float.exactlyRepresentablePowersOfTen.size) :
    (Binary.powerOfTen e).unpacked = Float.exactlyRepresentablePowersOfTen[e].toModel.unpack ∧
      (Binary.powerOfTen e).significand ≠ 0 ∧ (Binary.powerOfTen e).magnitude = 10 ^ e := by
  have all : ∀ e : Fin 23,
      Reading.ofFloat Float.exactlyRepresentablePowersOfTen[e] = .finite (.powerOfTen e) ∧
        2 ^ (10 ^ e.val).log2 ∣ 10 ^ e.val * 2 ^ 52 := by
    decide
  obtain ⟨reading, whole⟩ := all ⟨e, h⟩
  have two : 0 < 2 ^ (10 ^ e).log2 := Nat.two_pow_pos _
  have value : (Binary.powerOfTen e).significand * 2 ^ (10 ^ e).log2 = 10 ^ e * 2 ^ 52 :=
    Nat.div_mul_cancel whole
  refine ⟨?_, ?_, ?_⟩
  · rw [unpack_eq]
    exact (congrArg Reading.unpacked reading).symm
  · intro zero
    rw [zero, Nat.zero_mul] at value
    have : 0 < 10 ^ e * 2 ^ 52 := by positivity
    omega
  · have value : ((Binary.powerOfTen e).significand : ℚ) * 2 ^ (10 ^ e).log2 = 10 ^ e * 2 ^ 52 := by
      exact_mod_cast value
    have exponent : (Binary.powerOfTen e).exponent = ((10 ^ e).log2 : Int) - (52 : Nat) := rfl
    unfold Binary.magnitude
    rw [exponent, zpow_sub₀ (by norm_num), zpow_natCast, zpow_natCast, ← mul_div_assoc, value]
    field_simp

/-! ## The double of a numeral -/

theorem ofFloat_of_unpacked {u : UnpackedFloat} (canonical : b.Canonical) (h : u = b.unpacked) :
    Reading.ofFloat (.ofModel (.pack u)) = .finite b := by
  rw [h]
  exact ofFloat_pack canonical

/-- The guards against huge exponents pass what a double is nearest to. -/
theorem Binary.Nearest.bounds (h : b.Nearest q) (canonical : b.Canonical)
    (some' : b.significand ≠ 0) : (10 : ℚ) ^ (-330 : Int) < q ∧ q < 10 ^ (309 : Int) := by
  have two : (0 : ℚ) < 2 ^ b.exponent := by positivity
  have ⟨lt, least, most, _⟩ := canonical
  have least : (2 : ℚ) ^ (-1074 : Int) ≤ 2 ^ b.exponent :=
    zpow_le_zpow_right₀ (by norm_num) least
  have most : (2 : ℚ) ^ b.exponent ≤ 2 ^ (971 : Int) := zpow_le_zpow_right₀ (by norm_num) most
  have one : (1 : ℚ) ≤ b.significand := by exact_mod_cast Nat.pos_of_ne_zero some'
  have lt : (b.significand : ℚ) + 1 ≤ 2 ^ 53 := by exact_mod_cast lt
  have lower := h.lower
  have upper := h.upper
  have reach := b.reach_le
  rw [le_div_iff₀ two] at lower
  rw [div_le_iff₀ two] at upper
  have tiny : (10 : ℚ) ^ (-330 : Int) < 1 / 2 * 2 ^ (-1074 : Int) := by
    have natural : 2 * 2 ^ 1074 < 10 ^ 330 := by decide +kernel
    have natural : (2 : ℚ) * 2 ^ 1074 < 10 ^ 330 := by exact_mod_cast natural
    rw [zpow_neg, zpow_neg, one_div, ← mul_inv]
    exact inv_strictAnti₀ (by positivity) natural
  have huge : (2 : ℚ) ^ 53 * 2 ^ (971 : Int) < 10 ^ (309 : Int) := by
    have natural : 2 ^ 53 * 2 ^ 971 < 10 ^ 309 := by decide +kernel
    exact_mod_cast natural
  constructor
  · calc (10 : ℚ) ^ (-330 : Int) < 1 / 2 * 2 ^ (-1074 : Int) := tiny
      _ ≤ 1 / 2 * 2 ^ b.exponent := mul_le_mul_of_nonneg_left least (by norm_num)
      _ ≤ (b.significand - b.reach) * 2 ^ b.exponent :=
          mul_le_mul_of_nonneg_right (by linarith) two.le
      _ ≤ q := lower
  · calc q ≤ (b.significand + 1 / 2) * 2 ^ b.exponent := upper
      _ ≤ 2 ^ 53 * 2 ^ b.exponent := mul_le_mul_of_nonneg_right (by linarith) two.le
      _ ≤ 2 ^ 53 * 2 ^ (971 : Int) := mul_le_mul_of_nonneg_left most (by norm_num)
      _ < 10 ^ (309 : Int) := huge

section Positive

variable (canonical : b.Canonical) (some' : b.significand ≠ 0) (positive : b.negative = false)
include canonical some' positive

theorem ofFloat_div {x y : Float} {c p : Binary} (hx : c.unpacked = x.toModel.unpack)
    (hy : p.unpacked = y.toModel.unpack) (signs : c.negative = false ∧ p.negative = false)
    (hc : c.significand ≠ 0) (hp : p.significand ≠ 0) (h : b.Nearest (c.magnitude / p.magnitude)) :
    Reading.ofFloat (x / y) = .finite b := by
  refine ofFloat_of_unpacked (u := UnpackedFloat.div Format.binary64 x.toModel.unpack
    y.toModel.unpack) canonical ?_
  rw [← hx, ← hy, unpacked_of_positive hc signs.1, unpacked_of_positive hp signs.2,
    unpacked_of_positive some' positive]
  exact div_of_nearest _ _ h canonical some' .positive .positive

theorem ofFloat_mul {x y : Float} {c p : Binary} (hx : c.unpacked = x.toModel.unpack)
    (hy : p.unpacked = y.toModel.unpack) (signs : c.negative = false ∧ p.negative = false)
    (full : 2 ^ 52 ≤ c.significand) (hp : p.significand ≠ 0)
    (h : b.Nearest (c.magnitude * p.magnitude)) : Reading.ofFloat (x * y) = .finite b := by
  have hc : c.significand ≠ 0 := by omega
  refine ofFloat_of_unpacked (u := UnpackedFloat.mul Format.binary64 x.toModel.unpack
    y.toModel.unpack) canonical ?_
  rw [← hx, ← hy, unpacked_of_positive hc signs.1, unpacked_of_positive hp signs.2,
    unpacked_of_positive some' positive]
  exact mul_of_nearest full _ _ h canonical some' .positive .positive

/-- The exact arithmetic for long numerals. -/
theorem ofFloat_modelOfScientific (h : b.Nearest (m * 10 ^ scale)) (digits : m ≠ 0)
    (notHuge : scale ≤ 2 ^ 11) (notTiny : -(2 ^ 11 + (m.log2 : Int)) ≤ scale) :
    Reading.ofFloat (.ofModel (.ofScientific m scale)) = .finite b := by
  refine ofFloat_of_unpacked canonical ?_
  unfold UnpackedFloat.ofScientific
  rw [dif_neg digits, if_neg (not_lt.2 notHuge), if_neg (not_lt.2 notTiny),
    unpacked_of_positive some' positive]
  split
  · rename_i whole
    -- the shift fills the bits that the product is rounded to
    have large : 2 ^ 52 ≤ m <<< Format.binary64.mantissaBits := by
      show 2 ^ 52 ≤ m <<< 53
      rw [Nat.shiftLeft_eq]
      omega
    refine mul_of_nearest large _ _ ?_ canonical some' .positive .positive
    have shifted : ((m <<< Format.binary64.mantissaBits : Nat) : ℚ) *
        2 ^ (-(Format.binary64.mantissaBits : Int)) = m := by
      rw [Nat.shiftLeft_eq, zpow_neg, zpow_natCast]
      push_cast
      field_simp
    have power : ((10 ^ scale.toNat : Nat) : ℚ) * 2 ^ (0 : Int) = 10 ^ scale := by
      rw [zpow_zero, mul_one]
      push_cast
      rw [← zpow_natCast, Int.toNat_of_nonneg whole]
    rw [shifted, power]
    exact h
  · rename_i fraction
    refine div_of_nearest _ _ ?_ canonical some' .positive .positive
    have power : ((10 ^ (-scale).toNat : Nat) : ℚ) = (10 ^ scale)⁻¹ := by
      push_cast
      rw [← zpow_natCast, Int.toNat_of_nonneg (by omega), zpow_neg]
    rw [power, zpow_zero, mul_one, mul_one, div_inv_eq_mul]
    exact h

theorem ofFloat_ofScientific (h : b.Nearest (m * 10 ^ scale)) (digits : m ≠ 0)
    (notHuge : scale ≤ 2 ^ 11) (notTiny : -(2 ^ 11 + (m.log2 : Int)) ≤ scale) :
    Reading.ofFloat (.ofScientific m (scale < 0) scale.natAbs) = .finite b := by
  unfold Float.ofScientific
  split
  · -- digits and power of ten are doubles, and one operation on them is rounded once
    rename_i short
    have unpackedC := unpacked_ofWhole digits short.1
    have full := full_ofWhole digits short.1
    obtain ⟨unpackedP, some'', magnitudeP⟩ := powerOfTen_spec (e := scale.natAbs)
      (Nat.lt_succ_of_le short.2)
    by_cases fraction : scale < 0
    · simp only [fraction, decide_true, if_true]
      refine ofFloat_div canonical some' positive unpackedC unpackedP ⟨rfl, rfl⟩ (by omega)
        some'' ?_
      have power : (10 : ℚ) ^ scale.natAbs = (10 ^ scale)⁻¹ := by
        rw [← zpow_natCast, ← zpow_neg]
        congr 1
        omega
      rw [magnitude_ofWhole, magnitudeP, power, div_inv_eq_mul]
      exact h
    · simp only [fraction, decide_false, if_false, Bool.false_eq_true]
      refine ofFloat_mul canonical some' positive unpackedC unpackedP ⟨rfl, rfl⟩ full some'' ?_
      have power : (10 : ℚ) ^ scale.natAbs = 10 ^ scale := by
        rw [← zpow_natCast]
        congr 1
        omega
      rw [magnitude_ofWhole, magnitudeP, power]
      exact h
  · have exponent : (if decide (scale < 0) = true then Int.negOfNat scale.natAbs
        else Int.ofNat scale.natAbs) = scale := by
      split
      · rename_i fraction
        rw [decide_eq_true_iff] at fraction
        rw [Int.negOfNat_eq]
        show -(scale.natAbs : Int) = scale
        omega
      · rename_i whole
        rw [decide_eq_true_iff] at whole
        show (scale.natAbs : Int) = scale
        omega
    rw [exponent]
    exact ofFloat_modelOfScientific canonical some' positive h digits notHuge notTiny

/-- **A numeral stands for the double that its value is nearest to.** -/
theorem ofFloat_nearestFloat (h : b.Nearest (m * 10 ^ scale)) :
    Reading.ofFloat (nearestFloat m scale) = .finite b := by
  obtain ⟨tiny, huge⟩ := h.bounds canonical some'
  have ten : (10 : ℚ) ≠ 0 := by norm_num
  have digits : m ≠ 0 := by
    rintro rfl
    have : (0 : ℚ) < 10 ^ (-330 : Int) := by positivity
    rw [Nat.cast_zero, zero_mul] at tiny
    linarith
  have below : (10 : ℚ) ^ ((width m : Int) + scale - 1) ≤ m * 10 ^ scale := by
    have split : (width m : Int) + scale - 1 = (width m : Int) - 1 + scale := by omega
    rw [split, zpow_add₀ ten]
    exact mul_le_mul_of_nonneg_right (zpow_width_le digits) (by positivity)
  have above : m * (10 : ℚ) ^ scale < 10 ^ ((width m : Int) + scale) := by
    rw [zpow_add₀ ten]
    exact mul_lt_mul_of_pos_right (lt_zpow_width m) (by positivity)
  -- so the number of digits before the point is within the guards
  have low : -330 < (width m : Int) + scale :=
    (zpow_lt_zpow_iff_right₀ (by norm_num)).1 (tiny.trans above)
  have high : (width m : Int) + scale - 1 < 309 :=
    (zpow_lt_zpow_iff_right₀ (by norm_num)).1 (below.trans_lt huge)
  -- a number has at least as many bits as digits
  have bits : width m - 1 ≤ m.log2 := by
    refine (Nat.le_log2 digits).2 (le_trans ?_ (pow_width_le digits))
    exact Nat.pow_le_pow_left (by decide) _
  have width_pos := width_pos m
  unfold nearestFloat
  dsimp only
  rw [if_neg (by omega), if_neg (by omega)]
  exact ofFloat_ofScientific canonical some' positive h digits (by omega) (by omega)

end Positive

theorem Numeral.Denotes.eq_value {n : Numeral} {d : Digits} (h : n.Denotes d) :
    (n.digits : ℚ) * 10 ^ n.scale = d.value := by
  obtain ⟨k, digits, scale⟩ := h.value
  unfold Digits.value
  rw [digits, scale, zpow_sub₀ (by norm_num), zpow_natCast]
  push_cast
  field_simp

/-- **A double is read back from the digits that were chosen for it.** -/
theorem toFloat_of_denotes {x : Float} (reading : Reading.ofFloat x = .finite b) {tie : Tie}
    {n : Numeral} (denotes : n.Denotes (b.shortest tie)) (sign : n.negative = b.negative) :
    n.toFloat = x := by
  have ⟨lt, least, most, full⟩ := canonical_of_ofFloat reading
  -- the absolute value is read first
  have absolute : Reading.ofFloat (nearestFloat n.digits n.scale) =
      .finite { b with negative := false } := by
    by_cases zero : b.significand = 0
    · -- zero is the only magnitude without an interval
      obtain ⟨k, digits, -⟩ := denotes.value
      unfold Binary.shortest at digits
      rw [if_pos zero] at digits
      have none : n.digits = 0 := digits.trans (Nat.zero_mul _)
      have exponent := full.resolve_left (by omega)
      unfold nearestFloat
      dsimp only
      rw [if_pos (.inl none), zero, exponent]
      decide
    · have contains := Binary.contains_shortest (canonical_of_ofFloat reading) zero tie
      rw [interval_contains_iff zero, ← denotes.eq_value] at contains
      exact ofFloat_nearestFloat (b := { b with negative := false }) ⟨lt, least, most, full⟩ zero
        rfl ⟨contains.lower, contains.upper, contains.tie⟩
  unfold Numeral.toFloat
  dsimp only
  rw [sign]
  obtain ⟨negative, significand, exponent⟩ := b
  cases negative with
  | true =>
      rw [if_pos rfl]
      exact eq_of_ofFloat (ofFloat_neg absolute) reading
  | false =>
      rw [if_neg Bool.false_ne_true]
      exact eq_of_ofFloat absolute reading

end GridRecords.Decimal
