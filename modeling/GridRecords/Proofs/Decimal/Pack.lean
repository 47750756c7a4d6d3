/-
# Doubles made from magnitudes

A canonical magnitude packs to the double that it was read from: `ofFloat_pack` reads a packed
magnitude back, and `eq_of_ofFloat` says that no two doubles have one magnitude.
-/
import GridRecords.Proofs.Decimal.Unpack

namespace GridRecords.Decimal

open Float.Model Float.Model.UnpackedFloat

/-- Magnitudes as doubles have them: the significand fills its fifty-three bits unless the
exponent is the least one. -/
structure Binary.Canonical (b : Binary) : Prop where
  significand_lt : b.significand < 2 ^ 53
  least : leastExponent ≤ b.exponent
  most : b.exponent ≤ 971
  full : 2 ^ 52 ≤ b.significand ∨ b.exponent = leastExponent

variable {b : Binary} {x y : Float}

/-- Reading an encoding part by part. -/
theorem ofBits_eq_finite_iff (bits : UInt64) :
    Reading.ofBits bits = .finite b ↔
      bits.toNat / 2 ^ 52 % 2 ^ 11 ≠ 2047 ∧
      b.negative = decide (bits.toNat / 2 ^ 63 = 1) ∧
      (bits.toNat / 2 ^ 52 % 2 ^ 11 = 0 ∧ b.significand = bits.toNat % 2 ^ 52 ∧
          b.exponent = leastExponent ∨
        bits.toNat / 2 ^ 52 % 2 ^ 11 ≠ 0 ∧ b.significand = 2 ^ 52 + bits.toNat % 2 ^ 52 ∧
          b.exponent = ((bits.toNat / 2 ^ 52 % 2 ^ 11 : Nat) : Int) - 1075) := by
  obtain ⟨negative, significand, exponent⟩ := b
  unfold Reading.ofBits
  simp only
  generalize bits.toNat / 2 ^ 52 % 2 ^ 11 = e
  generalize bits.toNat % 2 ^ 52 = fraction
  split
  · rename_i top
    split <;> simp [top]
  · rename_i top
    split
    · rename_i bottom
      simp [bottom, eq_comm]
    · rename_i bottom
      simp [top, bottom, eq_comm]

theorem canonical_of_ofFloat (reading : Reading.ofFloat x = .finite b) : b.Canonical := by
  obtain ⟨top, -, ⟨bottom, fraction, least⟩ | ⟨bottom, fraction, exponent⟩⟩ :=
    (ofBits_eq_finite_iff x.toBits).1 reading
  · refine ⟨by omega, by omega, ?_, .inr least⟩
    rw [least]
    decide
  · refine ⟨by omega, ?_, by omega, .inl (by omega)⟩
    unfold leastExponent
    omega

/-- **A double is settled by its magnitude.** -/
theorem eq_of_ofFloat (hx : Reading.ofFloat x = .finite b) (hy : Reading.ofFloat y = .finite b) :
    x = y := by
  have partsX := (ofBits_eq_finite_iff x.toBits).1 hx
  have partsY := (ofBits_eq_finite_iff y.toBits).1 hy
  have ltX := x.toBits.toNat_lt
  have ltY := y.toBits.toNat_lt
  have sign : (x.toBits.toNat / 2 ^ 63 = 1) ↔ (y.toBits.toNat / 2 ^ 63 = 1) := by
    have := partsX.2.1.symm.trans partsY.2.1
    simpa using this
  have bits : x.toBits = y.toBits := by
    apply UInt64.toNat_inj.1
    have := partsX.2.2
    have := partsY.2.2
    unfold leastExponent at *
    omega
  obtain ⟨⟨bitsX, validX⟩⟩ := x
  obtain ⟨⟨bitsY, validY⟩⟩ := y
  have : bitsX = bitsY := bits
  subst this
  rfl

/-! ## Packing -/

theorem toNat_packComponents (sign : Sign) (field : BitVec 11) (fraction : BitVec 52) :
    (packComponents Format.binary64 sign field fraction).toNat =
      sign.toBitVec.toNat * 2 ^ 63 + field.toNat * 2 ^ 52 + fraction.toNat := by
  have inner : (sign.toBitVec ++ field).toNat = sign.toBitVec.toNat * 2 ^ 11 + field.toNat := by
    rw [BitVec.toNat_append, ← Nat.shiftLeft_add_eq_or_of_lt field.isLt, Nat.shiftLeft_eq]
  show (sign.toBitVec ++ field ++ fraction).toNat = _
  rw [BitVec.toNat_append, ← Nat.shiftLeft_add_eq_or_of_lt fraction.isLt, Nat.shiftLeft_eq, inner]
  omega

theorem toNat_toBitVec_signOf (negative : Bool) :
    (signOf negative).toBitVec.toNat = if negative then 1 else 0 := by
  cases negative <;> rfl

/-- A magnitude packs to one sign bit, its exponent and its significand without the first bit. -/
theorem toNat_pack (h : b.Canonical) :
    (UnpackedFloat.pack Format.binary64 b.unpacked).toNat =
      (if b.negative then 1 else 0) * 2 ^ 63 +
        if 2 ^ 52 ≤ b.significand then (b.exponent + 1075).toNat * 2 ^ 52 + (b.significand - 2 ^ 52)
        else b.significand := by
  have ⟨lt, least, most, full⟩ := h
  unfold leastExponent at least full
  have sign := toNat_toBitVec_signOf b.negative
  unfold Binary.unpacked
  split
  · rename_i zero
    have bits := toNat_packComponents (signOf b.negative) 0#11 0#52
    rw [sign] at bits
    refine bits.trans ?_
    simp [zero]
  · rename_i some'
    have field : (b.exponent + (Format.binary64.exponentBias : Nat) +
        (Format.binary64.mantissaBitsWithoutImplicit : Nat)).toNat = (b.exponent + 1075).toNat := by
      show (b.exponent + 1023 + 52).toNat = _
      omega
    have fits : ¬ 2 ^ Format.binary64.exponentBits ≤ (b.exponent + 1075).toNat + 1 := by
      show ¬ 2 ^ 11 ≤ _
      omega
    simp only [UnpackedFloat.pack, field, if_neg fits]
    by_cases normal : 2 ^ 52 ≤ b.significand
    · -- the first bit of the significand is left out, which the exponent field makes up for
      have bits : b.significand.log2 + 1 = Format.binary64.mantissaBits := by
        have : b.significand.log2 = 52 := (Nat.log2_eq_iff some').2 ⟨normal, lt⟩
        rw [this]
        rfl
      have packed := toNat_packComponents (signOf b.negative)
        (BitVec.ofNat 11 (b.exponent + 1075).toNat) (BitVec.ofNat 52 b.significand)
      rw [sign, BitVec.toNat_ofNat, BitVec.toNat_ofNat] at packed
      rw [if_pos bits, if_pos normal]
      refine packed.trans ?_
      omega
    · -- subnormal: the exponent field is zero
      have bits : ¬ b.significand.log2 + 1 = Format.binary64.mantissaBits := by
        have : b.significand.log2 < 52 := (Nat.log2_lt some').2 (by omega)
        show ¬ _ = 53
        omega
      have packed := toNat_packComponents (signOf b.negative) 0#11 (BitVec.ofNat 52 b.significand)
      rw [sign, BitVec.toNat_ofNat, BitVec.toNat_ofNat] at packed
      rw [if_neg bits, if_neg normal]
      refine packed.trans ?_
      omega

/-- **A packed magnitude is read back.** -/
theorem ofFloat_pack (h : b.Canonical) :
    Reading.ofFloat (.ofModel (.pack b.unpacked)) = .finite b := by
  have ⟨lt, least, most, full⟩ := h
  unfold leastExponent at least full
  refine (ofBits_eq_finite_iff _).2 ?_
  have value : (Float.ofModel (.pack b.unpacked)).toBits.toNat =
      (UnpackedFloat.pack Format.binary64 b.unpacked).toNat := rfl
  rw [value, toNat_pack h]
  unfold leastExponent
  -- the two forms of the exponent field, for either sign
  cases negative : b.negative
  · simp only [Bool.false_eq_true, if_false]
    split
    · refine ⟨by omega, ?_, .inr (by omega)⟩
      simp
      omega
    · refine ⟨by omega, ?_, .inl (by omega)⟩
      simp
      omega
  · simp only [if_true]
    split
    · refine ⟨by omega, ?_, .inr (by omega)⟩
      simp
      omega
    · refine ⟨by omega, ?_, .inl (by omega)⟩
      simp
      omega

theorem unpack_pack (h : b.Canonical) : (Float.Model.pack b.unpacked).unpack = b.unpacked := by
  have read := unpack_eq (.ofModel (.pack b.unpacked))
  rwa [ofFloat_pack h] at read

/-- Negating a double turns its sign. -/
theorem ofFloat_neg (reading : Reading.ofFloat x = .finite b) :
    Reading.ofFloat (-x) = .finite { b with negative := !b.negative } := by
  have canonical := canonical_of_ofFloat reading
  have turned : b.unpacked.neg = Binary.unpacked { b with negative := !b.negative } := by
    unfold Binary.unpacked
    obtain ⟨negative, significand, exponent⟩ := b
    cases negative <;> (dsimp only; split <;> rfl)
  have model : -x = .ofModel (.pack x.toModel.unpack.neg) := rfl
  rw [model, unpack_eq, reading]
  show Reading.ofFloat (.ofModel (.pack b.unpacked.neg)) = _
  rw [turned]
  exact ofFloat_pack ⟨canonical.significand_lt, canonical.least, canonical.most, canonical.full⟩

end GridRecords.Decimal
