/-
# The encoding of doubles

The logical model of a double unpacks its sixty-four bits into sign, significand and exponent.
`unpack_eq` says that `Reading.ofFloat` takes the same bits apart in the same way.
-/
import GridRecords.Decimal.Layout
import Mathlib

namespace GridRecords.Decimal

open Float.Model Float.Model.UnpackedFloat

/-- The sign of a magnitude. -/
def signOf (negative : Bool) : Sign := if negative then .negative else .positive

/-- A magnitude as an unpacked double. -/
def Binary.unpacked (b : Binary) : UnpackedFloat :=
  if h : b.significand = 0 then .zero (signOf b.negative)
  else .finite (signOf b.negative) b.significand b.exponent (Nat.pos_of_ne_zero h)

/-- What an encoding stands for, as an unpacked double. -/
def Reading.unpacked : Reading → UnpackedFloat
  | .nan => .notANumber
  | .infinite negative => .infinity (signOf negative)
  | .finite b => b.unpacked

/-! ## The three parts of an encoding -/

theorem toNat_unpackMantissa (bits : BitVec 64) :
    (@unpackMantissa Format.binary64 bits).toNat = bits.toNat % 2 ^ 52 := by
  unfold unpackMantissa
  rw [BitVec.toNat_cast, BitVec.extractLsb_toNat]
  rfl

theorem toNat_unpackExponent (bits : BitVec 64) :
    (@unpackExponent Format.binary64 bits).toNat = bits.toNat / 2 ^ 52 % 2 ^ 11 := by
  unfold unpackExponent
  rw [BitVec.toNat_cast, BitVec.extractLsb_toNat, Nat.shiftRight_eq_div_pow]
  rfl

theorem ofBitVec_unpackSign (bits : BitVec 64) :
    Sign.ofBitVec (@unpackSign Format.binary64 bits) =
      signOf (decide (bits.toNat / 2 ^ 63 = 1)) := by
  have value : (@unpackSign Format.binary64 bits).toNat = bits.toNat / 2 ^ 63 := by
    unfold unpackSign
    rw [BitVec.toNat_cast, BitVec.extractLsb_toNat, Nat.shiftRight_eq_div_pow]
    have := bits.isLt
    show bits.toNat / 2 ^ 63 % 2 = _
    omega
  unfold Sign.ofBitVec signOf
  have zero : @unpackSign Format.binary64 bits = 0#1 ↔ bits.toNat / 2 ^ 63 = 0 := by
    rw [← BitVec.toNat_inj, value]
    rfl
  have := bits.isLt
  by_cases one : bits.toNat / 2 ^ 63 = 1
  · rw [if_neg (by rw [zero]; omega), if_pos (by simpa using one)]
  · rw [if_pos (by rw [zero]; omega), if_neg (by simpa using one)]

theorem unpack_ofBits (bits : UInt64) :
    UnpackedFloat.unpack Format.binary64 bits.toBitVec = (Reading.ofBits bits).unpacked := by
  have field := toNat_unpackExponent bits.toBitVec
  have fraction := toNat_unpackMantissa bits.toBitVec
  have sign := ofBitVec_unpackSign bits.toBitVec
  rw [UInt64.toNat_toBitVec] at field fraction sign
  have allOnes : @unpackExponent Format.binary64 bits.toBitVec = -1#_ ↔
      bits.toNat / 2 ^ 52 % 2 ^ 11 = 2047 := by
    rw [← BitVec.toNat_inj, field]
    rfl
  have zeroField : @unpackExponent Format.binary64 bits.toBitVec = 0#_ ↔
      bits.toNat / 2 ^ 52 % 2 ^ 11 = 0 := by
    rw [← BitVec.toNat_inj, field]
    rfl
  have zeroFraction : @unpackMantissa Format.binary64 bits.toBitVec = 0#_ ↔
      bits.toNat % 2 ^ 52 = 0 := by
    rw [← BitVec.toNat_inj, fraction]
    rfl
  unfold UnpackedFloat.unpack Reading.ofBits
  simp only [allOnes, zeroField, zeroFraction, sign]
  by_cases top : bits.toNat / 2 ^ 52 % 2 ^ 11 = 2047
  · simp only [if_pos top]
    split <;> rfl
  · simp only [if_neg top]
    by_cases bottom : bits.toNat / 2 ^ 52 % 2 ^ 11 = 0
    · simp only [if_pos bottom, Reading.unpacked, Binary.unpacked]
      by_cases none : bits.toNat % 2 ^ 52 = 0
      · simp only [dif_pos none]
      · simp only [dif_neg none, fraction, field, bottom]
        rfl
    · have normal : (1#1 ++ @unpackMantissa Format.binary64 bits.toBitVec).toNat =
          2 ^ 52 + bits.toNat % 2 ^ 52 := by
        rw [BitVec.toNat_append, fraction,
          ← Nat.shiftLeft_add_eq_or_of_lt (Nat.mod_lt _ (by decide))]
        rfl
      have some' : ¬ 2 ^ 52 + bits.toNat % 2 ^ 52 = 0 := by omega
      simp only [if_neg bottom, Reading.unpacked, Binary.unpacked, dif_neg some', normal, field]
      rfl

/-- **The reading of a double is what its model unpacks to.** -/
theorem unpack_eq (x : Float) : x.toModel.unpack = (Reading.ofFloat x).unpacked :=
  unpack_ofBits x.toModel.toBits

/-- A double is finite when its encoding stands for a magnitude. -/
theorem isFinite_iff (x : Float) : x.isFinite = true ↔ ∃ b, Reading.ofFloat x = .finite b := by
  have model : x.isFinite = x.toModel.unpack.isFinite := rfl
  rw [model, unpack_eq]
  cases Reading.ofFloat x with
  | nan => simp [Reading.unpacked, UnpackedFloat.isFinite]
  | infinite negative => simp [Reading.unpacked, UnpackedFloat.isFinite]
  | finite b =>
      refine iff_of_true ?_ ⟨b, rfl⟩
      show b.unpacked.isFinite = true
      unfold Binary.unpacked
      split <;> rfl

/-- A layout has a text for exactly the finite doubles. -/
theorem finiteText?_eq_some_iff (layout : Layout) (x : Float) {text : String} :
    layout.finiteText? x = some text ↔
      ∃ b, Reading.ofFloat x = .finite b ∧ text = String.ofList (layout.finite b) := by
  unfold Layout.finiteText?
  cases Reading.ofFloat x <;> simp [eq_comm]

theorem exists_finiteText?_iff (layout : Layout) (x : Float) :
    (∃ text, layout.finiteText? x = some text) ↔ x.isFinite = true := by
  rw [isFinite_iff]
  constructor
  · rintro ⟨text, h⟩
    obtain ⟨b, reading, _⟩ := (finiteText?_eq_some_iff layout x).1 h
    exact ⟨b, reading⟩
  · rintro ⟨b, reading⟩
    exact ⟨_, (finiteText?_eq_some_iff layout x).2 ⟨b, reading, rfl⟩⟩

end GridRecords.Decimal
