/-
# Scanning a magnitude by its bytes

The magnitude that a text starts with is found on the bytes of the text, index by index.  Its
characters are single bytes, and no byte of another character is taken for one of them
(`found_iff`), so a scan that starts between two characters ends between two
(`magnitudeLength_eq`): what is scanned is what is split off.
-/
import GridRecords.Proofs.Text.Digits
import GridRecords.Quantity.Magnitude
import Mathlib.Data.List.Basic

namespace GridRecords.Quantity

open Text

/-! ## Bytes of characters -/

/-- The bytes of a text. -/
def bytes (s : List Char) : List UInt8 := s.flatMap String.utf8EncodeChar

theorem bytes_append (s t : List Char) : bytes (s ++ t) = bytes s ++ bytes t :=
  List.flatMap_append

theorem bytes_toList (text : String) : text.toUTF8.data.toList = bytes text.toList := by
  rw [String.toUTF8, ← String.utf8Encode_toList, List.utf8Encode]
  simp [bytes]

theorem utf8ByteSize_ofList (s : List Char) :
    (String.ofList s).utf8ByteSize = (bytes s).length := by
  rw [← String.size_toByteArray, String.toByteArray_ofList, List.utf8Encode]
  simp [bytes]

/-- A character of one byte is its byte, and all others start with a greater one. -/
theorem utf8EncodeChar_cases (c : Char) : ∃ b more, String.utf8EncodeChar c = b :: more ∧
    (c.toNat < 128 ∧ b.toNat = c.toNat ∧ more = [] ∨ 128 ≤ c.toNat ∧ 128 ≤ b.toNat) := by
  have value : c.val.toNat = c.toNat := rfl
  fun_cases String.utf8EncodeChar c with
  | case1 =>
      refine ⟨_, _, rfl, .inl ⟨?_, ?_, rfl⟩⟩
      all_goals
        try rw [UInt8.toNat_ofNat']
        omega
  | _ =>
      refine ⟨_, _, rfl, .inr ⟨?_, ?_⟩⟩
      all_goals
        try rw [UInt8.toNat_ofNat']
        omega

theorem length_bytes_pos {s : List Char} : 0 < (bytes s).length ↔ s ≠ [] := by
  cases s with
  | nil => simp [bytes]
  | cons c rest =>
      obtain ⟨b, more, encoded, -⟩ := utf8EncodeChar_cases c
      simp [bytes, encoded]

/-- The byte at the end of a text is the first of what follows it. -/
theorem getElem?_bytes (before s : List Char) :
    (bytes (before ++ s))[(bytes before).length]? = (bytes s).head? := by
  rw [bytes_append, List.getElem?_append_right (Nat.le_refl _), Nat.sub_self,
    List.head?_eq_getElem?]

/-- **The byte of a character of one byte is found where the character stands, and nowhere
else.** -/
theorem found_iff (before s : List Char) {c : Char} (ascii : c.toNat < 128) :
    (bytes (before ++ s))[(bytes before).length]? = some c.toUInt8 ↔ s.head? = some c := by
  have byte : c.toUInt8.toNat = c.toNat := by
    show c.toNat % 2 ^ 8 = c.toNat
    omega
  rw [getElem?_bytes]
  cases s with
  | nil => simp [bytes]
  | cons d rest =>
      obtain ⟨b, more, encoded, kind⟩ := utf8EncodeChar_cases d
      have same : b = c.toUInt8 ↔ d = c := by
        rw [← UInt8.toNat_inj, byte, ← Char.toNat_inj]
        omega
      simpa [bytes, encoded] using same

theorem any_head?_bytes (s : List Char) :
    (bytes s).head?.any isDigitByte = s.head?.any isDigit := by
  cases s with
  | nil => rfl
  | cons d rest =>
      obtain ⟨b, more, encoded, kind⟩ := utf8EncodeChar_cases d
      have range : isDigitByte b = true ↔ 48 ≤ b.toNat ∧ b.toNat ≤ 57 := by
        rw [isDigitByte, Bool.and_eq_true, decide_eq_true_eq, decide_eq_true_eq,
          UInt8.le_iff_toNat_le, UInt8.le_iff_toNat_le]
        rfl
      have same : isDigitByte b = isDigit d := by
        rw [Bool.eq_iff_iff, range, isDigit_iff]
        omega
      simpa [bytes, encoded] using same

/-- Behind a character of one byte the index is one greater. -/
theorem length_bytes_concat {c : Char} (ascii : c.toNat < 128) (before : List Char) :
    (bytes (before ++ [c])).length = (bytes before).length + 1 := by
  obtain ⟨b, more, encoded, ⟨-, -, rfl⟩ | ⟨wide, -⟩⟩ := utf8EncodeChar_cases c
  · simp [bytes, encoded]
  · omega

/-! ## Scanning is splitting -/

theorem digitsFrom_bytes (before s : List Char) :
    digitsFrom (bytes (before ++ s)) (bytes before).length =
      (bytes (before ++ (takeDigits s).1)).length := by
  induction s generalizing before with
  | nil =>
      rw [digitsFrom, getElem?_bytes]
      simp [bytes, takeDigits]
  | cons c rest ih =>
      rw [digitsFrom, getElem?_bytes, any_head?_bytes]
      by_cases digit : isDigit c = true
      · have ascii : c.toNat < 128 := by
          have := isDigit_iff.1 digit
          omega
        have next := ih (before ++ [c])
        rw [length_bytes_concat ascii, List.append_assoc, List.singleton_append] at next
        rw [List.head?_cons, Option.any_some, if_pos digit, next]
        simp [takeDigits, digit]
      · simp [takeDigits, digit]

theorem signFrom_bytes (before s : List Char) :
    signFrom (bytes (before ++ s)) (bytes before).length =
      (bytes (before ++ (splitSign s).1)).length := by
  have plus := found_iff before s (c := '+') (by decide)
  have minus := found_iff before s (c := '-') (by decide)
  simp only [signFrom, plus, minus]
  fun_cases splitSign s with
  | case1 rest => rw [if_pos (.inl List.head?_cons), length_bytes_concat (by decide)]
  | case2 rest => rw [if_pos (.inr List.head?_cons), length_bytes_concat (by decide)]
  | case3 _ noPlus noMinus =>
      have other (c : Char) (no : ∀ rest, s = c :: rest → False) : s.head? ≠ some c := by
        intro first
        obtain ⟨rest, whole⟩ := List.head?_eq_some_iff.1 first
        exact no rest whole
      rw [if_neg (not_or.2 ⟨other '+' noPlus, other '-' noMinus⟩), List.append_nil]

theorem fractionFrom_bytes (before s : List Char) :
    fractionFrom (bytes (before ++ s)) (bytes before).length =
      (bytes (before ++ (splitFraction s).1)).length := by
  have point := found_iff before s (c := '.') (by decide)
  simp only [fractionFrom, point]
  fun_cases splitFraction s with
  | case1 rest =>
      have behind := digitsFrom_bytes (before ++ ['.']) rest
      rw [length_bytes_concat (by decide)] at behind
      simp only [List.append_assoc, List.singleton_append] at behind
      rw [if_pos List.head?_cons, behind]
  | case2 _ noPoint =>
      rw [List.append_nil, if_neg]
      intro first
      obtain ⟨rest, whole⟩ := List.head?_eq_some_iff.1 first
      exact noPoint rest whole

theorem exponentFrom_bytes (before s : List Char) :
    exponentFrom (bytes (before ++ s)) (bytes before).length =
      (bytes (before ++ (splitExponent s).1)).length := by
  have lower := found_iff before s (c := 'e') (by decide)
  have upper := found_iff before s (c := 'E') (by decide)
  simp only [exponentFrom, lower, upper]
  cases s with
  | nil => simp [splitExponent]
  | cons c rest =>
      by_cases mark : c = 'e' ∨ c = 'E'
      · have ascii : c.toNat < 128 := by rcases mark with rfl | rfl <;> decide
        have sign := signFrom_bytes (before ++ [c]) rest
        have digits := digitsFrom_bytes (before ++ [c] ++ (splitSign rest).1) (splitSign rest).2
        rw [length_bytes_concat ascii] at sign
        rw [List.append_assoc (before ++ [c]), splitSign_append] at digits
        simp only [List.append_assoc, List.singleton_append] at sign digits
        have written : (bytes (before ++ (c :: (splitSign rest).1 ++
            (takeDigits (splitSign rest).2).1))).length =
              (bytes (before ++ c :: (splitSign rest).1)).length +
                (bytes (takeDigits (splitSign rest).2).1).length := by
          rw [← List.append_assoc, bytes_append _ (takeDigits _).1, List.length_append]
        simp only [List.head?_cons, Option.some.injEq, mark, if_true, sign, digits, written,
          splitExponent, true_and]
        -- the scan gets behind the sign exactly where there are digits
        by_cases none : (takeDigits (splitSign rest).2).1 = []
        · simp [none, bytes]
        · have further := length_bytes_pos.2 none
          rw [if_pos (by omega), if_pos none, ← written]
      · simp [splitExponent, mark]

/-- **Scanning a text is splitting it.** -/
theorem magnitudeLength_eq (text : String) :
    magnitudeLength text = (bytes (splitMagnitude text.toList).1).length := by
  rw [magnitudeLength, bytes_toList]
  generalize text.toList = s
  -- every part is scanned behind the ones before it
  have sign := signFrom_bytes [] s
  have whole := digitsFrom_bytes (splitSign s).1 (splitSign s).2
  have fraction := fractionFrom_bytes ((splitSign s).1 ++ (takeDigits (splitSign s).2).1)
    (takeDigits (splitSign s).2).2
  have exponent := exponentFrom_bytes ((splitSign s).1 ++ (takeDigits (splitSign s).2).1 ++
    (splitFraction (takeDigits (splitSign s).2).2).1)
    (splitFraction (takeDigits (splitSign s).2).2).2
  simp only [List.append_assoc, takeDigits_append, splitSign_append, splitFraction_append,
    List.nil_append] at sign whole fraction exponent
  simp only [splitMagnitude, List.append_assoc]
  rw [← exponent, ← fraction, ← whole, ← sign]
  rfl

end GridRecords.Quantity
