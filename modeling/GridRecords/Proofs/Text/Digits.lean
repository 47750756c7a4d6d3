/-
# Digits and their values

The digits of a number read back as the number, with or without zeros before them, and a run of
digits ends where something else begins.  Texts that neither start nor end with a blank are left
alone by trimming.
-/
import GridRecords.Text.Blank
import GridRecords.Text.Digit
import Mathlib.Algebra.GroupWithZero.Nat
import Mathlib.Data.List.Induction

namespace GridRecords.Text

/-! ## Single digits -/

theorem digitValue_digitChar {d : Nat} (h : d < 10) : digitValue d.digitChar = d := by
  have all : ∀ d < 10, digitValue d.digitChar = d := by decide
  exact all d h

theorem isDigit_iff {c : Char} : isDigit c = true ↔ 48 ≤ c.toNat ∧ c.toNat ≤ 57 := by
  simp [isDigit, Char.le_def, UInt32.le_iff_toNat_le]

/-- A digit is no blank. -/
theorem isBlank_of_isDigit {c : Char} (h : isDigit c = true) : isBlank c = false := by
  have range := isDigit_iff.1 h
  unfold isBlank
  simp only [Bool.or_eq_false_iff, Bool.and_eq_false_iff, decide_eq_false_iff_not,
    beq_eq_false_iff_ne]
  omega

/-! ## Runs of digits -/

@[simp] theorem digitsValue_nil : digitsValue [] = 0 := rfl

theorem digitsValue_append_singleton (s : List Char) (c : Char) :
    digitsValue (s ++ [c]) = 10 * digitsValue s + digitValue c := by
  unfold digitsValue
  rw [List.foldl_append]
  rfl

theorem digitsValue_append (s t : List Char) :
    digitsValue (s ++ t) = digitsValue s * 10 ^ t.length + digitsValue t := by
  induction t using List.reverseRecOn with
  | nil => simp
  | append_singleton t c ih =>
      rw [← List.append_assoc, digitsValue_append_singleton, ih, digitsValue_append_singleton,
        List.length_append, List.length_singleton, Nat.pow_succ, Nat.mul_add, Nat.add_assoc,
        Nat.mul_left_comm, Nat.mul_comm 10 (10 ^ t.length)]

/-- Zeros before a run of digits do not count. -/
theorem digitsValue_zeros (k : Nat) (s : List Char) :
    digitsValue (List.replicate k '0' ++ s) = digitsValue s := by
  have zeros : digitsValue (List.replicate k '0') = 0 := by
    induction k with
    | zero => rfl
    | succ k ih =>
        rw [List.replicate_succ', digitsValue_append_singleton, ih]
        rfl
  rw [digitsValue_append, zeros, Nat.zero_mul, Nat.zero_add]

theorem digitValue_le {c : Char} (h : isDigit c = true) : digitValue c ≤ 9 := by
  have range := isDigit_iff.1 h
  show c.toNat - 48 ≤ 9
  omega

/-- The value of a run of digits is bounded by its length. -/
theorem digitsValue_lt {s : List Char} (digits : ∀ c ∈ s, isDigit c = true) :
    digitsValue s < 10 ^ s.length := by
  induction s using List.reverseRecOn with
  | nil => simp
  | append_singleton s c ih =>
      have before := ih fun d mem => digits d (List.mem_append_left [c] mem)
      have last := digitValue_le (digits c (by simp))
      rw [digitsValue_append_singleton, List.length_append, List.length_singleton, Nat.pow_succ]
      omega

theorem isDigit_of_mem_toDigits {n : Nat} {c : Char} (h : c ∈ Nat.toDigits 10 n) :
    isDigit c = true := by
  have digit := Nat.isDigit_of_mem_toDigits (b := 10) (by decide) (by decide) h
  simpa [isDigit, Char.isDigit, Char.le_def, UInt32.le_iff_toNat_le] using digit

/-- **The digits of a number have the value of the number.** -/
theorem digitsValue_toDigits (n : Nat) : digitsValue (Nat.toDigits 10 n) = n := by
  induction n using Nat.strongRecOn with
  | _ n ih =>
      rw [Nat.toDigits_eq_if (by decide)]
      split
      · rename_i small
        show 10 * 0 + digitValue n.digitChar = n
        rw [digitValue_digitChar small]
        omega
      · rw [digitsValue_append_singleton, ih (n / 10) (by omega),
          digitValue_digitChar (Nat.mod_lt n (by decide))]
        omega

theorem isDigit_of_mem_takeDigits {s : List Char} {c : Char} (h : c ∈ (takeDigits s).1) :
    isDigit c = true :=
  List.all_eq_true.1 List.all_takeWhile c h

/-- A run of digits goes on with the digits that follow it. -/
theorem takeDigits_append_of_digits {s : List Char} (digits : ∀ c ∈ s, isDigit c = true)
    (rest : List Char) :
    takeDigits (s ++ rest) = (s ++ (takeDigits rest).1, (takeDigits rest).2) := by
  unfold takeDigits
  rw [List.takeWhile_append_of_pos digits, List.dropWhile_append_of_pos digits]

/-- A run of digits ends where no digit follows. -/
theorem takeDigits_of_digits {s rest : List Char} (digits : ∀ c ∈ s, isDigit c = true)
    (stop : ∀ c, rest.head? = some c → isDigit c = false) :
    takeDigits (s ++ rest) = (s, rest) := by
  have none : takeDigits rest = ([], rest) := by
    unfold takeDigits
    cases rest with
    | nil => rfl
    | cons c more => simp [stop c rfl]
  rw [takeDigits_append_of_digits digits, none, List.append_nil]

/-! ## Padded numbers -/

theorem isDigit_of_mem_padded {width n : Nat} {c : Char} (h : c ∈ padded width n) :
    isDigit c = true := by
  unfold padded at h
  rcases List.mem_append.1 h with zero | digit
  · rw [List.eq_of_mem_replicate zero]
    decide
  · exact isDigit_of_mem_toDigits digit

theorem digitsValue_padded (width n : Nat) : digitsValue (padded width n) = n := by
  unfold padded
  rw [digitsValue_zeros, digitsValue_toDigits]

theorem padded_ne_nil (width n : Nat) : padded width n ≠ [] :=
  List.append_ne_nil_of_right_ne_nil _ Nat.toDigits_ne_nil

/-- A number that fits is padded to its width. -/
theorem length_padded {width n : Nat} (some' : 0 < width) (h : n < 10 ^ width) :
    (padded width n).length = width := by
  have fits := (Nat.length_toDigits_le_iff (b := 10) (by decide) some').2 h
  unfold padded
  rw [List.length_append, List.length_replicate]
  omega

/-! ## Trimming -/

/-- A text that does not start with a blank is left as it is at its start. -/
theorem trimStart_eq_self {s : List Char} (first : ∀ c, s.head? = some c → isBlank c = false) :
    trimStart s = s := by
  unfold trimStart
  cases s with
  | nil => rfl
  | cons c rest => simp [first c rfl]

/-- A text that neither starts nor ends with a blank is left as it is. -/
theorem trim_eq_self {s : List Char} (first : ∀ c, s.head? = some c → isBlank c = false)
    (last : ∀ c, s.getLast? = some c → isBlank c = false) : trim s = s := by
  have reversed : trimStart s.reverse = s.reverse := trimStart_eq_self (by simpa using last)
  unfold trim trimEnd
  rw [trimStart_eq_self first, ← trimStart, reversed, List.reverse_reverse]

/-- A text without blanks is left as it is. -/
theorem trim_eq_self_of_all {s : List Char} (h : ∀ c ∈ s, isBlank c = false) : trim s = s :=
  trim_eq_self (fun c first => h c (List.mem_of_mem_head? first))
    fun c last => h c (List.mem_of_mem_getLast? last)

/-- Blanks before a text are trimmed. -/
theorem trim_blanks_append {blanks s : List Char} (h : ∀ c ∈ blanks, isBlank c = true) :
    trim (blanks ++ s) = trim s := by
  unfold trim trimStart
  rw [List.dropWhile_append_of_pos h]

/-- A trimmed text does not end with a blank. -/
theorem isBlank_getLast_trim {s : List Char} {c : Char} (h : (trim s).getLast? = some c) :
    isBlank c = false := by
  unfold trim trimEnd at h
  rw [List.getLast?_reverse] at h
  have first := List.head?_dropWhile_not isBlank (trimStart s).reverse
  rw [h] at first
  simpa using first

end GridRecords.Text
