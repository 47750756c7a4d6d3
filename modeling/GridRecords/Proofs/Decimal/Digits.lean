/-
# Texts of chosen digits

Whatever digits are chosen for a double, a layout writes them as a number text, and the numeral
of that text has the value of the digits: `digitsValue` times a power of ten
(`exists_numberText`).
-/
import GridRecords.Proofs.Decimal.Text
import Mathlib.Data.List.Basic
import Mathlib.Data.List.TakeWhile

namespace GridRecords.Decimal

open Text

/-- The power of ten that the last digit counts. -/
def Digits.place (d : Digits) : Int := d.point - d.digits.length

/-- Digits as they are chosen: there are some, and a zero before the point stands alone. -/
structure Digits.Proper (d : Digits) : Prop where
  all : ∀ c ∈ d.digits, isDigit c = true
  some' : d.digits ≠ []
  zero : d.digits.head? = some '0' → d = ⟨['0'], 1⟩

/-- A numeral denotes the value of digits. -/
structure Numeral.Denotes (n : Numeral) (d : Digits) : Prop where
  value : ∃ k : Nat, n.digits = digitsValue d.digits * 10 ^ k ∧ n.scale = d.place - k

/-! ## Digits of a number -/

theorem head_toDigits {n : Nat} (h : n ≠ 0) : (Nat.toDigits 10 n).head? ≠ some '0' := by
  induction n using Nat.strongRecOn with
  | _ n ih =>
      rw [Nat.toDigits_eq_if (by decide)]
      split
      · rename_i small
        have all : ∀ d < 10, d ≠ 0 → [d.digitChar].head? ≠ some '0' := by decide
        exact all n small h
      · have before := ih (n / 10) (by omega) (by omega)
        rwa [List.head?_append_of_ne_nil _ Nat.toDigits_ne_nil]

/-- The zeros at the end of a text. -/
theorem exists_zeros (s : List Char) :
    ∃ k, s = (s.reverse.dropWhile (· == '0')).reverse ++ List.replicate k '0' := by
  refine ⟨(s.reverse.takeWhile (· == '0')).length, ?_⟩
  have zeros : s.reverse.takeWhile (· == '0') =
      List.replicate (s.reverse.takeWhile (· == '0')).length '0' := by
    refine List.eq_replicate_of_mem ?_
    intro c mem
    simpa using List.mem_takeWhile_imp mem
  have split : s.reverse.takeWhile (· == '0') ++ s.reverse.dropWhile (· == '0') = s.reverse :=
    List.takeWhile_append_dropWhile
  have reversed := congrArg List.reverse split
  rw [List.reverse_append, List.reverse_reverse, zeros, List.reverse_replicate] at reversed
  exact reversed.symm

theorem proper_zero : Digits.Proper ⟨['0'], 1⟩ := by
  refine ⟨?_, ?_, ?_⟩
  · intro c mem
    rw [List.mem_singleton.1 mem]
    decide
  · simp
  · intro _
    rfl

/-- **The digits of a number have its value**, zeros at the end being left out. -/
theorem Digits.ofNat_spec {n : Nat} (h : n ≠ 0) (place : Int) :
    (Digits.ofNat n place).Proper ∧ ∃ k : Nat,
      n = digitsValue (Digits.ofNat n place).digits * 10 ^ k ∧
        place = (Digits.ofNat n place).place - k := by
  obtain ⟨k, split⟩ := exists_zeros (Nat.toDigits 10 n)
  have first := head_toDigits h
  have value := digitsValue_toDigits n
  have digits : ∀ c ∈ Nat.toDigits 10 n, isDigit c = true := fun _ => isDigit_of_mem_toDigits
  unfold Digits.ofNat
  simp only [if_neg h, Digits.place]
  generalize ((Nat.toDigits 10 n).reverse.dropWhile (· == '0')).reverse = kept at *
  have some' : kept ≠ [] := by
    rintro rfl
    -- zeros alone have the value zero
    rw [split, List.nil_append] at value
    have zeros := digitsValue_zeros k []
    rw [List.append_nil, value] at zeros
    exact h zeros
  have value' : n = digitsValue kept * 10 ^ k := by
    rw [split, digitsValue_append, List.length_replicate] at value
    have zeros := digitsValue_zeros k []
    rw [List.append_nil] at zeros
    rw [← value, zeros]
    rfl
  refine ⟨⟨?_, some', ?_⟩, k, value', ?_⟩
  · intro c mem
    refine digits c ?_
    rw [split]
    exact List.mem_append_left _ mem
  · intro zero
    rw [split, List.head?_append_of_ne_nil _ some'] at first
    exact absurd zero first
  · rw [split, List.length_append, List.length_replicate]
    omega

theorem Digits.proper_ofNat (n : Nat) (place : Int) : (Digits.ofNat n place).Proper := by
  by_cases h : n = 0
  · subst h
    exact proper_zero
  · exact (Digits.ofNat_spec h place).1

theorem Binary.proper_shortest (tie : Tie) (b : Binary) : (b.shortest tie).Proper := by
  unfold Binary.shortest
  split
  · exact proper_zero
  · simp only
    generalize found : List.findSome? _ _ = result
    cases result with
    | none => exact Digits.proper_ofNat _ _
    | some d =>
        obtain ⟨k, -, hit⟩ := List.exists_of_findSome?_eq_some found
        obtain ⟨n, -, rfl⟩ := Option.map_eq_some_iff.1 hit
        exact Digits.proper_ofNat _ _

/-! ## Layouts -/

variable {d : Digits}

/-- A text for digits: a number text that says their value. -/
def Digits.WrittenAs (d : Digits) (negative : Bool) (s : List Char) : Prop :=
  ∃ p : NumberText, p.WellFormed ∧ p.text = s ∧ p.negative = negative ∧ p.numeral.Denotes d

theorem isDigit_of_mem_zeros {n : Nat} {c : Char} (h : c ∈ zeros n) : isDigit c = true := by
  rw [List.eq_of_mem_replicate h]
  decide

theorem digitsValue_append_zeros (s : List Char) (n : Nat) :
    digitsValue (s ++ zeros n) = digitsValue s * 10 ^ n := by
  have none := digitsValue_zeros n []
  rw [List.append_nil, digitsValue_nil] at none
  unfold zeros
  rw [digitsValue_append, none, List.length_replicate, Nat.add_zero]

theorem isDigit_of_mem_zero {c : Char} (h : c ∈ ['0']) : isDigit c = true := by
  rw [List.mem_singleton.1 h]
  decide

/-- Digits behind the point. -/
theorem writtenAs_below (h : d.Proper) (negative : Bool) (point : d.point ≤ 0) :
    d.WrittenAs negative (signed negative (['0', '.'] ++ zeros (-d.point).toNat ++ d.digits)) := by
  have all : ∀ c ∈ zeros (-d.point).toNat ++ d.digits, isDigit c = true := by
    intro c mem
    rcases List.mem_append.1 mem with zero | digit
    · exact isDigit_of_mem_zeros zero
    · exact h.all c digit
  refine ⟨⟨negative, ['0'], zeros (-d.point).toNat ++ d.digits, none⟩,
    ⟨fun _ => isDigit_of_mem_zero, all, ?_, ?_⟩, ?_, rfl, ⟨0, ?_, ?_⟩⟩
  · simp
  · intro _
    rfl
  · simp [NumberText.text, NumberText.fractionText, NumberText.exponentText, h.some']
  · show digitsValue (['0'] ++ (zeros (-d.point).toNat ++ d.digits)) = _
    rw [← List.append_assoc, digitsValue_append, Nat.pow_zero, Nat.mul_one]
    have zero : digitsValue (['0'] ++ zeros (-d.point).toNat) = 0 :=
      (digitsValue_append_zeros ['0'] _).trans (Nat.zero_mul _)
    rw [zero, Nat.zero_mul, Nat.zero_add]
  · show (0 : Int) - ((zeros (-d.point).toNat ++ d.digits).length : Nat) = d.place - (0 : Nat)
    unfold zeros Digits.place
    rw [List.length_append, List.length_replicate]
    omega

/-- Digits before the point, perhaps with a zero behind it. -/
theorem writtenAs_above (h : d.Proper) (negative keepsPoint : Bool)
    (point : (d.digits.length : Int) ≤ d.point) :
    d.WrittenAs negative (signed negative (d.digits ++ zeros (d.point.toNat - d.digits.length) ++
      (if keepsPoint then ['.', '0'] else []))) := by
  have all : ∀ c ∈ d.digits ++ zeros (d.point.toNat - d.digits.length), isDigit c = true := by
    intro c mem
    rcases List.mem_append.1 mem with digit | zero
    · exact h.all c digit
    · exact isDigit_of_mem_zeros zero
  -- only the digit zero itself starts with a zero
  have first : (d.digits ++ zeros (d.point.toNat - d.digits.length)).head? = some '0' →
      d.digits ++ zeros (d.point.toNat - d.digits.length) = ['0'] := by
    intro head
    rw [List.head?_append_of_ne_nil _ h.some'] at head
    rw [h.zero head]
    rfl
  have some' : d.digits ++ zeros (d.point.toNat - d.digits.length) ≠ [] := by simp [h.some']
  have value := digitsValue_append_zeros d.digits (d.point.toNat - d.digits.length)
  cases keepsPoint with
  | true =>
      have zero : ∀ c ∈ ['0'], isDigit c = true := fun _ => isDigit_of_mem_zero
      refine ⟨⟨negative, _, ['0'], none⟩, ⟨all, zero, some', first⟩, ?_, rfl,
        ⟨d.point.toNat - d.digits.length + 1, ?_, ?_⟩⟩
      · simp [NumberText.text, NumberText.fractionText, NumberText.exponentText]
      · show digitsValue (_ ++ ['0']) = _
        rw [digitsValue_append_singleton, value, Nat.mul_comm 10, Nat.mul_assoc, Nat.pow_succ]
        rfl
      · show (0 : Int) - (1 : Nat) = _
        unfold Digits.place
        omega
  | false =>
      refine ⟨⟨negative, _, [], none⟩, ⟨all, by simp, some', first⟩, ?_, rfl,
        ⟨d.point.toNat - d.digits.length, ?_, ?_⟩⟩
      · simp [NumberText.text, NumberText.fractionText, NumberText.exponentText]
      · show digitsValue (_ ++ []) = _
        rw [List.append_nil, value]
      · show (0 : Int) - (0 : Nat) = _
        unfold Digits.place
        omega

/-- Digits around the point. -/
theorem writtenAs_around (h : d.Proper) (negative : Bool) (point : 0 < d.point)
    (more : d.point < d.digits.length) :
    d.WrittenAs negative
      (signed negative (d.digits.take d.point.toNat ++ '.' :: d.digits.drop d.point.toNat)) := by
  have some' : d.digits.take d.point.toNat ≠ [] := by
    simp [h.some']
    omega
  have rest : d.digits.drop d.point.toNat ≠ [] := by
    simp
    omega
  have before : ∀ c ∈ d.digits.take d.point.toNat, isDigit c = true := fun c mem =>
    h.all c (List.mem_of_mem_take mem)
  have behind : ∀ c ∈ d.digits.drop d.point.toNat, isDigit c = true := fun c mem =>
    h.all c (List.mem_of_mem_drop mem)
  refine ⟨⟨negative, d.digits.take d.point.toNat, d.digits.drop d.point.toNat, none⟩,
    ⟨before, behind, some', ?_⟩, ?_, rfl, ⟨0, ?_, ?_⟩⟩
  · intro head
    have first : d.digits.head? = some '0' := by
      rw [← List.take_append_drop d.point.toNat d.digits, List.head?_append_of_ne_nil _ some']
      exact head
    rw [h.zero first]
    rfl
  · simp [NumberText.text, NumberText.fractionText, NumberText.exponentText, rest]
  · show digitsValue (_ ++ _) = _
    rw [List.take_append_drop, Nat.pow_zero, Nat.mul_one]
  · show (0 : Int) - ((d.digits.drop d.point.toNat).length : Nat) = _
    unfold Digits.place
    rw [List.length_drop]
    omega

/-- Digits with an exponent. -/
theorem writtenAs_exponential (h : d.Proper) (negative : Bool) :
    d.WrittenAs negative (signed negative d.exponential) := by
  have zero := h.zero
  have some' := h.some'
  have all := h.all
  unfold Digits.exponential
  match digits : d.digits, some' with
  | c :: rest, _ =>
      rw [digits] at zero all
      have whole : ∀ c' ∈ [c], isDigit c' = true := by
        intro c' mem
        exact all c' (List.mem_of_mem_take (i := 1) mem)
      refine ⟨⟨negative, [c], rest, some (d.point - 1)⟩,
        ⟨whole, fun c' mem => all c' (List.mem_cons_of_mem c mem), by simp, ?_⟩, ?_, rfl,
        ⟨0, ?_, ?_⟩⟩
      · intro head
        cases head
        rfl
      · cases rest <;> simp [NumberText.text, NumberText.fractionText, NumberText.exponentText]
      · show digitsValue ([c] ++ rest) = _
        rw [digits, Nat.pow_zero, Nat.mul_one]
        rfl
      · show d.point - 1 - (rest.length : Nat) = _
        unfold Digits.place
        rw [digits, List.length_cons]
        omega

theorem writtenAs_positional (h : d.Proper) (negative keepsPoint : Bool) :
    d.WrittenAs negative (signed negative (d.positional keepsPoint)) := by
  unfold Digits.positional
  by_cases below : d.point ≤ 0
  · simp only [if_pos below]
    exact writtenAs_below h negative below
  · by_cases above : d.digits.length ≤ d.point.toNat
    · simp only [if_neg below, if_pos above]
      exact writtenAs_above h negative keepsPoint (by omega)
    · simp only [if_neg below, if_neg above]
      exact writtenAs_around h negative (by omega) (by omega)

/-- **What a layout writes is a number text of the digits that were chosen.** -/
theorem exists_numberText (layout : Layout) (b : Binary) :
    (b.shortest layout.tie).WrittenAs b.negative (layout.finite b) := by
  have proper := b.proper_shortest layout.tie
  unfold Layout.finite
  simp only
  split
  · exact writtenAs_positional proper _ _
  · exact writtenAs_exponential proper _

end GridRecords.Decimal
