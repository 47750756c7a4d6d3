/-
# Uuids read back

The hyphenated text of a uuid is read as that uuid, by the reader of uuid fields and by the
reader of references.
-/
import GridRecords.Proofs.Text.Digits
import GridRecords.Uuid

namespace GridRecords.Uuid

open Text

/-! ## Hexadecimal digits -/

theorem hexValue?_digitChar {d : Nat} (h : d < 16) : hexValue? d.digitChar = some d := by
  have all : ∀ d < 16, hexValue? d.digitChar = some d := by decide
  exact all d h

/-- Value of hexadecimal digits. -/
def hexNumber? (s : List Char) : Option Nat :=
  (s.mapM hexValue?).map fun values => values.foldl (16 * · + ·) 0

theorem hexNumber?_append_singleton {s : List Char} {n d : Nat} {c : Char}
    (h : hexNumber? s = some n) (digit : hexValue? c = some d) :
    hexNumber? (s ++ [c]) = some (16 * n + d) := by
  unfold hexNumber? at h ⊢
  obtain ⟨values, read, rfl⟩ := Option.map_eq_some_iff.1 h
  rw [List.mapM_append, read]
  simp [digit]

theorem hexNumber?_toDigits (n : Nat) : hexNumber? (Nat.toDigits 16 n) = some n := by
  induction n using Nat.strongRecOn with
  | _ n ih =>
      rw [Nat.toDigits_eq_if (by decide)]
      split
      · rename_i small
        have one := hexNumber?_append_singleton (s := []) rfl (hexValue?_digitChar small)
        simpa using one
      · have last : n % 16 < 16 := Nat.mod_lt n (by decide)
        rw [hexNumber?_append_singleton (ih (n / 16) (by omega)) (hexValue?_digitChar last)]
        congr 1
        omega

theorem exists_digitChar_of_mem_toDigits {n : Nat} {c : Char} (h : c ∈ Nat.toDigits 16 n) :
    ∃ d < 16, c = d.digitChar := by
  induction n using Nat.strongRecOn with
  | _ n ih =>
      rw [Nat.toDigits_eq_if (by decide)] at h
      split at h
      · rename_i small
        exact ⟨n, small, List.mem_singleton.1 h⟩
      · rcases List.mem_append.1 h with before | last
        · exact ih (n / 16) (by omega) before
        · exact ⟨n % 16, Nat.mod_lt n (by decide), List.mem_singleton.1 last⟩

theorem hexNumber?_zeros {k n : Nat} {s : List Char} (h : hexNumber? s = some n) :
    hexNumber? (List.replicate k '0' ++ s) = some n := by
  induction k with
  | zero => exact h
  | succ k ih =>
      unfold hexNumber? at ih ⊢
      obtain ⟨values, read, value⟩ := Option.map_eq_some_iff.1 ih
      have zero : hexValue? '0' = some 0 := by decide
      rw [List.replicate_succ, List.cons_append, List.mapM_cons, zero, read]
      simpa using value

/-! ## Groups -/

/-- Taking out the hyphens that were put in leaves the digits. -/
theorem joinGroups?_hyphenate {groups : List Nat} (some' : groups ≠ []) {s : List Char}
    (length : s.length = groups.sum) : joinGroups? groups (hyphenate groups s) = some s := by
  induction groups generalizing s with
  | nil => exact absurd rfl some'
  | cons n more ih =>
      cases more with
      | nil =>
          unfold joinGroups? hyphenate
          rw [if_pos (by simpa using length)]
      | cons m more =>
          have fits : n ≤ s.length := by
            rw [length, List.sum_cons]
            omega
          have taken : (s.take n).length = n := by
            rw [List.length_take]
            omega
          have rest : (s.drop n).length = (m :: more).sum := by
            rw [List.length_drop, length, List.sum_cons]
            omega
          have dropped : (s.take n ++ '-' :: hyphenate (m :: more) (s.drop n)).drop n =
              '-' :: hyphenate (m :: more) (s.drop n) := List.drop_left' taken
          have kept : (s.take n ++ '-' :: hyphenate (m :: more) (s.drop n)).take n = s.take n :=
            List.take_left' taken
          rw [hyphenate, joinGroups?, dropped]
          · simp only
            rw [ih (by simp) rest, kept, Option.map_some, List.take_append_drop]
          all_goals simp

/-- Hyphenating digits puts in hyphens only. -/
theorem mem_hyphenate {groups : List Nat} {s : List Char} {c : Char}
    (h : c ∈ hyphenate groups s) : c = '-' ∨ c ∈ s := by
  induction groups generalizing s with
  | nil => exact .inr h
  | cons n more ih =>
      cases more with
      | nil => exact .inr h
      | cons m more =>
          rw [hyphenate, List.mem_append, List.mem_cons] at h
          · rcases h with first | rfl | later
            · exact .inr (List.mem_of_mem_take first)
            · exact .inl rfl
            · rcases ih later with hyphen | digit
              · exact .inl hyphen
              · exact .inr (List.mem_of_mem_drop digit)
          · simp

/-! ## The text of a uuid -/

theorem length_digits (u : Uuid) : u.digits.length = 32 := by
  have fits : (Nat.toDigits 16 u.bits.toNat).length ≤ 32 :=
    (Nat.length_toDigits_le_iff (b := 16) (by decide) (by decide)).2 u.bits.isLt
  unfold digits hexadecimal
  rw [List.length_append, List.length_replicate]
  omega

theorem ofDigits?_digits (u : Uuid) : ofDigits? u.digits = some u := by
  have value : hexNumber? u.digits = some u.bits.toNat := by
    unfold digits hexadecimal
    exact hexNumber?_zeros (hexNumber?_toDigits _)
  unfold hexNumber? at value
  obtain ⟨values, read, number⟩ := Option.map_eq_some_iff.1 value
  unfold ofDigits?
  rw [if_pos (length_digits u), read, Option.map_some, number, BitVec.ofNat_toNat,
    BitVec.setWidth_eq]

/-- The characters of the text are hyphens and hexadecimal digits. -/
theorem hyphen_or_digit_of_mem_text {u : Uuid} {c : Char} (h : c ∈ u.text.toList) :
    c = '-' ∨ ∃ d < 16, c = d.digitChar := by
  unfold text at h
  rw [String.toList_ofList] at h
  rcases mem_hyphenate h with hyphen | digit
  · exact .inl hyphen
  · unfold digits hexadecimal at digit
    rcases List.mem_append.1 digit with zero | other
    · exact .inr ⟨0, by decide, List.eq_of_mem_replicate zero⟩
    · right
      exact exists_digitChar_of_mem_toDigits other

/-- **The text of a uuid reads back as the uuid.** -/
theorem ofHyphenated?_text (u : Uuid) : ofHyphenated? u.text.toList = some u := by
  have length : u.digits.length = groups.sum := length_digits u
  unfold ofHyphenated? text
  rw [String.toList_ofList, joinGroups?_hyphenate (by decide) length, Option.bind_some,
    ofDigits?_digits]

theorem readHyphenated_text (u : Uuid) : readHyphenated u.text.toList = .ok u := by
  unfold readHyphenated
  rw [ofHyphenated?_text]

theorem length_text (u : Uuid) : u.text.toList.length = 36 := by
  have length := length_digits u
  unfold text hyphenate hyphenate hyphenate hyphenate hyphenate groups
  simp [length]

theorem toList_text_ne_nil (u : Uuid) : u.text.toList ≠ [] := by
  intro none
  have length := u.length_text
  rw [none] at length
  cases length

theorem byteLength_text (u : Uuid) : byteLength u.text.toList = 36 := by
  have narrow : ∀ c ∈ u.text.toList, c.utf8Size = 1 := by
    intro c mem
    rcases hyphen_or_digit_of_mem_text mem with rfl | ⟨d, small, rfl⟩
    · rfl
    · have all : ∀ d < 16, d.digitChar.utf8Size = 1 := by decide
      exact all d small
  unfold byteLength
  rw [List.map_congr_left narrow, List.map_const', List.sum_replicate_nat, length_text]

/-- **A reference to an entity is read as the uuid of the entity.** -/
theorem read_text (u : Uuid) : read u.text = .ok u := by
  unfold read
  simp only [byteLength_text, readHyphenated_text]

theorem isBlank_of_mem_text {u : Uuid} {c : Char} (h : c ∈ u.text.toList) : isBlank c = false := by
  rcases hyphen_or_digit_of_mem_text h with rfl | ⟨d, small, rfl⟩
  · decide
  · have all : ∀ d < 16, isBlank d.digitChar = false := by decide
    exact all d small

/-- Trimming leaves the text of a uuid alone. -/
theorem trim_text (u : Uuid) : trim u.text.toList = u.text.toList :=
  trim_eq_self_of_all fun _ => isBlank_of_mem_text

end GridRecords.Uuid
