/-
# Field values read back

`LeafKind.Holds` says which values the fields of a leaf kind hold.  The text of such a value is
decoded to the value (`Holds.decode`), whatever boolean fields make of other texts.
-/
import GridRecords.Proofs.Decode.Inversion
import GridRecords.Proofs.Geo.Point
import GridRecords.Proofs.Leaf.Uuid
import GridRecords.Proofs.Model.Built
import GridRecords.Proofs.Row.RowOf
import GridRecords.Proofs.Time.Text

namespace GridRecords

open Text

/-! ## Whole numbers -/

/-- The value only grows with more digits. -/
theorem le_foldl_digits (s : List Char) (n : Nat) :
    n ≤ s.foldl (fun n c => 10 * n + digitValue c) n := by
  induction s generalizing n with
  | nil => exact Nat.le_refl n
  | cons c rest ih =>
      have next := ih (10 * n + digitValue c)
      rw [List.foldl_cons]
      omega

/-- Digits are read from the left as long as their value is within the bound. -/
theorem readBounded_of_le {bound : Nat} (beyond : IntegerFault) {s : List Char}
    (digits : ∀ c ∈ s, isDigit c = true) {n : Nat}
    (h : s.foldl (fun n c => 10 * n + digitValue c) n ≤ bound) :
    readBounded bound beyond n s = .ok (s.foldl (fun n c => 10 * n + digitValue c) n) := by
  induction s generalizing n with
  | nil => rfl
  | cons c rest ih =>
      have digit := digits c List.mem_cons_self
      -- the value is within the bound all the way, since it is in the end
      have within := le_foldl_digits rest (10 * n + digitValue c)
      rw [List.foldl_cons] at h ⊢
      have inBound : ¬bound < 10 * n + digitValue c := by omega
      rw [readBounded, digit, if_neg (by decide), if_neg inBound]
      exact ih (fun d mem => digits d (List.mem_cons_of_mem c mem)) h

/-- **A whole number of sixty-four bits reads back.** -/
theorem readInteger_toString {n : Int} (low : -2 ^ 63 ≤ n) (high : n < 2 ^ 63) :
    readInteger (toString n).toList = .ok n := by
  have digits : ∀ c ∈ Nat.toDigits 10 n.natAbs, isDigit c = true :=
    fun _ => isDigit_of_mem_toDigits
  have value := digitsValue_toDigits n.natAbs
  have read {bound : Nat} (beyond : IntegerFault) (bounded : n.natAbs ≤ bound) :
      readBounded bound beyond 0 (Nat.toDigits 10 n.natAbs) = .ok n.natAbs := by
    rw [← value] at bounded
    have read := readBounded_of_le beyond digits bounded
    rwa [← digitsValue, value] at read
  unfold readInteger
  rw [Decimal.NumberText.takeSign_toString]
  cases first : Nat.toDigits 10 n.natAbs with
  | nil => exact absurd first Nat.toDigits_ne_nil
  | cons c rest =>
      rw [first] at read
      -- the two signs have bounds of their own
      by_cases negative : n < 0
      · have bounded : n.natAbs ≤ 2 ^ 63 := by omega
        have sum : -(n.natAbs : Int) = n := by omega
        simp only [decide_eq_true negative, read .tooSmall bounded]
        exact congrArg Except.ok sum
      · have bounded : n.natAbs ≤ 2 ^ 63 - 1 := by omega
        have sum : (n.natAbs : Int) = n := by omega
        simp only [decide_eq_false negative, read .tooLarge bounded]
        exact congrArg Except.ok sum

/-- The text of a whole number is not blank, and has no blanks in it. -/
theorem isBlank_of_mem_toString {n : Int} {c : Char} (h : c ∈ (toString n).toList) :
    isBlank c = false := by
  rw [Decimal.NumberText.toList_toString] at h
  rcases List.mem_append.1 h with sign | digit
  · split at sign
    · rw [List.mem_singleton.1 sign]
      decide
    · cases sign
  · exact isBlank_of_isDigit (isDigit_of_mem_toDigits digit)

theorem toList_toString_ne_nil (n : Int) : (toString n).toList ≠ [] := by
  rw [Decimal.NumberText.toList_toString]
  exact List.append_ne_nil_of_right_ne_nil _ Nat.toDigits_ne_nil

/-! ## Values of a leaf kind -/

/-- The values that fields of a leaf kind hold. -/
inductive LeafKind.Holds : LeafKind → Value → Prop where
  | text (s : String) : Holds .text (.text s)
  | boolean (b : Bool) : Holds .boolean (.bool b)
  | integer (n : UInt32) : Holds .integer (.int n.toNat)
  | uuid (u : Uuid) : Holds .uuid (.uuid u)
  | timestamp {t : Timestamp} (h : t.Legible) : Holds .timestamp (.timestamp t)
  /-- no instant is written as blank text -/
  | noTimestamp : Holds .timestamp .null
  | geoPoint {p : Option GeoPoint} (h : ∀ x, p = some x → x.Built) : Holds .geoPoint (.geoPoint p)
  | quantity (q : Quantity) : Holds (.quantity q.unit) (.quantity q)

variable {leaf : LeafKind} {v : Value} {text : String}

/-- Text that trimming leaves alone is decoded as it is read. -/
theorem decode_of_readValue {policy : BooleanPolicy} (trimmed : trim text.toList = text.toList)
    (some' : text.toList ≠ []) (h : leaf.readValue policy text text.toList = .ok v) :
    leaf.decode policy text = .ok v := by
  rw [decode_eq_ok_iff, trimmed]
  exact .inr ⟨.inl some', h⟩

/-- The text of a whole number is decoded to the number. -/
theorem decode_toString {n : Int} (low : -2 ^ 63 ≤ n) (high : n < 2 ^ 63)
    (policy : BooleanPolicy) : LeafKind.integer.decode policy (toString n) = .ok (.int n) := by
  refine decode_of_readValue (trim_eq_self_of_all fun _ => isBlank_of_mem_toString)
    (toList_toString_ne_nil n) ?_
  simp only [LeafKind.readValue, readInteger_toString low high]
  rfl

/-- **The text of a value is decoded to the value.** -/
theorem LeafKind.Holds.decode (h : leaf.Holds v) (written : v.rowText? = some text)
    (policy : BooleanPolicy) : leaf.decode policy text = .ok v := by
  cases h with
  | text s =>
      -- texts are not trimmed, and may be blank
      cases written
      rw [decode_eq_ok_iff]
      exact .inr ⟨.inr rfl, rfl⟩
  | boolean b =>
      cases written
      cases b <;> cases policy <;> rfl
  | integer n =>
      cases written
      have small := n.toNat_lt
      exact decode_toString (by omega) (by omega) policy
  | uuid u =>
      cases written
      refine decode_of_readValue (Uuid.trim_text u) u.toList_text_ne_nil ?_
      simp only [readValue, readUuid, Uuid.byteLength_text, Uuid.readHyphenated_text]
      rfl
  | timestamp legible =>
      cases written
      refine decode_of_readValue (Timestamp.trim_text legible.toPrintable)
        (Timestamp.toList_text_ne_nil _) ?_
      simp only [readValue, Timestamp.read_text legible]
      rfl
  | noTimestamp =>
      cases written
      rfl
  | geoPoint inRange =>
      rename_i p
      cases written
      rw [decode_eq_ok_iff]
      refine .inr ⟨.inr rfl, ?_⟩
      -- no position is the blank text, which is read as none
      cases p with
      | none => rfl
      | some x =>
          have accepted := (inRange x rfl).rebuild
          simp only [Option.map_some, Option.getD_some, readValue, GeoPoint.trim_text accepted,
            String.ofList_toList, GeoPoint.read_text accepted]
          rfl
  | quantity q =>
      have read := Quantity.read_of_amountText? written
      obtain ⟨p, wellFormed, parts, -⟩ := exists_numberText_of_finiteText? written
      refine decode_of_readValue ?_ ?_ ?_
      · rw [parts]
        exact Decimal.NumberText.trim_text wellFormed
      · rw [parts]
        exact Decimal.NumberText.text_ne_nil wellFormed
      · simp only [readValue, String.ofList_toList, read]
        rfl

end GridRecords
