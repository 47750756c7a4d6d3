/-
# Reading quantities

A quantity text says a finite magnitude in a unit (`written?`); reading it in a declared unit is
converting what it says (`read_eq_ok_iff`).  So what is read in the unit it was written in is
finite, and only a conversion can make it infinite or undefined.
-/
import GridRecords.Proofs.Outcome
import GridRecords.Quantity.Basic

namespace GridRecords.Quantity

/-- What a text says before it is converted: a finite magnitude, in the unit of its symbol or, for
want of one, in the declared unit. -/
def written? (text : String) (declared : MeasureUnit) : Option Quantity :=
  let (magnitude, rest) := splitMagnitude (Text.trim text.toList)
  match (Decimal.Numeral.ofText? magnitude).map Decimal.Numeral.toFloat with
  | none => none
  | some value =>
    let symbol := String.ofList (Text.trim rest)
    if !value.isFinite then none
    else if symbol.isEmpty then some ⟨value, declared⟩
    else (MeasureUnit.ofSymbol? symbol declared.family).map (⟨value, ·⟩)

/-- **A text is read by converting what it says.** -/
theorem read_eq_ok_iff {text : String} {declared : MeasureUnit} {q : Quantity} :
    read text declared = .ok q ↔
      ∃ given, written? text declared = some given ∧ given.convert declared = .ok q := by
  have own (value : Float) : convert ⟨value, declared⟩ declared = .ok ⟨value, declared⟩ := by
    unfold convert
    rw [if_pos rfl]
  simp only [read, written?]
  cases (Decimal.Numeral.ofText? (splitMagnitude (Text.trim text.toList)).1).map
      Decimal.Numeral.toFloat with
  | none => simp
  | some value =>
      cases finite : value.isFinite with
      | false => simp [finite]
      | true =>
          by_cases bare :
              (String.ofList (Text.trim (splitMagnitude (Text.trim text.toList)).2)).isEmpty = true
          · simp [finite, bare, own]
          · cases MeasureUnit.ofSymbol? (String.ofList
              (Text.trim (splitMagnitude (Text.trim text.toList)).2)) declared.family <;>
              simp [finite, bare]

/-- What a text says is finite. -/
theorem isFinite_of_written? {text : String} {declared : MeasureUnit} {given : Quantity}
    (h : written? text declared = some given) : given.isFinite = true := by
  simp only [written?] at h
  cases magnitude : (Decimal.Numeral.ofText? (splitMagnitude (Text.trim text.toList)).1).map
      Decimal.Numeral.toFloat with
  | none =>
      rw [magnitude] at h
      cases h
  | some value =>
      rw [magnitude] at h
      cases finite : value.isFinite with
      | false => simp [finite] at h
      | true =>
          simp only [finite, Bool.not_true, Bool.false_eq_true, ↓reduceIte] at h
          split at h
          · cases h
            exact finite
          · obtain ⟨unit, -, rfl⟩ := Option.map_eq_some_iff.1 h
            exact finite

end GridRecords.Quantity
