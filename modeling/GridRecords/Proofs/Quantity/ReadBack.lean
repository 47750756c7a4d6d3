/-
# Magnitudes read back

The text of a finite magnitude is read as that magnitude: as a quantity in the unit of its field,
and as a number of JSON text.
-/
import GridRecords.Proofs.Decimal.ReadBack
import GridRecords.Quantity.Basic

namespace GridRecords

open Decimal

/-- What is written for a double is a number text that reads back as the double. -/
theorem exists_numberText_of_finiteText? {layout : Layout} {x : Float} {text : String}
    (h : layout.finiteText? x = some text) :
    ∃ p : NumberText, p.WellFormed ∧ text.toList = p.text ∧ p.numeral.toFloat = x := by
  obtain ⟨b, reading, rfl⟩ := (finiteText?_eq_some_iff layout x).1 h
  obtain ⟨p, wellFormed, written, sign, denotes⟩ := exists_numberText layout b
  refine ⟨p, wellFormed, ?_, toFloat_of_denotes reading denotes sign⟩
  rw [String.toList_ofList]
  exact written.symm

theorem isFinite_of_finiteText? {layout : Layout} {x : Float} {text : String}
    (h : layout.finiteText? x = some text) : x.isFinite = true :=
  (exists_finiteText?_iff layout x).1 ⟨text, h⟩

/-- **A bare magnitude is read as a quantity of the declared unit.** -/
theorem Quantity.read_of_amountText? {q : Quantity} {text : String}
    (h : Decimal.amount.finiteText? q.value = some text) : Quantity.read text q.unit = .ok q := by
  obtain ⟨p, wellFormed, written, value⟩ := exists_numberText_of_finiteText? h
  have finite := isFinite_of_finiteText? h
  have bare : (String.ofList (Text.trim [])).isEmpty = true := by decide
  unfold Quantity.read
  simp only [written, NumberText.trim_text wellFormed, NumberText.splitMagnitude_text wellFormed,
    NumberText.ofText?_text wellFormed, Option.map_some, value, finite, bare, Bool.not_true,
    Bool.false_eq_true, if_false, if_true]

end GridRecords
