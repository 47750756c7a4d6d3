/-
# Magnitudes with a symbol

A finite magnitude is written in digits, and may be followed by blanks and the symbol of a unit.
Such a text is read as the magnitude in that unit, converted into the declared one
(`read_with_symbol`): the magnitude ends where its digits end, even before a symbol that starts like
an exponent, and in its family a symbol or alias names one unit only.
-/
import GridRecords.Leaf.Codec
import GridRecords.Proofs.Quantity.ReadBack

namespace GridRecords

open Text

/-! ## Names of units -/

namespace MeasureUnit

/-- The symbol of a unit and its aliases. -/
def names (u : MeasureUnit) : List String := u.symbol :: u.row.aliases

theorem isNamed_iff {u : MeasureUnit} {s : String} : u.isNamed s = true ↔ s ∈ u.names := by
  simp only [isNamed, names, Bool.or_eq_true, beq_iff_eq, List.contains_iff_mem, List.mem_cons,
    eq_comm (a := s)]

variable {u : MeasureUnit} {s : String} {family : UnitFamily}

/-- **Inside its family a symbol or alias of a unit names that unit.** -/
theorem ofSymbol?_of_isNamed (h : u.isNamed s = true) : ofSymbol? s u.family = some u := by
  have table : ∀ u ∈ all, ∀ s ∈ u.names, ofSymbol? s u.family = some u := by decide
  exact table u u.mem_all s (isNamed_iff.1 h)

theorem ofSymbol?_eq_none (h : ∀ u : MeasureUnit, u.family = family → u.isNamed s = false) :
    ofSymbol? s family = none := by
  refine List.find?_eq_none.2 fun u _ names => ?_
  obtain ⟨same, named⟩ : u.family = family ∧ u.isNamed s = true := by simpa using names
  rw [h u same] at named
  cases named

/-- Names of units are not blank, and have no blanks around them. -/
theorem trimmed_of_isNamed (h : u.isNamed s = true) : trimmed s = s ∧ s ≠ "" := by
  have table : ∀ u ∈ all, ∀ s ∈ u.names, trimmed s = s ∧ s ≠ "" := by decide
  exact table u u.mem_all s (isNamed_iff.1 h)

/-- No magnitude goes on into the name of a unit. -/
theorem endsMagnitude_of_isNamed (h : u.isNamed s = true) :
    Decimal.NumberText.EndsMagnitude s.toList := by
  have table : ∀ u ∈ all, ∀ s ∈ u.names,
      (s.toList.head?.all fun c => !isDigit c && c != '.') = true ∧
        (Quantity.splitExponent s.toList).1 = [] := by decide
  obtain ⟨head, exponent⟩ := table u u.mem_all s (isNamed_iff.1 h)
  have together := Quantity.splitExponent_append s.toList
  rw [exponent, List.nil_append] at together
  refine ⟨fun c first => ?_, Prod.ext exponent together⟩
  simpa [first] using head

end MeasureUnit

/-! ## Reading -/

namespace Quantity

open Decimal

/-- No magnitude goes on into a blank. -/
theorem endsMagnitude_of_isBlank {c : Char} (blank : isBlank c = true) (rest : List Char) :
    NumberText.EndsMagnitude (c :: rest) := by
  refine ⟨?_, ?_⟩
  · rintro d first
    cases first
    refine ⟨?_, ?_⟩
    · by_contra digit
      rw [isBlank_of_isDigit (by simpa using digit)] at blank
      cases blank
    · rintro rfl
      exact absurd blank (by decide)
  · have mark : ¬(c = 'e' ∨ c = 'E') := by
      rintro (rfl | rfl)
      · exact absurd blank (by decide)
      · exact absurd blank (by decide)
    unfold splitExponent
    simp [mark]

variable {x : Float} {text blanks s : String}

/-- **What follows a magnitude is looked up as a symbol.** -/
theorem read_append (written : amountText? x = some text)
    (blank : ∀ c ∈ blanks.toList, isBlank c = true) (plain : trimmed s = s) (some' : s ≠ "")
    (ends : NumberText.EndsMagnitude (blanks ++ s).toList) (declared : MeasureUnit) :
    splitMagnitude (text ++ blanks ++ s).toList = (text.toList, (blanks ++ s).toList) ∧
      read (text ++ blanks ++ s) declared =
        match MeasureUnit.ofSymbol? s declared.family with
        | some unit => convert ⟨x, unit⟩ declared
        | none => .error (.unknownSymbol s declared.family) := by
  obtain ⟨p, wellFormed, parts, value⟩ := exists_numberText_of_finiteText? written
  have finite : x.isFinite = true := isFinite_of_finiteText? written
  have whole : (text ++ blanks ++ s).toList = p.text ++ (blanks ++ s).toList := by
    rw [String.append_assoc, String.toList_append, parts]
  have split := NumberText.splitMagnitude_text_append wellFormed ends
  have symbol : trim s.toList = s.toList := by
    have same := congrArg String.toList plain
    rwa [trimmed, String.toList_ofList] at same
  have nonempty : s.toList ≠ [] := by simpa using some'
  -- the text starts with the magnitude and ends with the symbol
  have untrimmed : trim (p.text ++ (blanks ++ s).toList) = p.text ++ (blanks ++ s).toList := by
    refine trim_eq_self ?_ ?_
    · intro c first
      refine NumberText.isBlank_of_mem_text wellFormed (List.mem_of_mem_head? ?_)
      rwa [List.head?_append_of_ne_nil _ (NumberText.text_ne_nil wellFormed)] at first
    · intro c last
      rw [String.toList_append, ← List.append_assoc,
        List.getLast?_append_of_ne_nil _ nonempty, ← symbol] at last
      exact isBlank_getLast_trim last
  have rest : trim (blanks ++ s).toList = s.toList := by
    rw [String.toList_append, trim_blanks_append blank, symbol]
  have marked : s.isEmpty = false := by simpa using some'
  refine ⟨by rw [whole, split, parts], ?_⟩
  unfold read
  cases known : MeasureUnit.ofSymbol? s declared.family <;>
    simp only [whole, untrimmed, split, NumberText.ofText?_text wellFormed, Option.map_some, value,
      finite, rest, String.ofList_toList, marked, known, Bool.not_true, Bool.false_eq_true,
      if_false]

/-- **A magnitude with a symbol is a quantity in the unit of the symbol.**  The text of a finite
magnitude, any blanks and a symbol or alias of a unit are read as the magnitude in that unit,
converted into the declared one.  Behind at least one blank, any other text is reported as an
unknown symbol. -/
theorem read_with_symbol (finite : x.isFinite = true) (declared : MeasureUnit) :
    ∃ text, amountText? x = some text ∧
      ∀ blanks : String, (∀ c ∈ blanks.toList, isBlank c = true) →
        (∀ (unit : MeasureUnit) (s : String),
          unit.family = declared.family → unit.isNamed s = true →
            splitMagnitude (text ++ blanks ++ s).toList = (text.toList, (blanks ++ s).toList) ∧
            read (text ++ blanks ++ s) declared = convert ⟨x, unit⟩ declared) ∧
        (blanks ≠ "" → ∀ s : String, s ≠ "" → trimmed s = s →
          (∀ unit : MeasureUnit, unit.family = declared.family → unit.isNamed s = false) →
            read (text ++ blanks ++ s) declared = .error (.unknownSymbol s declared.family)) := by
  obtain ⟨text, written⟩ := (exists_finiteText?_iff amount x).2 finite
  refine ⟨text, written, fun blanks blank => ?_⟩
  have ends {s : String} (bare : blanks = "" → NumberText.EndsMagnitude s.toList) :
      NumberText.EndsMagnitude (blanks ++ s).toList := by
    rw [String.toList_append]
    cases first : blanks.toList with
    | nil => exact bare (by simpa using first)
    | cons c more =>
        exact endsMagnitude_of_isBlank (blank c (by rw [first]; exact List.mem_cons_self)) _
  refine ⟨?_, ?_⟩
  · intro unit s family named
    obtain ⟨plain, some'⟩ := MeasureUnit.trimmed_of_isNamed named
    have stops := ends fun _ => MeasureUnit.endsMagnitude_of_isNamed named
    obtain ⟨split, found⟩ := read_append written blank plain some' stops declared
    rw [← family, MeasureUnit.ofSymbol?_of_isNamed named] at found
    exact ⟨split, found⟩
  · intro spaced s some' plain unnamed
    have stops := ends (s := s) fun none => absurd none spaced
    obtain ⟨-, found⟩ := read_append written blank plain some' stops declared
    rw [MeasureUnit.ofSymbol?_eq_none unnamed] at found
    exact found

/-- The exponent letter of a symbol is no part of the number. -/
theorem read_with_symbol_price :
    (5.0 : Float).isFinite = true ∧
      read "5.0EUR/MWh" .euroPerMegawattHour = .ok ⟨5.0, .euroPerMegawattHour⟩ ∧
      read "5.0 kV" .euroPerMegawattHour = .error (.unknownSymbol "kV" .energyPrice) := by
  have finite : (5.0 : Float).isFinite = true := by decide
  obtain ⟨text, written, reads⟩ := read_with_symbol finite .euroPerMegawattHour
  have five : amountText? 5.0 = some "5.0" := by decide +kernel
  rw [five] at written
  cases written
  have price := ((reads "" (by simp)).1 .euroPerMegawattHour "EUR/MWh" rfl (by decide)).2
  have other : ∀ unit ∈ MeasureUnit.all, unit.family = MeasureUnit.euroPerMegawattHour.family →
      unit.isNamed "kV" = false := by decide
  have space : (" ".toList.all isBlank) = true := by decide
  have voltage := (reads " " (List.all_eq_true.1 space)).2 (by decide) "kV" (by decide) (by decide)
    fun unit => other unit unit.mem_all
  exact ⟨finite, price, voltage⟩

end Quantity

end GridRecords
