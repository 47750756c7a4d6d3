/-
# Which texts are read as quantities

The scan ends behind the longest magnitude that a text starts with (`scanned_iff`).  Trimmed, a text
is read where that magnitude has a digit beside its exponent and a finite value, and where nothing
or the name of a unit of the declared family follows it (`exists_read_iff`).  No such name starts
with a point, and an exponent without digits is left to what follows: words, lone signs and second
points are no numbers (`read_scanned`).
-/
import GridRecords.Proofs.Quantity.Grammar
import GridRecords.Proofs.Quantity.Reading
import GridRecords.Proofs.Quantity.Scan
import GridRecords.Proofs.Quantity.Symbols

namespace GridRecords.Quantity

open Text Decimal

variable {text : String} {declared : MeasureUnit} {m : Magnitude} {rest : List Char}

/-! ## The longest magnitude -/

/-- A text that starts with a magnitude up to where the scan ends, and goes on with the rest. -/
structure Scanned (text : String) (m : Magnitude) (rest : List Char) : Prop where
  whole : text.toList = m.text ++ rest
  size : (String.ofList m.text).utf8ByteSize = magnitudeLength text

/-- **The scan gets as far as every magnitude that the text starts with.** -/
theorem size_le_magnitudeLength (start : m.text <+: text.toList) :
    (String.ofList m.text).utf8ByteSize ≤ magnitudeLength text := by
  obtain ⟨rest, whole⟩ := start
  obtain ⟨more, split⟩ := text_prefix_splitMagnitude m rest
  rw [whole] at split
  rw [magnitudeLength_eq, utf8ByteSize_ofList, ← split, bytes_append, List.length_append]
  exact Nat.le_add_right _ _

/-- **What is scanned is what is split off.** -/
theorem scanned_iff : Scanned text m rest ↔ splitMagnitude text.toList = (m.text, rest) := by
  constructor
  · rintro ⟨whole, size⟩
    obtain ⟨more, split⟩ := text_prefix_splitMagnitude m rest
    rw [← whole] at split
    rw [magnitudeLength_eq, utf8ByteSize_ofList, ← split, bytes_append, List.length_append] at size
    have none : more = [] := by
      by_contra some'
      have := length_bytes_pos.2 some'
      omega
    rw [none, List.append_nil] at split
    have together := splitMagnitude_append text.toList
    rw [← split, whole] at together
    refine Prod.ext split.symm ?_
    rw [whole]
    exact List.append_cancel_left together
  · intro split
    have together := splitMagnitude_append text.toList
    rw [split] at together
    refine ⟨together.symm, ?_⟩
    rw [utf8ByteSize_ofList, magnitudeLength_eq, split]

theorem exists_scanned (text : String) : ∃ m rest, Scanned text m rest := by
  obtain ⟨m, split⟩ := exists_text_eq_splitMagnitude text.toList
  exact ⟨m, _, scanned_iff.2 (Prod.ext split.symm rfl)⟩

theorem magnitudeLength_le (text : String) : magnitudeLength text ≤ text.utf8ByteSize := by
  obtain ⟨m, rest, whole, size⟩ := exists_scanned text
  rw [← size, ← String.ofList_toList (s := text), whole, String.ofList_append,
    String.utf8ByteSize_append]
  exact Nat.le_add_right _ _

/-- **The scan ends between two characters of the text.** -/
theorem isValid_magnitudeLength (text : String) :
    (String.Pos.Raw.mk (magnitudeLength text)).IsValid text := by
  obtain ⟨m, rest, whole, size⟩ := exists_scanned text
  refine String.Pos.Raw.isValid_iff_exists_append.2
    ⟨String.ofList m.text, String.ofList rest, ?_, ?_⟩
  · rw [← String.ofList_append, ← whole, String.ofList_toList]
  · rw [← size]
    rfl

/-! ## What is read -/

/-- A text that is a quantity in a declared unit: a magnitude of a finite value, and behind it
nothing or the name of a unit of the declared family. -/
structure Accepted (text : String) (declared : MeasureUnit) (m : Magnitude) (rest : List Char) :
    Prop where
  scanned : Scanned (trimmed text) m rest
  digits : m.digits ≠ []
  finite : m.numeral.toFloat.isFinite = true
  named : trim rest = [] ∨ ∃ unit : MeasureUnit,
    unit.family = declared.family ∧ unit.isNamed (String.ofList (trim rest)) = true

theorem exists_ofSymbol?_iff {s : String} {family : UnitFamily} :
    (∃ unit, MeasureUnit.ofSymbol? s family = some unit ∧ unit.family = family) ↔
      ∃ unit : MeasureUnit, unit.family = family ∧ unit.isNamed s = true := by
  constructor
  · rintro ⟨unit, found, same⟩
    have names := List.find?_some found
    rw [Bool.and_eq_true] at names
    exact ⟨unit, same, names.2⟩
  · rintro ⟨unit, rfl, named⟩
    exact ⟨unit, MeasureUnit.ofSymbol?_of_isNamed named, rfl⟩

/-- What is scanned decides what a text says. -/
theorem exists_written?_iff (scanned : Scanned (trimmed text) m rest) :
    (∃ given, written? text declared = some given ∧ given.unit.family = declared.family) ↔
      Accepted text declared m rest := by
  have split := scanned_iff.1 scanned
  rw [trimmed, String.toList_ofList] at split
  simp only [written?, split, m.ofText?_text]
  by_cases none : m.digits = []
  · simp only [none, if_true, Option.map_none, reduceCtorEq, false_and, exists_false, false_iff]
    exact fun accepted => accepted.digits none
  cases finite : m.numeral.toFloat.isFinite with
  | false =>
      simp only [none, if_false, Option.map_some, finite, Bool.not_false, if_true, reduceCtorEq,
        false_and, exists_false, false_iff]
      intro accepted
      rw [accepted.finite] at finite
      cases finite
  | true =>
      have accepted_iff : Accepted text declared m rest ↔ trim rest = [] ∨
          ∃ unit : MeasureUnit, unit.family = declared.family ∧
            unit.isNamed (String.ofList (trim rest)) = true :=
        ⟨Accepted.named, fun named => ⟨scanned, none, finite, named⟩⟩
      rw [accepted_iff, ← exists_ofSymbol?_iff]
      by_cases bare : trim rest = []
      · simp [none, finite, bare]
      · simp [none, finite, bare]

/-- **A text is read exactly where it is accepted.** -/
theorem exists_read_iff :
    (∃ q, read text declared = .ok q) ↔ ∃ m rest, Accepted text declared m rest := by
  have reads : (∃ q, read text declared = .ok q) ↔
      ∃ given, written? text declared = some given ∧ given.unit.family = declared.family := by
    simp only [read_eq_ok_iff]
    constructor
    · rintro ⟨q, given, said, converted⟩
      exact ⟨given, said, (convert_isOk_iff given declared).1 ⟨q, converted⟩⟩
    · rintro ⟨given, said, same⟩
      obtain ⟨q, converted⟩ := (convert_isOk_iff given declared).2 same
      exact ⟨q, given, said, converted⟩
  rw [reads]
  constructor
  · intro said
    obtain ⟨m, rest, scanned⟩ := exists_scanned (trimmed text)
    exact ⟨m, rest, (exists_written?_iff scanned).1 said⟩
  · rintro ⟨m, rest, accepted⟩
    exact (exists_written?_iff accepted.scanned).2 accepted

/-- A quantity that is read is in the declared unit. -/
theorem unit_of_read {q : Quantity} (h : read text declared = .ok q) : q.unit = declared := by
  obtain ⟨given, -, converted⟩ := read_eq_ok_iff.1 h
  exact unit_of_convert converted

/-! ## What is no number -/

/-- What is scanned is told by the text. -/
theorem Scanned.unique {m' : Magnitude} {rest' : List Char} (h : Scanned text m rest)
    (h' : Scanned text m' rest') : m.text = m'.text ∧ rest = rest' :=
  Prod.ext_iff.1 ((scanned_iff.1 h).symm.trans (scanned_iff.1 h'))

theorem isDigit_of_mem_digits {c : Char} (h : c ∈ m.digits) : isDigit c = true ∧ c ∈ m.text := by
  unfold Magnitude.digits at h
  unfold Magnitude.text Magnitude.tail
  rcases List.mem_append.1 h with whole | behind
  · exact ⟨m.wholeDigit c whole, by simp [whole]⟩
  · cases fraction : m.fraction with
    | none => simp [fraction] at behind
    | some digits =>
        rw [fraction] at behind
        exact ⟨m.fractionDigit digits fraction c behind, by simp_all [fractionText]⟩

/-- A text without digits is not read. -/
theorem not_accepted_of_no_digit (none : ∀ c ∈ text.toList, isDigit c = false) :
    ¬Accepted text declared m rest := by
  intro accepted
  obtain ⟨c, mem⟩ := List.exists_mem_of_ne_nil _ accepted.digits
  obtain ⟨digit, written⟩ := isDigit_of_mem_digits mem
  have whole := accepted.scanned.whole
  rw [trimmed, String.toList_ofList] at whole
  have inside : c ∈ text.toList := by
    refine (trim_sublist text.toList).subset ?_
    rw [whole]
    exact List.mem_append_left _ written
  rw [none c inside] at digit
  cases digit

theorem isBlank_of_isMark {c : Char} (h : isMark c = true) : isBlank c = false := by
  rw [isMark, Bool.or_eq_true, decide_eq_true_eq, decide_eq_true_eq] at h
  rcases h with rfl | rfl <;> decide

/-- The rest of a trimmed text starts where the magnitude ends. -/
theorem trim_rest {c : Char} (h : Scanned (trimmed text) m (c :: rest))
    (dense : isBlank c = false) :
    trim (c :: rest) = c :: rest := by
  have whole := h.whole
  rw [trimmed, String.toList_ofList] at whole
  refine trim_eq_self ?_ ?_
  · rintro _ ⟨⟩
    exact dense
  · intro d last
    refine isBlank_getLast_trim (s := text.toList) ?_
    rw [whole, List.getLast?_append_of_ne_nil _ (List.cons_ne_nil _ _), last]

/-- A text that goes on with a point is not read. -/
theorem not_accepted_of_point : ¬Accepted text declared m ('.' :: rest) := by
  intro accepted
  have same := trim_rest accepted.scanned (by decide)
  rcases accepted.named with bare | ⟨unit, -, named⟩
  · rw [same] at bare
    cases bare
  · rw [same] at named
    have ends := (MeasureUnit.endsMagnitude_of_isNamed named).1 '.' (by simp)
    exact ends.2 rfl

/-- **What is scanned decides what is read.**  The scan ends between two characters of the text,
behind the longest magnitude that the text starts with.  Trimmed, the text is read as a quantity of
a declared unit exactly where that magnitude has a digit beside its exponent and a finite value, and
nothing or the name of a unit of the family follows it.  Texts without digits, second points, and
exponents without digits that start no such name are not read. -/
theorem read_scanned (text : String) :
    (∃ m rest, Scanned text m rest) ∧
    (∀ m : Magnitude, m.text <+: text.toList →
      (String.ofList m.text).utf8ByteSize ≤ magnitudeLength text) ∧
    magnitudeLength text ≤ text.utf8ByteSize ∧
    (String.Pos.Raw.mk (magnitudeLength text)).IsValid text ∧
    ∀ declared : MeasureUnit,
      ((∃ q, read text declared = .ok q) ↔ ∃ m rest, Accepted text declared m rest) ∧
      (∀ q, read text declared = .ok q → q.unit = declared) ∧
      ((∀ c ∈ text.toList, isDigit c = false) → ∀ q, read text declared ≠ .ok q) ∧
      ∀ m c rest, Scanned (trimmed text) m (c :: rest) →
        (c = '.' ∨ isMark c = true ∧ ∀ unit : MeasureUnit, unit.family = declared.family →
          unit.isNamed (String.ofList (trim (c :: rest))) = false) →
        ∀ q, read text declared ≠ .ok q := by
  refine ⟨exists_scanned text, fun m => size_le_magnitudeLength, magnitudeLength_le text,
    isValid_magnitudeLength text, fun declared => ⟨exists_read_iff, fun q => unit_of_read, ?_, ?_⟩⟩
  · intro none q reads
    obtain ⟨m, rest, accepted⟩ := exists_read_iff.1 ⟨q, reads⟩
    exact not_accepted_of_no_digit none accepted
  · rintro m c rest scanned stops q reads
    obtain ⟨m', rest', accepted⟩ := exists_read_iff.1 ⟨q, reads⟩
    obtain rfl : c :: rest = rest' := (scanned.unique accepted.scanned).2
    rcases stops with rfl | ⟨mark, unnamed⟩
    · exact not_accepted_of_point accepted
    · rcases accepted.named with bare | ⟨unit, family, named⟩
      · rw [trim_rest scanned (isBlank_of_isMark mark)] at bare
        cases bare
      · rw [unnamed unit family] at named
        cases named

/-- The magnitude of a power. -/
def powerMagnitude : Magnitude where
  sign := none
  whole := ['2']
  fraction := some ['5']
  exponent := some ⟨'E', none, ['3'], .inr rfl, by simp [isDigit], by simp⟩
  wholeDigit := by simp [isDigit]
  fractionDigit := by simp [isDigit]

/-- A magnitude without an exponent. -/
def plainMagnitude : Magnitude where
  sign := none
  whole := ['5']
  fraction := none
  exponent := none
  wholeDigit := by simp [isDigit]
  fractionDigit := by simp

/-- An exponent with digits is read; an infinity, a second point and an exponent without digits are
not. -/
theorem read_scanned_power :
    (∃ q, read " 2.5E3kW" .megawatt = .ok q ∧ q.unit = .megawatt) ∧
      (∀ q, read "-inf" .megawatt ≠ .ok q) ∧ (∀ q, read "2.5E3.1" .megawatt ≠ .ok q) ∧
      ∀ q, read "5e+ kW" .megawatt ≠ .ok q := by
  obtain ⟨-, -, -, -, power⟩ := read_scanned " 2.5E3kW"
  obtain ⟨-, -, -, -, word⟩ := read_scanned "-inf"
  obtain ⟨-, -, -, -, point⟩ := read_scanned "2.5E3.1"
  obtain ⟨-, -, -, -, exponent⟩ := read_scanned "5e+ kW"
  refine ⟨?_, ?_, ?_, ?_⟩
  · have accepted : Accepted " 2.5E3kW" .megawatt powerMagnitude ['k', 'W'] :=
      ⟨scanned_iff.2 (by decide), by decide, by decide +kernel, .inr ⟨.kilowatt, rfl, by decide⟩⟩
    obtain ⟨q, reads⟩ := (power .megawatt).1.2 ⟨_, _, accepted⟩
    exact ⟨q, reads, (power .megawatt).2.1 q reads⟩
  · have letters : "-inf".toList.all (fun c => !isDigit c) = true := by decide
    exact (word .megawatt).2.2.1 (by simpa using letters)
  · have scanned : Scanned (trimmed "2.5E3.1") powerMagnitude ['.', '1'] :=
      scanned_iff.2 (by decide)
    exact (point .megawatt).2.2.2 _ _ _ scanned (.inl rfl)
  · have scanned : Scanned (trimmed "5e+ kW") plainMagnitude ['e', '+', ' ', 'k', 'W'] :=
      scanned_iff.2 (by decide)
    have unnamed : ∀ unit ∈ MeasureUnit.all, unit.family = MeasureUnit.megawatt.family →
        unit.isNamed (String.ofList (trim ['e', '+', ' ', 'k', 'W'])) = false := by decide
    exact (exponent .megawatt).2.2.2 _ _ _ scanned
      (.inr ⟨by decide, fun unit => unnamed unit unit.mem_all⟩)

end GridRecords.Quantity
