/-
# Number texts read back

A layout writes a sign, digits with an optional point, and an optional exponent (`NumberText`).
Fields, quantities and JSON text read such a text as the numeral that its digits say, and the
digits of a numeral are those that were chosen for the double (`exists_numberText`).
-/
import GridRecords.Decimal.Layout
import GridRecords.Decimal.Numeral
import GridRecords.Json.Reader
import GridRecords.Proofs.Text.Digits
import GridRecords.Quantity.Magnitude

namespace GridRecords.Decimal

open Text

/-- The parts of a number text.  Without a fraction there is no point. -/
structure NumberText where
  negative : Bool
  whole : List Char
  fraction : List Char
  exponent : Option Int

namespace NumberText

/-- The fraction with its point. -/
def fractionText (p : NumberText) : List Char :=
  if p.fraction = [] then [] else '.' :: p.fraction

/-- The exponent with its mark. -/
def exponentText (p : NumberText) : List Char :=
  match p.exponent with
  | none => []
  | some e => 'e' :: (toString e).toList

/-- The parts one after the other. -/
def text (p : NumberText) : List Char :=
  signed p.negative (p.whole ++ p.fractionText ++ p.exponentText)

/-- The numeral that the parts say. -/
def numeral (p : NumberText) : Numeral :=
  ⟨p.negative, digitsValue (p.whole ++ p.fraction), p.exponent.getD 0 - p.fraction.length⟩

/-- There are digits before the point, and no zero stands before others of them. -/
structure WellFormed (p : NumberText) : Prop where
  whole : ∀ c ∈ p.whole, isDigit c = true
  fraction : ∀ c ∈ p.fraction, isDigit c = true
  some' : p.whole ≠ []
  zero : p.whole.head? = some '0' → p.whole = ['0']

/-! ## The readers of a part -/

theorem toList_toString (e : Int) :
    (toString e).toList = (if e < 0 then ['-'] else []) ++ Nat.toDigits 10 e.natAbs := by
  have natural (n : Nat) : (Nat.repr n).toList = Nat.toDigits 10 n := String.toList_ofList
  cases e with
  | ofNat n => exact natural n
  | negSucc n =>
      rw [if_pos (Int.negSucc_lt_zero n)]
      show ("-" ++ Nat.repr (n + 1)).toList = _
      rw [String.toList_append, natural]
      rfl

variable {p : NumberText}

theorem exists_cons_whole (h : p.WellFormed) :
    ∃ c rest, p.whole = c :: rest ∧ isDigit c = true := by
  cases digits : p.whole with
  | nil => exact absurd digits h.some'
  | cons c rest => exact ⟨c, rest, rfl, h.whole c (by rw [digits]; exact List.mem_cons_self)⟩

theorem takeSign_digit {c : Char} (digit : isDigit c = true) (rest : List Char) :
    takeSign (c :: rest) = (false, c :: rest) := by
  unfold takeSign
  split
  · rename_i minus
    cases minus
    exact absurd digit (by decide)
  · rename_i plus
    cases plus
    exact absurd digit (by decide)
  · rfl

theorem splitSign_digit {c : Char} (digit : isDigit c = true) (rest : List Char) :
    Quantity.splitSign (c :: rest) = ([], c :: rest) := by
  unfold Quantity.splitSign
  split
  · rename_i plus
    cases plus
    exact absurd digit (by decide)
  · rename_i minus
    cases minus
    exact absurd digit (by decide)
  · rfl

theorem takeSign_signed (h : p.WellFormed) (negative : Bool) (rest : List Char) :
    takeSign (signed negative (p.whole ++ rest)) = (negative, p.whole ++ rest) := by
  obtain ⟨c, more, whole, digit⟩ := exists_cons_whole h
  cases negative with
  | true => rfl
  | false =>
      rw [whole]
      exact takeSign_digit digit _

/-- The digits of an exponent, and its sign. -/
theorem takeSign_toString (e : Int) :
    takeSign (toString e).toList = (decide (e < 0), Nat.toDigits 10 e.natAbs) := by
  rw [toList_toString]
  split
  · rename_i below
    rw [decide_eq_true below]
    rfl
  · rename_i above
    rw [decide_eq_false above, List.nil_append]
    cases digits : Nat.toDigits 10 e.natAbs with
    | nil => rfl
    | cons c rest =>
        refine takeSign_digit (@isDigit_of_mem_toDigits e.natAbs c ?_) rest
        rw [digits]
        exact List.mem_cons_self

theorem takeDigits_toDigits (n : Nat) {rest : List Char}
    (stop : ∀ c, rest.head? = some c → isDigit c = false) :
    takeDigits (Nat.toDigits 10 n ++ rest) = (Nat.toDigits 10 n, rest) :=
  takeDigits_of_digits (fun _ => isDigit_of_mem_toDigits) stop

theorem readExponent?_exponentText (p : NumberText) :
    readExponent? p.exponentText = some (p.exponent.getD 0) := by
  unfold exponentText
  cases p.exponent with
  | none => rfl
  | some e =>
      have digits : (Nat.toDigits 10 e.natAbs).all isDigit = true :=
        List.all_eq_true.2 fun _ => isDigit_of_mem_toDigits
      have some' : (Nat.toDigits 10 e.natAbs).isEmpty = false := by simp
      unfold readExponent?
      simp only [true_or, if_true, takeSign_toString, digits, some', digitsValue_toDigits,
        Bool.not_true, Bool.or_self, Bool.false_eq_true, if_false, decide_eq_true_eq,
        Option.getD_some]
      congr 1
      split <;> omega

/-- No digit follows the fraction. -/
theorem head_exponentText {c : Char} (h : p.exponentText.head? = some c) : c = 'e' := by
  unfold exponentText at h
  split at h
  · cases h
  · cases h
    rfl

theorem head_exponentText_digit (p : NumberText) (c : Char)
    (h : p.exponentText.head? = some c) : isDigit c = false := by
  rw [head_exponentText h]
  decide

/-- No digit follows the whole part. -/
theorem head_fractionText {rest : List Char} {c : Char}
    (stop : ∀ c, rest.head? = some c → isDigit c = false)
    (h : (p.fractionText ++ rest).head? = some c) : isDigit c = false := by
  unfold fractionText at h
  split at h
  · exact stop c h
  · cases h
    decide

/-- The characters of a number text. -/
theorem mem_text (h : p.WellFormed) {c : Char} (mem : c ∈ p.text) :
    isDigit c = true ∨ c ∈ ['-', '.', 'e'] := by
  have inParts : c ∈ p.whole ++ p.fractionText ++ p.exponentText →
      isDigit c = true ∨ c ∈ ['-', '.', 'e'] := by
    intro mem
    rcases List.mem_append.1 mem with front | exponent
    · rcases List.mem_append.1 front with whole | fraction
      · exact .inl (h.whole c whole)
      · unfold fractionText at fraction
        split at fraction
        · cases fraction
        · rcases List.mem_cons.1 fraction with rfl | digit
          · exact .inr (by simp)
          · exact .inl (h.fraction c digit)
    · unfold exponentText at exponent
      split at exponent
      · cases exponent
      · rcases List.mem_cons.1 exponent with rfl | number
        · exact .inr (by simp)
        · rw [toList_toString] at number
          rcases List.mem_append.1 number with sign | digit
          · split at sign
            · exact .inr (List.mem_of_mem_take (i := 1) sign)
            · cases sign
          · exact .inl (isDigit_of_mem_toDigits digit)
  unfold text signed at mem
  split at mem
  · rcases List.mem_cons.1 mem with rfl | rest
    · exact .inr (by simp)
    · exact inParts rest
  · exact inParts mem

theorem isBlank_of_mem_text (h : p.WellFormed) {c : Char} (mem : c ∈ p.text) :
    isBlank c = false := by
  rcases mem_text h mem with digit | other
  · exact isBlank_of_isDigit digit
  · have all : (['-', '.', 'e'].all fun c => !isBlank c) = true := by decide
    simpa using List.all_eq_true.1 all c other

/-- Trimming leaves a number text alone. -/
theorem trim_text (h : p.WellFormed) : trim p.text = p.text :=
  trim_eq_self_of_all fun _ => isBlank_of_mem_text h

theorem text_ne_nil (h : p.WellFormed) : p.text ≠ [] := by
  unfold text signed
  split
  · simp
  · simp [h.some']

/-! ## The three readers -/

/-- **A number text reads as the numeral it says.** -/
theorem ofText?_text (h : p.WellFormed) : Numeral.ofText? p.text = some p.numeral := by
  have stop := head_exponentText_digit p
  have whole : takeDigits (p.whole ++ (p.fractionText ++ p.exponentText)) =
      (p.whole, p.fractionText ++ p.exponentText) :=
    takeDigits_of_digits h.whole fun _ => head_fractionText stop
  have fraction := takeDigits_of_digits h.fraction stop
  have some' : p.whole.isEmpty = false := by simp [h.some']
  have exponent := readExponent?_exponentText p
  unfold text Numeral.ofText? numeral
  rw [List.append_assoc]
  simp only [takeSign_signed h, whole]
  unfold fractionText
  by_cases none : p.fraction = []
  · simp only [none]
    -- the text after the whole part starts with no point
    cases mark : p.exponentText with
    | nil =>
        rw [mark] at exponent
        simp [exponent, some']
    | cons c rest =>
        have e : c = 'e' := head_exponentText (by rw [mark]; rfl)
        subst e
        rw [mark] at exponent
        simp [exponent, some']
  · simp only [if_neg none, List.cons_append, fraction, exponent, some', Bool.false_and,
      Bool.false_eq_true, if_false, Option.map_some]

/-- What ends a magnitude: neither a digit nor a point, and no exponent. -/
def EndsMagnitude (rest : List Char) : Prop :=
  (∀ c, rest.head? = some c → isDigit c = false ∧ c ≠ '.') ∧
    Quantity.splitExponent rest = ([], rest)

/-- Neither a digit nor a point follows the fraction. -/
theorem head_exponentText_append {rest : List Char}
    (stop : ∀ c, rest.head? = some c → isDigit c = false ∧ c ≠ '.') (p : NumberText) (c : Char)
    (h : (p.exponentText ++ rest).head? = some c) : isDigit c = false ∧ c ≠ '.' := by
  cases mark : p.exponentText with
  | nil =>
      rw [mark] at h
      exact stop c h
  | cons e more =>
      rw [mark] at h
      cases h
      have e : c = 'e' := head_exponentText (p := p) (by rw [mark]; rfl)
      subst e
      decide

theorem splitSign_signed (h : p.WellFormed) (negative : Bool) (rest : List Char) :
    Quantity.splitSign (signed negative (p.whole ++ rest)) =
      (if negative then ['-'] else [], p.whole ++ rest) := by
  obtain ⟨c, more, whole, digit⟩ := exists_cons_whole h
  cases negative with
  | true => rfl
  | false =>
      rw [whole]
      exact splitSign_digit digit _

theorem splitFraction_fractionText (h : p.WellFormed) {rest : List Char}
    (stop : ∀ c, rest.head? = some c → isDigit c = false ∧ c ≠ '.') :
    Quantity.splitFraction (p.fractionText ++ rest) = (p.fractionText, rest) := by
  unfold fractionText
  split
  · rw [List.nil_append]
    unfold Quantity.splitFraction
    split
    · exact absurd rfl (stop '.' rfl).2
    · rfl
  · rw [List.cons_append, Quantity.splitFraction,
      takeDigits_of_digits h.fraction fun c head => (stop c head).1]

theorem splitExponent_exponentText (p : NumberText) {rest : List Char}
    (ends : EndsMagnitude rest) :
    Quantity.splitExponent (p.exponentText ++ rest) = (p.exponentText, rest) := by
  unfold exponentText
  cases p.exponent with
  | none => exact ends.2
  | some e =>
      have digits := takeDigits_toDigits e.natAbs fun c head => (ends.1 c head).1
      have sign : Quantity.splitSign ((toString e).toList ++ rest) =
          (if e < 0 then ['-'] else [], Nat.toDigits 10 e.natAbs ++ rest) := by
        rw [toList_toString]
        split
        · rfl
        · cases first : Nat.toDigits 10 e.natAbs with
          | nil => exact absurd first Nat.toDigits_ne_nil
          | cons c more =>
              refine splitSign_digit (@isDigit_of_mem_toDigits e.natAbs c ?_) _
              rw [first]
              exact List.mem_cons_self
      simp only [List.cons_append, Quantity.splitExponent, sign, digits]
      rw [if_pos ⟨.inl trivial, Nat.toDigits_ne_nil⟩, toList_toString]

/-- **A number text is the magnitude of a text that goes on with something else.** -/
theorem splitMagnitude_text_append (h : p.WellFormed) {rest : List Char}
    (ends : EndsMagnitude rest) :
    Quantity.splitMagnitude (p.text ++ rest) = (p.text, rest) := by
  have afterFraction := head_exponentText_append ends.1 p
  have whole : takeDigits (p.whole ++ (p.fractionText ++ (p.exponentText ++ rest))) =
      (p.whole, p.fractionText ++ (p.exponentText ++ rest)) :=
    takeDigits_of_digits h.whole fun _ => head_fractionText fun c head => (afterFraction c head).1
  have together : p.text ++ rest =
      signed p.negative (p.whole ++ (p.fractionText ++ (p.exponentText ++ rest))) := by
    unfold text signed
    cases p.negative <;> simp
  rw [together]
  unfold Quantity.splitMagnitude text
  simp only [splitSign_signed h, whole, splitFraction_fractionText h afterFraction,
    splitExponent_exponentText p ends]
  cases p.negative <;> simp [signed]

/-- **A number text is a magnitude without a unit.** -/
theorem splitMagnitude_text (h : p.WellFormed) : Quantity.splitMagnitude p.text = (p.text, []) := by
  have ends : EndsMagnitude [] := ⟨fun c head => absurd head (by simp), rfl⟩
  have split := splitMagnitude_text_append h ends
  rwa [List.append_nil] at split

/-! ## Numbers of JSON text -/

/-- What ends a number of JSON text. -/
def Ends (rest : List Char) : Prop :=
  ∀ c, rest.head? = some c → isDigit c = false ∧ c ∉ ['.', 'e', 'E']

theorem readTail_digits (mark : List Char) {digits rest : List Char} (some' : digits ≠ [])
    (all : ∀ c ∈ digits, isDigit c = true)
    (stop : ∀ c, rest.head? = some c → isDigit c = false) :
    Json.readTail mark (digits ++ rest) = some (mark ++ digits, rest) := by
  unfold Json.readTail
  rw [takeDigits_of_digits all stop]
  split
  · rename_i none
    cases none
    exact absurd rfl some'
  · rename_i found
    cases found
    rfl

theorem readWhole_whole (h : p.WellFormed) {rest : List Char}
    (stop : ∀ c, rest.head? = some c → isDigit c = false) :
    Json.readWhole (p.whole ++ rest) = some (p.whole, rest) := by
  obtain ⟨c, more, whole, digit⟩ := exists_cons_whole h
  have zero := h.zero
  unfold Json.readWhole
  rw [takeDigits_of_digits h.whole stop]
  rw [whole] at zero ⊢
  by_cases first : c = '0'
  · subst first
    have only := zero rfl
    cases only
    rfl
  · split
    · rename_i none
      cases none
    · rename_i found
      cases found
      exact absurd rfl first
    · rfl

theorem readFraction_fractionText (h : p.WellFormed) {rest : List Char}
    (stop : ∀ c, rest.head? = some c → isDigit c = false ∧ c ≠ '.') :
    Json.readFraction (p.fractionText ++ rest) = some (p.fractionText, rest) := by
  unfold fractionText
  split
  · rw [List.nil_append]
    unfold Json.readFraction
    split
    · exact absurd rfl (stop '.' rfl).2
    · rfl
  · rename_i some'
    exact readTail_digits ['.'] some' h.fraction fun c head => (stop c head).1

/-- An exponent without a sign. -/
theorem readExponent_digit {c : Char} (digit : isDigit c = true) (rest : List Char) :
    Json.readExponent ('e' :: c :: rest) = Json.readTail ['e'] (c :: rest) := by
  simp only [Json.readExponent, true_or, if_true]
  split
  · rename_i plus
    cases plus
    exact absurd digit (by decide)
  · rename_i minus
    cases minus
    exact absurd digit (by decide)
  · rfl

theorem readExponent_exponentText (p : NumberText) {rest : List Char} (ends : Ends rest) :
    Json.readExponent (p.exponentText ++ rest) = some (p.exponentText, rest) := by
  have stop : ∀ c, rest.head? = some c → isDigit c = false := fun c head => (ends c head).1
  unfold exponentText
  cases p.exponent with
  | none =>
      cases rest with
      | nil => rfl
      | cons c more =>
          have none : ¬(c = 'e' ∨ c = 'E') := by
            have known := (ends c rfl).2
            simp at known
            simp [known]
          show Json.readExponent (c :: more) = some ([], c :: more)
          simp only [Json.readExponent, if_neg none]
  | some e =>
      have tail (mark : List Char) :=
        readTail_digits mark (Nat.toDigits_ne_nil (n := e.natAbs) (b := 10))
          (fun _ => isDigit_of_mem_toDigits) stop
      simp only [toList_toString, List.cons_append, List.append_assoc]
      split
      · exact tail ['e', '-']
      · rw [List.nil_append, List.nil_append]
        cases digits : Nat.toDigits 10 e.natAbs with
        | nil => exact absurd digits Nat.toDigits_ne_nil
        | cons c more =>
            have digit : isDigit c = true :=
              @isDigit_of_mem_toDigits e.natAbs c (by rw [digits]; exact List.mem_cons_self)
            rw [List.cons_append, readExponent_digit digit, ← List.cons_append, ← digits]
            exact tail ['e']

/-- What may follow the whole part, and then the fraction. -/
theorem Ends.fractionText {rest : List Char} (ends : Ends rest) (p : NumberText) :
    (∀ c, (p.exponentText ++ rest).head? = some c → isDigit c = false ∧ c ≠ '.') ∧
      ∀ c, (p.fractionText ++ (p.exponentText ++ rest)).head? = some c → isDigit c = false := by
  have stop : ∀ c, rest.head? = some c → isDigit c = false ∧ c ≠ '.' := by
    intro c head
    refine ⟨(ends c head).1, ?_⟩
    rintro rfl
    exact (ends '.' head).2 (by simp)
  have after := head_exponentText_append stop p
  exact ⟨after, fun _ => head_fractionText fun c head => (after c head).1⟩

/-- **A number text is a number of JSON text.** -/
theorem readNumber_text (h : p.WellFormed) {rest : List Char} (ends : Ends rest) :
    Json.readNumber (p.text ++ rest) = some (.number p.numeral, rest) := by
  obtain ⟨exponentEnds, fractionEnds⟩ := ends.fractionText p
  have numeral := ofText?_text h
  have whole := readWhole_whole h fractionEnds
  have fraction := readFraction_fractionText h exponentEnds
  have exponent := readExponent_exponentText p ends
  unfold text at numeral ⊢
  unfold Json.readNumber
  cases negative : p.negative with
  | true =>
      rw [negative] at numeral
      simp only [signed, if_true, List.append_assoc, List.cons_append] at numeral ⊢
      simp [whole, fraction, exponent, numeral]
  | false =>
      rw [negative] at numeral
      obtain ⟨c, more, digits, digit⟩ := exists_cons_whole h
      have minus : c ≠ '-' := by
        rintro rfl
        exact absurd digit (by decide)
      rw [digits] at whole numeral ⊢
      simp only [signed, List.append_assoc, List.cons_append, Bool.false_eq_true, if_false]
        at numeral whole ⊢
      simp [whole, fraction, exponent, numeral, minus]

end NumberText

end GridRecords.Decimal
