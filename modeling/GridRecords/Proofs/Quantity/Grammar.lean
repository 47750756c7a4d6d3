/-
# The grammar of magnitudes

A magnitude is an optional sign, digits, an optional point with digits after it, and an optional
exponent, whose mark and sign have at least one digit after them (`Magnitude`).  None of the parts
but the exponent needs a digit, so a lone sign is a magnitude too; it only has no value.

What is split off a text is a magnitude (`exists_text_eq_splitMagnitude`), and every magnitude that
the text starts with is a start of it (`text_prefix_splitMagnitude`): each part starts with
characters with which no part before it can go on.  Those with a digit beside the exponent are what
is read as a numeral (`Magnitude.ofText?_text`).
-/
import GridRecords.Proofs.Text.Digits
import GridRecords.Quantity.Magnitude
import Mathlib.Data.List.Basic

namespace GridRecords.Quantity

open Text Decimal

/-! ## Magnitudes in their parts -/

/-- The exponent of a magnitude. -/
structure Exponent where
  mark : Char
  sign : Option Bool
  digits : List Char
  marks : mark = 'e' ∨ mark = 'E'
  digit : ∀ c ∈ digits, isDigit c = true
  some' : digits ≠ []

/-- A magnitude in its parts.  A sign is `true` for a minus, and a fraction is the digits behind a
point. -/
structure Magnitude where
  sign : Option Bool
  whole : List Char
  fraction : Option (List Char)
  exponent : Option Exponent
  wholeDigit : ∀ c ∈ whole, isDigit c = true
  fractionDigit : ∀ behind ∈ fraction, ∀ c ∈ behind, isDigit c = true

/-- A sign as it is written. -/
def signText : Option Bool → List Char
  | none => []
  | some true => ['-']
  | some false => ['+']

/-- A fraction with its point. -/
def fractionText : Option (List Char) → List Char
  | none => []
  | some behind => '.' :: behind

/-- An exponent with its mark. -/
def Exponent.text (e : Exponent) : List Char := e.mark :: (signText e.sign ++ e.digits)

/-- An exponent as it is written. -/
def exponentText : Option Exponent → List Char
  | none => []
  | some e => e.text

/-- The power of ten that an exponent says. -/
def Exponent.value (e : Exponent) : ℤ :=
  if e.sign = some true then -(digitsValue e.digits : ℤ) else digitsValue e.digits

namespace Magnitude

variable (m : Magnitude)

/-- What follows the whole part. -/
def tail : List Char := fractionText m.fraction ++ exponentText m.exponent

/-- A magnitude as it is written. -/
def text : List Char := signText m.sign ++ (m.whole ++ m.tail)

/-- The digits of a magnitude beside those of its exponent. -/
def digits : List Char := m.whole ++ m.fraction.getD []

/-- The numeral that the parts say. -/
def numeral : Numeral where
  negative := m.sign = some true
  digits := digitsValue m.digits
  scale := m.exponent.elim 0 Exponent.value - (m.fraction.getD []).length

end Magnitude

/-! ## What the parts start with -/

/-- The signs. -/
def isSign (c : Char) : Bool := c = '+' || c = '-'

/-- The marks of an exponent. -/
def isMark (c : Char) : Bool := c = 'e' || c = 'E'

theorem isSign_of_isDigit {c : Char} (h : isDigit c = true) : isSign c = false := by
  rw [isSign, Bool.or_eq_false_iff]
  constructor
  all_goals
    rw [decide_eq_false_iff_not]
    rintro rfl
    exact absurd h (by decide)

theorem isMark_cases {c : Char} (h : isMark c = true) :
    isSign c = false ∧ isDigit c = false ∧ c ≠ '.' := by
  rw [isMark, Bool.or_eq_true, decide_eq_true_eq, decide_eq_true_eq] at h
  rcases h with rfl | rfl <;> decide

/-- What goes on a text that is not empty leaves its first character as it is. -/
theorem head_append {s : List Char} (some' : s ≠ []) {P : Char → Prop}
    (h : ∀ c, s.head? = some c → P c) (rest : List Char) :
    ∀ c, (s ++ rest).head? = some c → P c := by
  intro c first
  rw [List.head?_append_of_ne_nil _ some'] at first
  exact h c first

theorem isSign_head_digits {s : List Char} (digits : ∀ c ∈ s, isDigit c = true) :
    ∀ c, s.head? = some c → isSign c = false :=
  fun c first => isSign_of_isDigit (digits c (List.mem_of_mem_head? first))

theorem isMark_head_exponentText {exponent : Option Exponent} :
    ∀ c, (exponentText exponent).head? = some c → isMark c = true := by
  rintro c first
  cases exponent with
  | none => cases first
  | some e =>
      cases first
      simpa [isMark] using e.marks

namespace Magnitude

variable (m : Magnitude)

/-- What follows the whole part starts with a point or a mark. -/
theorem head_tail : ∀ c, m.tail.head? = some c → c = '.' ∨ isMark c = true := by
  intro c first
  unfold tail at first
  cases fraction : m.fraction with
  | none =>
      rw [fraction] at first
      exact .inr (isMark_head_exponentText c first)
  | some behind =>
      rw [fraction] at first
      cases first
      exact .inl rfl

theorem isDigit_head_tail : ∀ c, m.tail.head? = some c → isDigit c = false := by
  intro c first
  rcases m.head_tail c first with rfl | mark
  · decide
  · exact (isMark_cases mark).2.1

theorem isSign_head : ∀ c, (m.whole ++ m.tail).head? = some c → isSign c = false := by
  intro c first
  cases whole : m.whole with
  | nil =>
      rw [whole] at first
      rcases m.head_tail c first with rfl | mark
      · decide
      · exact (isMark_cases mark).1
  | cons d more =>
      rw [whole] at first
      cases first
      exact isSign_of_isDigit (m.wholeDigit c (by rw [whole]; exact List.mem_cons_self))

end Magnitude

/-! ## The splitters of a part -/

theorem splitSign_of_head {s : List Char} (h : ∀ c, s.head? = some c → isSign c = false) :
    splitSign s = ([], s) := by
  unfold splitSign
  split
  · exact absurd (h '+' rfl) (by decide)
  · exact absurd (h '-' rfl) (by decide)
  · rfl

/-- A sign is split off whatever follows it; for want of one, nothing is. -/
theorem splitSign_signText (sign : Option Bool) {s : List Char}
    (h : ∀ c, s.head? = some c → isSign c = false) :
    splitSign (signText sign ++ s) = (signText sign, s) := by
  rcases sign with - | - | -
  · exact splitSign_of_head h
  · rfl
  · rfl

theorem takeSign_signText (sign : Option Bool) {s : List Char}
    (h : ∀ c, s.head? = some c → isSign c = false) :
    takeSign (signText sign ++ s) = (decide (sign = some true), s) := by
  rcases sign with - | - | -
  · rw [signText, List.nil_append]
    unfold takeSign
    split
    · exact absurd (h '-' rfl) (by decide)
    · exact absurd (h '+' rfl) (by decide)
    · rfl
  · rfl
  · rfl

theorem splitFraction_some {behind : List Char} (digits : ∀ c ∈ behind, isDigit c = true)
    (rest : List Char) :
    splitFraction (fractionText (some behind) ++ rest) =
      (fractionText (some behind) ++ (takeDigits rest).1, (takeDigits rest).2) := by
  rw [fractionText, List.cons_append, splitFraction, takeDigits_append_of_digits digits,
    List.cons_append]

/-- A fraction ends where an exponent stands. -/
theorem splitFraction_fractionText {fraction : Option (List Char)}
    (digits : ∀ behind ∈ fraction, ∀ c ∈ behind, isDigit c = true) {rest : List Char}
    (marked : ∀ c, rest.head? = some c → isMark c = true) :
    splitFraction (fractionText fraction ++ rest) = (fractionText fraction, rest) := by
  cases fraction with
  | none =>
      rw [fractionText, List.nil_append]
      unfold splitFraction
      split
      · exact absurd rfl (isMark_cases (marked '.' rfl)).2.2
      · rfl
  | some behind =>
      have stop := takeDigits_of_digits (digits behind rfl) fun c first =>
        (isMark_cases (marked c first)).2.1
      rw [fractionText, List.cons_append, splitFraction, stop]

/-- An exponent is split off with the digits that follow it. -/
theorem splitExponent_text (e : Exponent) (rest : List Char) :
    splitExponent (e.text ++ rest) = (e.text ++ (takeDigits rest).1, (takeDigits rest).2) := by
  have sign := splitSign_signText e.sign
    (head_append e.some' (isSign_head_digits e.digit) rest)
  have some' : e.digits ++ (takeDigits rest).1 ≠ [] := List.append_ne_nil_of_left_ne_nil e.some' _
  rw [Exponent.text, List.cons_append, List.append_assoc, splitExponent]
  simp only [sign, takeDigits_append_of_digits e.digit]
  rw [if_pos ⟨e.marks, some'⟩, List.cons_append, List.cons_append, List.append_assoc]

/-! ## What is split off -/

theorem exists_signText (s : List Char) : ∃ sign, signText sign = (splitSign s).1 := by
  unfold splitSign
  split
  · exact ⟨some false, rfl⟩
  · exact ⟨some true, rfl⟩
  · exact ⟨none, rfl⟩

theorem exists_fractionText (s : List Char) : ∃ fraction : Option (List Char),
    (∀ behind ∈ fraction, ∀ c ∈ behind, isDigit c = true) ∧
      fractionText fraction = (splitFraction s).1 := by
  unfold splitFraction
  split
  next rest =>
    refine ⟨some (takeDigits rest).1, ?_, rfl⟩
    rintro _ ⟨⟩
    exact fun c => isDigit_of_mem_takeDigits
  next => exact ⟨none, nofun, rfl⟩

theorem exists_exponentText (s : List Char) :
    ∃ exponent, exponentText exponent = (splitExponent s).1 := by
  cases s with
  | nil => exact ⟨none, rfl⟩
  | cons c rest =>
      simp only [splitExponent]
      split
      next h =>
        obtain ⟨sign, written⟩ := exists_signText rest
        refine ⟨some ⟨c, sign, _, h.1, fun _ => isDigit_of_mem_takeDigits, h.2⟩, ?_⟩
        rw [exponentText, Exponent.text, written, List.cons_append]
      next => exact ⟨none, rfl⟩

/-- **A magnitude is split off.** -/
theorem exists_text_eq_splitMagnitude (s : List Char) :
    ∃ m : Magnitude, m.text = (splitMagnitude s).1 := by
  simp only [splitMagnitude]
  obtain ⟨sign, signed⟩ := exists_signText s
  obtain ⟨fraction, digits, pointed⟩ := exists_fractionText (takeDigits (splitSign s).2).2
  obtain ⟨exponent, marked⟩ :=
    exists_exponentText (splitFraction (takeDigits (splitSign s).2).2).2
  refine ⟨⟨sign, (takeDigits (splitSign s).2).1, fraction, exponent,
    fun _ => isDigit_of_mem_takeDigits, digits⟩, ?_⟩
  simp only [Magnitude.text, Magnitude.tail, signed, pointed, marked, List.append_assoc]

/-! ## Nothing longer starts the text -/

/-- **A magnitude that a text starts with is a start of what is split off.** -/
theorem text_prefix_splitMagnitude (m : Magnitude) (rest : List Char) :
    m.text <+: (splitMagnitude (m.text ++ rest)).1 := by
  unfold Magnitude.text
  by_cases unsigned : m.whole ++ m.tail = []
  · -- of a lone sign nothing can be lost
    rw [unsigned, List.append_nil]
    rcases m.sign with - | - | -
    · exact List.nil_prefix
    all_goals
      simp only [splitMagnitude, signText, List.singleton_append, splitSign, List.append_assoc]
      exact List.prefix_append _ _
  have sign := splitSign_signText m.sign (head_append unsigned m.isSign_head rest)
  rw [List.append_assoc] at sign ⊢
  rw [List.append_assoc]
  simp only [splitMagnitude, sign, takeDigits_append_of_digits m.wholeDigit, List.append_assoc]
  refine (List.prefix_append_right_inj _).2 ((List.prefix_append_right_inj _).2 ?_)
  by_cases integral : m.tail = []
  · rw [integral]
    exact List.nil_prefix
  -- the whole part ends where a point or a mark stands
  have whole : takeDigits (m.tail ++ rest) = ([], m.tail ++ rest) :=
    takeDigits_of_digits (s := []) (fun _ none => absurd none List.not_mem_nil)
      (head_append integral m.isDigit_head_tail rest)
  rw [whole, List.nil_append, Magnitude.tail, List.append_assoc]
  cases exponent : m.exponent with
  | some e =>
      have marked := head_append (s := exponentText (some e)) (List.cons_ne_nil _ _)
        isMark_head_exponentText rest
      rw [splitFraction_fractionText m.fractionDigit marked, exponentText, splitExponent_text]
      exact (List.prefix_append_right_inj _).2 (List.prefix_append _ _)
  | none =>
      cases fraction : m.fraction with
      | none => exact List.nil_prefix
      | some behind =>
          rw [exponentText, List.append_nil, List.nil_append,
            splitFraction_some (m.fractionDigit behind fraction), List.append_assoc]
          exact List.prefix_append _ _

/-! ## The value of a magnitude -/

theorem readExponent?_exponentText (exponent : Option Exponent) :
    readExponent? (exponentText exponent) = some (exponent.elim 0 Exponent.value) := by
  cases exponent with
  | none => rfl
  | some e =>
      have sign := takeSign_signText e.sign (isSign_head_digits e.digit)
      have some' : e.digits.isEmpty = false := by simp [e.some']
      have all : e.digits.all isDigit = true := List.all_eq_true.2 e.digit
      simp [readExponent?, exponentText, Exponent.text, Exponent.value, e.marks, sign, some', all]

/-- **A magnitude is read as a numeral where it has a digit beside its exponent.** -/
theorem Magnitude.ofText?_text (m : Magnitude) :
    Numeral.ofText? m.text = if m.digits = [] then none else some m.numeral := by
  have sign := takeSign_signText m.sign m.isSign_head
  have whole := takeDigits_of_digits m.wholeDigit m.isDigit_head_tail
  have exponent := readExponent?_exponentText m.exponent
  unfold Numeral.ofText? text
  simp only [sign, whole]
  unfold tail numeral digits
  cases fraction : m.fraction with
  | some behind =>
      have stop : takeDigits (behind ++ exponentText m.exponent) =
          (behind, exponentText m.exponent) :=
        takeDigits_of_digits (m.fractionDigit behind fraction) fun c first =>
          (isMark_cases (isMark_head_exponentText c first)).2.1
      simp [fractionText, stop, exponent]
  | none =>
      -- what follows the whole part starts with no point
      cases mark : exponentText m.exponent with
      | nil =>
          rw [mark] at exponent
          simp [fractionText, exponent]
      | cons c rest =>
          have first : (exponentText m.exponent).head? = some c := by rw [mark]; rfl
          have noPoint := (isMark_cases (isMark_head_exponentText c first)).2.2
          rw [mark] at exponent
          simp [fractionText, noPoint, exponent]

end GridRecords.Quantity
