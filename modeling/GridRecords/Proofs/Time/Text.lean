/-
# Timestamps read back

A timestamp under an offset of whole minutes, in a year of four digits, is written in the form
of RFC 3339.  It is read back as the timestamp, offset and leap second included, if only the last
second of a minute is followed by a leap second (`read_text`).  After any other second a fraction of
one second or more is carried: the text is that of the second after it, and is read as that
(`read_text_carried`).
-/
import GridRecords.Proofs.Outcome
import GridRecords.Proofs.Text.Digits
import GridRecords.Proofs.Time.Calendar
import GridRecords.Time.Reader
import Mathlib.Data.List.Basic

namespace GridRecords

open Text

namespace Timestamp

/-- The timestamps that there are: the offset is below one day, and the fraction below two seconds,
whichever second it follows. -/
structure Representable (t : Timestamp) : Prop where
  nanos : t.nanos < 2 * nanosPerSecond
  offset : t.offset.natAbs < daySeconds

/-- The timestamps whose text has the form of RFC 3339. -/
structure Printable (t : Timestamp) : Prop extends t.Representable where
  wholeMinutes : t.offset % 60 = 0
  year : 0 ≤ t.toLocal.date.year ∧ t.toLocal.date.year ≤ 9999

/-- A restriction: a fraction of one second or more follows only the last second of a minute, as a
leap second does.  A timestamp may have it after any other second as well. -/
def LeapsAtMinuteEnd (t : Timestamp) : Prop :=
  nanosPerSecond ≤ t.nanos → (t.seconds + t.offset) % 60 = 59

instance (t : Timestamp) : Decidable t.LeapsAtMinuteEnd :=
  inferInstanceAs (Decidable (_ → _))

/-- The timestamps that are read back from their text. -/
structure Legible (t : Timestamp) : Prop extends t.Printable where
  leap : t.LeapsAtMinuteEnd

/-- A timestamp with one second of its fraction counted among the seconds. -/
def carried (t : Timestamp) : Timestamp :=
  { t with seconds := t.seconds + 1, nanos := t.nanos - nanosPerSecond }

/-! ## Local fields -/

/-- The fields of a clock. -/
structure Local.OnClock (l : Local) : Prop where
  hour : l.hour ≤ 23
  minute : l.minute ≤ 59
  second : l.second ≤ 60
  nanos : l.nanos < nanosPerSecond

/-- Days are whole minutes: a second has the same place in its minute, counted from midnight. -/
theorem secondOfDay_spec (second : Int) : 0 ≤ second % daySeconds ∧ second % daySeconds < 86400 ∧
    second % daySeconds % 60 = second % 60 := by
  unfold daySeconds
  omega

/-- The local fields of a timestamp are those of a clock. -/
theorem Legible.onClock {t : Timestamp} (h : t.Legible) : t.toLocal.OnClock := by
  obtain ⟨start, finish, minute⟩ := secondOfDay_spec (t.seconds + t.offset)
  have nanos := h.nanos
  have leap := h.leap
  unfold LeapsAtMinuteEnd at leap
  unfold nanosPerSecond at nanos leap
  unfold toLocal
  constructor <;> simp only [nanosPerSecond] <;> omega

/-- The local fields of a timestamp have it back. -/
theorem Legible.ofLocal_toLocal {t : Timestamp} (h : t.Legible) :
    ofLocal t.toLocal t.offset = t := by
  have nanos := h.nanos
  have last := h.leap
  unfold LeapsAtMinuteEnd at last
  have seconds : (t.seconds + t.offset) / daySeconds * daySeconds +
      (t.seconds + t.offset) % daySeconds = t.seconds + t.offset := Int.ediv_mul_add_emod _ _
  obtain ⟨start, -, minute⟩ := secondOfDay_spec (t.seconds + t.offset)
  unfold nanosPerSecond at nanos last
  have leap : (((t.seconds + t.offset) % daySeconds).toNat % 60 + t.nanos / nanosPerSecond) / 60 =
      t.nanos / nanosPerSecond := by
    unfold nanosPerSecond
    omega
  unfold ofLocal toLocal
  simp only [Date.toDays_ofDays, leap]
  generalize (t.seconds + t.offset) % daySeconds = ofDay at *
  generalize (t.seconds + t.offset) / daySeconds * daySeconds = midnight at *
  rcases t with ⟨secs, frac, offset⟩
  simp only [nanosPerSecond, mk.injEq] at *
  refine ⟨?_, ?_, trivial⟩
  · omega
  · omega

/-! ## Two digits -/

theorem exists_padded_two {n : Nat} (h : n < 100) : ∃ a b, padded 2 n = [a, b] ∧
    isDigit a = true ∧ isDigit b = true ∧ digitsValue [a, b] = n := by
  have length : (padded 2 n).length = 2 := length_padded (by decide) h
  obtain ⟨a, b, two⟩ := List.length_eq_two.1 length
  have value := digitsValue_padded 2 n
  have digits : ∀ c ∈ padded 2 n, isDigit c = true := fun _ => isDigit_of_mem_padded
  rw [two] at value digits
  exact ⟨a, b, two, digits a (by simp), digits b (by simp), value⟩

theorem twoDigits?_padded {n : Nat} (h : n < 100) (rest : List Char) :
    twoDigits? (padded 2 n ++ rest) = some (n, rest) := by
  obtain ⟨a, b, two, first, second, value⟩ := exists_padded_two h
  rw [two, List.cons_append, List.cons_append, List.nil_append, twoDigits?, first, second, value]
  rfl

/-- Four digits are read two by two. -/
theorem twoDigits?_padded_four {n : Nat} (h : n < 10000) (rest : List Char) :
    ∃ more, twoDigits? (padded 4 n ++ rest) = some (n / 100, more) ∧
      twoDigits? more = some (n % 100, rest) := by
  have length : (padded 4 n).length = 4 := length_padded (by decide) h
  have value := digitsValue_padded 4 n
  have digits : ∀ c ∈ padded 4 n, isDigit c = true := fun _ => isDigit_of_mem_padded
  match four : padded 4 n, length with
  | [a, b, c, d], _ =>
      rw [four] at value digits
      have first : isDigit a = true := digits a (by simp)
      have second : isDigit b = true := digits b (by simp)
      have third : isDigit c = true := digits c (by simp)
      have fourth : isDigit d = true := digits d (by simp)
      have split : digitsValue [a, b] * 100 + digitsValue [c, d] = n := by
        rw [← value]
        exact (digitsValue_append [a, b] [c, d]).symm
      have small : digitsValue [c, d] < 100 := digitsValue_lt (by simp [third, fourth])
      have century : digitsValue [a, b] = n / 100 := by omega
      have ofCentury : digitsValue [c, d] = n % 100 := by omega
      refine ⟨c :: d :: rest, ?_, ?_⟩
      · rw [List.cons_append, List.cons_append, twoDigits?, first, second, century]
        rfl
      · rw [twoDigits?, third, fourth, ofCentury]
        rfl

@[simp] theorem dropChar?_cons (c : Char) (rest : List Char) :
    dropChar? c (c :: rest) = some rest := if_pos rfl

/-! ## Fraction and offset -/

/-- A fraction in `width` digits reads back, whatever unit its last digit counts. -/
theorem readFraction?_padded {width n : Nat} (some' : 0 < width) (nine : width ≤ 9)
    (h : n < 10 ^ width) {rest : List Char}
    (stop : ∀ c, rest.head? = some c → isDigit c = false) :
    readFraction? ('.' :: (padded width n ++ rest)) = some (n * 10 ^ (9 - width), rest) := by
  have length := length_padded some' h
  have split := takeDigits_of_digits (fun _ => isDigit_of_mem_padded) stop
    (s := padded width n)
  have value := digitsValue_padded width n
  unfold readFraction?
  simp only [split]
  cases digits : padded width n with
  | nil =>
      rw [digits] at length
      exact absurd length (Nat.ne_of_lt some')
  | cons c more =>
      have all : (c :: more).take 9 = c :: more := by
        rw [← digits]
        exact List.take_of_length_le (by omega)
      simp only [all]
      rw [← digits, value, length]

/-- **The fraction of a second reads back.** -/
theorem readFraction?_fractionText {nanos : Nat} (h : nanos < nanosPerSecond) {rest : List Char}
    (stop : ∀ c, rest.head? = some c → isDigit c = false ∧ c ≠ '.') :
    readFraction? (fractionText nanos ++ rest) = some (nanos, rest) := by
  have noDigit : ∀ c, rest.head? = some c → isDigit c = false := fun c head => (stop c head).1
  unfold nanosPerSecond at h
  unfold fractionText
  split
  · rename_i zero
    subst zero
    show readFraction? rest = some (0, rest)
    unfold readFraction?
    split
    · rename_i more
      exact absurd rfl (stop '.' rfl).2
    · rfl
  split
  · rw [List.cons_append, readFraction?_padded (by decide) (by decide) (by omega) noDigit]
    congr 2
    omega
  split
  · rw [List.cons_append, readFraction?_padded (by decide) (by decide) (by omega) noDigit]
    congr 2
    omega
  · rw [List.cons_append, readFraction?_padded (by decide) (by decide) (by omega) noDigit]
    congr 2
    omega

/-- The end of the text of a timestamp. -/
def zoneText (offset : Int) : List Char := if offset = 0 then ['Z'] else offsetText offset

theorem readOffset?_sign {c : Char} {negative : Bool} (sign : offsetSign? c = some negative)
    {hours minutes : Nat} (day : hours ≤ 23) (hour : minutes ≤ 59) :
    readOffset? (c :: padded 2 hours ++ ':' :: padded 2 minutes) =
      some (if negative then -(hours * 3600 + minutes * 60 : Int) else hours * 3600 + minutes * 60,
        []) := by
  have first : ∀ rest, twoDigits? (padded 2 hours ++ rest) = some (hours, rest) :=
    twoDigits?_padded (by omega)
  have last : twoDigits? (padded 2 minutes) = some (minutes, []) := by
    have all := twoDigits?_padded (n := minutes) (by omega) []
    rwa [List.append_nil] at all
  rw [List.cons_append]
  unfold readOffset?
  split
  · rename_i zulu
    cases zulu
    cases sign
  · rename_i zulu
    cases zulu
    cases sign
  · rename_i same
    cases same
    simp only [Outcome.some_bind, sign, first, dropChar?_cons, last,
      if_pos (And.intro day hour)]
  · rename_i none
    cases none

/-- **An offset of whole minutes reads back.** -/
theorem readOffset?_zoneText {offset : Int} (minutes : offset % 60 = 0)
    (h : offset.natAbs < daySeconds) : readOffset? (zoneText offset) = some (offset, []) := by
  unfold daySeconds at h
  unfold zoneText
  split
  · rename_i zero
    subst zero
    rfl
  have day : offset.natAbs / 60 / 60 ≤ 23 := by omega
  have hour : offset.natAbs / 60 % 60 ≤ 59 := by omega
  have sum : ((offset.natAbs / 60 / 60 : Nat) : Int) * 3600 + (offset.natAbs / 60 % 60 : Nat) * 60 =
      offset.natAbs := by omega
  -- nothing is rounded
  have nearest : (offset.natAbs + 30) / 60 = offset.natAbs / 60 := by omega
  unfold offsetText
  rw [nearest]
  split
  · rename_i west
    rw [readOffset?_sign rfl day hour, sum, if_pos rfl]
    congr 2
    omega
  · rename_i east
    rw [readOffset?_sign rfl day hour, sum, if_neg (by decide)]
    congr 2
    omega

theorem head_zoneText {offset : Int} {c : Char} (h : (zoneText offset).head? = some c) :
    isDigit c = false ∧ c ≠ '.' := by
  unfold zoneText offsetText at h
  split at h
  · cases h
    decide
  · split at h <;>
    · cases h
      decide

/-! ## The whole text -/

/-- Local fields and an offset, one after the other. -/
def fieldsText (l : Local) (offset : Int) : List Char :=
  padded 4 l.date.year.toNat ++ '-' :: (padded 2 l.date.month ++ '-' :: (padded 2 l.date.day ++
    'T' :: (padded 2 l.hour ++ ':' :: (padded 2 l.minute ++ ':' :: (padded 2 l.second ++
      (fractionText l.nanos ++ zoneText offset))))))

theorem text_eq {t : Timestamp} (h : t.Printable) :
    t.text.toList = fieldsText t.toLocal t.offset := by
  unfold text dateText clockText yearText fieldsText zoneText
  rw [String.toList_ofList, if_pos h.year]
  simp only [List.append_assoc, List.cons_append]

/-- The date of a timestamp. -/
theorem isValid_date {t : Timestamp} (h : t.Printable) : t.toLocal.date.isValid = true := by
  have date : t.toLocal.date = Date.ofDays ((t.seconds + t.offset) / daySeconds) := rfl
  obtain ⟨first, last⟩ := h.year
  rw [date] at first last ⊢
  have start : Date.firstYear ≤ 0 := by decide
  have finish : 9999 ≤ Date.lastYear := by decide
  exact Date.isValid_ofDays (Int.le_trans start first) (Int.le_trans last finish)

/-- Fields of a clock and a date of the calendar read back. -/
theorem ofRfc3339?_fieldsText {l : Local} (clock : l.OnClock) (valid : l.date.isValid = true)
    (year : 0 ≤ l.date.year ∧ l.date.year ≤ 9999) {offset : Int} (minutes : offset % 60 = 0)
    (day : offset.natAbs < daySeconds) :
    ofRfc3339? (fieldsText l offset) = some (ofLocal l offset) := by
  have bounds : l.date.month ≤ 12 ∧ l.date.day ≤ daysInMonth l.date.year l.date.month := by
    have valid' := valid
    unfold Date.isValid at valid'
    simp only [decide_eq_true_eq] at valid'
    exact ⟨valid'.2.2.2.1, valid'.2.2.2.2.2⟩
  have days := Date.daysInMonth_le l.date.year l.date.month
  have fraction : readFraction? (fractionText l.nanos ++ zoneText offset) =
      some (l.nanos, zoneText offset) :=
    readFraction?_fractionText clock.nanos fun _ => head_zoneText
  have zone := readOffset?_zoneText minutes day
  obtain ⟨⟨year', month, date⟩, hour, minute, second, nanos⟩ := l
  obtain ⟨hour', minute', second', -⟩ := clock
  simp only at *
  have two : ∀ n, n < 100 → ∀ rest, twoDigits? (padded 2 n ++ rest) = some (n, rest) :=
    fun n => twoDigits?_padded
  unfold fieldsText
  generalize fractionText nanos ++ zoneText offset = ending at *
  generalize zoneText offset = zone' at *
  obtain ⟨more, century, ofCentury⟩ := twoDigits?_padded_four (n := year'.toNat) (by omega)
    ('-' :: (padded 2 month ++ '-' :: (padded 2 date ++ 'T' :: (padded 2 hour ++
        ':' :: (padded 2 minute ++ ':' :: (padded 2 second ++ ending))))))
  have whole : ((year'.toNat / 100 : Nat) : Int) * 100 + (year'.toNat % 100 : Nat) = year' := by
    omega
  unfold ofRfc3339?
  simp only [century, ofCentury, Outcome.some_bind, dropChar?_cons,
    two month (by omega), two date (by omega), two hour (by omega), two minute (by omega),
    two second (by omega), fraction, zone, true_or, if_true, whole]
  rw [if_pos ⟨rfl, valid, hour', minute', second'⟩]

/-- **A timestamp in the form of RFC 3339 reads back.** -/
theorem ofRfc3339?_text {t : Timestamp} (h : t.Legible) :
    ofRfc3339? t.text.toList = some t := by
  rw [text_eq h.toPrintable, ofRfc3339?_fieldsText h.onClock (isValid_date h.toPrintable) h.year
    h.wholeMinutes h.offset, h.ofLocal_toLocal]

/-! ## The text in a field -/

/-- The text starts with a digit. -/
theorem head_text {t : Timestamp} (h : t.Printable) {c : Char}
    (first : t.text.toList.head? = some c) : isDigit c = true := by
  have year := h.year
  have length : (padded 4 t.toLocal.date.year.toNat).length = 4 :=
    length_padded (by decide) (by omega)
  rw [text_eq h] at first
  unfold fieldsText at first
  cases digits : padded 4 t.toLocal.date.year.toNat with
  | nil =>
      rw [digits] at length
      cases length
  | cons d more =>
      rw [digits, List.cons_append, List.head?_cons] at first
      cases first
      exact isDigit_of_mem_padded (by rw [digits]; exact List.mem_cons_self)

theorem last_zoneText (offset : Int) :
    ∃ c, (zoneText offset).getLast? = some c ∧ (c = 'Z' ∨ isDigit c = true) := by
  unfold zoneText
  split
  · exact ⟨'Z', rfl, .inl rfl⟩
  · have small : (offset.natAbs + 30) / 60 % 60 < 100 := by omega
    obtain ⟨a, b, two, first, second, value⟩ := exists_padded_two small
    unfold offsetText
    simp only [two]
    refine ⟨b, ?_, .inr second⟩
    rw [List.getLast?_append]
    rfl

/-- The text ends with `Z` or a digit. -/
theorem last_text {t : Timestamp} {c : Char}
    (last : t.text.toList.getLast? = some c) : c = 'Z' ∨ isDigit c = true := by
  obtain ⟨d, ends, known⟩ := last_zoneText t.offset
  have front : ∃ before, t.text.toList = before ++ zoneText t.offset := by
    unfold text
    rw [String.toList_ofList]
    exact ⟨_, rfl⟩
  obtain ⟨before, whole⟩ := front
  rw [whole, List.getLast?_append, ends] at last
  cases last
  exact known

theorem isBlank_of_last_text {t : Timestamp} {c : Char} (last : t.text.toList.getLast? = some c) :
    isBlank c = false := by
  rcases last_text last with rfl | digit
  · decide
  · exact isBlank_of_isDigit digit

theorem toList_text_ne_nil (t : Timestamp) : t.text.toList ≠ [] := by
  unfold text
  rw [String.toList_ofList]
  simp

/-- Trimming leaves the text of a timestamp alone. -/
theorem trim_text {t : Timestamp} (h : t.Printable) : trim t.text.toList = t.text.toList :=
  trim_eq_self (fun _ first => isBlank_of_isDigit (head_text h first))
    fun _ last => isBlank_of_last_text last

/-- The text ends with no zone between brackets. -/
theorem dropZone_text (t : Timestamp) : dropZone t.text.toList = t.text.toList := by
  unfold dropZone
  rw [if_neg]
  intro bracket
  rcases last_text bracket with zulu | digit
  · cases zulu
  · revert digit
    decide

/-- **The text of a timestamp is read as the timestamp.** -/
theorem read_text {t : Timestamp} (h : t.Legible) : read t.text.toList = .ok t := by
  unfold read
  simp only [dropZone_text, ofRfc3339?_text h]

/-! ## Fractions that are carried -/

/-- A fraction of one second or more is shown as the next second, which is in the same minute. -/
theorem toLocal_carried {t : Timestamp} (h : t.Representable) (other : ¬ t.LeapsAtMinuteEnd) :
    t.carried.toLocal = t.toLocal := by
  unfold LeapsAtMinuteEnd at other
  obtain ⟨more, inside⟩ := Classical.not_imp.1 other
  have nanos := h.nanos
  have date : (t.seconds + 1 + t.offset) / daySeconds = (t.seconds + t.offset) / daySeconds := by
    unfold daySeconds
    omega
  have ofDay : (t.seconds + 1 + t.offset) % daySeconds =
      (t.seconds + t.offset) % daySeconds + 1 := by
    unfold daySeconds
    omega
  obtain ⟨start, -, minute⟩ := secondOfDay_spec (t.seconds + t.offset)
  unfold toLocal carried
  simp only [date, ofDay, Local.mk.injEq, true_and]
  generalize (t.seconds + t.offset) % daySeconds = ofDay at *
  unfold nanosPerSecond at *
  refine ⟨?_, ?_, ?_, ?_⟩ <;> omega

theorem text_carried {t : Timestamp} (h : t.Representable) (other : ¬ t.LeapsAtMinuteEnd) :
    t.carried.text = t.text := by
  unfold text
  rw [toLocal_carried h other]
  rfl

theorem Printable.carried {t : Timestamp} (h : t.Printable) (other : ¬ t.LeapsAtMinuteEnd) :
    t.carried.Legible := by
  have nanos := h.nanos
  have below : t.carried.nanos < nanosPerSecond := by
    unfold Timestamp.carried
    simp only
    unfold nanosPerSecond at nanos ⊢
    omega
  refine ⟨⟨⟨Nat.lt_of_lt_of_le below (by decide), h.offset⟩, h.wholeMinutes, ?_⟩, fun more => ?_⟩
  · rw [toLocal_carried h.toRepresentable other]
    exact h.year
  · exact absurd below (Nat.not_lt.2 more)

/-- **The text of a fraction that is carried is read as the next second.** -/
theorem read_text_carried {t : Timestamp} (h : t.Printable) (other : ¬ t.LeapsAtMinuteEnd) :
    read t.text.toList = .ok t.carried := by
  rw [← text_carried h.toRepresentable other]
  exact read_text (h.carried other)

/-- **Exactly those timestamps are read back whose fraction is carried nowhere.** -/
theorem read_text_iff {t : Timestamp} (h : t.Printable) :
    read t.text.toList = .ok t ↔ t.LeapsAtMinuteEnd := by
  refine ⟨fun again => ?_, fun leap => read_text ⟨h, leap⟩⟩
  by_contra other
  rw [read_text_carried h other] at again
  have later : t.seconds + 1 = t.seconds := congrArg seconds (Except.ok.inj again)
  omega

/-- The fifth second of 1970 with a fraction of more than one second: a timestamp as any other, and
not one that is read back. -/
def stretched : Timestamp := ⟨4, 1333333333, 0⟩

theorem printable_stretched : stretched.Printable :=
  ⟨⟨by decide, by decide⟩, by decide, by decide⟩

end Timestamp

end GridRecords
