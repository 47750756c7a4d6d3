/-
# Timestamps that are read

In whichever form a timestamp was written, it is read as fields of a clock and a date of the
calendar under an offset of whole minutes (`exists_shows_of_read`).  Such a timestamp is written and
read again if its year has four digits.  Otherwise its text is read in neither form: a year of
RFC 3339 has no sign, and the form to the minute has no seconds (`read_text_beyond`).
-/
import GridRecords.Proofs.Time.Text

namespace GridRecords.Timestamp

open Text

/-- What a clock shows at a timestamp, under its offset. -/
structure Shows (t : Timestamp) (l : Local) : Prop where
  made : t = ofLocal l t.offset
  clock : l.OnClock
  valid : l.date.isValid = true
  wholeMinutes : t.offset % 60 = 0
  offset : t.offset.natAbs < daySeconds

variable {t : Timestamp} {l : Local} {s rest : List Char}

/-! ## Local fields -/

/-- Fields of a clock on a date of the calendar are had back. -/
theorem toLocal_ofLocal (clock : l.OnClock) (valid : l.date.isValid = true) (offset : Int) :
    (ofLocal l offset).toLocal = l := by
  obtain ⟨hour, minute, second, nanos⟩ := clock
  have date := Date.ofDays_toDays valid
  obtain ⟨day, h, m, sec, frac⟩ := l
  unfold nanosPerSecond at nanos
  simp only at hour minute second nanos date
  -- a leap second is the second before it, with a fraction of one second or more
  obtain ⟨leap, ofLeap⟩ : ∃ leap, sec / 60 = leap := ⟨_, rfl⟩
  obtain ⟨inMinute, ofSecond⟩ : ∃ inMinute, sec - leap = inMinute := ⟨_, rfl⟩
  have whole : (frac + leap * 1000000000) / 1000000000 = leap := by omega
  have time : (day.toDays * 86400 + ((h * 3600 + m * 60 + inMinute : Nat) : Int)) % 86400 =
      (h * 3600 + m * 60 + inMinute : Nat) := by omega
  have days : (day.toDays * 86400 + ((h * 3600 + m * 60 + inMinute : Nat) : Int)) / 86400 =
      day.toDays := by omega
  have minutes : (h * 3600 + m * 60 + inMinute) / 60 = h * 60 + m := by omega
  unfold toLocal ofLocal
  simp only [ofSecond, ofLeap, Int.sub_add_cancel, daySeconds, nanosPerSecond, whole, time, days,
    date, Int.toNat_natCast, minutes, Local.mk.injEq, true_and]
  refine ⟨?_, ?_, ?_, ?_⟩ <;> omega

theorem Shows.toLocal_eq (h : t.Shows l) : t.toLocal = l := by
  rw [h.made]
  exact toLocal_ofLocal h.clock h.valid t.offset

theorem Shows.representable (h : t.Shows l) : t.Representable := by
  refine ⟨?_, h.offset⟩
  obtain ⟨-, -, second, nanos⟩ := h.clock
  unfold nanosPerSecond at nanos
  rw [h.made]
  unfold ofLocal
  simp only [nanosPerSecond]
  omega

/-- A clock shows a leap second at the end of a minute only. -/
theorem Shows.leapsAtMinuteEnd (h : t.Shows l) : t.LeapsAtMinuteEnd := by
  intro more
  obtain ⟨-, -, second, nanos⟩ := h.clock
  rw [h.made] at more ⊢
  unfold ofLocal at more ⊢
  unfold nanosPerSecond at nanos more
  simp only at more ⊢
  have leap : l.second = 60 := by omega
  have midnight : l.date.toDays * daySeconds % 60 = 0 := by
    unfold daySeconds
    omega
  rw [Int.sub_add_cancel, leap]
  omega

theorem Shows.legible (h : t.Shows l) (year : 0 ≤ l.date.year ∧ l.date.year ≤ 9999) :
    t.Legible := by
  refine ⟨⟨h.representable, h.wholeMinutes, ?_⟩, h.leapsAtMinuteEnd⟩
  rw [h.toLocal_eq]
  exact year

/-! ## Parts that are read -/

theorem twoDigits?_lt {n : Nat} (h : twoDigits? s = some (n, rest)) : n < 100 := by
  unfold twoDigits? at h
  split at h
  · rename_i a b rest'
    split at h
    · rename_i digits
      cases h
      have both : ∀ c ∈ [a, b], isDigit c = true := by simpa using digits
      exact digitsValue_lt both
    · cases h
  · cases h

theorem readFraction?_lt {nanos : Nat} (h : readFraction? s = some (nanos, rest)) :
    nanos < nanosPerSecond := by
  unfold readFraction? at h
  split at h
  · rename_i s
    have digits : ∀ c ∈ (takeDigits s).1.take 9, isDigit c = true := fun c mem =>
      isDigit_of_mem_takeDigits (List.mem_of_mem_take mem)
    have bound := digitsValue_lt digits
    have length : ((takeDigits s).1.take 9).length ≤ 9 := by
      rw [List.length_take]
      omega
    split at h
    · cases h
    · rename_i kept after _ taken
      rw [taken] at bound length
      cases h
      calc digitsValue (kept.take 9) * 10 ^ (9 - (kept.take 9).length)
          < 10 ^ (kept.take 9).length * 10 ^ (9 - (kept.take 9).length) :=
            Nat.mul_lt_mul_of_pos_right bound (Nat.pow_pos (by decide))
        _ = nanosPerSecond := by
            rw [← Nat.pow_add, Nat.add_sub_cancel' length]
            rfl
  · cases h
    decide

/-- An offset with a colon is below one day, in whole minutes. -/
theorem readOffset?_bounds {offset : Int} (h : readOffset? s = some (offset, rest)) :
    offset.natAbs < daySeconds ∧ offset % 60 = 0 := by
  unfold readOffset? at h
  split at h
  · cases h
    decide
  · cases h
    decide
  · simp only [Outcome.bind_eq_some] at h
    obtain ⟨negative, -, ⟨hours, s⟩, -, s, -, ⟨minutes, s⟩, -, h⟩ := h
    simp only at h
    split at h
    · rename_i clock
      cases h
      unfold daySeconds
      split <;> omega
    · cases h
  · cases h

/-- A loose offset is in whole minutes as well. -/
theorem readLooseOffset_wholeMinutes {offset : Int} (h : readLooseOffset s = .ok (offset, rest)) :
    offset % 60 = 0 := by
  unfold readLooseOffset at h
  split at h
  · cases h
  · cases h
    rfl
  · cases h
    rfl
  · split at h
    · cases h
    split at h
    · cases h
    split at h
    · cases h
    simp only [Outcome.bind_eq_ok] at h
    obtain ⟨⟨minutes, s⟩, -, h⟩ := h
    cases h
    split <;> omega

theorem readField_bounds {low high n : Nat} (h : readField low high s = .ok (n, rest)) :
    low ≤ n ∧ n ≤ high := by
  unfold readField at h
  simp only [Outcome.bind_eq_ok] at h
  obtain ⟨⟨m, s⟩, -, h⟩ := h
  simp only at h
  split at h
  · rename_i bounds
    cases h
    exact bounds
  · cases h

/-! ## What is read -/

/-- In the form of RFC 3339 the year has four digits. -/
theorem exists_shows_of_ofRfc3339? (h : ofRfc3339? s = some t) :
    ∃ l, t.Shows l ∧ 0 ≤ l.date.year ∧ l.date.year ≤ 9999 := by
  unfold ofRfc3339? at h
  simp only [Outcome.bind_eq_some] at h
  obtain ⟨⟨century, s⟩, first, ⟨ofCentury, s⟩, second, s, -, ⟨month, s⟩, -, s, -, h⟩ := h
  obtain ⟨⟨day, s⟩, -, h⟩ := h
  have hundreds := twoDigits?_lt first
  have ones := twoDigits?_lt second
  simp only at h
  split at h
  · split at h
    · simp only [Outcome.bind_eq_some] at h
      obtain ⟨s, -, ⟨hour, s⟩, -, s, -, ⟨minute, s⟩, -, s, -, ⟨second, s⟩, -, h⟩ := h
      obtain ⟨⟨nanos, s⟩, fraction, ⟨offset, s⟩, zone, h⟩ := h
      simp only at h
      split at h
      · rename_i accepted
        obtain ⟨-, valid, hours, minutes, seconds⟩ := accepted
        cases h
        obtain ⟨day, whole⟩ := readOffset?_bounds zone
        refine ⟨_, ⟨rfl, ⟨hours, minutes, seconds, readFraction?_lt fraction⟩, valid, whole, day⟩,
          ?_⟩
        simp only
        omega
      · cases h
    · cases h
  · cases h

theorem exists_shows_of_ofMinutes (h : ofMinutes s = .ok t) : ∃ l, t.Shows l := by
  unfold ofMinutes at h
  simp only [Outcome.bind_eq_ok] at h
  obtain ⟨⟨year, s⟩, -, s, -, ⟨month, s⟩, -, s, -, ⟨day, s⟩, -, s, -, h⟩ := h
  obtain ⟨⟨hour, s⟩, hours, s, -, ⟨minute, s⟩, minutes, ⟨offset, s⟩, zone, h⟩ := h
  have whole := readLooseOffset_wholeMinutes zone
  have clock : Local.OnClock ⟨⟨year, month, day⟩, hour, minute, 0, 0⟩ :=
    ⟨(readField_bounds hours).2, (readField_bounds minutes).2, Nat.zero_le _,
      Nat.pos_of_ne_zero (by decide)⟩
  simp only at h
  split at h
  · simp at h
  split at h
  · simp at h
  rename_i accepted
  split at h
  · simp at h
  cases Outcome.pure_eq_ok.1 h
  simp only [not_or, Bool.not_eq_true', Bool.not_eq_false] at accepted
  obtain ⟨valid, day⟩ := accepted
  exact ⟨_, rfl, clock, valid, whole, by simp only [ofLocal]; omega⟩

/-- **What is read is what a clock shows** on a date of the calendar, under an offset of whole
minutes.  In the form of RFC 3339 its year has four digits. -/
theorem exists_shows_of_read {text : List Char} (h : read text = .ok t) :
    ∃ l, t.Shows l ∧
      (ofRfc3339? (dropZone text) ≠ none → 0 ≤ l.date.year ∧ l.date.year ≤ 9999) := by
  unfold read at h
  simp only at h
  split at h
  · rename_i rfc3339
    cases h
    obtain ⟨l, shows, year⟩ := exists_shows_of_ofRfc3339? rfc3339
    exact ⟨l, shows, fun _ => year⟩
  · rename_i other
    obtain ⟨l, shows⟩ := exists_shows_of_ofMinutes h
    exact ⟨l, shows, fun rfc3339 => absurd other rfc3339⟩

/-! ## Years beyond four digits -/

theorem trimStart_padded (width n : Nat) (rest : List Char) :
    trimStart (padded width n ++ rest) = padded width n ++ rest := by
  refine trimStart_eq_self fun c first => ?_
  rw [List.head?_append_of_ne_nil _ (padded_ne_nil width n)] at first
  exact isBlank_of_isDigit (isDigit_of_mem_padded (List.mem_of_mem_head? first))

theorem readNumber_padded {most width n : Nat} (fits : (padded width n).length ≤ most) {c : Char}
    (stop : isDigit c = false) (rest : List Char) :
    readNumber most (padded width n ++ c :: rest) = .ok (n, c :: rest) := by
  have split : takeDigits (padded width n ++ c :: rest) = (padded width n, c :: rest) := by
    refine takeDigits_of_digits (fun _ => isDigit_of_mem_padded) ?_
    intro d first
    cases first
    exact stop
  have value := digitsValue_padded width n
  unfold readNumber
  simp only [split, List.take_of_length_le fits]
  cases digits : padded width n with
  | nil => exact absurd digits (padded_ne_nil width n)
  | cons d more =>
      rw [digits] at value
      simp [value]

theorem readField_padded {low high n : Nat} (bounds : low ≤ n ∧ n ≤ high) (two : n < 100) {c : Char}
    (stop : isDigit c = false) (rest : List Char) :
    readField low high (padded 2 n ++ c :: rest) = .ok (n, c :: rest) := by
  have fits : (padded 2 n).length ≤ 2 := Nat.le_of_eq (length_padded (by decide) two)
  unfold readField
  rw [trimStart_padded, readNumber_padded fits stop]
  exact if_pos bounds

/-- Any number of digits of a year are read after a sign. -/
theorem readYear_signed {year : Int} (low : -2147483648 ≤ year)
    (high : year < 2147483648) {c : Char} (stop : isDigit c = false) (rest : List Char) :
    readYear ((if year < 0 then '-' else '+') :: (padded 4 year.natAbs ++ c :: rest)) =
      .ok (year, c :: rest) := by
  have fits : (padded 4 year.natAbs).length ≤ (padded 4 year.natAbs ++ c :: rest).length := by
    rw [List.length_append]
    omega
  have digits := readNumber_padded fits stop rest
  unfold readYear
  by_cases negative : year < 0
  · have value : -(year.natAbs : Int) = year := by omega
    rw [if_pos negative]
    refine Outcome.bind_eq_ok.2 ⟨(year.natAbs, c :: rest), digits, ?_⟩
    simp only [value]
    exact if_pos ⟨low, high⟩
  · have value : (year.natAbs : Int) = year := by omega
    rw [if_neg negative]
    refine Outcome.bind_eq_ok.2 ⟨(year.natAbs, c :: rest), digits, ?_⟩
    simp only [value]
    exact if_pos ⟨low, high⟩

theorem ofRfc3339?_cons {c : Char} (other : isDigit c = false) (rest : List Char) :
    ofRfc3339? (c :: rest) = none := by
  have noDigits : twoDigits? (c :: rest) = none := by
    cases rest with
    | nil => rfl
    | cons d more => simp [twoDigits?, other]
  unfold ofRfc3339?
  rw [noDigits]
  rfl

/-- The text of a year beyond four digits starts with a sign. -/
theorem Shows.text_beyond (h : t.Shows l) (beyond : ¬(0 ≤ l.date.year ∧ l.date.year ≤ 9999)) :
    ∃ ending, t.text.toList = (if l.date.year < 0 then '-' else '+') ::
      (padded 4 l.date.year.natAbs ++ '-' :: (padded 2 l.date.month ++ '-' ::
        (padded 2 l.date.day ++ 'T' :: (padded 2 l.hour ++ ':' ::
          (padded 2 l.minute ++ ':' :: ending))))) := by
  unfold text dateText clockText yearText
  rw [String.toList_ofList, h.toLocal_eq, if_neg beyond]
  simp only [List.append_assoc, List.cons_append]
  exact ⟨_, rfl⟩

/-- Trimming leaves such a text alone. -/
theorem Shows.trim_text_beyond (h : t.Shows l)
    (beyond : ¬(0 ≤ l.date.year ∧ l.date.year ≤ 9999)) : trim t.text.toList = t.text.toList := by
  obtain ⟨ending, whole⟩ := h.text_beyond beyond
  refine trim_eq_self ?_ fun c last => isBlank_of_last_text last
  intro c first
  rw [whole, List.head?_cons] at first
  cases first
  split <;> decide

/-- **The text of a year beyond four digits is not read again.**  The form of RFC 3339 has no sign,
and in the form to the minute the seconds stand where the offset should. -/
theorem read_text_beyond (h : t.Shows l) (beyond : ¬(0 ≤ l.date.year ∧ l.date.year ≤ 9999)) :
    read t.text.toList = .error .invalid := by
  obtain ⟨ending, whole⟩ := h.text_beyond beyond
  have date := h.valid
  unfold Date.isValid Date.firstYear Date.lastYear at date
  simp only [decide_eq_true_eq] at date
  obtain ⟨low, high, january, december, first, last⟩ := date
  have days := Date.daysInMonth_le l.date.year l.date.month
  obtain ⟨hour, minute, -, -⟩ := h.clock
  have noForm : ofRfc3339? t.text.toList = none := by
    rw [whole]
    split <;> exact ofRfc3339?_cons (by decide) _
  have dash : isDigit '-' = false := by decide
  have colon : isDigit ':' = false := by decide
  have letter : isDigit 'T' = false := by decide
  have year := @readYear_signed l.date.year (by omega) (by omega) _ dash
  have month := @readField_padded 1 12 l.date.month ⟨january, december⟩ (by omega) _ dash
  have day := @readField_padded 1 31 l.date.day (by omega) (by omega) _ letter
  have hours := @readField_padded 0 23 l.hour ⟨Nat.zero_le _, hour⟩ (by omega) _ colon
  have minutes := @readField_padded 0 59 l.minute ⟨Nat.zero_le _, minute⟩ (by omega) _ colon
  have offset : ∀ rest, readLooseOffset (':' :: rest) = .error .invalid := fun _ => rfl
  have step (c : Char) (rest : List Char) : readChar c (c :: rest) = .ok rest := if_pos rfl
  unfold read
  simp only [dropZone_text, noForm]
  rw [whole]
  unfold ofMinutes
  simp only [year, month, day, hours, minutes, offset, step, bind, Except.bind]

end GridRecords.Timestamp
