/-
# Days and dates

The date of a day number exists in the calendar and has that day number, and a date of the calendar
is the date of its day number.  The day of an era is split into centuries, cycles of four years,
years and days (`exists_cycles`); the two formulas agree on each of the parts.
-/
import GridRecords.Time.Calendar

namespace GridRecords.Date

/-! ## Years of an era -/

/-- The year of a day of an era. -/
def yearOfDay (day : Int) : Int := (day - day / 1460 + day / 36524 - day / 146096) / 365

/-- Days of an era before a year of it. -/
def daysBefore (year : Int) : Int := 365 * year + year / 4 - year / 100

/-- A day of an era as a day of a year: the century, the cycle of four years in it, the year in
that and the day.  Only a last year of a cycle has a day 365, and it has none when it is the last
of a century but the fourth. -/
structure Cycles (day century cycle year rest : Int) : Prop where
  century_bounds : 0 ≤ century ∧ century ≤ 3
  cycle_bounds : 0 ≤ cycle ∧ cycle ≤ 24
  year_bounds : 0 ≤ year ∧ year ≤ 3
  rest_bounds : 0 ≤ rest ∧ rest ≤ 365
  leap : rest = 365 → year = 3 ∧ (cycle = 24 → century = 3)
  sum : day = 36524 * century + 1461 * cycle + 365 * year + rest

theorem exists_cycles {day : Int} (low : 0 ≤ day) (high : day < eraDays) :
    ∃ century cycle year rest, Cycles day century cycle year rest := by
  unfold eraDays at high
  -- the last day of the era belongs to the fourth century, and so on inside of it
  obtain ⟨century, ofCentury, split, centuries, bound, last⟩ : ∃ century ofCentury : Int,
      day = 36524 * century + ofCentury ∧ (0 ≤ century ∧ century ≤ 3) ∧
        (0 ≤ ofCentury ∧ ofCentury ≤ 36524) ∧ (ofCentury = 36524 → century = 3) := by
    refine ⟨(day - day / 146096) / 36524, day - 36524 * ((day - day / 146096) / 36524), ?_⟩
    omega
  obtain ⟨cycle, ofCycle, split', cycles, bound', last'⟩ : ∃ cycle ofCycle : Int,
      ofCentury = 1461 * cycle + ofCycle ∧ (0 ≤ cycle ∧ cycle ≤ 24) ∧
        (0 ≤ ofCycle ∧ ofCycle ≤ 1460) ∧ (ofCycle = 1460 → cycle = 24 → century = 3) := by
    refine ⟨ofCentury / 1461, ofCentury % 1461, ?_⟩
    omega
  obtain ⟨year, rest, split'', years, bound'', last''⟩ : ∃ year rest : Int,
      ofCycle = 365 * year + rest ∧ (0 ≤ year ∧ year ≤ 3) ∧ (0 ≤ rest ∧ rest ≤ 365) ∧
        (rest = 365 → year = 3) := by
    refine ⟨(ofCycle - ofCycle / 1460) / 365, ofCycle - 365 * ((ofCycle - ofCycle / 1460) / 365),
      ?_⟩
    omega
  refine ⟨century, cycle, year, rest, centuries, cycles, years, bound'', ?_, ?_⟩
  · intro leap
    have third := last'' leap
    exact ⟨third, last' (by omega)⟩
  · omega

variable {day century cycle year rest : Int}

/-- The year of a day. -/
theorem Cycles.yearOfDay_eq (h : Cycles day century cycle year rest) :
    yearOfDay day = 100 * century + 4 * cycle + year := by
  obtain ⟨centuries, cycles, years, rests, leap, sum⟩ := h
  have inCentury : day / 36524 - day / 146096 = century := by
    by_cases final : day = 146096
    · subst final
      omega
    · have before : day / 146096 = 0 := by omega
      omega
  -- the quotient by 1460 runs ahead of the cycles from the leap day on at the latest
  have ahead : day / 1460 = 25 * century + cycle ∨
      day / 1460 = 25 * century + cycle + 1 ∧ 0 < rest := by omega
  have behind : rest = 365 → day / 1460 = 25 * century + cycle + 1 := by omega
  unfold yearOfDay
  omega

/-- The days before a year. -/
theorem Cycles.daysBefore_eq (h : Cycles day century cycle year rest) :
    daysBefore (100 * century + 4 * cycle + year) = day - rest := by
  obtain ⟨centuries, cycles, years, rests, leap, sum⟩ := h
  unfold daysBefore
  omega

/-- Only before a leap year a day 365 is reached: the leap day is the last of its year, which
starts in March. -/
theorem Cycles.isLeapYear (h : Cycles day century cycle year rest) (era : Int)
    (last : rest = 365) :
    isLeapYear (100 * century + 4 * cycle + year + era * 400 + 1) = true := by
  obtain ⟨centuries, cycles, years, rests, leap, sum⟩ := h
  obtain ⟨third, century'⟩ := leap last
  unfold GridRecords.isLeapYear
  simp only [decide_eq_true_eq]
  omega

/-! ## Months of a year -/

/-- The month of a day, counted from March. -/
def monthOfDay (day : Int) : Int := (5 * day + 2) / 153

/-- The day of the month. -/
def dayOfMonth (day : Int) : Int := day - (153 * monthOfDay day + 2) / 5 + 1

/-- The months from March on. -/
def calendarMonth (month : Int) : Int := if month < 10 then month + 3 else month - 9

theorem monthOfDay_bounds (low : 0 ≤ rest) (high : rest ≤ 365) :
    0 ≤ monthOfDay rest ∧ monthOfDay rest ≤ 11 := by
  unfold monthOfDay
  omega

theorem calendarMonth_bounds {month : Int} (low : 0 ≤ month) (high : month ≤ 11) :
    1 ≤ calendarMonth month ∧ calendarMonth month ≤ 12 := by
  unfold calendarMonth
  omega

theorem dayOfMonth_pos (rest : Int) : 1 ≤ dayOfMonth rest := by
  unfold dayOfMonth monthOfDay
  omega

theorem daysInMonth_le (year : Int) (month : Nat) : daysInMonth year month ≤ 31 := by
  unfold daysInMonth
  split
  · split <;> decide
  · split <;> decide

/-- The day of the month lies within the month. -/
theorem dayOfMonth_le {year : Int} (low : 0 ≤ rest) (high : rest ≤ 365)
    (leap : rest = 365 → isLeapYear year = true) :
    (dayOfMonth rest).toNat ≤ daysInMonth year (calendarMonth (monthOfDay rest)).toNat := by
  obtain ⟨first, last⟩ := monthOfDay_bounds low high
  have within : 153 * monthOfDay rest ≤ 5 * rest + 2 ∧
      5 * rest + 2 < 153 * monthOfDay rest + 153 := by
    unfold monthOfDay
    omega
  unfold dayOfMonth
  generalize monthOfDay rest = month at *
  obtain rfl | rfl | rfl | rfl | rfl | rfl | rfl | rfl | rfl | rfl | rfl | rfl :
      month = 0 ∨ month = 1 ∨ month = 2 ∨ month = 3 ∨ month = 4 ∨ month = 5 ∨ month = 6 ∨
        month = 7 ∨ month = 8 ∨ month = 9 ∨ month = 10 ∨ month = 11 := by omega
  case inr.inr.inr.inr.inr.inr.inr.inr.inr.inr.inr =>
    by_cases leapDay : rest = 365
    · subst leapDay
      unfold daysInMonth
      rw [leap rfl]
      decide
    · have short : 28 ≤ daysInMonth year 2 := by
        unfold daysInMonth
        rw [if_pos rfl]
        split <;> decide
      show _ ≤ daysInMonth year 2
      omega
  all_goals
    simp [daysInMonth, calendarMonth]
    omega

/-! ## The date of a day number -/

/-- The date of a day number, in terms of the parts of its day of the era. -/
theorem ofDays_eq {days : Int}
    (h : Cycles ((days + epochShift) % eraDays) century cycle year rest) :
    ofDays days =
      ⟨100 * century + 4 * cycle + year + (days + epochShift) / eraDays * 400 +
          (if calendarMonth (monthOfDay rest) ≤ 2 then 1 else 0),
        (calendarMonth (monthOfDay rest)).toNat, (dayOfMonth rest).toNat⟩ := by
  have start := h.daysBefore_eq
  have ofYear : (days + epochShift) % eraDays -
      daysBefore (yearOfDay ((days + epochShift) % eraDays)) = rest := by
    rw [h.yearOfDay_eq, start]
    omega
  unfold ofDays
  rw [← h.yearOfDay_eq, ← ofYear]
  rfl

theorem exists_cycles_of_days (days : Int) :
    ∃ century cycle year rest, Cycles ((days + epochShift) % eraDays) century cycle year rest := by
  have positive : 0 < eraDays := by decide
  exact exists_cycles (Int.emod_nonneg _ (by omega)) (Int.emod_lt_of_pos _ positive)

/-- **The date of a day number has that day number.** -/
theorem toDays_ofDays (days : Int) : (ofDays days).toDays = days := by
  obtain ⟨century, cycle, year, rest, parts⟩ := exists_cycles_of_days days
  have whole : eraDays * ((days + epochShift) / eraDays) + (days + epochShift) % eraDays =
      days + epochShift := Int.mul_ediv_add_emod _ _
  have start := parts.daysBefore_eq
  obtain ⟨low, high⟩ := monthOfDay_bounds parts.rest_bounds.1 parts.rest_bounds.2
  obtain ⟨first, last⟩ := calendarMonth_bounds low high
  have day := dayOfMonth_pos rest
  rw [ofDays_eq parts]
  obtain ⟨centuries, cycles, years, -, -, -⟩ := parts
  unfold daysBefore at start
  -- the year counts from January in the date and from March in the era
  have month : (((calendarMonth (monthOfDay rest)).toNat : Int) + 9) % 12 = monthOfDay rest := by
    unfold calendarMonth
    omega
  have early : (calendarMonth (monthOfDay rest)).toNat ≤ 2 ↔
      calendarMonth (monthOfDay rest) ≤ 2 := by omega
  have fromMarch : ∀ era : Int, (if (calendarMonth (monthOfDay rest)).toNat ≤ 2 then
      100 * century + 4 * cycle + year + era * 400 +
        (if calendarMonth (monthOfDay rest) ≤ 2 then 1 else 0) - 1
      else 100 * century + 4 * cycle + year + era * 400 +
        (if calendarMonth (monthOfDay rest) ≤ 2 then 1 else 0)) =
      100 * century + 4 * cycle + year + era * 400 := by
    intro era
    split <;> split <;> omega
  unfold toDays
  simp only [fromMarch, month, Int.toNat_of_nonneg (show 0 ≤ dayOfMonth rest by omega)]
  generalize (days + epochShift) / eraDays = era at *
  have eras : (100 * century + 4 * cycle + year + era * 400) / 400 = era := by omega
  have inEra : (100 * century + 4 * cycle + year + era * 400) % 400 =
      100 * century + 4 * cycle + year := by omega
  rw [eras, inEra]
  unfold dayOfMonth
  rw [Int.mul_comm] at whole
  omega

/-- **The date of a day number exists in the calendar**, when its year does. -/
theorem isValid_ofDays {days : Int} (first : firstYear ≤ (ofDays days).year)
    (last : (ofDays days).year ≤ lastYear) : (ofDays days).isValid = true := by
  obtain ⟨century, cycle, year, rest, parts⟩ := exists_cycles_of_days days
  obtain ⟨low, high⟩ := monthOfDay_bounds parts.rest_bounds.1 parts.rest_bounds.2
  obtain ⟨january, december⟩ := calendarMonth_bounds low high
  have day := dayOfMonth_pos rest
  have within := fun year leap =>
    @dayOfMonth_le rest year parts.rest_bounds.1 parts.rest_bounds.2 leap
  have leap := parts.isLeapYear ((days + epochShift) / eraDays)
  rw [ofDays_eq parts] at first last ⊢
  unfold isValid
  simp only [decide_eq_true_eq]
  refine ⟨first, last, by omega, by omega, by omega, within _ ?_⟩
  intro leapDay
  subst leapDay
  rw [if_pos (by decide)]
  exact leap rfl

/-! ## The day number of a date -/

/-- A month has as many days as there are until the next one.  The last one, counted from March, has
a day 29 in leap years only. -/
theorem daysInMonth_bounds (year : Int) {month : Nat} (january : 1 ≤ month) (december : month ≤ 12)
    {fromMarch : Int} (shift : fromMarch = ((month : Int) + 9) % 12) :
    (daysInMonth year month : Int) ≤
        (153 * (fromMarch + 1) + 2) / 5 - (153 * fromMarch + 2) / 5 ∧
      (fromMarch = 11 → daysInMonth year month ≤ 29 ∧
        (daysInMonth year month = 29 → isLeapYear year = true)) := by
  obtain rfl | rfl | rfl | rfl | rfl | rfl | rfl | rfl | rfl | rfl | rfl | rfl :
      month = 1 ∨ month = 2 ∨ month = 3 ∨ month = 4 ∨ month = 5 ∨ month = 6 ∨ month = 7 ∨
        month = 8 ∨ month = 9 ∨ month = 10 ∨ month = 11 ∨ month = 12 := by omega
  case inr.inl =>
    subst shift
    cases leap : isLeapYear year <;> simp [daysInMonth, leap]
  all_goals
    subst shift
    simp [daysInMonth]

/-- A day of a month, counted from the start of the year in March, is a day of that month. -/
theorem monthOfDay_eq {month day : Int} (first : 1 ≤ day)
    (last : day ≤ (153 * (month + 1) + 2) / 5 - (153 * month + 2) / 5) :
    monthOfDay ((153 * month + 2) / 5 + day - 1) = month := by
  unfold monthOfDay
  omega

/-- **A date of the calendar is the date of its day number.** -/
theorem ofDays_toDays {d : Date} (valid : d.isValid = true) : ofDays d.toDays = d := by
  obtain ⟨year, month, day⟩ := d
  unfold isValid at valid
  simp only [decide_eq_true_eq] at valid
  obtain ⟨-, -, january, december, first, last⟩ := valid
  obtain ⟨fromMarch, shift⟩ : ∃ fromMarch : Int, fromMarch = ((month : Int) + 9) % 12 := ⟨_, rfl⟩
  obtain ⟨rest, dayOfYear⟩ : ∃ rest : Int, rest = (153 * fromMarch + 2) / 5 + day - 1 := ⟨_, rfl⟩
  obtain ⟨within, february⟩ := daysInMonth_bounds year january december shift
  have ofMonth : monthOfDay rest = fromMarch := by
    rw [dayOfYear]
    exact monthOfDay_eq (by omega) (by omega)
  have ofDay : dayOfMonth rest = day := by
    unfold dayOfMonth
    rw [ofMonth]
    omega
  have calendar : calendarMonth fromMarch = month := by
    unfold calendarMonth
    omega
  -- the year counts from January in the date and from March in the era
  obtain ⟨marchYear, years⟩ : ∃ marchYear : Int, marchYear = if month ≤ 2 then year - 1 else year :=
    ⟨_, rfl⟩
  have leap : rest = 365 → isLeapYear year = true ∧ marchYear = year - 1 := by
    intro leapDay
    have last' := february (by omega)
    exact ⟨last'.2 (by omega), by omega⟩
  have parts : Cycles (daysBefore (marchYear % 400) + rest) (marchYear % 400 / 100)
      (marchYear % 400 % 100 / 4) (marchYear % 4) rest := by
    refine ⟨by omega, by omega, by omega, by omega, ?_, ?_⟩
    · intro leapDay
      obtain ⟨fourth, before⟩ := leap leapDay
      unfold GridRecords.isLeapYear at fourth
      simp only [decide_eq_true_eq] at fourth
      omega
    · unfold daysBefore
      omega
  have number : toDays ⟨year, month, day⟩ + epochShift =
      marchYear / 400 * eraDays + (daysBefore (marchYear % 400) + rest) := by
    unfold toDays daysBefore
    simp only [← shift, ← years]
    omega
  have inEra : 0 ≤ daysBefore (marchYear % 400) + rest ∧
      daysBefore (marchYear % 400) + rest < eraDays := by
    obtain ⟨centuries, cycles, years', rests, -, sum⟩ := parts
    unfold eraDays
    omega
  have era : (toDays ⟨year, month, day⟩ + epochShift) / eraDays = marchYear / 400 := by
    unfold eraDays at number inEra ⊢
    omega
  have day' : (toDays ⟨year, month, day⟩ + epochShift) % eraDays =
      daysBefore (marchYear % 400) + rest := by
    unfold eraDays at number inEra ⊢
    omega
  rw [← day'] at parts
  rw [ofDays_eq parts, ofMonth, calendar, ofDay, era]
  simp only [Date.mk.injEq, Int.toNat_natCast, and_true]
  have early : ((month : Int) ≤ 2) ↔ month ≤ 2 := by omega
  simp only [early]
  split <;> omega

end GridRecords.Date
