import Mathlib.Tactic.ByContra
import SiteReport.Calendar.TimeOfDay

/-!
Dates and their place on the line of days, instants and their count of milliseconds: one is found
again from the other. An instant that is no whole number of milliseconds loses its fraction, and
one in a leap second is found as a later one.
-/

namespace SiteReport

namespace Date

/-! ### Years -/

theorem daysBeforeYear_succ (year : Int) : daysBeforeYear (year + 1) =
    daysBeforeYear year + if isLeapYear year then 366 else 365 := by
  unfold daysBeforeYear isLeapYear
  simp only [Bool.and_eq_true, Bool.or_eq_true, beq_iff_eq, bne_iff_ne, ne_eq]
  split <;> omega

theorem daysBeforeYear_mono {year later : Int} (h : year ≤ later) :
    daysBeforeYear year ≤ daysBeforeYear later := by
  simp only [daysBeforeYear]
  omega

/-- The year that is found holds the day. -/
theorem yearOf_spec (n : Int) :
    daysBeforeYear (yearOf n) ≤ n ∧ n < daysBeforeYear (yearOf n + 1) := by
  have low : daysBeforeYear (n * 400 / 146097 + 1 - 1) ≤ n := by
    simp only [daysBeforeYear]
    omega
  have high : n < daysBeforeYear (n * 400 / 146097 + 1 + 1 + 1) := by
    simp only [daysBeforeYear]
    omega
  unfold yearOf
  simp only
  split
  · rename_i next
    exact ⟨next, high⟩
  · rename_i before
    split
    · rename_i here
      exact ⟨here, by omega⟩
    · rename_i later
      exact ⟨low, by rw [Int.sub_add_cancel]; omega⟩

theorem yearOf_eq {year n : Int} (low : daysBeforeYear year ≤ n)
    (high : n < daysBeforeYear (year + 1)) : yearOf n = year := by
  obtain ⟨least, most⟩ := yearOf_spec n
  rcases Int.lt_trichotomy (yearOf n) year with before | same | after
  · have := daysBeforeYear_mono (Int.add_one_le_of_lt before)
    omega
  · exact same
  · have := daysBeforeYear_mono (Int.add_one_le_of_lt after)
    omega

/-! ### Months -/

theorem daysBeforeMonth_succ (year : Int) {month : Nat} (h : 1 ≤ month) :
    daysBeforeMonth year (month + 1) = daysBeforeMonth year month + daysInMonth year month := by
  obtain ⟨m, rfl⟩ := Nat.exists_eq_add_of_le' h
  rfl

/-- All twelve months make up the year. -/
theorem daysBeforeMonth_thirteen (year : Int) :
    (daysBeforeMonth year 13 : Int) = if isLeapYear year then 366 else 365 := by
  simp only [daysBeforeMonth, daysInMonth]
  split <;> rfl

theorem daysBeforeMonth_mono (year : Int) {month later : Nat} (h : month ≤ later) :
    daysBeforeMonth year month ≤ daysBeforeMonth year later := by
  induction later with
  | zero =>
      obtain rfl := Nat.le_zero.mp h
      exact Nat.le_refl _
  | succ m ih =>
      rcases Nat.lt_or_eq_of_le h with before | rfl
      · refine Nat.le_trans (ih (Nat.le_of_lt_succ before)) ?_
        cases m with
        | zero => exact Nat.le_refl _
        | succ m => exact Nat.le_add_right _ _
      · exact Nat.le_refl _

/-- The month that is found starts no later than the day, and the next one does not. -/
theorem monthOf_spec (year : Int) {n : Int} (start : 0 ≤ n) {month : Nat} (positive : 1 ≤ month) :
    (1 ≤ monthOf year n month ∧ monthOf year n month ≤ month) ∧
      daysBeforeMonth year (monthOf year n month) ≤ n ∧
      (monthOf year n month = month ∨ n < daysBeforeMonth year (monthOf year n month + 1)) := by
  induction month with
  | zero => omega
  | succ m ih =>
      unfold monthOf
      split
      · rename_i here
        exact ⟨⟨positive, Nat.le_refl _⟩, here, .inl rfl⟩
      · rename_i later
        cases m with
        | zero => exact absurd start later
        | succ m =>
            obtain ⟨⟨least, most⟩, starts, last⟩ := ih (Nat.le_add_left 1 m)
            refine ⟨⟨least, Nat.le_succ_of_le most⟩, starts, .inr ?_⟩
            rcases last with same | next
            · rw [same]
              exact Int.not_le.mp later
            · exact next

theorem monthOf_eq {year : Int} {n month : Nat} (known : 1 ≤ month ∧ month ≤ 12)
    (low : daysBeforeMonth year month ≤ n) (high : n < daysBeforeMonth year (month + 1)) :
    monthOf year n 12 = month := by
  obtain ⟨⟨least, most⟩, starts, last⟩ :=
    monthOf_spec year (Int.natCast_nonneg n) (by decide : 1 ≤ 12)
  rcases Nat.lt_trichotomy (monthOf year n 12) month with before | same | after
  · have := daysBeforeMonth_mono year (show monthOf year n 12 + 1 ≤ month from before)
    omega
  · exact same
  · have := daysBeforeMonth_mono year (show month + 1 ≤ monthOf year n 12 from after)
    omega

/-! ### Dates -/

/-- The days of a year before a date. -/
def dayOfYear (d : Date) : Nat := daysBeforeMonth d.year d.month + (d.day - 1)

theorem dayNumber_eq (d : Date) : d.dayNumber = daysBeforeYear d.year + d.dayOfYear - epoch := by
  have := d.day_mem.1
  unfold dayNumber dayOfYear
  omega

theorem dayOfYear_lt (d : Date) : d.dayOfYear < daysBeforeMonth d.year (d.month + 1) := by
  have := d.day_mem
  rw [daysBeforeMonth_succ _ d.month_mem.1]
  unfold dayOfYear
  omega

theorem dayOfYear_lt_year (d : Date) :
    daysBeforeYear d.year + d.dayOfYear < daysBeforeYear (d.year + 1) := by
  have inside := d.dayOfYear_lt
  have months := daysBeforeMonth_mono d.year (show d.month + 1 ≤ 13 from Nat.succ_le_succ d.month_mem.2)
  rw [daysBeforeYear_succ, ← daysBeforeMonth_thirteen]
  omega

/-- A date is found again from its day number. -/
theorem ofDayNumber?_dayNumber (d : Date) : ofDayNumber? d.dayNumber = some d := by
  have count : d.dayNumber + epoch = daysBeforeYear d.year + d.dayOfYear := by
    rw [dayNumber_eq, Int.sub_add_cancel]
  have year : yearOf (d.dayNumber + epoch) = d.year :=
    yearOf_eq (by omega) (count ▸ d.dayOfYear_lt_year)
  have inYear : d.dayNumber + epoch - daysBeforeYear d.year = d.dayOfYear := by omega
  have month : monthOf d.year d.dayOfYear 12 = d.month :=
    monthOf_eq d.month_mem (Nat.le_add_right _ _) d.dayOfYear_lt
  have day : ((d.dayOfYear : Int) - daysBeforeMonth d.year d.month).toNat + 1 = d.day := by
    have := d.day_mem.1
    unfold dayOfYear
    omega
  unfold ofDayNumber?
  simp only [year, inYear, month, day]
  exact dif_pos ⟨d.year_mem, d.month_mem, d.day_mem⟩

theorem of?_eq_some_iff {year : Int} {month day : Nat} {d : Date} :
    of? year month day = some d ↔ d.year = year ∧ d.month = month ∧ d.day = day := by
  unfold of?
  split
  · rw [Option.some.injEq]
    constructor
    · rintro rfl
      exact ⟨rfl, rfl, rfl⟩
    · rintro ⟨rfl, rfl, rfl⟩
      rfl
  · rename_i absent
    simp only [reduceCtorEq, false_iff]
    rintro ⟨rfl, rfl, rfl⟩
    exact absent ⟨d.year_mem, d.month_mem, d.day_mem⟩

/-- The date of a day number has that number. -/
theorem dayNumber_of_ofDayNumber? {n : Int} {d : Date} (h : ofDayNumber? n = some d) :
    d.dayNumber = n := by
  obtain ⟨year, month, day⟩ := of?_eq_some_iff.mp h
  have start := (yearOf_spec (n + epoch)).1
  obtain ⟨-, starts, -⟩ := monthOf_spec (yearOf (n + epoch))
    (n := n + epoch - daysBeforeYear (yearOf (n + epoch))) (by omega) (by decide : 1 ≤ 12)
  rw [dayNumber, year, month, day]
  omega

end Date

namespace TimeOfDay

theorem of?_eq_some_iff {hour minute second nano : Nat} {t : TimeOfDay} :
    of? hour minute second nano = some t ↔
      t.OnMinute ∧ t.hour = hour ∧ t.minute = minute ∧ t.second = second ∧ t.nano = nano := by
  unfold of?
  split
  · rename_i made
    rw [Option.some.injEq]
    constructor
    · rintro rfl
      exact ⟨made.2.2.2.2, rfl, rfl, rfl, rfl⟩
    · rintro ⟨-, rfl, rfl, rfl, rfl⟩
      rfl
  · rename_i absent
    simp only [reduceCtorEq, false_iff]
    rintro ⟨leap, rfl, rfl, rfl, rfl⟩
    exact absent ⟨t.hour_lt, t.minute_lt, t.second_lt, t.nano_lt, leap⟩

theorem secondOfDay_lt (t : TimeOfDay) : t.secondOfDay < 86400 := by
  have := t.hour_lt
  have := t.minute_lt
  have := t.second_lt
  unfold secondOfDay
  omega

/-- Every millisecond of a day is a time. -/
theorem ofMillis_isSome (inDay : Nat) (h : inDay < 86400000) :
    (of? (inDay / 3600000) (inDay / 60000 % 60) (inDay / 1000 % 60)
      (inDay % 1000 * 1000000)).isSome = true := by
  unfold of?
  rw [dif_pos ⟨by omega, by omega, by omega, by omega, by omega⟩]
  rfl

end TimeOfDay

namespace Timestamp

/-- In milliseconds the instant keeps its day, unless it lies in a leap second. -/
theorem millis_div {t : Timestamp} (regular : t.time.nano < 1000000000) :
    t.millis / 86400000 = t.date.dayNumber := by
  have := t.time.secondOfDay_lt
  unfold millis seconds
  omega

theorem millis_mod {t : Timestamp} (regular : t.time.nano < 1000000000) :
    (t.millis % 86400000).toNat = t.time.secondOfDay * 1000 + t.time.nano / 1000000 := by
  have := t.time.secondOfDay_lt
  unfold millis seconds
  omega

/-- An instant of whole milliseconds is found again from their count. -/
theorem ofMillis?_millis {t : Timestamp} (regular : t.time.nano < 1000000000)
    (whole : t.time.nano % 1000000 = 0) : ofMillis? t.millis = some t := by
  have := t.time.hour_lt
  have := t.time.minute_lt
  have := t.time.second_lt
  have count := millis_mod regular
  unfold TimeOfDay.secondOfDay at count
  have time : TimeOfDay.of? ((t.millis % 86400000).toNat / 3600000)
      ((t.millis % 86400000).toNat / 60000 % 60) ((t.millis % 86400000).toNat / 1000 % 60)
      ((t.millis % 86400000).toNat % 1000 * 1000000) = some t.time := by
    rw [TimeOfDay.of?_eq_some_iff, count]
    refine ⟨fun leap => absurd regular (Nat.not_lt.mpr leap), ?_, ?_, ?_, ?_⟩ <;> omega
  unfold ofMillis?
  simp only [millis_div regular, Date.ofDayNumber?_dayNumber, time, Option.bind_eq_bind,
    Option.bind_some]

/-- The instant of a count of milliseconds has that count. -/
theorem millis_of_ofMillis? {ms : Int} {t : Timestamp} (h : ofMillis? ms = some t) :
    t.millis = ms := by
  unfold ofMillis? at h
  simp only [Option.bind_eq_bind, Option.bind_eq_some_iff, Option.some.injEq] at h
  obtain ⟨date, day, time, clock, rfl⟩ := h
  have number := Date.dayNumber_of_ofDayNumber? day
  obtain ⟨-, hour, minute, second, nano⟩ := TimeOfDay.of?_eq_some_iff.mp clock
  simp only [millis, seconds, TimeOfDay.secondOfDay, number, hour, minute, second, nano]
  omega

/-- Outside leap seconds the count of milliseconds is one that the calendar holds. -/
theorem ofMillis?_millis_isSome {t : Timestamp} (regular : t.time.nano < 1000000000) :
    (ofMillis? t.millis).isSome = true := by
  obtain ⟨time, clock⟩ := Option.isSome_iff_exists.mp
    (TimeOfDay.ofMillis_isSome (t.millis % 86400000).toNat (by omega))
  unfold ofMillis?
  simp only [millis_div regular, Date.ofDayNumber?_dayNumber, clock, Option.bind_eq_bind,
    Option.bind_some, Option.isSome_some]

end Timestamp

end SiteReport
