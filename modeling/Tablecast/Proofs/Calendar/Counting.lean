import Mathlib.Tactic.IntervalCases
import Tablecast.Calendar.Timestamp

/-!
# Counting days and microseconds

Dates are counted by days and timestamps by microseconds, and both are found again from their
count. A count beyond the years of the calendar stands for nothing. The count of a leap second is
that of a time in the second after it, so a leap second is not found again.

* `Date.ofDays?_eq_some`: the date of a day,
* `Timestamp.ofMicroseconds?_eq_some`: the timestamp of a microsecond.
-/

namespace Tablecast.Calendar

namespace Date

/-! ## Years that start in March -/

theorem daysBeforeYear_mono {year later : Int} (h : year ≤ later) :
    daysBeforeYear year ≤ daysBeforeYear later := by
  unfold daysBeforeYear
  omega

/-- The leap day is the last day of a year that starts in March. -/
theorem daysBeforeYear_succ (year : Int) :
    daysBeforeYear (year + 1) =
      daysBeforeYear year + if isLeapYear (year + 1) then 366 else 365 := by
  have leap : isLeapYear (year + 1) = true ↔
      (year + 1) % 4 = 0 ∧ ((year + 1) % 100 ≠ 0 ∨ (year + 1) % 400 = 0) := by
    simp [isLeapYear]
  simp only [leap, daysBeforeYear]
  split <;> omega

/-- The day of the count lies in the year, so many days behind its start. -/
structure InYear (days year dayOfYear : Int) : Prop where
  days_eq : days = daysBeforeYear year + dayOfYear
  nonneg : 0 ≤ dayOfYear
  before : days < daysBeforeYear (year + 1)

theorem InYear.dayOfYear_le {days year dayOfYear : Int} (h : InYear days year dayOfYear) :
    dayOfYear ≤ 365 := by
  obtain ⟨rfl, -, before⟩ := h
  rw [daysBeforeYear_succ] at before
  split at before <;> omega

theorem InYear.unique {days year year' dayOfYear dayOfYear' : Int}
    (h : InYear days year dayOfYear) (h' : InYear days year' dayOfYear') :
    (year, dayOfYear) = (year', dayOfYear') := by
  obtain ⟨count, nonneg, before⟩ := h
  obtain ⟨count', nonneg', before'⟩ := h'
  have notEarlier : ¬ year' < year := by
    intro earlier
    have := daysBeforeYear_mono (Int.add_one_le_of_lt earlier)
    omega
  have notLater : ¬ year < year' := by
    intro later
    have := daysBeforeYear_mono (Int.add_one_le_of_lt later)
    omega
  obtain rfl : year = year' := by omega
  rw [Prod.mk.injEq]
  omega

/-- Cycles of 400, 100 and 4 years nest. -/
theorem daysBeforeYear_parts (cycle : Int) {century leap single : Int}
    (hcentury : 0 ≤ century ∧ century ≤ 3) (hleap : 0 ≤ leap ∧ leap ≤ 24)
    (hsingle : 0 ≤ single ∧ single ≤ 3) :
    daysBeforeYear (400 * cycle + 100 * century + 4 * leap + single) =
      146097 * cycle + 36524 * century + 1461 * leap + 365 * single := by
  have fours : (400 * cycle + 100 * century + 4 * leap + single) / 4 =
      100 * cycle + 25 * century + leap := by
    omega
  have hundreds : (400 * cycle + 100 * century + 4 * leap + single) / 100 =
      4 * cycle + century := by
    omega
  have cycles : (400 * cycle + 100 * century + 4 * leap + single) / 400 = cycle := by omega
  rw [daysBeforeYear, fours, hundreds, cycles]
  omega

/-- In the last year of a cycle of 4 years, the next one is a leap year, unless that is the last of
a century and not of 400 years. -/
theorem isLeapYear_parts (cycle : Int) {century leap single : Int}
    (hcentury : 0 ≤ century ∧ century ≤ 3) (hleap : 0 ≤ leap ∧ leap ≤ 24)
    (hsingle : 0 ≤ single ∧ single ≤ 3) :
    isLeapYear (400 * cycle + 100 * century + 4 * leap + single + 1) = true ↔
      single = 3 ∧ (leap ≠ 24 ∨ century = 3) := by
  simp only [isLeapYear, Bool.and_eq_true, Bool.or_eq_true, decide_eq_true_eq, ne_eq]
  omega

theorem inYear_yearOfDay (days : Int) :
    InYear days (yearOfDay days).1 (yearOfDay days).2 := by
  unfold yearOfDay
  dsimp only
  have cycle : 0 ≤ days % 146097 ∧ days % 146097 < 146097 ∧
      days = 146097 * (days / 146097) + days % 146097 := by
    omega
  generalize days / 146097 = c at *
  generalize days % 146097 = inCycle at *
  -- The last century of a cycle and the last year of a leap cycle are a day longer.
  have century : 0 ≤ min (inCycle / 36524) 3 ∧ min (inCycle / 36524) 3 ≤ 3 ∧
      0 ≤ inCycle - min (inCycle / 36524) 3 * 36524 ∧
      inCycle - min (inCycle / 36524) 3 * 36524 < 36524 +
        if min (inCycle / 36524) 3 = 3 then 1 else 0 := by
    split <;> omega
  generalize min (inCycle / 36524) 3 = k at *
  generalize hCentury : inCycle - k * 36524 = inCentury at *
  have leap : 0 ≤ inCentury / 1461 ∧ inCentury / 1461 ≤ 24 ∧ 0 ≤ inCentury % 1461 ∧
      inCentury % 1461 < 1461 ∧ inCentury = 1461 * (inCentury / 1461) + inCentury % 1461 := by
    split at century <;> omega
  generalize inCentury / 1461 = l at *
  generalize inCentury % 1461 = inLeap at *
  have single : 0 ≤ min (inLeap / 365) 3 ∧ min (inLeap / 365) 3 ≤ 3 ∧
      0 ≤ inLeap - min (inLeap / 365) 3 * 365 ∧
      inLeap - min (inLeap / 365) 3 * 365 < 365 +
        if min (inLeap / 365) 3 = 3 then 1 else 0 := by
    split <;> omega
  generalize min (inLeap / 365) 3 = s at *
  obtain ⟨hk, hk', nonneg, century⟩ := century
  obtain ⟨hl, hl', leap⟩ := leap
  obtain ⟨hs, hs', nonneg', single⟩ := single
  have start := daysBeforeYear_parts c ⟨hk, hk'⟩ ⟨hl, hl'⟩ ⟨hs, hs'⟩
  have last := isLeapYear_parts c ⟨hk, hk'⟩ ⟨hl, hl'⟩ ⟨hs, hs'⟩
  refine ⟨by omega, nonneg', ?_⟩
  rw [daysBeforeYear_succ]
  by_cases long : isLeapYear (400 * c + 100 * k + 4 * l + s + 1) = true
  · rw [if_pos long]
    split at single <;> omega
  · rw [if_neg long]
    rw [last] at long
    split at single <;> split at century <;> omega

theorem yearOfDay_eq_iff {days year dayOfYear : Int} :
    yearOfDay days = (year, dayOfYear) ↔ InYear days year dayOfYear := by
  have found := inYear_yearOfDay days
  constructor
  · intro same
    rwa [same] at found
  · exact found.unique

/-! ## Months -/

/-- The year of the date, if it starts in March. -/
def marchYear (d : Date) : Int := if d.month ≤ 2 then d.year - 1 else d.year

/-- The months between March and the month of the date. -/
def marchMonth (d : Date) : Nat := if d.month ≤ 2 then d.month + 9 else d.month - 3

/-- The days between the first of March and the date. -/
def marchDay (d : Date) : Int := daysBeforeMonth d.marchMonth + d.day - 1

theorem toDays_eq (d : Date) :
    d.toDays + epochOffset = daysBeforeYear d.marchYear + d.marchDay := by
  unfold toDays marchDay marchYear marchMonth
  by_cases early : d.month ≤ 2
  · simp only [if_pos early]
    omega
  · simp only [if_neg early]
    omega

/-- A month lasts until the next one begins, and February, the last, as its year has it. -/
theorem march_bounds (d : Date) :
    1 ≤ d.day ∧ d.marchMonth ≤ 11 ∧
      (d.marchMonth ≤ 10 →
        d.day ≤ daysBeforeMonth (d.marchMonth + 1) - daysBeforeMonth d.marchMonth) ∧
      (d.marchMonth = 11 → d.day ≤ if isLeapYear (d.marchYear + 1) then 29 else 28) := by
  obtain ⟨-, -, low, high, first, last⟩ := d.isDate
  refine ⟨first, ?_⟩
  unfold marchMonth marchYear daysBeforeMonth
  generalize d.month = month at *
  interval_cases month <;> simpa [daysInMonth] using last

theorem inYear_toDays (d : Date) : InYear (d.toDays + epochOffset) d.marchYear d.marchDay := by
  obtain ⟨first, within, early, last⟩ := d.march_bounds
  refine ⟨d.toDays_eq, ?_, ?_⟩
  · unfold marchDay
    omega
  · rw [toDays_eq, daysBeforeYear_succ]
    unfold marchDay
    rcases Nat.lt_or_ge d.marchMonth 11 with before | february
    · have ends : daysBeforeMonth d.marchMonth ≤ daysBeforeMonth (d.marchMonth + 1) ∧
          daysBeforeMonth (d.marchMonth + 1) ≤ 337 := by
        unfold daysBeforeMonth
        omega
      split <;> omega
    · have february : d.marchMonth = 11 := by omega
      have start : daysBeforeMonth d.marchMonth = 337 := by rw [february]; rfl
      specialize last february
      split at last <;> split <;> omega

theorem toDays_bounds (d : Date) : -100000000 ≤ d.toDays ∧ d.toDays < 100000000 := by
  obtain ⟨count, nonneg, before⟩ := d.inYear_toDays
  obtain ⟨low, high, -⟩ := d.isDate
  have year : d.year - 1 ≤ d.marchYear ∧ d.marchYear ≤ d.year := by
    unfold marchYear
    split <;> omega
  unfold daysBeforeYear epochOffset at *
  omega

/-- The month that a day of the year falls into. -/
theorem marchMonth_of_marchDay (d : Date) :
    (5 * d.marchDay.toNat + 2) / 153 = d.marchMonth := by
  obtain ⟨first, within, early, last⟩ := d.march_bounds
  have february : d.marchMonth = 11 → d.day ≤ 29 := by
    intro february
    specialize last february
    split at last <;> omega
  unfold marchDay
  unfold daysBeforeMonth at *
  omega

theorem ofFields?_eq_some {year : Int} {month day : Nat} {d : Date} :
    ofFields? year month day = some d ↔ d.year = year ∧ d.month = month ∧ d.day = day := by
  obtain ⟨year', month', day', isDate'⟩ := d
  unfold ofFields?
  constructor
  · intro found
    split at found
    · cases found
      exact ⟨rfl, rfl, rfl⟩
    · cases found
  · rintro ⟨rfl, rfl, rfl⟩
    exact dif_pos isDate'

/-- **The date of a day.** -/
theorem ofDays?_eq_some {days : Int} {d : Date} : ofDays? days = some d ↔ d.toDays = days := by
  constructor
  · intro found
    rcases year : yearOfDay (days + epochOffset) with ⟨y, n⟩
    have inside := yearOfDay_eq_iff.mp year
    have within := inside.dayOfYear_le
    obtain ⟨count, nonneg, -⟩ := inside
    have same : d.marchYear = y ∧ d.marchDay = n := by
      simp only [ofDays?, year] at found
      unfold marchDay marchMonth marchYear
      unfold daysBeforeMonth at found ⊢
      split at found
      · obtain ⟨hy, hm, hd⟩ := ofFields?_eq_some.mp found
        have late : ¬ d.month ≤ 2 := by omega
        rw [if_neg late, if_neg late]
        omega
      · obtain ⟨hy, hm, hd⟩ := ofFields?_eq_some.mp found
        have early : d.month ≤ 2 := by omega
        rw [if_pos early, if_pos early]
        omega
    have total := d.toDays_eq
    rw [same.1, same.2] at total
    omega
  · rintro rfl
    have year := yearOfDay_eq_iff.mpr d.inYear_toDays
    have month := d.marchMonth_of_marchDay
    obtain ⟨-, -, low, high, first, -⟩ := d.isDate
    simp only [ofDays?, year, month]
    have day : d.marchDay.toNat - daysBeforeMonth d.marchMonth + 1 = d.day := by
      unfold marchDay
      omega
    rw [day]
    unfold marchMonth marchYear
    by_cases early : d.month ≤ 2
    · rw [if_pos early, if_pos early, if_neg (by omega), ofFields?_eq_some]
      omega
    · rw [if_neg early, if_neg early, if_pos (by omega), ofFields?_eq_some]
      omega

end Date

/-! ## Microseconds -/

namespace Time

theorem toMicroseconds_lt {t : Time} (h : ¬ t.IsLeapSecond) : t.toMicroseconds < 86400000000 := by
  obtain ⟨hour, minute, second, -⟩ := t.isTime
  unfold IsLeapSecond at h
  unfold toMicroseconds
  omega

theorem ofFields?_eq_some {hour minute second nanosecond : Nat} {t : Time} :
    ofFields? hour minute second nanosecond = some t ↔
      t.hour = hour ∧ t.minute = minute ∧ t.second = second ∧ t.nanosecond = nanosecond := by
  obtain ⟨hour', minute', second', nanosecond', isTime'⟩ := t
  unfold ofFields?
  constructor
  · intro found
    split at found
    · cases found
      exact ⟨rfl, rfl, rfl, rfl⟩
    · cases found
  · rintro ⟨rfl, rfl, rfl, rfl⟩
    exact dif_pos isTime'

theorem ofMicroseconds?_eq_some {n : Nat} (h : n < 86400000000) {t : Time} :
    ofMicroseconds? n = some t ↔
      t.nanosecond % 1000 = 0 ∧ ¬ t.IsLeapSecond ∧ t.toMicroseconds = n := by
  obtain ⟨hour, minute, second, nanosecond⟩ := t.isTime
  unfold ofMicroseconds? IsLeapSecond toMicroseconds
  rw [ofFields?_eq_some]
  constructor
  · rintro ⟨hh, hm, hs, hn⟩
    omega
  · rintro ⟨whole, single, rfl⟩
    omega

end Time

theorem Timestamp.natAbs_toMicroseconds_lt {t : Timestamp} (h : ¬ t.time.IsLeapSecond) :
    t.toMicroseconds.natAbs < 9223372036854775808 := by
  obtain ⟨low, high⟩ := t.date.toDays_bounds
  have inside := Time.toMicroseconds_lt h
  unfold toMicroseconds dayMicroseconds
  omega

/-- **The timestamp of a microsecond.** A timestamp that is found is in the second that it says. -/
theorem Timestamp.ofMicroseconds?_eq_some {n : Int} {t : Timestamp} :
    ofMicroseconds? n = some t ↔
      t.IsWholeMicroseconds ∧ ¬ t.time.IsLeapSecond ∧ t.toMicroseconds = n := by
  obtain ⟨date, time⟩ := t
  have day : (n % dayMicroseconds).toNat < 86400000000 := by
    unfold dayMicroseconds
    omega
  simp only [ofMicroseconds?, Option.bind_eq_bind, Option.bind_eq_some_iff,
    Date.ofDays?_eq_some, Time.ofMicroseconds?_eq_some day, Option.pure_def, Option.some.injEq,
    Timestamp.mk.injEq, IsWholeMicroseconds, toMicroseconds]
  constructor
  · rintro ⟨_, days, _, ⟨whole, single, micros⟩, rfl, rfl⟩
    refine ⟨whole, single, ?_⟩
    rw [days, micros]
    unfold dayMicroseconds
    omega
  · rintro ⟨whole, single, rfl⟩
    have inside := Time.toMicroseconds_lt single
    unfold dayMicroseconds
    exact ⟨date, by omega, time, ⟨whole, single, by omega⟩, rfl, rfl⟩

end Tablecast.Calendar
