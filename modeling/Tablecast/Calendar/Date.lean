/-!
# Dates

The proleptic Gregorian calendar between the years -262143 and 262142. Days are counted from
1970-01-01. Inside the count a year starts in March, so that the leap day is its last, and cycles
of 400, 100 and 4 years and of one year nest.
-/

namespace Tablecast.Calendar

def isLeapYear (year : Int) : Bool := year % 4 = 0 && (year % 100 ≠ 0 || year % 400 = 0)

def daysInMonth (year : Int) (month : Nat) : Nat :=
  if month = 2 then (if isLeapYear year then 29 else 28)
  else if month = 4 ∨ month = 6 ∨ month = 9 ∨ month = 11 then 30
  else 31

/-- The day exists in the calendar. -/
def IsDate (year : Int) (month day : Nat) : Prop :=
  -262143 ≤ year ∧ year ≤ 262142 ∧ 1 ≤ month ∧ month ≤ 12 ∧ 1 ≤ day ∧ day ≤ daysInMonth year month

instance (year : Int) (month day : Nat) : Decidable (IsDate year month day) :=
  inferInstanceAs (Decidable (_ ∧ _))

structure Date where
  year : Int
  month : Nat
  day : Nat
  isDate : IsDate year month day
  deriving DecidableEq

namespace Date

def ofFields? (year : Int) (month day : Nat) : Option Date :=
  if h : IsDate year month day then some ⟨year, month, day, h⟩ else none

/-- 1970-01-01. -/
def epoch : Date := ⟨1970, 1, 1, by decide⟩

/-- Days before the year that starts in March of `year`, counted from March of the year 0. -/
def daysBeforeYear (year : Int) : Int := 365 * year + year / 4 - year / 100 + year / 400

/-- Days before a month of such a year; March is month 0. -/
def daysBeforeMonth (month : Nat) : Nat := (153 * month + 2) / 5

/-- 1970-01-01 is this many days after 0000-03-01. -/
def epochOffset : Int := 719468

/-- Days from 1970-01-01. -/
def toDays (d : Date) : Int :=
  let (year, month) := if d.month ≤ 2 then (d.year - 1, d.month + 9) else (d.year, d.month - 3)
  daysBeforeYear year + daysBeforeMonth month + d.day - 1 - epochOffset

/-- The year that holds a day, and the day's place in it. The last century of a cycle and the last
year of a leap cycle are a day longer than the others. -/
def yearOfDay (days : Int) : Int × Int :=
  let cycle := days / 146097
  let inCycle := days % 146097
  let century := min (inCycle / 36524) 3
  let inCentury := inCycle - century * 36524
  let leap := inCentury / 1461
  let inLeap := inCentury % 1461
  let single := min (inLeap / 365) 3
  (400 * cycle + 100 * century + 4 * leap + single, inLeap - single * 365)

def ofDays? (days : Int) : Option Date :=
  let (year, dayOfYear) := yearOfDay (days + epochOffset)
  let month := (5 * dayOfYear.toNat + 2) / 153
  let day := dayOfYear.toNat - daysBeforeMonth month + 1
  if month < 10 then ofFields? year (month + 3) day else ofFields? (year + 1) (month - 9) day

end Date

/-- A number with at least `width` digits. -/
def padded (width n : Nat) : String :=
  let digits := Nat.toDigits 10 n
  .ofList (List.replicate (width - digits.length) '0' ++ digits)

/-- Years of four digits stand alone; all others have a sign. -/
def yearText (year : Int) : String :=
  if 0 ≤ year ∧ year ≤ 9999 then padded 4 year.toNat
  else (if year < 0 then "-" else "+") ++ padded 4 year.natAbs

def Date.text (d : Date) : String :=
  yearText d.year ++ "-" ++ padded 2 d.month ++ "-" ++ padded 2 d.day

end Tablecast.Calendar
