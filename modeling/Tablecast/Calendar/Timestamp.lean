import Tablecast.Calendar.Date

/-!
# Timestamps

A date and a time of day without time zone. The second 59 may last two thousand million
nanoseconds: the second half of them is a leap second.
-/

namespace Tablecast.Calendar

/-- A time of day as its fields make one. Times that are changed afterwards may hold a leap second
behind any other second; these are left out. -/
def IsTime (hour minute second nanosecond : Nat) : Prop :=
  hour < 24 ∧ minute < 60 ∧ second < 60 ∧
    nanosecond < (if second = 59 then 2000000000 else 1000000000)

instance (hour minute second nanosecond : Nat) : Decidable (IsTime hour minute second nanosecond) :=
  inferInstanceAs (Decidable (_ ∧ _))

structure Time where
  hour : Nat
  minute : Nat
  second : Nat
  nanosecond : Nat
  isTime : IsTime hour minute second nanosecond
  deriving DecidableEq

namespace Time

def ofFields? (hour minute second nanosecond : Nat) : Option Time :=
  if h : IsTime hour minute second nanosecond then some ⟨hour, minute, second, nanosecond, h⟩
  else none

def midnight : Time := ⟨0, 0, 0, 0, by decide⟩

def IsLeapSecond (t : Time) : Prop := 1000000000 ≤ t.nanosecond

instance (t : Time) : Decidable t.IsLeapSecond := inferInstanceAs (Decidable (_ ≤ _))

/-- Whole microseconds since midnight. A leap second counts into the second after it. -/
def toMicroseconds (t : Time) : Nat :=
  (t.hour * 3600 + t.minute * 60 + t.second) * 1000000 + t.nanosecond / 1000

def ofMicroseconds? (n : Nat) : Option Time :=
  let seconds := n / 1000000
  ofFields? (seconds / 3600) (seconds / 60 % 60) (seconds % 60) (n % 1000000 * 1000)

/-- The time with nine places after the point; a leap second has the number 60. -/
def text (t : Time) : String :=
  let (second, fraction) :=
    if t.nanosecond < 1000000000 then (t.second, t.nanosecond)
    else (t.second + 1, t.nanosecond - 1000000000)
  padded 2 t.hour ++ ":" ++ padded 2 t.minute ++ ":" ++ padded 2 second ++ "." ++ padded 9 fraction

end Time

structure Timestamp where
  date : Date
  time : Time
  deriving DecidableEq

namespace Timestamp

/-- 1970-01-01 at midnight. -/
def epoch : Timestamp := ⟨.epoch, .midnight⟩

/-- Nothing is finer than a microsecond. -/
def IsWholeMicroseconds (t : Timestamp) : Prop := t.time.nanosecond % 1000 = 0

instance (t : Timestamp) : Decidable t.IsWholeMicroseconds :=
  inferInstanceAs (Decidable (_ = _))

def dayMicroseconds : Int := 86400000000

/-- Whole microseconds from the epoch. -/
def toMicroseconds (t : Timestamp) : Int :=
  t.date.toDays * dayMicroseconds + t.time.toMicroseconds

/-- None outside the years of the calendar. -/
def ofMicroseconds? (n : Int) : Option Timestamp := do
  let date ← Date.ofDays? (n / dayMicroseconds)
  let time ← Time.ofMicroseconds? (n % dayMicroseconds).toNat
  pure ⟨date, time⟩

def text (t : Timestamp) : String := t.date.text ++ " " ++ t.time.text

end Timestamp

end Tablecast.Calendar
