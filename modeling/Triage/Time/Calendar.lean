/-!
# The Gregorian calendar

Days are counted from the first day of year 1, which is day 0.  Years count from
1 and the calendar is extended to all of them.
-/

namespace Triage.Calendar

/-- Whether a year has a 29 February. -/
def isLeap (year : Nat) : Bool :=
  year % 4 == 0 && (year % 100 != 0 || year % 400 == 0)

/-- The lengths of the months of a year. -/
def monthLengths (leap : Bool) : List Nat :=
  [31, if leap then 29 else 28, 31, 30, 31, 30, 31, 31, 30, 31, 30, 31]

/-- The number of days in a month; none in a month that does not exist. -/
def daysInMonth (year month : Nat) : Nat :=
  if month == 0 then 0 else (monthLengths (isLeap year)).getD (month - 1) 0

/-- The number of days in the first `years` years. -/
def daysInYears (years : Nat) : Nat :=
  365 * years + years / 4 - years / 100 + years / 400

/-- The number of days in the given year before a month. -/
def daysBeforeMonth (year month : Nat) : Nat :=
  ((monthLengths (isLeap year)).take (month - 1)).foldr (fun days before => days + before) 0

/-- The day count of a date. -/
def dayCount (year month day : Nat) : Nat :=
  daysInYears (year - 1) + daysBeforeMonth year month + (day - 1)

/-- The number of whole years before a day. -/
def yearsBefore (day : Nat) : Nat :=
  let estimate := day * 400 / 146097
  if day < daysInYears estimate then estimate - 1
  else if daysInYears (estimate + 1) ≤ day then estimate + 1
  else estimate

/-- The index of the month, from 0, that holds a day of the year, and the day of
that month, from 0. -/
def monthOf : List Nat → Nat → Nat × Nat
  | [], day => (0, day)
  | length :: rest, day =>
      if day < length then (0, day)
      else
        let later := monthOf rest (day - length)
        (later.1 + 1, later.2)

/-- A calendar date. -/
structure Date where
  year : Nat
  month : Nat
  day : Nat
  deriving DecidableEq, Repr

/-- The date of a day count. -/
def dateOf (day : Nat) : Date :=
  let years := yearsBefore day
  let place := monthOf (monthLengths (isLeap (years + 1))) (day - daysInYears years)
  ⟨years + 1, place.1 + 1, place.2 + 1⟩

/-- Whether a date exists. -/
def Date.valid (date : Date) : Bool :=
  1 ≤ date.month && date.month ≤ 12 && 1 ≤ date.day &&
    date.day ≤ daysInMonth date.year date.month

/-- A day lies in the year that `yearsBefore` finds. -/
theorem daysInYears_yearsBefore_le (day : Nat) : daysInYears (yearsBefore day) ≤ day := by
  unfold yearsBefore daysInYears
  grind

/-- The next year starts after the day. -/
theorem lt_daysInYears_yearsBefore_succ (day : Nat) :
    day < daysInYears (yearsBefore day + 1) := by
  unfold yearsBefore daysInYears
  grind

end Triage.Calendar
