import Triage.Time.Calendar
import Triage.Text.Basic

/-!
# Timestamps

A time of day on a date between years 1 and 9999, to the microsecond, with or
without an offset from UTC.  A timestamp without an offset is read as UTC
wherever an instant is needed.
-/

namespace Triage

/-- A date and time of day on some clock. -/
structure Timestamp where
  /-- Microseconds on that clock since the start of year 1. -/
  wall : Nat
  /-- Microseconds by which the clock is ahead of UTC. -/
  offset : Option Int
  /-- The clock shows a year up to 9999. -/
  wall_lt : wall < 3652059 * 86400000000
  deriving DecidableEq, Repr

namespace Timestamp

/-- Microseconds per second. -/
def second : Nat := 1000000

/-- Microseconds per day. -/
def day : Nat := 86400000000

/-- The number of microseconds from the start of year 1 to the end of year
9999. -/
def limit : Nat := 3652059 * 86400000000

/-- The seconds from the start of year 1 to the start of 1970. -/
def unixEpoch : Int := 62135596800

/-- The timestamp with a given clock reading, if the year fits. -/
def ofWall? (wall : Int) (offset : Option Int) : Option Timestamp :=
  if inRange : 0 ≤ wall ∧ wall < 3652059 * 86400000000 then
    some ⟨wall.toNat, offset, by omega⟩
  else none

/-- Microseconds of UTC since the start of year 1. -/
def instant (time : Timestamp) : Int :=
  time.wall - time.offset.getD 0

/-- The same instant on the UTC clock, if its year fits. -/
def toUtc? (time : Timestamp) : Option Timestamp :=
  ofWall? time.instant (some 0)

/-- The clock moved by a number of microseconds, if the year still fits. -/
def advance? (time : Timestamp) (micros : Int) : Option Timestamp :=
  ofWall? (time.wall + micros) time.offset

/-- The time of day of a clock reading, with a fraction of six digits only when
it is not zero. -/
def timeText (wall : Nat) : String :=
  let seconds := wall % day / second
  let micros := wall % second
  let digits := fun value => Text.padZeros 2 (toString (value : Nat))
  digits (seconds / 3600) ++ ":" ++ digits (seconds / 60 % 60) ++ ":" ++ digits (seconds % 60) ++
    (if micros == 0 then "" else "." ++ Text.padZeros 6 (toString micros))

/-- The date of a clock reading. -/
def dateText (wall : Nat) : String :=
  let date := Calendar.dateOf (wall / day)
  Text.padZeros 4 (toString date.year) ++ "-" ++ Text.padZeros 2 (toString date.month) ++ "-" ++
    Text.padZeros 2 (toString date.day)

/-- An offset as sign, hours and minutes, with seconds and their fraction only
when they are not zero. -/
def offsetText (offset : Int) : String :=
  let seconds := offset.natAbs / second
  let micros := offset.natAbs % second
  let digits := fun value => Text.padZeros 2 (toString (value : Nat))
  (if offset < 0 then "-" else "+") ++ digits (seconds / 3600) ++ ":" ++
    digits (seconds / 60 % 60) ++
    (if seconds % 60 == 0 && micros == 0 then "" else ":" ++ digits (seconds % 60)) ++
    (if micros == 0 then "" else "." ++ Text.padZeros 6 (toString micros))

/-- The ISO 8601 text of a timestamp; the offset is absent when there is none. -/
def isoText (time : Timestamp) : String :=
  dateText time.wall ++ "T" ++ timeText time.wall ++
    (match time.offset with
    | some offset => offsetText offset
    | none => "")

/-- Date, hour and minute; the year has no leading zeros. -/
def minuteText (time : Timestamp) : String :=
  String.ofList ((dateText time.wall).toList.dropWhile (· == '0')) ++ " " ++
    Text.take 5 (timeText time.wall)

@[simp] theorem instant_naive (wall : Nat) (bound : wall < 3652059 * 86400000000) :
    (Timestamp.mk wall none bound).instant = wall := by
  simp [instant]

@[simp] theorem instant_utc (wall : Nat) (bound : wall < 3652059 * 86400000000) :
    (Timestamp.mk wall (some 0) bound).instant = wall := by
  simp [instant]

/-- Moving to the UTC clock keeps the instant. -/
theorem instant_of_toUtc? {time utc : Timestamp} (moved : time.toUtc? = some utc) :
    utc.instant = time.instant ∧ utc.offset = some 0 := by
  unfold toUtc? ofWall? at moved
  split at moved
  · cases moved
    simp only [instant_utc, and_true]
    omega
  · cases moved

end Timestamp

end Triage
