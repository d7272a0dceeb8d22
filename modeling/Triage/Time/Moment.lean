import Triage.Time.Timestamp

/-!
# Dates and times of day

Settings may hold a date, a time of day, or both together.  They are only ever
shown or refused.
-/

namespace Triage

/-- A date, a time of day, or both together. -/
inductive Moment where
  /-- A date, by the days before it since the start of year 1. -/
  | date (day : Fin 3652059)
  /-- A time of day, by the microseconds before it. -/
  | time (micros : Fin 86400000000)
  | stamp (value : Timestamp)
  deriving DecidableEq, Repr

namespace Moment

/-- The name of a moment's kind, as error texts show it. -/
def kindName : Moment → String
  | .date _ => "datetime.date"
  | .time _ => "datetime.time"
  | .stamp _ => "datetime.datetime"

/-- A moment shown on its own. -/
def text : Moment → String
  | .date day => Timestamp.dateText (day.val * Timestamp.day)
  | .time micros => Timestamp.timeText micros.val
  | .stamp value =>
      Timestamp.dateText value.wall ++ " " ++ Timestamp.timeText value.wall ++
        (match value.offset with
        | some offset => Timestamp.offsetText offset
        | none => "")

/-- The year, the month and the day of a clock reading. -/
def dateNumbers (wall : Nat) : List Nat :=
  let date := Calendar.dateOf (wall / Timestamp.day)
  [date.year, date.month, date.day]

/-- The hour and the minute of a clock reading, with the second and the microsecond
only as far as they are not zero. -/
def timeNumbers (wall : Nat) : List Nat :=
  let seconds := wall % Timestamp.day / Timestamp.second
  let micros := wall % Timestamp.second
  let fine :=
    if micros != 0 then [seconds % 60, micros]
    else if seconds % 60 != 0 then [seconds % 60]
    else []
  [seconds / 3600, seconds / 60 % 60] ++ fine

/-- The display form of an offset. -/
def displayOffset (offset : Int) : String :=
  if offset == 0 then "datetime.timezone.utc"
  else
    let days := Int.fdiv offset Timestamp.day
    let rest := Int.fmod offset Timestamp.day
    let parts := [("days", days), ("seconds", rest / Timestamp.second),
      ("microseconds", rest % Timestamp.second)].filter fun part => part.2 != 0
    "datetime.timezone(datetime.timedelta(" ++
      ", ".intercalate (parts.map fun part => part.1 ++ "=" ++ toString part.2) ++ "))"

/-- A moment as part of a message. -/
def display (moment : Moment) : String :=
  let listed := fun numbers : List Nat => ", ".intercalate (numbers.map toString)
  let inside :=
    match moment with
    | .date day => listed (dateNumbers (day.val * Timestamp.day))
    | .time micros => listed (timeNumbers micros.val)
    | .stamp value =>
        listed (dateNumbers value.wall ++ timeNumbers value.wall) ++
          (match value.offset with
          | some offset => ", tzinfo=" ++ displayOffset offset
          | none => "")
  moment.kindName ++ "(" ++ inside ++ ")"

end Moment

end Triage
