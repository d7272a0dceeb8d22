import Triage.Toml.Scalar

/-!
# Dates and times of TOML

A date, a time of day, or a date with a time of day and perhaps an offset from UTC.
Seconds may be left out, and of their fraction six digits count.  A date that the
calendar does not have makes the text malformed.
-/

namespace Triage.Toml

/-- Two digits in front that stand for a number of at most the given one. -/
def twoDigits? (greatest : Nat) : List Char → Option (Nat × List Char)
  | tens :: ones :: rest =>
      if Text.isAsciiDigit tens && Text.isAsciiDigit ones then
        let value := valueIn 10 [tens, ones]
        if value ≤ greatest then some (value, rest) else none
      else none
  | _ => none

/-- Two digits behind a mark. -/
def markedDigits? (mark : Char) (greatest : Nat) : List Char → Option (Nat × List Char)
  | first :: rest => if first == mark then twoDigits? greatest rest else none
  | [] => none

/-- The microseconds of a fraction of a second, none if no fraction follows. -/
def microseconds : List Char → Nat × List Char
  | '.' :: rest =>
      match rest.takeWhile Text.isAsciiDigit with
      | [] => (0, '.' :: rest)
      | digits =>
          (valueIn 10 ((digits ++ List.replicate 6 '0').take 6), rest.dropWhile Text.isAsciiDigit)
  | characters => (0, characters)

/-- The microseconds of seconds with their fraction, none if no seconds follow. -/
def seconds (characters : List Char) : Nat × List Char :=
  match markedDigits? ':' 59 characters with
  | some (whole, rest) =>
      let fraction := microseconds rest
      (whole * Timestamp.second + fraction.1, fraction.2)
  | none => (0, characters)

/-- A time of day, by the microseconds before it. -/
def timeOfDay? (characters : List Char) : Option (Nat × List Char) := do
  let (hour, rest) ← twoDigits? 23 characters
  let (minute, rest) ← markedDigits? ':' 59 rest
  let fine := seconds rest
  return ((hour * 60 + minute) * 60 * Timestamp.second + fine.1, fine.2)

/-- The numbers of a date. -/
def date? (characters : List Char) : Option (Calendar.Date × List Char) := do
  let (century, rest) ← twoDigits? 99 characters
  let (year, rest) ← twoDigits? 99 rest
  let (month, rest) ← markedDigits? '-' 12 rest
  let (day, rest) ← markedDigits? '-' 31 rest
  if month == 0 || day == 0 then none else some (⟨century * 100 + year, month, day⟩, rest)

/-- An offset from UTC in microseconds, none if none follows. -/
def offset (characters : List Char) : Option Int × List Char :=
  match characters with
  | [] => (none, [])
  | mark :: rest =>
      if mark == 'Z' || mark == 'z' then (some 0, rest)
      else if mark == '+' || mark == '-' then
        match twoDigits? 23 rest with
        | some (hours, after) =>
            match markedDigits? ':' 59 after with
            | some (minutes, after) =>
                let value : Int := (hours * 60 + minutes) * 60 * Timestamp.second
                (some (if mark == '-' then -value else value), after)
            | none => (none, characters)
        | none => (none, characters)
      else (none, characters)

/-- The time of day behind a date with its offset, if one follows. -/
def timeBehindDate? : List Char → Option ((Nat × Option Int) × List Char)
  | mark :: rest =>
      if mark == 'T' || mark == 't' || mark == ' ' then
        (timeOfDay? rest).map fun found =>
          let behind := offset found.2
          ((found.1, behind.1), behind.2)
      else none
  | [] => none

/-- The day of a date, if the calendar has it. -/
def dayOf? (date : Calendar.Date) : Option Nat :=
  if date.year != 0 && date.valid then some (Calendar.dayCount date.year date.month date.day)
  else none

/-- A date as a moment, if the calendar has it. -/
def dateMoment? (date : Calendar.Date) : Option Moment := do
  let day ← dayOf? date
  if inRange : day < 3652059 then some (.date ⟨day, inRange⟩) else none

/-- A date with a time of day as a moment, if the calendar has it. -/
def stampMoment? (date : Calendar.Date) (time : Nat) (offset : Option Int) : Option Moment := do
  let day ← dayOf? date
  (Timestamp.ofWall? (day * Timestamp.day + time) offset).map .stamp

/-- A time of day as a moment. -/
def timeMoment? (micros : Nat) : Option Moment :=
  if inRange : micros < 86400000000 then some (.time ⟨micros, inRange⟩) else none

/-- The moment in front, unless there is none; the calendar may not have it. -/
def moment? (characters : List Char) : Option (Option Moment × List Char) :=
  match date? characters with
  | some (date, rest) =>
      match timeBehindDate? rest with
      | some ((time, offset), after) => some (stampMoment? date time offset, after)
      | none => some (dateMoment? date, rest)
  | none => (timeOfDay? characters).map fun found => (timeMoment? found.1, found.2)

/-- A moment or a number. -/
def momentOrNumber (characters : List Char) : Except SettingsFault (Json × List Char) :=
  match moment? characters with
  | some (moment, rest) => do return (.moment (← orMalformed moment), rest)
  | none => number characters

end Triage.Toml
