import Triage.Time.Timestamp
import Triage.Number.DecimalText
import Triage.Number.Width

/-!
# Timestamps read from fields

A timestamp field holds a date with a time of day, a bare date, or a count of
seconds or milliseconds since the start of 1970.  Two readers share the grammar
of dates: `ofIso?` is strict and accepts seconds in an offset, `ofFieldText`
tells apart texts that cannot be read and times that are out of range.
-/

namespace Triage.Timestamp

/-- What a timestamp field holds. -/
inductive Reading where
  | time (value : Timestamp)
  /-- The notation is right and the time is not one of years 1 to 9999. -/
  | outOfRange
  | unreadable
  deriving DecidableEq, Repr

/-- The value of exactly `count` decimal digits in front. -/
def takeDigits? : Nat → Nat → List Char → Option (Nat × List Char)
  | 0, value, rest => some (value, rest)
  | count + 1, value, character :: rest =>
      if Text.isAsciiDigit character then
        takeDigits? count (value * 10 + Text.asciiDigitValue character) rest
      else none
  | _ + 1, _, [] => none

/-- Drop one expected character in front. -/
def takeChar? (expected : Char) : List Char → Option (List Char)
  | character :: rest => if character == expected then some rest else none
  | [] => none

/-- An existing date in front: four, two and two digits between hyphens. -/
def takeDate? (characters : List Char) : Option (Calendar.Date × List Char) := do
  let (year, rest) ← takeDigits? 4 0 characters
  let rest ← takeChar? '-' rest
  let (month, rest) ← takeDigits? 2 0 rest
  let rest ← takeChar? '-' rest
  let (day, rest) ← takeDigits? 2 0 rest
  let date : Calendar.Date := ⟨year, month, day⟩
  if date.valid then some (date, rest) else none

/-- The microseconds that a run of fraction digits stands for; digits after the
sixth are dropped. -/
def fractionMicros (digits : List Char) : Nat :=
  let kept := digits.take 6
  kept.foldl (fun value digit => value * 10 + Text.asciiDigitValue digit) 0 *
    Nat.pow 10 (6 - kept.length)

/-- A fraction of a second in front, after a point or a comma. -/
def takeFraction? (characters : List Char) : Option (Nat × List Char) :=
  match characters with
  | mark :: rest =>
      if mark == '.' || mark == ',' then
        match rest.takeWhile Text.isAsciiDigit with
        | [] => none
        | digits => some (fractionMicros digits, rest.dropWhile Text.isAsciiDigit)
      else some (0, characters)
  | [] => some (0, [])

/-- A time of day in front, in microseconds: hours and minutes, then optional
seconds with an optional fraction. -/
def takeTime? (characters : List Char) : Option (Nat × List Char) := do
  let (hour, rest) ← takeDigits? 2 0 characters
  let rest ← takeChar? ':' rest
  let (minute, rest) ← takeDigits? 2 0 rest
  if 23 < hour || 59 < minute then none
  else
    match rest with
    | ':' :: rest =>
        let (seconds, rest) ← takeDigits? 2 0 rest
        if 59 < seconds then none
        else
          let (micros, rest) ← takeFraction? rest
          some (((hour * 60 + minute) * 60 + seconds) * second + micros, rest)
    | _ => some ((hour * 60 + minute) * 60 * second, rest)

/-- The sign in front of an offset, a minus sign in either form. -/
def takeSign? : List Char → Option (Int × List Char)
  | '+' :: rest => some (1, rest)
  | '-' :: rest => some (-1, rest)
  | character :: rest => if character.toNat == 0x2212 then some (-1, rest) else none
  | [] => none

/-- Hours and minutes of an offset in front, in microseconds; the colon is
optional. -/
def takeOffset? (characters : List Char) : Option (Int × List Char) := do
  let (sign, rest) ← takeSign? characters
  let (hours, rest) ← takeDigits? 2 0 rest
  let rest :=
    match rest with
    | ':' :: more => more
    | more => more
  let (minutes, rest) ← takeDigits? 2 0 rest
  if 59 < minutes || 23 < hours then none
  else some (sign * ((hours * 60 + minutes) * 60 * second : Nat), rest)

/-- The end of a timestamp: nothing, `Z`, or an offset. -/
def readZone? : List Char → Option (Option Int)
  | [] => some none
  | ['Z'] => some (some 0)
  | ['z'] => some (some 0)
  | characters =>
      match takeOffset? characters with
      | some (offset, []) => some (some offset)
      | _ => none

/-- The end of a strict timestamp, in which an offset may have seconds. -/
def readStrictZone? (characters : List Char) : Option (Option Int) :=
  match readZone? characters with
  | some zone => some zone
  | none =>
      match takeOffset? characters with
      | some (offset, ':' :: rest) =>
          match takeDigits? 2 0 rest with
          | some (seconds, []) =>
              let extra : Int := (seconds * second : Nat)
              some (some (if characters.head? == some '-' then offset - extra else offset + extra))
          | _ => none
      | _ => none

/-- The clock reading of a date and a time of day. -/
def wallOf (date : Calendar.Date) (micros : Nat) : Int :=
  Calendar.dayCount date.year date.month date.day * day + micros

/-- The timestamp of a date, a time of day and an offset. -/
def ofParts (date : Calendar.Date) (micros : Nat) (zone : Option Int) : Reading :=
  if date.year == 0 then .outOfRange
  else
    match ofWall? (wallOf date micros) zone with
    | some time => .time time
    | none => .outOfRange

/-- The separators between date and time. -/
def isSeparator (character : Char) : Bool :=
  character == 'T' || character == 't' || character == ' ' || character == '_'

/-- A date with a time of day and an optional zone. -/
def readDateTime? (zone? : List Char → Option (Option Int)) (characters : List Char) :
    Option Reading := do
  let (date, rest) ← takeDate? characters
  match rest with
  | separator :: rest =>
      if isSeparator separator then
        let (micros, rest) ← takeTime? rest
        let zone ← zone? rest
        some (ofParts date micros zone)
      else none
  | [] => none

/-- The greatest count that is taken as seconds; a count of greater magnitude is
taken as milliseconds. -/
def secondsLimit : Int := 20000000000

/-- The time at a number of seconds since the start of 1970 plus some
microseconds.  No time is before year 0 or after year 9999, and one in year 0 is
out of range. -/
def ofUnix? (seconds : Int) (micros : Nat) : Option Reading :=
  let seconds := seconds + (micros / second : Nat)
  if seconds < -62167219200 || 253402300799 < seconds then none
  else
    match ofWall? ((seconds + unixEpoch) * second + (micros % second : Nat)) (some 0) with
    | some time => some (.time time)
    | none => some .outOfRange

/-- The time at an integral count since the start of 1970. -/
def ofCount? (count : Int) : Option Reading :=
  if count.natAbs ≤ secondsLimit.natAbs then ofUnix? count 0
  else ofUnix? (Int.fdiv count 1000) ((Int.fmod count 1000).toNat * 1000)

/-- The time at a fractional count since the start of 1970.  The fraction is
rounded to microseconds. -/
def ofRealCount? (count : Binary64) : Option Reading :=
  match count.floor? with
  | none => none
  | some whole =>
      if Binary64.intLt secondsLimit count || Binary64.ltInt count (-secondsLimit) then
        ofUnix? (Int.fdiv whole 1000)
          ((Int.fmod whole 1000).toNat * 1000 + count.aboveFloor.scaledRound 1000)
      else ofUnix? whole (count.aboveFloor.scaledRound second)

/-- A signed run of ASCII digits whose magnitude fits a signed 64-bit integer. -/
def readCount? (characters : List Char) : Option Int :=
  (DecimalText.readInteger? characters).filter fun count => Width.fits64 count.natAbs

/-- A decimal number with a point.  What stands before the point fits a signed
64-bit integer. -/
def readRealCount? (characters : List Char) : Option Binary64 :=
  match DecimalText.ofList? characters with
  | some text =>
      if text.fraction.isSome && Width.fits64 text.wholeValue.natAbs then some text.value else none
  | none => none

/-- A decimal count since the start of 1970. -/
def readUnix? (characters : List Char) : Option Reading :=
  match readCount? characters with
  | some count => ofCount? count
  | none => (readRealCount? characters).bind ofRealCount?

/-- The timestamp that a field's text holds. -/
def ofFieldText (text : String) : Reading :=
  let characters := text.toList
  match readDateTime? readZone? characters with
  | some reading => reading
  | none =>
      match readUnix? characters with
      | some reading => reading
      | none =>
          match takeDate? characters with
          | some (date, []) => ofParts date 0 none
          | _ => .unreadable

/-- The timestamp that an integral count since the start of 1970 holds. -/
def ofFieldInt (count : Int) : Reading :=
  (ofCount? count).getD .outOfRange

/-- The timestamp that a fractional count since the start of 1970 holds. -/
def ofFieldReal (count : Binary64) : Reading :=
  (ofRealCount? count).getD .outOfRange

/-- A timestamp in strict ISO 8601 notation. -/
def ofIso? (text : String) : Option Timestamp :=
  match readDateTime? readStrictZone? text.toList with
  | some (.time time) => some time
  | _ => none

end Triage.Timestamp
