import Triage.Schema.Checked
import Triage.Number.IntegerText
import Triage.Text.Case
import Triage.Time.FieldText

/-!
# Checks of fields

The rules by which a JSON value becomes an integer, a text, a truth value or a
timestamp, and the ways in which a field of an object may be required, have a
default or be null.
-/

namespace Triage.Schema

open Triage (Json Timestamp Binary64)

/-- A text; nothing else is converted to one.  A text with halves of pairs passes, and
is taken in the form in which it is shown. -/
def text : Json → Checked String
  | .str value => .valid value
  | .halved value => .valid value.shown
  | _ => .fault .stringType

/-- The integer that a fractional number stands for, if it has no fraction and
its magnitude is below that of the greatest word. -/
def wholeNumber (value : Binary64) : Checked Int :=
  match value.truncate? with
  | none => .fault .finiteNumber
  | some whole =>
      if !value.isIntegral then .fault .intFromFraction
      else if whole.natAbs < Nat.pow 2 63 then .valid whole
      else .fault .intTooLarge

/-- An integer: an integer, a truth value, a number without a fraction, or a
text that holds an integer. -/
def integer : Json → Checked Int
  | .int value => .valid value
  | .bool value => .valid (if value then 1 else 0)
  | .real value => wholeNumber value
  | .str value =>
      match IntegerText.readField value with
      | .number number => .valid number
      | .tooLong => .fault .intTooLarge
      | .unreadable => .fault .intParsing
  | .halved _ => .fault .stringUnicode
  | _ => .fault .intType

/-- The words for the two truth values. -/
def flagWord? (word : String) : Option Bool :=
  if ["1", "on", "t", "true", "y", "yes"].contains word then some true
  else if ["0", "off", "f", "false", "n", "no"].contains word then some false
  else none

/-- The truth value of an integer. -/
def flagOfInt (value : Int) : Checked Bool :=
  if value == 0 then .valid false
  else if value == 1 then .valid true
  else if Width.fits64 value then .fault .boolParsing
  else .fault .boolType

/-- A truth value: one of the two, zero or one, or a word for one of them in any
case. -/
def flag : Json → Checked Bool
  | .bool value => .valid value
  | .int value => flagOfInt value
  | .real value =>
      match wholeNumber value with
      | .valid whole => flagOfInt whole
      | .invalid _ => .fault .boolType
  | .str value =>
      match flagWord? (Text.asciiLower value) with
      | some known => .valid known
      | none => .fault .boolParsing
  | .halved _ => .fault .stringUnicode
  | _ => .fault .boolType

/-- A timestamp: a date, a date with a time of day, or a count since the start
of 1970. -/
def time : Json → Checked Timestamp
  | .str value => ofReading (Timestamp.ofFieldText value)
  | .halved _ => .fault .stringUnicode
  | .int value =>
      if (Binary64.ofInt value).truncate?.isSome then ofReading (Timestamp.ofFieldInt value)
      else .fault .timeType
  | .real value => ofReading (Timestamp.ofFieldReal value)
  | _ => .fault .timeType
where
  /-- The outcome of reading a timestamp. -/
  ofReading : Timestamp.Reading → Checked Timestamp
    | .time value => .valid value
    | .outOfRange => .fault .timeRange
    | .unreadable => .fault .timeParsing

/-- A check that lets null through. -/
def nullable {α : Type} (check : Json → Checked α) : Json → Checked (Option α)
  | .null => .valid none
  | value => some <$> check value

/-- A field that has to be present. -/
def required {α : Type} (fields : Json.Fields) (key : String) (check : Json → Checked α) :
    Checked α :=
  match fields.get? key with
  | some value => (check value).under key
  | none => (Checked.fault .missing).under key

/-- A field with a default for when it is absent. -/
def withDefault {α : Type} (fields : Json.Fields) (key : String) (default : α)
    (check : Json → Checked α) : Checked α :=
  match fields.get? key with
  | some value => (check value).under key
  | none => .valid default

/-- A field that may be absent or null. -/
def optional {α : Type} (fields : Json.Fields) (key : String) (check : Json → Checked α) :
    Checked (Option α) :=
  withDefault fields key none (nullable check)

/-- An object whose fields pass a check. -/
def object {α : Type} (check : Json.Fields → Checked α) : Json → Checked α
  | .obj fields => check fields
  | _ => .fault .modelType

/-- A list whose items pass a check; an item's key is its position. -/
def list {α : Type} (check : Json → Checked α) : Json → Checked (List α)
  | .arr items =>
      (items.zipIdx.map fun item => (check item.1).under (toString item.2)).foldr
        (fun head tail => List.cons <$> head <*> tail) (.valid [])
  | _ => .fault .listType

/-- An object with arbitrary keys whose values pass a check. -/
def entries {α : Type} (check : Json → Checked α) : Json → Checked (List (String × α))
  | .obj fields =>
      (fields.map fun field => Prod.mk field.1 <$> (check field.2).under field.1).foldr
        (fun head tail => List.cons <$> head <*> tail) (.valid [])
  | _ => .fault .mapType

end Triage.Schema
