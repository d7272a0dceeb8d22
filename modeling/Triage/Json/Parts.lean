import Triage.Json.Value

/-!
# Parts of JSON values

Access to the parts of a value whose shape is known.  A part that is not there is
null, empty or zero.
-/

namespace Triage.Json

/-- The fields of an object; any other value has none. -/
def fields : Json → Fields
  | .obj fields => fields
  | _ => []

/-- The value of a key, or null. -/
def field (value : Json) (key : String) : Json :=
  Fields.getD value.fields key

/-- The value of a key that is present. -/
def field? (value : Json) (key : String) : Option Json :=
  Fields.get? value.fields key

/-- The items of a list; any other value has none. -/
def items : Json → List Json
  | .arr items => items
  | _ => []

/-- A text; any other value is none. -/
def text? : Json → Option String
  | .str text => some text
  | _ => none

/-- A text; any other value is empty. -/
def text (value : Json) : String :=
  value.text?.getD ""

/-- An integer; of a fraction the integer part, and of a truth value zero or
one. -/
def int? : Json → Option Int
  | .int value => some value
  | .bool value => some (if value then 1 else 0)
  | .real value => value.truncate?
  | _ => none

/-- An integer; a value that is none is zero. -/
def integer (value : Json) : Int :=
  value.int?.getD 0

/-- A number in the 64-bit binary format; of a truth value zero or one, and any
other value is zero. -/
def number : Json → Binary64
  | .int value => .ofInt value
  | .bool value => .ofInt (if value then 1 else 0)
  | .real value => value
  | _ => .zero

/-- Whether a value counts as given, with a default for null. -/
def flagOr (default : Bool) : Json → Bool
  | .null => default
  | value => value.truthy

/-- A list of texts. -/
def ofTexts (texts : List String) : Json :=
  .arr (texts.map .str)

/-- A list of integers. -/
def ofInts (values : List Int) : Json :=
  .arr (values.map .int)

@[simp] theorem field_obj (fields : Fields) (key : String) :
    field (.obj fields) key = Fields.getD fields key := rfl

end Triage.Json
