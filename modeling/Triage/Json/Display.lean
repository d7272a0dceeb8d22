import Triage.Json.Value
import Triage.Text.Quoted

/-!
# Values in messages

The form in which messages and derived texts show a JSON value: `None`, `True`
and `False` for the three words, quoted texts, `[1, 'x']` for an array and
`\x7b'a': 1\x7d` for an object.  A text that is shown on its own has no quotes.
Whether there is room for the form of a value is another matter (see
`Triage.Json.Room`).
-/

namespace Triage.Json

mutual

/-- A value as part of a message. -/
def display : Json → String
  | .null => "None"
  | .bool true => "True"
  | .bool false => "False"
  | .int value => toString value
  | .real value => value.text
  | .str text => Text.quoted text
  | .halved text => text.quoted
  | .moment value => value.display
  | .arr items => "[" ++ displayItems items ++ "]"
  | .obj fields => "\x7b" ++ displayFields fields ++ "\x7d"

/-- Items separated by a comma and a space. -/
def displayItems : List Json → String
  | [] => ""
  | [item] => display item
  | item :: rest => display item ++ ", " ++ displayItems rest

/-- Fields separated by a comma and a space. -/
def displayFields : List (String × Json) → String
  | [] => ""
  | [(key, value)] => Text.quoted key ++ ": " ++ display value
  | (key, value) :: rest =>
      Text.quoted key ++ ": " ++ display value ++ ", " ++ displayFields rest

end

/-- A value shown on its own.  Halves of pairs are shown as replacement characters. -/
def plainText : Json → String
  | .str text => text
  | .halved text => text.shown
  | .moment value => value.text
  | value => display value

end Triage.Json
