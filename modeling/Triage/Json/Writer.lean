import Triage.Json.Value
import Triage.Text.Quoted

/-!
# Writing JSON

The compact text of a value: no white space, fields in their order, and every
character beyond ASCII as itself.  A moment is written as its text.
-/

namespace Triage.Json

/-- One character inside a string. -/
def writeChar (character : Char) : List Char :=
  match character with
  | '"' => ['\\', '"']
  | '\\' => ['\\', '\\']
  | '\n' => ['\\', 'n']
  | '\r' => ['\\', 'r']
  | '\t' => ['\\', 't']
  | other =>
      if other.toNat == 8 then ['\\', 'b']
      else if other.toNat == 12 then ['\\', 'f']
      else if other.toNat < 32 then '\\' :: 'u' :: Text.hexDigits 4 other.toNat
      else [other]

/-- A string between quotes. -/
def writeString (text : String) : String :=
  String.ofList ('"' :: (text.toList.flatMap writeChar ++ ['"']))

/-- A code point inside a string; a half of a pair is escaped. -/
def writeCode (code : Nat) : List Char :=
  if Text.isHalf code then '\\' :: 'u' :: Text.hexDigits 4 code else writeChar (Char.ofNat code)

/-- A text with halves of pairs between quotes. -/
def writeHalved (text : Text.Halved) : String :=
  String.ofList ('"' :: (text.codes.flatMap writeCode ++ ['"']))

/-- A floating-point number. -/
def writeReal : Binary64 → String
  | .infinite negative => if negative then "-Infinity" else "Infinity"
  | .notANumber => "NaN"
  | value => value.text

mutual

/-- The compact text of a value. -/
def write : Json → String
  | .null => "null"
  | .bool true => "true"
  | .bool false => "false"
  | .int value => toString value
  | .real value => writeReal value
  | .str text => writeString text
  | .halved text => writeHalved text
  | .moment value => writeString value.text
  | .arr items => "[" ++ writeItems items ++ "]"
  | .obj fields => "\x7b" ++ writeFields fields ++ "\x7d"

/-- Items separated by commas. -/
def writeItems : List Json → String
  | [] => ""
  | [item] => write item
  | item :: rest => write item ++ "," ++ writeItems rest

/-- Fields separated by commas. -/
def writeFields : List (String × Json) → String
  | [] => ""
  | [(key, value)] => writeString key ++ ":" ++ write value
  | (key, value) :: rest => writeString key ++ ":" ++ write value ++ "," ++ writeFields rest

end

end Triage.Json
