import Triage.Json.Display
import Triage.Number.IntegerText

/-!
# Room for values within each other

A value takes room while it is read or written, and so does every value around it.
How much room there is depends on how far down the program already is; where it is
used up, reading and writing fail.  Integers are written up to a number of digits.
-/

namespace Triage.Json

/-- The room that a program has. -/
structure Room where
  /-- The most arrays and objects within each other that are read. -/
  reading : Nat
  /-- The most values within each other that are written. -/
  writing : Nat
  /-- Values are read further down than they are written, so that what was read can be
  written. -/
  reading_lt : reading < writing
  deriving DecidableEq, Repr

/-- The room that a command of the program has. -/
def Room.usual : Room := ⟨985, 990, by decide⟩

/-- What has other values within it. -/
inductive Container where
  | array
  | object
  deriving DecidableEq, Repr

/-- The name of a container. -/
def Container.name : Container → String
  | .array => "array"
  | .object => "object"

/-- Why a value cannot be written. -/
inductive WritingFault where
  /-- There is no room for the values within each other. -/
  | nesting
  /-- An integer has too many digits. -/
  | digits
  deriving DecidableEq, Repr

/-- The wording of a fault of writing. -/
def WritingFault.message : WritingFault → String
  | .nesting => "maximum recursion depth exceeded while getting the repr of an object"
  | .digits =>
      "Exceeds the limit (" ++ toString IntegerText.digitLimit ++
        " digits) for integer string conversion; use sys.set_int_max_str_digits() to increase " ++
        "the limit"

mutual

/-- The first thing that keeps a value from being written where there is room for so
many values within each other. -/
def writingFault? (room : Nat) (value : Json) : Option WritingFault :=
  match room, value with
  | 0, _ => some .nesting
  | _ + 1, .int number => if IntegerText.isWritable number then none else some .digits
  | room + 1, .arr items => itemsFault? room items
  | room + 1, .obj fields => fieldsFault? room fields
  | _ + 1, _ => none
termination_by structural value

/-- The first thing that keeps items from being written. -/
def itemsFault? (room : Nat) (items : List Json) : Option WritingFault :=
  match items with
  | [] => none
  | item :: rest => (writingFault? room item).or (itemsFault? room rest)
termination_by structural items

/-- The first thing that keeps fields from being written; a key takes no more room
than a value. -/
def fieldsFault? (room : Nat) (fields : List (String × Json)) : Option WritingFault :=
  match fields with
  | [] => none
  | field :: rest => (fieldFault? room field).or (fieldsFault? room rest)
termination_by structural fields

/-- The first thing that keeps a field from being written. -/
def fieldFault? (room : Nat) (field : String × Json) : Option WritingFault :=
  match field with
  | (_, value) => writingFault? room value
termination_by structural field

end

/-- What keeps a value from being written on its own; a text is not written anew. -/
def plainFault? (room : Nat) : Json → Option WritingFault
  | .str _ => none
  | .halved _ => none
  | value => writingFault? room value

end Triage.Json
