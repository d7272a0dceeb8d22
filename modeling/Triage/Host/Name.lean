import Triage.Host.Label

/-!
# Names of hosts

A name is labels between points, and may end in a point.  Of the characters that
count as points only the full stop is left in ASCII.
-/

namespace Triage.Host.Name

/-- Whether a character divides labels. -/
def isPoint (character : Char) : Bool :=
  character == '.' || character.toNat == 0x3002 || character.toNat == 0xFF0E ||
    character.toNat == 0xFF61

/-- The labels of a name, and whether a point follows the last one. -/
def labels (name : List Char) : List (List Char) × Bool :=
  let pieces := Text.splitAt '.' (name.map fun character =>
    if isPoint character then '.' else character)
  if pieces.getLast? == some [] then (pieces.dropLast, true) else (pieces, false)

/-- The most characters of a name in ASCII, a point at its end aside. -/
def limit : Nat := 253

/-- A name in ASCII, if all its labels are in order and it is not too long. -/
def toAscii? (name : List Char) : Option (List Char) :=
  let parts := labels name
  match parts.1.mapM Label.toAscii? with
  | none => none
  | some encoded =>
      let joined := Text.joinWith ['.'] encoded
      if encoded.isEmpty || limit < joined.length then none
      else some (if parts.2 then joined ++ ['.'] else joined)

/-- What is wrong with a name whose first label is encoded, as a whole or in the
first of its labels that is at fault; other names are taken as they are. -/
def asciiFault? (name : List Char) : Option LabelFault :=
  let parts := labels name
  if !Label.encodedStart.isPrefixOf name then none
  else if (if parts.2 then limit + 1 else limit) < name.length then some .nameTooLong
  else parts.1.findSome? Label.asciiFault?

end Triage.Host.Name
