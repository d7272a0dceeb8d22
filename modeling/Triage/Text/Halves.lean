import Triage.Text.Encoding
import Triage.Text.Quoted

/-!
# Texts with halves of pairs

Two surrogates together stand for one character; a half by itself is no character,
but a text may hold it.  Such a text can be compared and displayed by its code
points, but it has no bytes in UTF-8.
-/

namespace Triage.Text

/-- A text that is not made of characters alone. -/
structure Halved where
  /-- The code points of the text. -/
  codes : List Nat
  /-- One of them is a half of a pair. -/
  halved : codes.any isHalf = true
  deriving DecidableEq, Repr

namespace Halved

/-- The halves that come first in a text, without a gap, and their position. -/
def first (text : Halved) : Nat × List Nat :=
  let whole := fun code => !isHalf code
  ((text.codes.takeWhile whole).length, (text.codes.dropWhile whole).takeWhile isHalf)

/-- The text with the replacement character in the place of every half. -/
def shown (text : Halved) : String :=
  String.ofList (text.codes.map unitChar)

/-- The display form between quotes. -/
def quoted (text : Halved) : String :=
  quotedCodes text.codes

end Halved

/-- What cannot be encoded, as the wording of a failure tells it: the code points
from a position on, what encodes them and why it cannot. -/
def encodingText (codec : String) (position : Nat) (codes : List Nat) (reason : String) :
    String :=
  let place :=
    match codes with
    | [code] =>
        "character '" ++ String.ofList (codeEscape code) ++ "' in position " ++ toString position
    | several =>
        "characters in position " ++ toString position ++ "-" ++
          toString (position + several.length - 1)
  "'" ++ codec ++ "' codec can't encode " ++ place ++ ": " ++ reason

end Triage.Text
