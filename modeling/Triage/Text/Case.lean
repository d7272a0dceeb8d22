import Triage.Text.Basic
import Triage.Text.CaseTable

/-!
# Letter case

Full lower, upper and capitalised forms of a text.  A capital sigma in lower
case depends on its neighbours: it takes its final form after a cased letter
when no cased letter follows, ignorable characters aside.
-/

namespace Triage.Text

/-- The lower-case form of an ASCII letter; every other character is kept. -/
def asciiLowerChar (character : Char) : Char :=
  if 'A' ≤ character && character ≤ 'Z' then Char.ofNat (character.toNat + 32) else character

/-- The upper-case form of an ASCII letter; every other character is kept. -/
def asciiUpperChar (character : Char) : Char :=
  if 'a' ≤ character && character ≤ 'z' then Char.ofNat (character.toNat - 32) else character

/-- Lower case of the ASCII letters alone. -/
def asciiLower (text : String) : String :=
  String.ofList (text.toList.map asciiLowerChar)

/-- The image of a code point under a table of runs. -/
def CaseTable.Run.image? (table : Array CaseTable.Run) (code : Nat) : Option Nat :=
  (table.find? fun run =>
    run.first ≤ code && code ≤ run.last && (code - run.first) % run.step == 0).map
    fun run => ((code : Int) + run.shift).toNat

/-- The image of a code point under a table of longer forms. -/
def longForm? (table : Array (Nat × List Nat)) (code : Nat) : Option (List Char) :=
  (table.find? fun entry => entry.1 == code).map fun entry => entry.2.map Char.ofNat

/-- The lower-case form of one character, without regard to its neighbours. -/
def lowerChar (character : Char) : List Char :=
  let code := character.toNat
  if code < 128 then [asciiLowerChar character]
  else
    match longForm? CaseTable.lowerLong code with
    | some form => form
    | none => [((CaseTable.Run.image? CaseTable.lower code).map Char.ofNat).getD character]

/-- The upper-case form of one character. -/
def upperChar (character : Char) : List Char :=
  let code := character.toNat
  if code < 128 then [asciiUpperChar character]
  else
    match longForm? CaseTable.upperLong code with
    | some form => form
    | none => [((CaseTable.Run.image? CaseTable.upper code).map Char.ofNat).getD character]

/-- The form of one character at the head of a capitalised text. -/
def titleChar (character : Char) : List Char :=
  match longForm? CaseTable.title character.toNat with
  | some form => form
  | none => upperChar character

/-- A letter with case, other than a case-ignorable one. -/
def isCased (character : Char) : Bool :=
  let code := character.toNat
  if code < 128 then character.isAlpha else inRanges CaseTable.cased code

/-- A character transparent to the final-sigma rule. -/
def isCaseIgnorable (character : Char) : Bool :=
  let code := character.toNat
  if code < 128 then
    character == '\'' || character == '.' || character == ':' || character == '^' ||
      character.toNat == 0x60
  else inRanges CaseTable.ignorable code

/-- The first character that is not case-ignorable is cased. -/
def leadsCased (characters : List Char) : Bool :=
  match characters.dropWhile isCaseIgnorable with
  | [] => false
  | character :: _ => isCased character

/-- Capital sigma. -/
def capitalSigma : Char := Char.ofNat 0x3A3

/-- The form a capital sigma takes between the reversed text `before` and the
text `after`. -/
def lowerSigma (before after : List Char) : Char :=
  if leadsCased before && !leadsCased after then Char.ofNat 0x3C2 else Char.ofNat 0x3C3

/-- Lower case of a text that follows the reversed text `before`. -/
def lowerAfter (before : List Char) : List Char → List Char
  | [] => []
  | character :: rest =>
      (if character == capitalSigma then [lowerSigma before rest] else lowerChar character) ++
        lowerAfter (character :: before) rest

/-- Lower case of a list of characters. -/
def lowerList (characters : List Char) : List Char :=
  lowerAfter [] characters

/-- Lower case. -/
def lower (text : String) : String :=
  String.ofList (lowerList text.toList)

/-- Upper case. -/
def upper (text : String) : String :=
  String.ofList (text.toList.flatMap upperChar)

/-- Title case for the first character and lower case for the rest. -/
def capitalize (text : String) : String :=
  match text.toList with
  | [] => ""
  | first :: rest => String.ofList (titleChar first ++ lowerAfter [first] rest)

end Triage.Text
