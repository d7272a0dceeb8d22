import Triage.Text.CharClass

/-!
# Operations on text

Trimming, splitting at blanks, searching, cutting and padding.  Every operation
counts characters, and each is a wrapper of one on lists of characters.
-/

namespace Triage.Text

/-- Drop the longest run at the end whose characters satisfy `test`. -/
def dropWhileEnd (test : Char → Bool) (characters : List Char) : List Char :=
  (characters.reverse.dropWhile test).reverse

/-- Drop the characters satisfying `test` from both ends. -/
def trimWhile (test : Char → Bool) (characters : List Char) : List Char :=
  dropWhileEnd test (characters.dropWhile test)

/-- Remove the blanks at both ends. -/
def strip (text : String) : String :=
  String.ofList (trimWhile isBlank text.toList)

/-- Remove every trailing slash. -/
def stripTrailingSlashes (text : String) : String :=
  String.ofList (dropWhileEnd (· == '/') text.toList)

/-- Characters with a line feed in the place of every carriage return, alone or
before a line feed. -/
def unifyLineEnds : List Char → List Char
  | '\r' :: '\n' :: rest => '\n' :: unifyLineEnds rest
  | '\r' :: rest => '\n' :: unifyLineEnds rest
  | character :: rest => character :: unifyLineEnds rest
  | [] => []

/-- A text whose lines all end in line feeds. -/
def withLineFeeds (text : String) : String :=
  String.ofList (unifyLineEnds text.toList)

/-- The maximal runs of characters that fail `test`, in order. -/
def fieldsAux (test : Char → Bool) : List Char → List Char → List (List Char)
  | [], [] => []
  | [], current => [current.reverse]
  | character :: rest, current =>
      if test character then
        if current.isEmpty then fieldsAux test rest []
        else current.reverse :: fieldsAux test rest []
      else fieldsAux test rest (character :: current)

/-- The maximal runs of non-blank characters, in order. -/
def words (characters : List Char) : List (List Char) :=
  fieldsAux isBlank characters []

/-- Pieces joined by one separator between neighbours. -/
def joinWith (separator : List Char) : List (List Char) → List Char
  | [] => []
  | [piece] => piece
  | piece :: next :: rest => piece ++ separator ++ joinWith separator (next :: rest)

/-- Words separated by single spaces, without blanks at either end. -/
def collapseBlanks (characters : List Char) : List Char :=
  joinWith [' '] (words characters)

/-- The pieces between occurrences of one separator character; there is always
one more piece than separators. -/
def splitAt (separator : Char) : List Char → List (List Char)
  | [] => [[]]
  | character :: rest =>
      if character == separator then [] :: splitAt separator rest
      else
        match splitAt separator rest with
        | [] => [[character]]
        | piece :: pieces => (character :: piece) :: pieces

/-- Whether `needle` occurs as a contiguous part of a text. -/
def containsList (needle : List Char) : List Char → Bool
  | [] => needle.isEmpty
  | character :: rest => needle.isPrefixOf (character :: rest) || containsList needle rest

/-- Whether `needle` occurs in `text`. -/
def contains (needle text : String) : Bool :=
  containsList needle.toList text.toList

/-- Whether `text` ends with `ending`. -/
def endsWith (ending text : String) : Bool :=
  ending.toList.isSuffixOf text.toList

/-- Replace every occurrence of one character by another. -/
def replaceChar (old new : Char) (text : String) : String :=
  String.ofList (text.toList.map fun character => if character == old then new else character)

/-- The first `count` characters. -/
def take (count : Nat) (text : String) : String :=
  String.ofList (text.toList.take count)

/-- All characters but the last. -/
def dropLast (text : String) : String :=
  String.ofList text.toList.dropLast

/-- The part after the last slash, or the whole text. -/
def afterLastSlash (text : String) : String :=
  String.ofList ((splitAt '/' text.toList).getLastD [])

/-- Fill with spaces on the right up to a width. -/
def padRight (width : Nat) (text : String) : String :=
  text ++ String.ofList (List.replicate (width - text.length) ' ')

/-- Fill with spaces on the left up to a width. -/
def padLeft (width : Nat) (text : String) : String :=
  String.ofList (List.replicate (width - text.length) ' ') ++ text

/-- Fill with zeros on the left up to a width. -/
def padZeros (width : Nat) (text : String) : String :=
  String.ofList (List.replicate (width - text.length) '0') ++ text

@[simp] theorem words_nil : words [] = [] := rfl

@[simp] theorem containsList_nil (text : List Char) : containsList [] text = true := by
  cases text <;> simp [containsList]

/-- A text occurs in another exactly when the other is the text between a part
before and a part after it. -/
theorem containsList_iff {needle text : List Char} :
    containsList needle text = true ↔ needle <:+: text := by
  induction text with
  | nil => simp [containsList]
  | cons character rest ih =>
      simp [containsList, ih, List.infix_cons_iff]

end Triage.Text
