import Triage.Text.Basic
import Triage.Text.Hex

/-!
# Quoted text

The display form of a text between quotes.  Single quotes are used unless the
text holds one and no double quote; the quote in use, the backslash and every
character without a visible form are escaped.
-/

namespace Triage.Text

/-- The escape by code point: two, four or eight hexadecimal digits. -/
def codeEscape (code : Nat) : List Char :=
  if code < 0x100 then '\\' :: 'x' :: hexDigits 2 code
  else if code < 0x10000 then '\\' :: 'u' :: hexDigits 4 code
  else '\\' :: 'U' :: hexDigits 8 code

/-- One character inside quotes of the given kind. -/
def quoteChar (quote character : Char) : List Char :=
  if character == quote || character == '\\' then ['\\', character]
  else if character == '\n' then ['\\', 'n']
  else if character == '\r' then ['\\', 'r']
  else if character == '\t' then ['\\', 't']
  else if isVisible character then [character]
  else codeEscape character.toNat

/-- The quote used around a text. -/
def quoteFor (characters : List Char) : Char :=
  if characters.contains '\'' && !characters.contains '"' then '"' else '\''

/-- A text in its display form between quotes. -/
def quoted (text : String) : String :=
  let quote := quoteFor text.toList
  String.ofList (quote :: (text.toList.flatMap (quoteChar quote) ++ [quote]))

/-- A code point inside quotes of the given kind; one that is no character is
escaped. -/
def quoteCode (quote : Char) (code : Nat) : List Char :=
  if code.isValidChar then quoteChar quote (Char.ofNat code) else codeEscape code

/-- Code points in the display form of a text. -/
def quotedCodes (codes : List Nat) : String :=
  let quote := quoteFor (codes.map Char.ofNat)
  String.ofList (quote :: (codes.flatMap (quoteCode quote) ++ [quote]))

/-- A character is displayed by its code point. -/
theorem quoteCode_toNat (quote character : Char) :
    quoteCode quote character.toNat = quoteChar quote character := by
  have valid : character.toNat.isValidChar := character.valid
  simp [quoteCode, valid]

/-- Characters are displayed by their code points. -/
theorem quotedCodes_toNat (text : String) :
    quotedCodes (text.toList.map Char.toNat) = quoted text := by
  have same : Char.ofNat ∘ Char.toNat = id := funext Char.ofNat_toNat
  simp [quotedCodes, quoted, List.flatMap_map, quoteCode_toNat, same]

end Triage.Text
