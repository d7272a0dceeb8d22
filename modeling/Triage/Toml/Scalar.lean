import Triage.Error
import Triage.Json.Reader
import Triage.Number.IntegerText

/-!
# Strings and numbers of TOML

Strings are basic, with escapes, or literal, and either kind may span lines.
Numbers are decimal, hexadecimal, octal or binary integers, or floating-point
numbers; single underscores may stand between digits.
-/

namespace Triage.Toml

/-- What was read, if the text is not malformed. -/
def orMalformed {α : Type} : Option α → Except SettingsFault α
  | some found => .ok found
  | none => .error .malformed

/-- A space or a tab. -/
def isSpace (character : Char) : Bool :=
  character == ' ' || character == '\t'

/-- A space, a tab or the end of a line. -/
def isSpaceOrNewline (character : Char) : Bool :=
  isSpace character || character == '\n'

/-- Drop spaces and tabs in front. -/
def skipSpace (characters : List Char) : List Char :=
  characters.dropWhile isSpace

/-- A control character that may not be written as itself; tabs may, and in
strings over several lines the end of a line. -/
def isIllegal (multiline : Bool) (character : Char) : Bool :=
  (character.toNat < 32 || character.toNat == 127) && character != '\t' &&
    !(multiline && character == '\n')

/-! ## Strings -/

/-- The value of exactly `count` hexadecimal digits in front. -/
def hexNumber? : Nat → Nat → List Char → Option (Nat × List Char)
  | 0, value, rest => some (value, rest)
  | count + 1, value, character :: rest =>
      match Text.hexValue? character with
      | some digit => hexNumber? count (value * 16 + digit) rest
      | none => none
  | _ + 1, _, [] => none

/-- The character of a number that is a Unicode scalar value. -/
def scalar? (value : Nat) : Option Char :=
  if value.isValidChar then some (Char.ofNat value) else none

/-- The character given by a number of hexadecimal digits. -/
def hexEscape? (count : Nat) (characters : List Char) : Option (List Char × List Char) := do
  let (value, rest) ← hexNumber? count 0 characters
  let character ← scalar? value
  some ([character], rest)

/-- A backslash at the end of a line, which hides the end of the line and all
blanks after it. -/
def lineEscape? (characters : List Char) : Option (List Char × List Char) :=
  match skipSpace characters with
  | [] => some ([], [])
  | '\n' :: rest => some ([], rest.dropWhile isSpaceOrNewline)
  | _ => none

/-- What an escape after its backslash stands for. -/
def escape? (multiline : Bool) (characters : List Char) : Option (List Char × List Char) :=
  match characters with
  | [] => none
  | letter :: rest =>
      if multiline && isSpaceOrNewline letter then lineEscape? characters
      else
        match letter with
        | 'e' => some ([Char.ofNat 27], rest)
        | 'x' => hexEscape? 2 rest
        | 'u' => hexEscape? 4 rest
        | 'U' => hexEscape? 8 rest
        | '/' => none
        | _ => (Json.shortEscape? letter).map fun character => ([character], rest)

/-- A basic string after its opening quotes; `reversed` holds the characters read
so far. -/
def basicBody (multiline : Bool) : Nat → List Char → List Char →
    Option (List Char × List Char)
  | 0, _, _ => none
  | fuel + 1, reversed, characters =>
      match characters with
      | [] => none
      | '"' :: rest =>
          if multiline then
            match rest with
            | '"' :: '"' :: after => some (reversed.reverse, after)
            | _ => basicBody multiline fuel ('"' :: reversed) rest
          else some (reversed.reverse, rest)
      | '\\' :: rest =>
          match escape? multiline rest with
          | some (meant, after) => basicBody multiline fuel (meant.reverse ++ reversed) after
          | none => none
      | character :: rest =>
          if isIllegal multiline character then none
          else basicBody multiline fuel (character :: reversed) rest

/-- A literal string after its opening quotes. -/
def literalBody (multiline : Bool) : List Char → Option (List Char × List Char)
  | [] => none
  | character :: rest =>
      if character == '\'' && (!multiline || ['\'', '\''].isPrefixOf rest) then
        some ([], if multiline then rest.drop 2 else rest)
      else if isIllegal multiline character then none
      else (literalBody multiline rest).map fun found => (character :: found.1, found.2)

/-- Up to two quotes that stand directly after the closing ones belong to a
string over several lines. -/
def extraQuotes (quote : Char) (found : List Char × List Char) : List Char × List Char :=
  let extra := (found.2.take 2).takeWhile (· == quote)
  (found.1 ++ extra, found.2.drop extra.length)

/-- Drop the end of the line directly after opening quotes. -/
def skipFirstNewline : List Char → List Char
  | '\n' :: rest => rest
  | characters => characters

/-- A string on one line. -/
def lineString? (characters : List Char) : Option (String × List Char) :=
  match characters with
  | '"' :: rest =>
      (basicBody false (rest.length + 1) [] rest).map fun found =>
        (String.ofList found.1, found.2)
  | '\'' :: rest => (literalBody false rest).map fun found => (String.ofList found.1, found.2)
  | _ => none

/-- A string. -/
def string? (characters : List Char) : Option (String × List Char) :=
  match characters with
  | '"' :: '"' :: '"' :: rest =>
      let body := skipFirstNewline rest
      (basicBody true (body.length + 1) [] body).map fun found =>
        let whole := extraQuotes '"' found
        (String.ofList whole.1, whole.2)
  | '\'' :: '\'' :: '\'' :: rest =>
      (literalBody true (skipFirstNewline rest)).map fun found =>
        let whole := extraQuotes '\'' found
        (String.ofList whole.1, whole.2)
  | _ => lineString? characters

/-! ## Numbers -/

/-- Digits in front, with single underscores between them. -/
def moreDigits (isDigit : Char → Bool) : List Char → List Char × List Char
  | [] => ([], [])
  | '_' :: character :: rest =>
      if isDigit character then
        let found := moreDigits isDigit rest
        (character :: found.1, found.2)
      else ([], '_' :: character :: rest)
  | character :: rest =>
      if isDigit character then
        let found := moreDigits isDigit rest
        (character :: found.1, found.2)
      else ([], character :: rest)

/-- One or more digits in front. -/
def digits? (isDigit : Char → Bool) : List Char → Option (List Char × List Char)
  | [] => none
  | character :: rest =>
      if isDigit character then
        let found := moreDigits isDigit rest
        some (character :: found.1, found.2)
      else none

/-- The value of digits in a base. -/
def valueIn (base : Nat) (digits : List Char) : Nat :=
  digits.foldl (fun value digit => value * base + (Text.hexValue? digit).getD 0) 0

/-- Whether a character is a digit of a base up to sixteen. -/
def isDigitOf (base : Nat) (character : Char) : Bool :=
  match Text.hexValue? character with
  | some value => value < base
  | none => false

/-- An integer with a mark of its base. -/
def markedInteger? (characters : List Char) : Option (Json × List Char) :=
  let ofBase := fun base rest =>
    (digits? (isDigitOf base) rest).map fun found => (Json.int (valueIn base found.1), found.2)
  match characters with
  | '0' :: 'x' :: rest => ofBase 16 rest
  | '0' :: 'b' :: rest => ofBase 2 rest
  | '0' :: 'o' :: rest => ofBase 8 rest
  | _ => none

/-- The integer part of a decimal number. -/
def whole? : List Char → Option (List Char × List Char)
  | '0' :: rest => some (['0'], rest)
  | characters => digits? Text.isAsciiDigit characters

/-- The digits after a decimal point, if any. -/
def fraction? : List Char → Option (List Char × List Char)
  | '.' :: rest => digits? Text.isAsciiDigit rest
  | _ => none

/-- The exponent of a decimal number, if any. -/
def exponent? : List Char → Option (Int × List Char)
  | mark :: rest =>
      if mark == 'e' || mark == 'E' then
        let signed : Bool × List Char :=
          match rest with
          | '-' :: more => (true, more)
          | '+' :: more => (false, more)
          | more => (false, more)
        (digits? Text.isAsciiDigit signed.2).map fun found =>
          let value : Int := valueIn 10 found.1
          (if signed.1 then -value else value, found.2)
      else none
  | [] => none

/-- A decimal number after its sign.  Only integers are limited in their number of
digits. -/
def decimal? (negative : Bool) (characters : List Char) :
    Option (Except SettingsFault Json × List Char) := do
  let (whole, afterWhole) ← whole? characters
  let fraction := fraction? afterWhole
  let afterFraction := (fraction.map Prod.snd).getD afterWhole
  let exponent := exponent? afterFraction
  let rest := (exponent.map Prod.snd).getD afterFraction
  if fraction.isNone && exponent.isNone then
    if IntegerText.digitLimit < whole.length then
      some (.error (.digits IntegerText.digitLimit whole.length), rest)
    else
      let value : Int := valueIn 10 whole
      some (.ok (.int (if negative then -value else value)), rest)
  else
    let places := (fraction.map Prod.fst).getD []
    let power := (exponent.map Prod.fst).getD 0 - places.length
    some (.ok (.real (Binary64.ofDecimal negative (valueIn 10 (whole ++ places)) power)), rest)

/-- The words for numbers beyond all others. -/
def wordNumber? (negative : Bool) (characters : List Char) : Option (Json × List Char) :=
  match characters with
  | 'i' :: 'n' :: 'f' :: rest => some (.real (.infinite negative), rest)
  | 'n' :: 'a' :: 'n' :: rest => some (.real .notANumber, rest)
  | _ => none

/-- A number after its sign. -/
def unsigned (negative : Bool) (characters : List Char) :
    Except SettingsFault (Json × List Char) :=
  match decimal? negative characters with
  | some (.ok value, rest) => .ok (value, rest)
  | some (.error fault, _) => .error fault
  | none => orMalformed (wordNumber? negative characters)

/-- A number. -/
def number (characters : List Char) : Except SettingsFault (Json × List Char) :=
  match markedInteger? characters with
  | some found => .ok found
  | none =>
      match characters with
      | '-' :: rest => unsigned true rest
      | '+' :: rest => unsigned false rest
      | rest => unsigned false rest

end Triage.Toml
