import Triage.Json.Room

/-!
# Reading JSON

The grammar of JSON with three additions: the words `NaN`, `Infinity` and
`-Infinity` are numbers.  A number with a fraction or an exponent is a
floating-point number, any other an integer.  Of a repeated key the last value
counts.  Control characters inside strings are refused.  An escape may name a half
of a surrogate pair, which a text keeps and the key of a field does not.
-/

namespace Triage.Json

/-- White space between tokens. -/
def isSpace (character : Char) : Bool :=
  character == ' ' || character == '\t' || character == '\n' || character == '\r'

/-- Drop white space in front. -/
def skipSpace (characters : List Char) : List Char :=
  characters.dropWhile isSpace

/-- The value of four hexadecimal digits. -/
def hexQuad? : List Char → Option (Nat × List Char)
  | a :: b :: c :: d :: rest => do
      let a ← Text.hexValue? a
      let b ← Text.hexValue? b
      let c ← Text.hexValue? c
      let d ← Text.hexValue? d
      some (((a * 16 + b) * 16 + c) * 16 + d, rest)
  | _ => none

/-- The code point of an escape by code unit, given what follows the four digits.
A pair of surrogates is one character, and a half by itself stays what it is. -/
def unicodeEscape (unit : Nat) (rest : List Char) : Nat × List Char :=
  match rest with
  | '\\' :: 'u' :: more =>
      match hexQuad? more with
      | some (low, after) =>
          if Text.isHighSurrogate unit && Text.isLowSurrogate low then
            ((Text.surrogatePair unit low).toNat, after)
          else (unit, rest)
      | none => (unit, rest)
  | _ => (unit, rest)

/-- The character that a one-letter escape stands for. -/
def shortEscape? (character : Char) : Option Char :=
  match character with
  | '"' => some '"'
  | '\\' => some '\\'
  | '/' => some '/'
  | 'b' => some (Char.ofNat 8)
  | 'f' => some (Char.ofNat 12)
  | 'n' => some '\n'
  | 'r' => some '\r'
  | 't' => some '\t'
  | _ => none

/-- The code points of the rest of a string after its opening quote; `reversed` holds
those read so far. -/
def readString : Nat → List Nat → List Char → Option (List Nat × List Char)
  | 0, _, _ => none
  | fuel + 1, reversed, characters =>
      match characters with
      | [] => none
      | '"' :: rest => some (reversed.reverse, rest)
      | '\\' :: 'u' :: rest =>
          match hexQuad? rest with
          | some (unit, after) =>
              let escape := unicodeEscape unit after
              readString fuel (escape.1 :: reversed) escape.2
          | none => none
      | '\\' :: letter :: rest =>
          match shortEscape? letter with
          | some character => readString fuel (character.toNat :: reversed) rest
          | none => none
      | character :: rest =>
          if character.toNat < 32 then none
          else readString fuel (character.toNat :: reversed) rest

/-- The value of a run of ASCII digits. -/
def digitsValue (digits : List Char) : Nat :=
  digits.foldl (fun value digit => value * 10 + Text.asciiDigitValue digit) 0

/-- The integer part of a number: a zero, or digits without a leading zero. -/
def readWhole? : List Char → Option (List Char × List Char)
  | [] => none
  | '0' :: rest => some (['0'], rest)
  | characters =>
      match characters.takeWhile Text.isAsciiDigit with
      | [] => none
      | digits => some (digits, characters.dropWhile Text.isAsciiDigit)

/-- The digits of a fraction, none if no fraction follows. -/
def readFraction : List Char → List Char × List Char
  | '.' :: rest =>
      match rest.takeWhile Text.isAsciiDigit with
      | [] => ([], '.' :: rest)
      | digits => (digits, rest.dropWhile Text.isAsciiDigit)
  | characters => ([], characters)

/-- The exponent of a number, if one follows. -/
def readExponent (characters : List Char) : Option Int × List Char :=
  match characters with
  | mark :: rest =>
      if mark == 'e' || mark == 'E' then
        let signed : Bool × List Char :=
          match rest with
          | '-' :: more => (true, more)
          | '+' :: more => (false, more)
          | more => (false, more)
        match signed.2.takeWhile Text.isAsciiDigit with
        | [] => (none, characters)
        | digits =>
            let value : Int := digitsValue digits
            (some (if signed.1 then -value else value), signed.2.dropWhile Text.isAsciiDigit)
      else (none, characters)
  | [] => (none, [])

/-- A number after its sign. -/
def readNumber? (negative : Bool) (characters : List Char) : Option (Json × List Char) :=
  match readWhole? characters with
  | none => none
  | some (whole, afterWhole) =>
      let fraction := readFraction afterWhole
      let exponent := readExponent fraction.2
      if fraction.1.isEmpty && exponent.1.isNone then
        if IntegerText.digitLimit < whole.length then none
        else
          let value : Int := digitsValue whole
          some (.int (if negative then -value else value), exponent.2)
      else
        let digits := digitsValue (whole ++ fraction.1)
        let power := exponent.1.getD 0 - fraction.1.length
        some (.real (Binary64.ofDecimal negative digits power), exponent.2)

/-- Drop a word in front. -/
def skipWord? (word : String) (characters : List Char) : Option (List Char) :=
  if word.toList.isPrefixOf characters then some (characters.drop word.length) else none

/-- A word or a number. -/
def readAtom? (characters : List Char) : Option (Json × List Char) :=
  match characters with
  | 'n' :: _ => (skipWord? "null" characters).map (.null, ·)
  | 't' :: _ => (skipWord? "true" characters).map (.bool true, ·)
  | 'f' :: _ => (skipWord? "false" characters).map (.bool false, ·)
  | 'N' :: _ => (skipWord? "NaN" characters).map (.real .notANumber, ·)
  | 'I' :: _ => (skipWord? "Infinity" characters).map (.real (.infinite false), ·)
  | '-' :: 'I' :: _ => (skipWord? "-Infinity" characters).map (.real (.infinite true), ·)
  | '-' :: rest => readNumber? true rest
  | _ => readNumber? false characters

/-- Why a text is not read. -/
inductive ReadingFault where
  | malformed
  /-- There is no room for what begins within other values. -/
  | nesting (container : Container)
  deriving DecidableEq, Repr

/-- What was read, if the text is not malformed. -/
def orMalformed {α : Type} : Option α → Except ReadingFault α
  | some found => .ok found
  | none => .error .malformed

/-- The room within a container, of which there must be some. -/
def roomWithin (container : Container) : Nat → Except ReadingFault Nat
  | 0 => .error (.nesting container)
  | room + 1 => .ok room

/-- The key of a field, without halves of pairs. -/
def keyOfCodes (codes : List Nat) : String :=
  String.ofList (codes.map Text.unitChar)

mutual

/-- A value without white space in front, where there is room for so many arrays and
objects within each other; `fuel` bounds the number of values. -/
def readValue : Nat → Nat → List Char → Except ReadingFault (Json × List Char)
  | 0, _, _ => .error .malformed
  | fuel + 1, room, characters =>
      match characters with
      | '"' :: rest => do
          let string ← orMalformed (readString (fuel + 1) [] rest)
          return (ofCodes string.1, string.2)
      | '[' :: rest => do
          let inner ← roomWithin .array room
          match skipSpace rest with
          | ']' :: after => return (.arr [], after)
          | items => readItems fuel inner [] items
      | '{' :: rest => do
          let inner ← roomWithin .object room
          match skipSpace rest with
          | '}' :: after => return (.obj [], after)
          | fields => readFields fuel inner [] fields
      | _ => orMalformed (readAtom? characters)

/-- The items of an array up to the closing bracket; `reversed` holds those
read so far. -/
def readItems : Nat → Nat → List Json → List Char → Except ReadingFault (Json × List Char)
  | 0, _, _, _ => .error .malformed
  | fuel + 1, room, reversed, characters => do
      let (item, after) ← readValue fuel room characters
      match skipSpace after with
      | ',' :: rest => readItems fuel room (item :: reversed) (skipSpace rest)
      | ']' :: rest => return (.arr (item :: reversed).reverse, rest)
      | _ => throw .malformed

/-- The fields of an object up to the closing brace; `reversed` holds those
read so far. -/
def readFields : Nat → Nat → List (String × Json) → List Char →
    Except ReadingFault (Json × List Char)
  | 0, _, _, _ => .error .malformed
  | fuel + 1, room, reversed, characters =>
      match characters with
      | '"' :: rest => do
          let (codes, afterKey) ← orMalformed (readString (fuel + 1) [] rest)
          match skipSpace afterKey with
          | ':' :: afterColon =>
              let (value, afterValue) ← readValue fuel room (skipSpace afterColon)
              let known := (keyOfCodes codes, value) :: reversed
              match skipSpace afterValue with
              | ',' :: more => readFields fuel room known (skipSpace more)
              | '}' :: more => return (.obj (Keyed.ofList known.reverse), more)
              | _ => throw .malformed
          | _ => throw .malformed
      | _ => .error .malformed

end

/-- The value of a list of characters that holds exactly one. -/
def readList (room : Nat) (characters : List Char) : Except ReadingFault Json := do
  let (value, rest) ← readValue (characters.length + 1) room (skipSpace characters)
  if (skipSpace rest).isEmpty then return value else throw .malformed

/-- The value of a text that holds exactly one, for which there is room enough. -/
def read? (text : String) : Option Json :=
  (readList text.length text.toList).toOption

end Triage.Json
