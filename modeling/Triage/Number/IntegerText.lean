import Triage.Text.Basic

/-!
# Integers written as text

Reading of signed decimal integers.  Digits may be separated by single
underscores, and white space around the number is ignored.
-/

namespace Triage.IntegerText

/-- The most digits a number may have. -/
def digitLimit : Nat := 4300

/-- Whether a number has no more digits than are written. -/
def isWritable (value : Int) : Bool :=
  decide (value.natAbs < Nat.pow 10 digitLimit)

/-- The digits that continue a number read so far as `value`. -/
def moreDigits? (digitValue? : Char → Option Nat) (value : Nat) : List Char → Option Nat
  | [] => some value
  | '_' :: character :: rest =>
      match digitValue? character with
      | some digit => moreDigits? digitValue? (value * 10 + digit) rest
      | none => none
  | character :: rest =>
      match digitValue? character with
      | some digit => moreDigits? digitValue? (value * 10 + digit) rest
      | none => none

/-- The value of a non-empty run of digits with single underscores between
them. -/
def digits? (digitValue? : Char → Option Nat) : List Char → Option Nat
  | [] => none
  | character :: rest =>
      match digitValue? character with
      | some digit => moreDigits? digitValue? digit rest
      | none => none

/-- A number with an optional sign. -/
def signed? (magnitude? : List Char → Option Nat) : List Char → Option Int
  | '-' :: rest => (magnitude? rest).map fun magnitude => -(magnitude : Int)
  | '+' :: rest => (magnitude? rest).map fun magnitude => (magnitude : Int)
  | characters => (magnitude? characters).map fun magnitude => (magnitude : Int)

/-- The value of an ASCII digit. -/
def asciiValue? (character : Char) : Option Nat :=
  if Text.isAsciiDigit character then some (Text.asciiDigitValue character) else none

/-- An integer in the digits of any script. -/
def read? (text : String) : Option Int :=
  let characters := Text.trimWhile Text.isWhiteSpace text.toList
  if digitLimit < (characters.filter fun character => (Text.decimalValue? character).isSome).length
  then none
  else signed? (digits? Text.decimalValue?) characters

/-- Remove a fractional part that consists of one or more zeros. -/
def withoutZeroFraction (characters : List Char) : List Char :=
  match Text.splitAt '.' characters with
  | [whole, fraction] =>
      if !fraction.isEmpty && fraction.all (· == '0') then whole else characters
  | _ => characters

/-- What is left of a number behind `last`, a zero or an underscore in front of
it, once all further ones are dropped.  One zero stays in front of a point, and
the last character stays when there is nothing else. -/
def afterZeros? (last : Char) : List Char → Option (List Char)
  | [] => some [last]
  | character :: rest =>
      if character == '0' || character == '_' then afterZeros? character rest
      else if Text.isAsciiDigit character || character == '-' then some (character :: rest)
      else if character == '.' then some (last :: character :: rest)
      else none

/-- A number without its leading zeros and the underscores among them. -/
def withoutLeadingZeros? : List Char → Option (List Char)
  | '0' :: rest => afterZeros? '0' rest
  | character :: rest =>
      if Text.isAsciiDigit character || character == '-' then some (character :: rest) else none
  | [] => none

/-- A number without its underscores, if they stand one at a time and inside
it. -/
def withoutUnderscores (characters : List Char) : List Char :=
  let pieces := Text.splitAt '_' characters
  if pieces.any List.isEmpty then characters else pieces.flatten

/-- What the text of an integer field holds. -/
inductive Reading where
  | number (value : Int)
  /-- The number has more digits than are read. -/
  | tooLong
  | unreadable
  deriving DecidableEq, Repr

/-- An integer in ASCII digits and nothing else: an optional minus sign, then a
zero that stands alone or digits of which the first is no zero. -/
def ofDigits (characters : List Char) : Reading :=
  let signed : Bool × List Char :=
    match characters with
    | '-' :: rest => (true, rest)
    | rest => (false, rest)
  match signed.2 with
  | ['0'] => .number 0
  | '0' :: _ => .unreadable
  | digits =>
      let run := digits.takeWhile Text.isAsciiDigit
      if digitLimit < run.length then .tooLong
      else if run.length < digits.length then .unreadable
      else
        match digits? asciiValue? run with
        | some magnitude => .number (if signed.1 then -(magnitude : Int) else magnitude)
        | none => .unreadable

/-- The sign and the digits of a field's number in plain form.  A minus sign may
also follow leading zeros, which it then turns into a sign of its own. -/
def plainForm? (characters : List Char) : Option (List Char) :=
  let plain := fun digits =>
    (withoutLeadingZeros? digits).map fun rest => withoutUnderscores (withoutZeroFraction rest)
  match characters with
  | '-' :: rest => (plain rest).map ('-' :: ·)
  | '+' :: '-' :: _ => none
  | '+' :: rest => plain rest
  | rest => plain rest

/-- The integer in a field's text: ASCII digits with single underscores between
them, optionally with leading zeros or a fractional part of zeros.  Only a number
that is plain as it stands can be too long. -/
def readField (text : String) : Reading :=
  let characters := text.toList
  match ofDigits characters with
  | .number value => .number value
  | .tooLong => .tooLong
  | .unreadable =>
      match (plainForm? (Text.trimWhile Text.isWhiteSpace characters)).map ofDigits with
      | some (.number value) => .number value
      | _ => .unreadable

end Triage.IntegerText
