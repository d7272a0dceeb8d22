import Triage.Number.Binary64

/-!
# Decimal numbers written as text

An optional sign, digits with at most one point among them, and an optional
exponent behind the mark `e`, all in ASCII.  At least one digit stands on one
side of the point.
-/

namespace Triage

/-- The parts of a decimal number. -/
structure DecimalText where
  negative : Bool
  /-- The digits before the point. -/
  whole : List Char
  /-- The digits behind the point, if there is one. -/
  fraction : Option (List Char)
  exponent : Option Int
  deriving DecidableEq, Repr

namespace DecimalText

/-- An optional sign in front, and whether it is a minus sign. -/
def takeSign : List Char → Bool × List Char
  | '-' :: rest => (true, rest)
  | '+' :: rest => (false, rest)
  | rest => (false, rest)

/-- The value of a run of digits. -/
def digitsValue (digits : List Char) : Nat :=
  digits.foldl (fun value digit => value * 10 + Text.asciiDigitValue digit) 0

/-- A number with or without a minus sign. -/
def signed (negative : Bool) (magnitude : Nat) : Int :=
  if negative then -(magnitude : Int) else magnitude

/-- A run of digits with an optional sign. -/
def readInteger? (characters : List Char) : Option Int :=
  let parts := takeSign characters
  if parts.2.isEmpty || !parts.2.all Text.isAsciiDigit then none
  else some (signed parts.1 (digitsValue parts.2))

/-- An optional point with the digits behind it in front. -/
def takeFraction : List Char → Option (List Char) × List Char
  | '.' :: rest => (some (rest.takeWhile Text.isAsciiDigit), rest.dropWhile Text.isAsciiDigit)
  | rest => (none, rest)

/-- An optional exponent and nothing else. -/
def readExponent? : List Char → Option (Option Int)
  | [] => some none
  | mark :: rest =>
      if mark == 'e' || mark == 'E' then (readInteger? rest).map some else none

/-- The parts of a text that is a decimal number. -/
def ofList? (characters : List Char) : Option DecimalText :=
  let sign := takeSign characters
  let whole := sign.2.takeWhile Text.isAsciiDigit
  let fraction := takeFraction (sign.2.dropWhile Text.isAsciiDigit)
  if whole.isEmpty && (fraction.1.getD []).isEmpty then none
  else
    (readExponent? fraction.2).map fun exponent =>
      { negative := sign.1, whole := whole, fraction := fraction.1, exponent := exponent }

/-- Whether there are digits alone. -/
def isInteger (text : DecimalText) : Bool :=
  text.fraction.isNone && text.exponent.isNone

/-- The digits before the point as an integer. -/
def wholeValue (text : DecimalText) : Int :=
  signed text.negative (digitsValue text.whole)

/-- The number in the 64-bit binary format that is nearest. -/
def value (text : DecimalText) : Binary64 :=
  let fraction := text.fraction.getD []
  Binary64.ofDecimal text.negative (digitsValue (text.whole ++ fraction))
    (text.exponent.getD 0 - fraction.length)

end DecimalText

end Triage
