import Triage.Number.Binary64
import Triage.Text.Basic

/-!
# Shortest decimal text of a floating-point number

A number is written with the fewest digits that read back as the same number,
and of those with the nearest digits.  Exponents from `-4` to `15` are written
out, all others in scientific notation.
-/

namespace Triage.Binary64

/-- The decimal number `digits * 10 ^ power`. -/
structure Decimal where
  digits : Nat
  power : Int
  deriving DecidableEq, Repr

/-- The exponent of the leading decimal digit of a positive quotient, from a low
estimate. -/
def raiseExponent (numerator denominator : Nat) : Nat → Int → Int
  | 0, estimate => estimate
  | fuel + 1, estimate =>
      let next := estimate + 1
      let reached :=
        if 0 ≤ next then denominator * Nat.pow 10 next.toNat ≤ numerator
        else denominator ≤ numerator * Nat.pow 10 (-next).toNat
      if reached then raiseExponent numerator denominator fuel next else estimate

/-- The exponent of the leading decimal digit of a positive quotient. -/
def leadingExponent (numerator denominator : Nat) : Int :=
  let binary : Int := (Nat.log2 numerator : Int) - Nat.log2 denominator
  raiseExponent numerator denominator 4 (binary * 30103 / 100000 - 2)

/-- A fraction divided by a power of ten, as a fraction. -/
def shiftDecimal (numerator denominator : Nat) (power : Int) : Nat × Nat :=
  if 0 ≤ power then (numerator, denominator * Nat.pow 10 power.toNat)
  else (numerator * Nat.pow 10 (-power).toNat, denominator)

/-- The two neighbours of a quotient on the grid of multiples of `10 ^ power`,
the nearer one first and of two equally near ones the even one. -/
def gridNeighbours (numerator denominator : Nat) (power : Int) : List Nat :=
  let scaled := shiftDecimal numerator denominator power
  let below := scaled.1 / scaled.2
  let nearest := roundHalfEven scaled.1 scaled.2
  if nearest == below then [below, below + 1] else [below + 1, below]

/-- Search for the least number of digits, from `count` upwards, at which a
decimal neighbour of the number reads back as the number. -/
def searchDigits (significand : Nat) (exponent leading : Int) : Nat → Nat → Decimal
  | 0, _ => ⟨0, leading⟩
  | fuel + 1, count =>
      let value := fraction significand exponent
      let power := leading - count + 1
      let reads := fun candidate =>
        ofDecimal false candidate power == .finite false significand exponent
      match (gridNeighbours value.1 value.2 power).find? reads with
      | some digits => ⟨digits, power⟩
      | none => searchDigits significand exponent leading fuel (count + 1)

/-- The shortest decimal that reads back as a positive finite number. -/
def shortest (significand : Nat) (exponent : Int) : Decimal :=
  let value := fraction significand exponent
  searchDigits significand exponent (leadingExponent value.1 value.2) 18 1

/-- The digits without the zeros at the end. -/
def withoutTrailingZeros (digits : List Char) : List Char :=
  Text.dropWhileEnd (· == '0') digits

/-- Positional or scientific notation of a digit text whose leading digit has
the given exponent. -/
def layout (digits : List Char) (exponent : Int) : List Char :=
  if -4 ≤ exponent && exponent < 16 then
    if exponent < 0 then
      '0' :: '.' :: (List.replicate (-exponent - 1).toNat '0' ++ digits)
    else
      let whole := exponent.toNat + 1
      let padded := digits ++ List.replicate (whole - digits.length) '0'
      let rest := padded.drop whole
      padded.take whole ++ '.' :: (if rest.isEmpty then ['0'] else rest)
  else
    let mantissa :=
      match digits with
      | [] => []
      | [digit] => [digit]
      | digit :: rest => digit :: '.' :: rest
    let sign := if exponent < 0 then '-' else '+'
    let power := (Text.padZeros 2 (toString exponent.natAbs)).toList
    mantissa ++ 'e' :: sign :: power

/-- The text of a number. -/
def text : Binary64 → String
  | .finite negative significand exponent =>
      let magnitude :=
        if significand == 0 then ['0', '.', '0']
        else
          let decimal := shortest significand exponent
          let digits := Nat.toDigits 10 decimal.digits
          layout (withoutTrailingZeros digits) (decimal.power + digits.length - 1)
      String.ofList (if negative then '-' :: magnitude else magnitude)
  | .infinite negative => if negative then "-inf" else "inf"
  | .notANumber => "nan"

end Triage.Binary64
