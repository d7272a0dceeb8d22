import Triage.Text.CharClass

/-!
# Binary floating-point numbers

Numbers of the 64-bit binary format as exact values.  A finite number is a sign,
a significand below `2 ^ 53` and a power of two; all rounding goes through one
function, which rounds a quotient to the nearest number and a tie to the even
significand.
-/

namespace Triage

/-- A number of the 64-bit binary format. -/
inductive Binary64 where
  /-- The number `± significand * 2 ^ exponent`. -/
  | finite (negative : Bool) (significand : Nat) (exponent : Int)
  | infinite (negative : Bool)
  | notANumber
  deriving DecidableEq, Repr, Inhabited

namespace Binary64

/-- Positive zero. -/
def zero : Binary64 := .finite false 0 (-1074)

/-- The quotient rounded to the nearest natural number, a tie to the even one. -/
def roundHalfEven (numerator denominator : Nat) : Nat :=
  let quotient := numerator / denominator
  let double := 2 * (numerator % denominator)
  if double < denominator then quotient
  else if denominator < double then quotient + 1
  else quotient + quotient % 2

/-- The quotient rounded to the nearest natural number, a tie away from zero. -/
def roundHalfUp (numerator denominator : Nat) : Nat :=
  (2 * numerator + denominator) / (2 * denominator)

/-- A fraction divided by a power of two, as a fraction. -/
def shiftFraction (numerator denominator : Nat) (exponent : Int) : Nat × Nat :=
  if 0 ≤ exponent then (numerator, denominator * Nat.pow 2 exponent.toNat)
  else (numerator * Nat.pow 2 (-exponent).toNat, denominator)

/-- The exponent at which a positive quotient has a significand of 53 bits, but
never less than the least exponent of the format. -/
def exponentFor (numerator denominator : Nat) : Int :=
  let estimate : Int := (Nat.log2 numerator : Int) - Nat.log2 denominator
  let scaled := shiftFraction numerator denominator estimate
  let top := if scaled.2 ≤ scaled.1 then estimate else estimate - 1
  max (top - 52) (-1074)

/-- The number nearest to `± numerator / denominator`. -/
def ofRatio (negative : Bool) (numerator denominator : Nat) : Binary64 :=
  if numerator == 0 || denominator == 0 then .finite negative 0 (-1074)
  else
    let exponent := exponentFor numerator denominator
    let scaled := shiftFraction numerator denominator exponent
    let significand := roundHalfEven scaled.1 scaled.2
    if significand == Nat.pow 2 53 then
      if 971 ≤ exponent then .infinite negative
      else .finite negative (Nat.pow 2 52) (exponent + 1)
    else if 971 < exponent then .infinite negative
    else .finite negative significand exponent

/-- The number nearest to `± digits * 10 ^ exponent`.  Exponents far beyond the
range of the format are decided without computing the power. -/
def ofDecimal (negative : Bool) (digits : Nat) (exponent : Int) : Binary64 :=
  if digits == 0 then .finite negative 0 (-1074)
  else
    let magnitude : Int := exponent + Nat.log2 digits * 30103 / 100000
    if 400 < magnitude then .infinite negative
    else if magnitude < -400 then .finite negative 0 (-1074)
    else if 0 ≤ exponent then ofRatio negative (digits * Nat.pow 10 exponent.toNat) 1
    else ofRatio negative digits (Nat.pow 10 (-exponent).toNat)

/-- The number nearest to an integer. -/
def ofInt (value : Int) : Binary64 :=
  ofRatio (value < 0) value.natAbs 1

/-- The magnitude of a finite number as a fraction. -/
def fraction (significand : Nat) (exponent : Int) : Nat × Nat :=
  if 0 ≤ exponent then (significand * Nat.pow 2 exponent.toNat, 1)
  else (significand, Nat.pow 2 (-exponent).toNat)

/-- Whether a number is one of the two zeros. -/
def isZero : Binary64 → Bool
  | .finite _ significand _ => significand == 0
  | _ => false

/-- Whether a number is finite and without a fractional part. -/
def isIntegral : Binary64 → Bool
  | .finite _ significand exponent =>
      let value := fraction significand exponent
      value.1 % value.2 == 0
  | _ => false

/-- The integer part of a finite number, rounded toward zero. -/
def truncate? : Binary64 → Option Int
  | .finite negative significand exponent =>
      let value := fraction significand exponent
      let whole : Int := (value.1 / value.2 : Nat)
      some (if negative then -whole else whole)
  | _ => none

/-- The greatest integer not above a finite number. -/
def floor? : Binary64 → Option Int
  | .finite negative significand exponent =>
      let value := fraction significand exponent
      let whole : Int := (value.1 / value.2 : Nat)
      some (if negative then (if value.1 % value.2 == 0 then -whole else -whole - 1) else whole)
  | _ => none

/-- The least integer not below a finite number. -/
def ceil? : Binary64 → Option Int
  | .finite negative significand exponent =>
      let value := fraction significand exponent
      let whole : Int := (value.1 / value.2 : Nat)
      some (if negative then -whole else (if value.1 % value.2 == 0 then whole else whole + 1))
  | _ => none

/-- The difference between a finite number and the greatest integer not above
it, rounded to the format. -/
def aboveFloor : Binary64 → Binary64
  | .finite negative significand exponent =>
      let value := fraction significand exponent
      let rest := value.1 % value.2
      ofRatio false (if negative && rest != 0 then value.2 - rest else rest) value.2
  | _ => zero

/-- The magnitude of a finite number's fractional part, which is a number of the
format. -/
def fractionalPart : Binary64 → Binary64
  | .finite _ significand exponent =>
      let value := fraction significand exponent
      ofRatio false (value.1 % value.2) value.2
  | _ => zero

/-- The magnitude of a finite number times a natural number, rounded to the
format; given as a fraction. -/
def scaled (factor : Nat) : Binary64 → Nat × Nat
  | .finite _ significand exponent =>
      let value := fraction significand exponent
      match ofRatio false (value.1 * factor) value.2 with
      | .finite _ product power => fraction product power
      | _ => (0, 1)
  | _ => (0, 1)

/-- The magnitude of a finite number times a natural number, rounded first to
the format and then to an integer, a tie away from zero. -/
def scaledRound (factor : Nat) (number : Binary64) : Nat :=
  let product := number.scaled factor
  roundHalfUp product.1 product.2

/-- The number of the opposite sign. -/
def neg : Binary64 → Binary64
  | .finite negative significand exponent => .finite (!negative) significand exponent
  | .infinite negative => .infinite (!negative)
  | .notANumber => .notANumber

/-- A numerator with the sign of its number. -/
def withSign (negative : Bool) (numerator : Nat) : Int :=
  if negative then -(numerator : Int) else numerator

/-- The number nearest to the sum of two numbers.  A sum of zero is negative only
if both numbers are. -/
def add : Binary64 → Binary64 → Binary64
  | .finite negative significand exponent, .finite negative' significand' exponent' =>
      let first := fraction significand exponent
      let second := fraction significand' exponent'
      let sum := withSign negative first.1 * second.2 + withSign negative' second.1 * first.2
      ofRatio (sum < 0 || (sum == 0 && negative && negative')) sum.natAbs (first.2 * second.2)
  | .infinite negative, .infinite negative' =>
      if negative == negative' then .infinite negative else .notANumber
  | .notANumber, _ => .notANumber
  | _, .notANumber => .notANumber
  | .infinite negative, _ => .infinite negative
  | _, .infinite negative => .infinite negative

/-- The number nearest to the difference of two numbers. -/
def sub (first second : Binary64) : Binary64 :=
  first.add second.neg

/-- Whether the first number is below the second; no order holds for a number
that is none. -/
def lt : Binary64 → Binary64 → Bool
  | .finite negative significand exponent, .finite negative' significand' exponent' =>
      let first := fraction significand exponent
      let second := fraction significand' exponent'
      withSign negative first.1 * second.2 < withSign negative' second.1 * first.2
  | .notANumber, _ => false
  | _, .notANumber => false
  | .infinite negative, .infinite negative' => negative && !negative'
  | .infinite negative, _ => negative
  | _, .infinite negative => !negative

/-- Whether the first number is below an integer; no order holds for a number
that is none. -/
def ltInt : Binary64 → Int → Bool
  | .finite negative significand exponent, bound =>
      let value := fraction significand exponent
      withSign negative value.1 < bound * value.2
  | .infinite negative, _ => negative
  | .notANumber, _ => false

/-- Whether an integer is below a number; no order holds for a number that is
none. -/
def intLt (bound : Int) : Binary64 → Bool
  | .finite negative significand exponent =>
      let value := fraction significand exponent
      bound * value.2 < withSign negative value.1
  | .infinite negative => !negative
  | .notANumber => false

@[simp] theorem isZero_zero : isZero zero = true := rfl

@[simp] theorem ofRatio_zero (negative : Bool) (denominator : Nat) :
    ofRatio negative 0 denominator = .finite negative 0 (-1074) := by
  simp [ofRatio]

end Binary64

end Triage
