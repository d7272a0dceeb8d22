import Mathlib.Algebra.Group.Nat.Defs
import Triage.Number.IntegerText

/-!
# Values of decimal digits

A run of decimal digits has a value below the power of ten for its length, so a number
of few enough digits is one that is written.
-/

namespace Triage

namespace Text

/-- The value of digits after a number lies within what their number allows. -/
theorem foldl_digits_bounds {digits : List Char}
    (every : ∀ character ∈ digits, isAsciiDigit character = true) (known : Nat) :
    known * 10 ^ digits.length ≤
        digits.foldl (fun value digit => value * 10 + asciiDigitValue digit) known ∧
      digits.foldl (fun value digit => value * 10 + asciiDigitValue digit) known <
        (known + 1) * 10 ^ digits.length := by
  induction digits generalizing known with
  | nil => simp
  | cons digit digits ih =>
      have digitValue : asciiDigitValue digit < 10 := by
        have bounds := toNat_of_isAsciiDigit (every digit List.mem_cons_self)
        simp only [asciiDigitValue]
        omega
      obtain ⟨low, high⟩ := ih (fun character member => every character (by simp [member]))
        (known * 10 + asciiDigitValue digit)
      rw [List.foldl_cons, List.length_cons, Nat.pow_succ, Nat.mul_comm _ 10, ← Nat.mul_assoc,
        ← Nat.mul_assoc]
      exact ⟨Nat.le_trans (Nat.mul_le_mul_right _ (by omega)) low,
        Nat.lt_of_lt_of_le high (Nat.mul_le_mul_right _ (by omega))⟩

end Text

namespace IntegerText

/-- A number of no more digits than are written is written. -/
theorem isWritable_of_lt {value : Int} {count : Nat} (few : count ≤ digitLimit)
    (below : value.natAbs < 10 ^ count) : isWritable value = true := by
  rw [isWritable, decide_eq_true_eq]
  -- the limit is not to be evaluated as an exponent
  generalize digitLimit = limit at few ⊢
  exact Nat.lt_of_lt_of_le below (Nat.pow_le_pow_right (by decide) few)

end IntegerText

end Triage
