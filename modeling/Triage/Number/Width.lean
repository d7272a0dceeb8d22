/-!
# Integers of a width

The integers that a signed word of a number of bits holds.
-/

namespace Triage.Width

/-- Whether a signed word of a number of bits holds an integer. -/
def fits (bits : Nat) (value : Int) : Bool :=
  -(Nat.pow 2 (bits - 1) : Int) ≤ value && value < (Nat.pow 2 (bits - 1) : Int)

/-- Whether a word of 64 bits holds an integer. -/
def fits64 (value : Int) : Bool :=
  fits 64 value

/-- A word of 64 bits holds the integers from -9223372036854775808 to
9223372036854775807. -/
theorem fits64_iff (value : Int) :
    fits64 value = true ↔ -9223372036854775808 ≤ value ∧ value < 9223372036854775808 := by
  simp [fits64, fits]

end Triage.Width
