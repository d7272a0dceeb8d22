/-!
# Base 64

Bytes as letters, digits and two signs: three bytes make four characters, and a
shorter last group is filled up.
-/

namespace Triage.Text.Base64

/-- The characters in the order of their values. -/
def alphabet : List Char :=
  "ABCDEFGHIJKLMNOPQRSTUVWXYZabcdefghijklmnopqrstuvwxyz0123456789+/".toList

/-- The character that fills up the last group. -/
def filler : Char := '='

/-- The character of a value below 64. -/
def char (value : Nat) : Char :=
  alphabet.getD value filler

/-- The first characters of the number that three bytes make. -/
def group (count : Nat) (first second third : UInt8) : List Char :=
  let value := (first.toNat * 0x100 + second.toNat) * 0x100 + third.toNat
  [value / 0x40000, value / 0x1000 % 0x40, value / 0x40 % 0x40, value % 0x40].take count
    |>.map char

/-- Bytes in base 64. -/
def encode : List UInt8 → List Char
  | [] => []
  | [first] => group 2 first 0 0 ++ [filler, filler]
  | [first, second] => group 3 first second 0 ++ [filler]
  | first :: second :: third :: rest => group 4 first second third ++ encode rest

@[simp] theorem length_group (count : Nat) (first second third : UInt8) :
    (group count first second third).length = min count 4 := by
  simp [group]

/-- Three bytes, begun or whole, make four characters. -/
theorem length_encode (bytes : List UInt8) :
    (encode bytes).length = 4 * ((bytes.length + 2) / 3) := by
  fun_induction encode bytes with
  | case1 => rfl
  | case2 => simp
  | case3 => simp
  | case4 first second third rest ih =>
      simp only [List.length_append, length_group, List.length_cons, ih]
      omega

end Triage.Text.Base64
