import Triage.Text.ClassTable

/-!
# Character classes

Blank, word, visible and decimal characters of every script.  Each class is
decided by a rule for ASCII and by a table of ranges beyond it.
-/

namespace Triage.Text

/-- Membership in one of the closed intervals of a table. -/
def inRanges (table : Array (Nat × Nat)) (code : Nat) : Bool :=
  table.any fun range => range.1 ≤ code && code ≤ range.2

/-- A blank: the ASCII whitespace and separator controls, the next-line
control, and every space or line separator of Unicode. -/
def isBlank (character : Char) : Bool :=
  let code := character.toNat
  (9 ≤ code && code ≤ 13) || (28 ≤ code && code ≤ 32) || code == 0x85 || code == 0xA0 ||
    code == 0x1680 || (0x2000 ≤ code && code ≤ 0x200A) || code == 0x2028 || code == 0x2029 ||
    code == 0x202F || code == 0x205F || code == 0x3000

/-- White space as the Unicode property of that name lists it: a blank other
than the four information separators. -/
def isWhiteSpace (character : Char) : Bool :=
  isBlank character && !(28 ≤ character.toNat && character.toNat ≤ 31)

/-- A word character: a letter, digit or numeral of any script, or `_`. -/
def isWord (character : Char) : Bool :=
  let code := character.toNat
  if code < 128 then character.isAlphanum || character == '_'
  else inRanges ClassTable.word code

/-- A character with a visible form, the plain space included. -/
def isVisible (character : Char) : Bool :=
  let code := character.toNat
  if code < 128 then 32 ≤ code && code < 127
  else !inRanges ClassTable.invisible code

/-- The value of a decimal digit of any script. -/
def decimalValue? (character : Char) : Option Nat :=
  let code := character.toNat
  if code < 128 then
    if 48 ≤ code && code ≤ 57 then some (code - 48) else none
  else
    (ClassTable.decimalZero.find? fun first => first ≤ code && code ≤ first + 9).map (code - ·)

/-- An ASCII decimal digit. -/
def isAsciiDigit (character : Char) : Bool :=
  '0' ≤ character && character ≤ '9'

/-- The value of an ASCII decimal digit. -/
def asciiDigitValue (character : Char) : Nat :=
  character.toNat - 48

theorem toNat_of_isAsciiDigit {character : Char} (digit : isAsciiDigit character = true) :
    48 ≤ character.toNat ∧ character.toNat ≤ 57 := by
  simp only [isAsciiDigit, Bool.and_eq_true, decide_eq_true_eq] at digit
  exact digit

@[simp] theorem isBlank_space : isBlank ' ' = true := by decide

@[simp] theorem isBlank_colon : isBlank ':' = false := by decide

/-- Every ASCII whitespace character is a blank. -/
theorem isBlank_of_isWhitespace {character : Char} (whitespace : character.isWhitespace = true) :
    isBlank character = true := by
  simp only [Char.isWhitespace, Bool.or_eq_true, decide_eq_true_eq] at whitespace
  rcases whitespace with ((rfl | rfl) | rfl) | rfl <;> decide

end Triage.Text
