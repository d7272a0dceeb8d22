import Triage.Text.Encoding
import Triage.Text.Hex
import Triage.Text.Case

/-!
# Percent encoding

A byte is written as a percent sign and two upper-case hexadecimal digits, which
are read in either case.  A percent sign without two digits stands for itself.
-/

namespace Triage.Text.Percent

/-- A byte as a percent sign and two digits. -/
def byte (value : UInt8) : List Char :=
  '%' :: (hexDigits 2 value.toNat).map asciiUpperChar

/-- The bytes of a character, each as a percent sign and two digits. -/
def char (character : Char) : List Char :=
  (utf8 [character]).flatMap byte

/-- Every character that fails a test by its bytes. -/
def encode (safe : Char → Bool) (characters : List Char) : List Char :=
  characters.flatMap fun character => if safe character then [character] else char character

/-- The bytes that a text stands for. -/
def bytes : List Char → List UInt8
  | '%' :: high :: low :: rest =>
      match hexValue? high, hexValue? low with
      | some first, some second => UInt8.ofNat (first * 16 + second) :: bytes rest
      | _, _ => utf8 ['%'] ++ bytes (high :: low :: rest)
  | character :: rest => utf8 [character] ++ bytes rest
  | [] => []

/-- The characters that a text stands for. -/
def decode (characters : List Char) : List Char :=
  ofUtf8 (bytes characters)

/-- Characters that stand for themselves everywhere. -/
def isUnreserved (character : Char) : Bool :=
  character.isAlphanum || character == '-' || character == '_' || character == '.' ||
    character == '~'

/-- A character of a form's field: a space is a plus sign. -/
def formChar (character : Char) : List Char :=
  if isUnreserved character then [character]
  else if character == ' ' then ['+']
  else char character

/-- A text of a form's field. -/
def form (characters : List Char) : List Char :=
  characters.flatMap formChar

/-- Nothing changes in characters that all pass the test. -/
theorem encode_eq_self {safe : Char → Bool} {characters : List Char}
    (every : ∀ character ∈ characters, safe character = true) :
    encode safe characters = characters := by
  induction characters with
  | nil => rfl
  | cons first rest ih =>
      have here := every first (by simp)
      have there := ih fun character member => every character (by simp [member])
      simp only [encode] at there
      simp [encode, here, there]

end Triage.Text.Percent
