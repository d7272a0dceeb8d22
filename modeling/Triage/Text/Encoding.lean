/-!
# Encodings of text

Characters as bytes and bytes as characters.  The tolerant reading of UTF-8 puts
the replacement character for bytes that form no character; the readings of the
wider encodings refuse them.
-/

namespace Triage.Text

/-- The bytes of characters in UTF-8. -/
def utf8 (characters : List Char) : List UInt8 :=
  characters.flatMap String.utf8EncodeChar

/-- The character that stands for bytes without a meaning. -/
def replacement : Char := Char.ofNat 0xFFFD

/-- A character whose bytes have not all been read. -/
structure OpenChar where
  /-- The number of bytes to come. -/
  missing : Nat
  /-- The least and the greatest value that the next byte may have. -/
  least : UInt8 := 0x80
  greatest : UInt8 := 0xBF
  /-- The bits read so far. -/
  bits : Nat
  deriving DecidableEq, Repr

/-- The characters that the first byte of a character completes, and the character
that it opens. -/
def firstByte (byte : UInt8) : List Char × Option OpenChar :=
  let bits := byte.toNat
  if byte < 0x80 then ([Char.ofNat bits], none)
  else if byte < 0xC2 then ([replacement], none)
  else if byte < 0xE0 then ([], some { missing := 1, bits := bits % 0x20 })
  else if byte < 0xF0 then
    ([], some {
      missing := 2
      least := if byte == 0xE0 then 0xA0 else 0x80
      greatest := if byte == 0xED then 0x9F else 0xBF
      bits := bits % 0x10 })
  else if byte < 0xF5 then
    ([], some {
      missing := 3
      least := if byte == 0xF0 then 0x90 else 0x80
      greatest := if byte == 0xF4 then 0x8F else 0xBF
      bits := bits % 0x08 })
  else ([replacement], none)

/-- The characters that a byte completes, and the character that is open after
it.  A byte that cannot go on with an open character ends it without a meaning
and is the first byte of another. -/
def nextByte (openChar : Option OpenChar) (byte : UInt8) : List Char × Option OpenChar :=
  match openChar with
  | none => firstByte byte
  | some opened =>
      if opened.least ≤ byte && byte ≤ opened.greatest then
        let bits := opened.bits * 0x40 + byte.toNat % 0x40
        if opened.missing ≤ 1 then ([Char.ofNat bits], none)
        else ([], some { missing := opened.missing - 1, bits := bits })
      else
        let next := firstByte byte
        (replacement :: next.1, next.2)

/-- The characters of bytes that follow an open character. -/
def charsFrom (openChar : Option OpenChar) : List UInt8 → List Char
  | [] => if openChar.isSome then [replacement] else []
  | byte :: rest =>
      let next := nextByte openChar byte
      next.1 ++ charsFrom next.2 rest

/-- The characters of bytes in UTF-8. -/
def ofUtf8 (bytes : List UInt8) : List Char :=
  charsFrom none bytes

/-! ## Wider encodings -/

/-- The order of the bytes of a unit. -/
inductive ByteOrder where
  /-- The most significant byte comes first. -/
  | big
  | little
  deriving DecidableEq, Repr

/-- The value of a unit's bytes. -/
def ByteOrder.value (order : ByteOrder) (bytes : List UInt8) : Nat :=
  let inOrder :=
    match order with
    | .big => bytes
    | .little => bytes.reverse
  inOrder.foldl (fun value byte => value * 0x100 + byte.toNat) 0

/-- The units of two bytes, if nothing is left over. -/
def pairUnits? (order : ByteOrder) : List UInt8 → Option (List Nat)
  | [] => some []
  | [_] => none
  | first :: second :: rest => (pairUnits? order rest).map (order.value [first, second] :: ·)

/-- The units of four bytes, if nothing is left over. -/
def quadUnits? (order : ByteOrder) : List UInt8 → Option (List Nat)
  | [] => some []
  | first :: second :: third :: fourth :: rest =>
      (quadUnits? order rest).map (order.value [first, second, third, fourth] :: ·)
  | _ => none

/-- Whether a unit is the first half of a pair that stands for one character. -/
def isHighSurrogate (unit : Nat) : Bool :=
  0xD800 ≤ unit && unit < 0xDC00

/-- Whether a unit is the second half of a pair. -/
def isLowSurrogate (unit : Nat) : Bool :=
  0xDC00 ≤ unit && unit < 0xE000

/-- The character of a pair of surrogates. -/
def surrogatePair (high low : Nat) : Char :=
  Char.ofNat (0x10000 + (high - 0xD800) * 0x400 + (low - 0xDC00))

/-- Whether a unit is a half of a pair. -/
def isHalf (unit : Nat) : Bool :=
  isHighSurrogate unit || isLowSurrogate unit

/-- The character by which a code point is shown; a half of a pair is none. -/
def unitChar (unit : Nat) : Char :=
  if isHalf unit then replacement else Char.ofNat unit

/-- The code points of units of two bytes; a half by itself is one too. -/
def ofUnits : List Nat → List Nat
  | [] => []
  | [unit] => [unit]
  | first :: second :: rest =>
      if isHighSurrogate first && isLowSurrogate second then
        (surrogatePair first second).toNat :: ofUnits rest
      else first :: ofUnits (second :: rest)

/-- The code points of bytes in UTF-16. -/
def ofUtf16? (order : ByteOrder) (bytes : List UInt8) : Option (List Nat) :=
  (pairUnits? order bytes).map ofUnits

/-- The code points of bytes in UTF-32. -/
def ofUtf32? (order : ByteOrder) (bytes : List UInt8) : Option (List Nat) :=
  (quadUnits? order bytes).bind fun units =>
    if units.all (· < 0x110000) then some units else none

/-- ASCII characters are read back from their bytes. -/
theorem charsFrom_ascii {character : Char} (ascii : character.toNat < 0x80)
    (rest : List UInt8) :
    charsFrom none (UInt8.ofNat character.toNat :: rest) = character :: charsFrom none rest := by
  have small : UInt8.ofNat character.toNat < 0x80 := by
    rw [UInt8.lt_iff_toNat_lt]
    simpa using Nat.lt_of_le_of_lt (Nat.mod_le _ _) ascii
  have value : (UInt8.ofNat character.toNat).toNat = character.toNat := by
    have below : character.toNat < 256 := by omega
    simpa using Nat.mod_eq_of_lt below
  have same : Char.ofNat character.toNat = character := Char.ofNat_toNat character
  simp [charsFrom, nextByte, firstByte, small, value, same]

end Triage.Text
