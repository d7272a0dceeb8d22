/-!
# Punycode

Characters beyond ASCII are written behind the ASCII characters of a label, in
the order of their code points.  Each is given by the distance from the one
before, counted in code points and places, as a number whose digits have
thresholds that adapt to the distances so far.  A label is given by its code
points, which need not be characters.
-/

namespace Triage.Host.Punycode

/-- The number of digits. -/
def base : Nat := 36

/-- The bias before anything is written. -/
def firstBias : Nat := 72

/-- The character of a digit: letters come before figures. -/
def digitChar (digit : Nat) : Char :=
  if digit < 26 then Char.ofNat (97 + digit) else Char.ofNat (22 + digit)

/-- The digit of a lower-case letter or a figure. -/
def digitValue? (character : Char) : Option Nat :=
  if 'a' ≤ character && character ≤ 'z' then some (character.toNat - 97)
  else if '0' ≤ character && character ≤ '9' then some (character.toNat - 22)
  else none

/-- The threshold of a place; places count by the base. -/
def threshold (bias place : Nat) : Nat :=
  min (max (place - bias) 1) 26

theorem one_le_threshold (bias place : Nat) : 1 ≤ threshold bias place := by
  unfold threshold
  omega

theorem threshold_le (bias place : Nat) : threshold bias place ≤ 26 := by
  unfold threshold
  omega

/-- Reduce a distance to the range in which the bias is proportional to it; the
second part counts by how many places it was reduced. -/
def reduce (distance places : Nat) : Nat × Nat :=
  if 455 < distance then reduce (distance / 35) (places + base) else (distance, places)
termination_by distance
decreasing_by omega

/-- The bias after a distance, when some number of characters is written. -/
def adapt (distance count : Nat) (isFirst : Bool) : Nat :=
  let damped := if isFirst then distance / 700 else distance / 2
  let reduced := reduce (damped + damped / count) 0
  reduced.2 + base * reduced.1 / (reduced.1 + 38)

/-! ## Writing -/

/-- The digits of a distance, the lowest place first. -/
def digits (bias place distance : Nat) : List Char :=
  let limit := threshold bias place
  if distance < limit then [digitChar distance]
  else
    digitChar (limit + (distance - limit) % (base - limit)) ::
      digits bias (place + base) ((distance - limit) / (base - limit))
termination_by distance
decreasing_by
  have lower := one_le_threshold bias place
  have shrinks := Nat.div_le_self (distance - threshold bias place) (base - threshold bias place)
  omega

/-- What has been written, and from where the next distance is counted. -/
structure Writing where
  /-- The text so far. -/
  text : List Char
  distance : Nat
  bias : Nat := firstBias
  /-- The number of characters that are written. -/
  count : Nat
  isFirst : Bool := true

/-- Go over one character of the label while those with a code point are
written. -/
def Writing.pass (code : Nat) (writing : Writing) (passed : Nat) : Writing :=
  if passed < code then { writing with distance := writing.distance + 1 }
  else if passed == code then
    { text := writing.text ++ digits writing.bias base writing.distance
      distance := 0
      bias := adapt writing.distance (writing.count + 1) writing.isFirst
      count := writing.count + 1
      isFirst := false }
  else writing

/-- Write the characters with the given code points, which are above `last` and
in ascending order. -/
def writeCodes (label : List Nat) (last : Nat) (writing : Writing) : List Nat → Writing
  | [] => writing
  | code :: rest =>
      let start := { writing with
        distance := writing.distance + (code - last) * (writing.count + 1) }
      let done := label.foldl (Writing.pass code) start
      writeCodes label (code + 1) { done with distance := done.distance + 1 } rest

/-- The code points beyond ASCII in ascending order, each one once. -/
def codesOf (label : List Nat) : List Nat :=
  ((label.filter (128 ≤ ·)).mergeSort (· ≤ ·)).eraseDups

/-- A label in ASCII. -/
def encode (label : List Nat) : List Char :=
  let plain := (label.filter (· < 128)).map Char.ofNat
  let start := if plain.isEmpty then [] else plain ++ ['-']
  (writeCodes label 128 { text := start, distance := 0, count := plain.length }
    (codesOf label)).text

/-! ## Reading -/

/-- A distance and what follows its digits. -/
def readDistance? (bias : Nat) :
    (place weight distance : Nat) → List Char → Option (Nat × List Char)
  | _, _, _, [] => none
  | place, weight, distance, character :: rest =>
      match digitValue? character with
      | none => none
      | some digit =>
          let limit := threshold bias place
          let reached := distance + digit * weight
          if digit < limit then some (reached, rest)
          else readDistance? bias (place + base) (weight * (base - limit)) reached rest

/-- The greatest code point. -/
def lastCode : Nat := 0x10FFFF

/-- What has been read: the label so far, and the code point and the place of the
next one when its distance is zero. -/
structure Reading where
  codes : List Nat
  code : Nat := 128
  place : Nat := 0
  bias : Nat := firstBias
  isFirst : Bool := true

/-- Read distances up to the end, but at most as many as the first argument
says. -/
def readCodes? : Nat → Reading → List Char → Option (List Nat)
  | _, reading, [] => some reading.codes
  | 0, _, _ => none
  | most + 1, reading, text =>
      match readDistance? reading.bias base 1 0 text with
      | none => none
      | some (distance, rest) =>
          let count := reading.codes.length + 1
          let reached := reading.place + distance
          let code := reading.code + reached / count
          let place := reached % count
          if code ≤ lastCode then
            readCodes? most
              { codes := reading.codes.take place ++ code :: reading.codes.drop place
                code := code
                place := place + 1
                bias := adapt distance count reading.isFirst
                isFirst := false }
              rest
          else none

/-- The label that a text in lower case stands for.  What comes before its last
hyphen are characters that stand for themselves. -/
def decode? (text : List Char) : Option (List Nat) :=
  let behind := (text.reverse.takeWhile (· != '-')).reverse
  let plain := text.take (text.length - behind.length - 1)
  readCodes? behind.length { codes := plain.map Char.toNat } behind

/-- A digit is read back as its value. -/
theorem digitValue?_digitChar {digit : Nat} (small : digit < 36) :
    digitValue? (digitChar digit) = some digit := by
  have every : ∀ each ∈ List.range 36, digitValue? (digitChar each) = some each := by decide
  exact every digit (List.mem_range.mpr small)

end Triage.Host.Punycode
