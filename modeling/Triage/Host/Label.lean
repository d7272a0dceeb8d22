import Triage.Host.Composition
import Triage.Host.Direction
import Triage.Host.Punycode

/-!
# Labels

A label is a part of a host's name between points.  It holds lower-case letters,
digits, hyphens and marks in normal form; some characters are allowed only beside
certain others.  In ASCII a label with other characters begins with `xn--`.
-/

namespace Triage.Host.Label

/-- The start of a label that is encoded. -/
def encodedStart : List Char := ['x', 'n', '-', '-']

/-! ## Characters that depend on their neighbours -/

/-- Whether a character is allowed anywhere in a label. -/
def isPermitted (code : Nat) : Bool :=
  Text.inRanges LabelTable.permitted code || Text.inRanges LabelTable.unsettled code ||
    LabelTable.everyOther.any fun range =>
      range.1 ≤ code && code ≤ range.2 && (code - range.1) % 2 == 0

/-- Whether a character is a mark that suppresses the vowel before it. -/
def endsSyllable (code : Nat) : Bool :=
  Composition.markClass code == 9

/-- Whether the nearest character that joining does not skip is in a class. -/
def meets (tables : List (Array (Nat × Nat))) (codes : List Nat) : Bool :=
  match codes.dropWhile (Text.inRanges LabelTable.transparent) with
  | [] => false
  | next :: _ => tables.any fun table => Text.inRanges table next

/-- Whether a joiner may stand behind the reversed text `before` and in front of
`after`. -/
def joinerFits (separates : Bool) (before after : List Nat) : Bool :=
  before.head?.any endsSyllable ||
    separates && meets [LabelTable.joiningLeft, LabelTable.joiningBoth] before &&
      meets [LabelTable.joiningRight, LabelTable.joiningBoth] after

/-- Ideographs that have no names of their own. -/
def unnamed : Array (Nat × Nat) :=
  #[(0x17000, 0x187F7), (0x18D00, 0x18D08)]

/-- Whether the combining class of a character that is allowed can be told.  That of a character
without a name cannot. -/
def isKnown (code : Nat) : Bool :=
  !Text.inRanges LabelTable.unsettled code && !Text.inRanges unnamed code

/-- What is wrong with a joiner behind the reversed text `before`. -/
def joinerFault? (label before after : List Nat) (code : Nat) : Option LabelFault :=
  let position := before.length + 1
  if before.head?.any fun neighbour => !isKnown neighbour then
    some (.unknownNeighbour code position label)
  else if joinerFits (code == 0x200C) before after then none
  else some (.joiner code position label)

/-- Whether a character in a range is in the text. -/
def holds (first last : Nat) (label : List Nat) : Bool :=
  label.any fun code => first ≤ code && code ≤ last

/-- The code point of the small letter l. -/
def smallL : Nat := 0x6C

/-- Whether a character that depends on others in the label may stand between
`before`, which is reversed, and `after`; nothing if it is no such character. -/
def contextFits? (label before after : List Nat) (code : Nat) : Option Bool :=
  if code == 0xB7 then some (before.head? == some smallL && after.head? == some smallL)
  else if code == 0x375 then some (after.head?.any (Text.inRanges LabelTable.greek))
  else if code == 0x5F3 || code == 0x5F4 then
    some (before.head?.any (Text.inRanges LabelTable.hebrew))
  else if code == 0x30FB then some (label.any (Text.inRanges LabelTable.kanaOrHan))
  else if 0x660 ≤ code && code ≤ 0x669 then some (!holds 0x6F0 0x6F9 label)
  else if 0x6F0 ≤ code && code ≤ 0x6F9 then some (!holds 0x660 0x669 label)
  else none

/-- What is wrong with a character of a label behind the reversed text `before`.
Positions count from one. -/
def charFault? (label before after : List Nat) (code : Nat) : Option LabelFault :=
  let position := before.length + 1
  if isPermitted code then none
  else if code == 0x200C || code == 0x200D then joinerFault? label before after code
  else
    match contextFits? label before after code with
    | some true => none
    | some false => some (.context code position label)
    | none => some (.character code position label)

/-- What is wrong with the first character at fault behind the reversed text
`before`. -/
def charsFault? (label before : List Nat) : List Nat → Option LabelFault
  | [] => none
  | code :: rest =>
      (charFault? label before rest code).or (charsFault? label (code :: before) rest)

/-! ## Whole labels -/

/-- The code point of the hyphen. -/
def hyphen : Nat := 0x2D

/-- What is wrong with hyphens of a label. -/
def hyphenFault? (label : List Nat) : Option LabelFault :=
  if (label.drop 2).take 2 == [hyphen, hyphen] then some .innerHyphens
  else if label.head? == some hyphen || label.getLast? == some hyphen then some .outerHyphen
  else none

/-- What is wrong with a label that is given by its own code points. -/
def fault? (label : List Nat) : Option LabelFault :=
  if label.isEmpty then some .empty
  else if !Composition.isNormal label then some .notNormal
  else
    (hyphenFault? label).or <|
      if label.head?.any (Text.inRanges LabelTable.marks) then some .initialMark
      else (charsFault? label [] label).or (Direction.fault? label)

/-- What is wrong with the content of an encoded label, which must be the one way
to encode a label that is in order. -/
def contentFault? (content : List Char) : Option LabelFault :=
  if content.isEmpty then some .noContent
  else if content.getLast? == some '-' then some .lastHyphen
  else
    match Punycode.decode? content with
    | some label =>
        if Punycode.encode label == content then fault? label else some .notCanonical
    | none => some .undecodable

/-- What is wrong with a label in ASCII. -/
def asciiFault? (label : List Char) : Option LabelFault :=
  let plain := label.map Text.asciiLowerChar
  if encodedStart.isPrefixOf plain then contentFault? (plain.drop encodedStart.length)
  else fault? (plain.map Char.toNat)

/-- The most characters of a label in ASCII. -/
def limit : Nat := 63

/-- A label in ASCII, if it is in order and not too long.  Encoding does not make
a label shorter. -/
def toAscii? (label : List Char) : Option (List Char) :=
  if limit < label.length then none
  else if label.all fun character => character.toNat < 128 then
    if (asciiFault? label).isNone then some label else none
  else if (fault? (label.map Char.toNat)).isNone then
    let encoded := encodedStart ++ Punycode.encode (label.map Char.toNat)
    if encoded.length ≤ limit then some encoded else none
  else none

/-- A label in ASCII keeps to the limit. -/
theorem length_le_of_toAscii? {label encoded : List Char}
    (made : toAscii? label = some encoded) : encoded.length ≤ limit := by
  unfold toAscii? at made
  split at made
  · simp at made
  · next short =>
      split at made
      · split at made
        · simp only [Option.some.injEq] at made
          subst made
          omega
        · simp at made
      · split at made
        · simp only [Option.ite_none_right_eq_some, Option.some.injEq] at made
          obtain ⟨within, rfl⟩ := made
          exact within
        · simp at made

end Triage.Host.Label
