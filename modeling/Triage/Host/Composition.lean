import Triage.Host.CompositionTable
import Triage.Text.CharClass

/-!
# Composition

Two characters in a row may have a composite that stands for both.  A text is in
normal form if every composite that can be formed is formed, marks are in the
order of their combining classes, and no character is left that is always written
otherwise.  Texts are given by their code points.
-/

namespace Triage.Host.Composition

/-- The combining class of a character; one that begins a group of marks has
class zero. -/
def markClass (code : Nat) : Nat :=
  match CompositionTable.classes.find? fun entry => entry.1 ≤ code && code ≤ entry.2.1 with
  | some entry => entry.2.2
  | none => 0

/-! ## Syllables -/

namespace Syllable

/-- The first syllable of Hangul. -/
def first : Nat := 0xAC00

/-- The first leading consonant. -/
def firstLead : Nat := 0x1100

/-- The first vowel. -/
def firstVowel : Nat := 0x1161

/-- The place before the first trailing consonant. -/
def noTrail : Nat := 0x11A7

/-- The number of leading consonants. -/
def leads : Nat := 19

/-- The number of vowels. -/
def vowels : Nat := 21

/-- The number of endings: a trailing consonant or none. -/
def endings : Nat := 28

/-- The two parts of a syllable: one without its trailing consonant, or a
consonant and a vowel. -/
def parts? (code : Nat) : Option (Nat × Nat) :=
  let index := code - first
  if code < first || leads * vowels * endings ≤ index then none
  else if index % endings == 0 then
    let pair := index / endings
    some (firstLead + pair / vowels, firstVowel + pair % vowels)
  else some (code - index % endings, noTrail + index % endings)

/-- The syllable of two parts. -/
def ofParts? (former latter : Nat) : Option Nat :=
  if firstLead ≤ former && former < firstLead + leads && firstVowel ≤ latter &&
      latter < firstVowel + vowels then
    some (first + ((former - firstLead) * vowels + (latter - firstVowel)) * endings)
  else if first ≤ former && former < first + leads * vowels * endings &&
      (former - first) % endings == 0 && noTrail < latter && latter < noTrail + endings then
    some (former + (latter - noTrail))
  else none

end Syllable

/-! ## Composites -/

/-- The two parts of a composite. -/
def parts? (code : Nat) : Option (Nat × Nat) :=
  (Syllable.parts? code).or
    ((CompositionTable.composites.find? fun entry => entry.1 == code).map fun entry => entry.2)

/-- The composite of two characters. -/
def composite? (former latter : Nat) : Option Nat :=
  (Syllable.ofParts? former latter).or
    ((CompositionTable.composites.find? fun entry =>
      entry.2.1 == former && entry.2.2 == latter).map fun entry => entry.1)

/-- How often the first part of a composite can be a composite itself, and that
one included. -/
def depth : Nat := 3

/-- A character and the marks that it stands for, which are at most as many as
the first argument says. -/
def expand : Nat → Nat → List Nat
  | 0, code => [code]
  | most + 1, code =>
      match parts? code with
      | some parts => expand most parts.1 ++ [parts.2]
      | none => [code]

/-- Put a character in front of others; it passes marks of lower classes. -/
def insert (code : Nat) : List Nat → List Nat
  | [] => [code]
  | next :: rest =>
      let own := markClass code
      let other := markClass next
      if own != 0 && other != 0 && other < own then next :: insert code rest
      else code :: next :: rest

/-- Every composite by its parts, and marks in the order of their classes. -/
def decompose (codes : List Nat) : List Nat :=
  (codes.flatMap (expand depth)).foldr insert []

/-- Form composites of a character and what follows it.  `between` are the marks
that stayed behind the character, in reverse order; a mark reaches the character
only if its class is above theirs. -/
def composeFrom (code : Nat) (between : List Nat) : List Nat → List Nat
  | [] => code :: between.reverse
  | next :: rest =>
      let reaches :=
        match between with
        | [] => true
        | last :: _ => markClass last < markClass next
      match if reaches then composite? code next else none with
      | some composite => composeFrom composite between rest
      | none =>
          if markClass next == 0 then code :: between.reverse ++ composeFrom next [] rest
          else composeFrom code (next :: between) rest

/-- Form every composite. -/
def compose : List Nat → List Nat
  | [] => []
  | code :: rest => composeFrom code [] rest

/-- Every composite formed anew, and marks in order. -/
def recompose (codes : List Nat) : List Nat :=
  compose (decompose codes)

/-- Whether a character never occurs in normal form. -/
def isReplaced (code : Nat) : Bool :=
  Text.inRanges CompositionTable.replaced code

/-- Whether a text is in normal form. -/
def isNormal (codes : List Nat) : Bool :=
  !codes.any isReplaced && recompose codes == codes

theorem isNormal_iff {codes : List Nat} :
    isNormal codes = true ↔
      (∀ code ∈ codes, isReplaced code = false) ∧ recompose codes = codes := by
  simp [isNormal]

@[simp] theorem insert_nil (code : Nat) : insert code [] = [code] := rfl

/-- Inserting a character keeps all others and adds itself. -/
theorem insert_perm (code : Nat) (codes : List Nat) :
    (insert code codes).Perm (code :: codes) := by
  induction codes with
  | nil => simp
  | cons next rest ih =>
      simp only [insert]
      split
      · exact (List.Perm.cons next ih).trans (List.Perm.swap code next rest)
      · exact List.Perm.refl _

end Triage.Host.Composition
