import Triage.Error
import Triage.Host.LabelTable

/-!
# Directions of labels

A label that holds a character running from right to left has to run in one
direction as a whole, so that it reads the same wherever it is shown.
-/

namespace Triage.Host

/-- How a character runs. -/
inductive Direction where
  | left
  | right
  | europeanNumber
  | arabicNumber
  /-- A mark, which runs as the character that it belongs to. -/
  | mark
  | neutral
  deriving DecidableEq, Repr

namespace Direction

/-- The direction of a character of a label, if it is known. -/
def ofCode? (code : Nat) : Option Direction :=
  let has := fun table => Text.inRanges table code
  if has LabelTable.unsettled then none
  else if has LabelTable.nonSpacing then some .mark
  else if has LabelTable.rightToLeft || has LabelTable.arabic then some .right
  else if has LabelTable.arabicNumber then some .arabicNumber
  else if has LabelTable.europeanNumber then some .europeanNumber
  else if has LabelTable.neutral then some .neutral
  else some .left

/-- Whether a character makes the label one to which the rules apply. -/
def isRightward : Direction → Bool
  | .right => true
  | .arabicNumber => true
  | _ => false

/-- Whether a number is written by the character. -/
def isNumber : Direction → Bool
  | .europeanNumber => true
  | .arabicNumber => true
  | _ => false

/-- The first fault of a label that runs from right to left, whose first number
so far is given.  Positions are counted from the first argument. -/
def rightFault? (position : Nat) (number : Option Direction) :
    List Direction → Option LabelFault
  | [] => none
  | direction :: rest =>
      if direction == .left then some (.rightToLeft position)
      else if direction.isNumber then
        match number with
        | some other =>
            if direction == other then rightFault? (position + 1) number rest
            else some .mixedNumbers
        | none => rightFault? (position + 1) (some direction) rest
      else rightFault? (position + 1) number rest

/-- The first fault of a label that runs from left to right. -/
def leftFault? (position : Nat) : List Direction → Option LabelFault
  | [] => none
  | direction :: rest =>
      if direction.isRightward then some (.leftToRight position)
      else leftFault? (position + 1) rest

/-- Whether the last character, marks aside, passes a test. -/
def endsWith (test : Direction → Bool) (directions : List Direction) : Bool :=
  match directions.reverse.dropWhile (· == .mark) with
  | [] => false
  | last :: _ => test last

/-- What is wrong with the directions in a label if all are known. -/
def runFault? (label : List Nat) (directions : List Direction) : Option LabelFault :=
  let finish := fun test =>
    if endsWith test directions then none else some LabelFault.lastDirection
  if directions.any isRightward then
    match directions.head? with
    | some .right =>
        (rightFault? 1 none directions).or
          (finish fun direction => direction == .right || direction.isNumber)
    | some .left =>
        (leftFault? 1 directions).or
          (finish fun direction => direction == .left || direction == .europeanNumber)
    | _ => some (.firstDirection label)
  else none

/-- What is wrong with the directions in a label. -/
def fault? (label : List Nat) : Option LabelFault :=
  match label.findIdx? fun code => (ofCode? code).isNone with
  | some position => some (.unknownDirection (position + 1) label)
  | none => runFault? label (label.filterMap ofCode?)

/-- A label without characters that run from right to left is free of rules. -/
theorem runFault?_of_none {label : List Nat} {directions : List Direction}
    (none_right : directions.any isRightward = false) : runFault? label directions = none := by
  simp [runFault?, none_right]

end Direction

end Triage.Host
