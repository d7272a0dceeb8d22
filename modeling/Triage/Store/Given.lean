import Triage.Json.Display
import Triage.Json.Parts
import Triage.Number.DecimalText
import Triage.Number.Shortest
import Triage.Store.Access

/-!
# Values given to the store

Statements of the store are given values by their position.  A list, an object or a
time of day can stand nowhere, a text needs bytes, and an integer has to fit 64 bits.
Dates are given as texts.  The number of a
notification may be given as any number without a fraction or as a text that
reads as one; the name of a resource may be given as a number, which stands for
its text.
-/

namespace Triage.Store

/-- Refuse a value that cannot be given to a statement at a position. -/
def give (position : Nat) : Json → Except Error Unit
  | .int value => if Width.fits64 value then .ok () else .error (.overflow .storedInteger)
  | .arr items => .error (.misuse (.unbindable position (Json.arr items).kindName))
  | .obj fields => .error (.misuse (.unbindable position (Json.obj fields).kindName))
  | .moment (.time micros) =>
      .error (.misuse (.unbindable position (Moment.time micros).kindName))
  | .halved text => .error (.unencodable text)
  | _ => .ok ()

/-! ## Numbers of notifications -/

/-- The 64-bit integer that is a fractional number's value. -/
def wholeOf? (value : Binary64) : Option Int :=
  if value.isIntegral then value.truncate?.filter Width.fits64 else none

/-- Whether a character counts as a space around a number. -/
def isSpace (character : Char) : Bool :=
  character == ' ' || (9 ≤ character.toNat && character.toNat ≤ 13)

/-- The 64-bit integer that a text reads as, spaces around it aside. -/
def readWhole? (text : String) : Option Int :=
  (DecimalText.ofList? (Text.trimWhile isSpace text.toList)).bind fun decimal =>
    if decimal.isInteger then (some decimal.wholeValue).filter Width.fits64
    else wholeOf? decimal.value

/-- The number of a notification that a value gives. -/
def rowNumber? : Json → Option Int
  | .int value => some value
  | .bool value => some (if value then 1 else 0)
  | .real value => wholeOf? value
  | .str text => readWhole? text
  | _ => none

/-- The notification of a given number. -/
def getGiven (key : Json) : StoreAccess (Option Notification) := do
  Transaction.commit (liftM (give 1 key))
  match rowNumber? key with
  | some id => get id
  | none => return none

/-- Set flags of the notification of a given number by their names. -/
def patchGiven (now : Timestamp) (key : Json) (fields : List (String × Bool)) :
    StoreAccess Bool := do
  match rowNumber? key with
  | some id => patchNamed now id fields
  | none =>
      let changes ← namedChanges fields
      if changes.isEmpty then return false
      let _ ← now.stored
      Transaction.commit (liftM (give (changes.length + 2) key))
      return false

/-! ## Texts -/

/-- The number of significant digits in the text of a fractional number. -/
def significantDigits : Nat := 15

/-- A positive fraction in significant digits, without zeros at the end, and the
exponent of the first one. -/
def roundedDigits (numerator denominator : Nat) : List Char × Int :=
  let leading := Binary64.leadingExponent numerator denominator
  let power := leading - significantDigits + 1
  let scaled := Binary64.shiftDecimal numerator denominator power
  let digits := Nat.toDigits 10 (Binary64.roundHalfEven scaled.1 scaled.2)
  (Binary64.withoutTrailingZeros digits, power + digits.length - 1)

/-- Digits with a point behind the first ones, and a zero on a side of the point
that is empty. -/
def pointed (digits : List Char) (before : Nat) : List Char :=
  let whole := digits.take before ++ List.replicate (before - digits.length) '0'
  let rest := digits.drop before
  (if whole.isEmpty then ['0'] else whole) ++ '.' :: (if rest.isEmpty then ['0'] else rest)

/-- The text of a fractional number in a column of texts. -/
def columnReal : Binary64 → String
  | .finite negative significand exponent =>
      if significand == 0 then "0.0"
      else
        let value := Binary64.fraction significand exponent
        let (digits, leading) := roundedDigits value.1 value.2
        let magnitude :=
          if leading < -4 || (significantDigits : Int) ≤ leading then
            pointed digits 1 ++ 'e' :: (if leading < 0 then '-' else '+') ::
              (Text.padZeros 2 (toString leading.natAbs)).toList
          else if leading < 0 then
            pointed (List.replicate (-leading).toNat '0' ++ digits) 1
          else pointed digits (leading.toNat + 1)
        String.ofList (if negative then '-' :: magnitude else magnitude)
  | value => value.text

/-- The text that a column of texts holds for a value, if it is not null. -/
def columnText? : Json → Option String
  | .str text => some text
  | .int value => some (toString value)
  | .bool value => some (if value then "1" else "0")
  | .real value => some (columnReal value)
  | .moment value => some value.text
  | _ => none

/-! ## Resources -/

/-- Record a synchronisation of a given resource now.  One without a name can
never be found again. -/
def markSyncedGiven (now : Timestamp) (resource error : Json) : StoreAccess Unit := do
  let _ ← now.stored
  Transaction.commit do
    liftM (give 1 resource)
    liftM (give 3 error)
  match columnText? resource with
  | some name => markSynced now name (columnText? error)
  | none => return ()

/-- Record that a synchronisation of a given resource failed. -/
def markSyncErrorGiven (resource error : Json) : StoreAccess Unit := do
  Transaction.commit do
    liftM (give 1 resource)
    liftM (give 2 error)
  match columnText? resource with
  | some name => markSyncError name (columnText? error)
  | none => return ()

/-- How the last synchronisation of a given resource ended, if there was one. -/
def syncStatusGiven (resource : Json) : StoreAccess (Option SyncStatus) := do
  Transaction.commit (liftM (give 1 resource))
  match columnText? resource with
  | some name => syncStatus name
  | none => return none

/-- Whether a given resource was never synchronised, or more than the given time
ago. -/
def isStaleGiven (now : Timestamp) (resource : Json) (lifetime : Duration) :
    StoreAccess Bool := do
  Transaction.commit (liftM (give 1 resource))
  match columnText? resource with
  | some name => isStale now name lifetime
  | none => return true

/-- The notifications of the view that a value names. -/
def loadGiven : Json → StoreAccess (List Notification)
  | .str name => loadNamed name
  | .arr items => throw (.misuse (.unhashable (Json.arr items).kindName))
  | .obj fields => throw (.misuse (.unhashable (Json.obj fields).kindName))
  | value => throw (.refusal (.view value.plainText))

end Triage.Store
