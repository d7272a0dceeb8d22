import Triage.Keyed
import Triage.Number.Shortest
import Triage.Text.Halves
import Triage.Time.Moment

/-!
# JSON values

Numbers keep apart integers of any size and floating-point numbers.  A text whose
escapes name halves of surrogate pairs is kept as its code points.  An object is a
list of fields in the order in which their keys first appeared.  Settings are
values of the same kind, among which there may be moments.
-/

namespace Triage

/-- A JSON value, or a moment. -/
inductive Json where
  | null
  | bool (value : Bool)
  | int (value : Int)
  | real (value : Binary64)
  | str (value : String)
  /-- A text that is not made of characters alone. -/
  | halved (value : Text.Halved)
  | moment (value : Moment)
  | arr (items : List Json)
  | obj (fields : List (String × Json))
  deriving Repr, Inhabited

namespace Json

mutual

/-- Whether two values are the same is decided by comparing them part by part. -/
def decEq (first second : Json) : Decidable (first = second) := by
  cases first <;> cases second
  case null.null => exact isTrue rfl
  case bool.bool left right => exact decidable_of_iff (left = right) (by simp)
  case int.int left right => exact decidable_of_iff (left = right) (by simp)
  case real.real left right => exact decidable_of_iff (left = right) (by simp)
  case str.str left right => exact decidable_of_iff (left = right) (by simp)
  case halved.halved left right => exact decidable_of_iff (left = right) (by simp)
  case moment.moment left right => exact decidable_of_iff (left = right) (by simp)
  case arr.arr left right =>
    have := decEqItems left right
    exact decidable_of_iff (left = right) (by simp)
  case obj.obj left right =>
    have := decEqFields left right
    exact decidable_of_iff (left = right) (by simp)
  all_goals exact isFalse nofun
termination_by structural first

/-- Whether two lists of items are the same. -/
def decEqItems (first second : List Json) : Decidable (first = second) := by
  cases first <;> cases second
  case nil.nil => exact isTrue rfl
  case cons.cons left lefts right rights =>
    have := decEq left right
    have := decEqItems lefts rights
    exact decidable_of_iff (left = right ∧ lefts = rights) (by simp)
  all_goals exact isFalse nofun
termination_by structural first

/-- Whether two lists of fields are the same. -/
def decEqFields (first second : List (String × Json)) : Decidable (first = second) := by
  cases first <;> cases second
  case nil.nil => exact isTrue rfl
  case cons.cons left lefts right rights =>
    have := decEqField left right
    have := decEqFields lefts rights
    exact decidable_of_iff (left = right ∧ lefts = rights) (by simp)
  all_goals exact isFalse nofun
termination_by structural first

/-- Whether two fields are the same. -/
def decEqField (first second : String × Json) : Decidable (first = second) := by
  cases first
  cases second
  case mk.mk key left other right =>
    have := decEq left right
    exact decidable_of_iff (key = other ∧ left = right) (by simp)
termination_by structural first

end

instance : DecidableEq Json := decEq

/-- The fields of an object. -/
abbrev Fields := List (String × Json)

/-- The value of a key. -/
def Fields.get? (fields : Fields) (key : String) : Option Json :=
  fields.lookup key

/-- The value of a key, or null. -/
def Fields.getD (fields : Fields) (key : String) : Json :=
  (fields.lookup key).getD .null

/-- Whether a key is present. -/
def Fields.has (fields : Fields) (key : String) : Bool :=
  (fields.lookup key).isSome

/-- Whether a value counts as given: null, false, zero and everything empty do
not. -/
def truthy : Json → Bool
  | .null => false
  | .bool value => value
  | .int value => value != 0
  | .real value => !value.isZero
  | .str value => !value.isEmpty
  | .halved _ => true
  | .moment _ => true
  | .arr items => !items.isEmpty
  | .obj fields => !fields.isEmpty

/-- The name of a value's kind, as error texts show it. -/
def kindName : Json → String
  | .null => "NoneType"
  | .bool _ => "bool"
  | .int _ => "int"
  | .real _ => "float"
  | .str _ => "str"
  | .halved _ => "str"
  | .moment value => value.kindName
  | .arr _ => "list"
  | .obj _ => "dict"

/-- A text by its code points. -/
def ofCodes (codes : List Nat) : Json :=
  if halved : codes.any Text.isHalf = true then .halved ⟨codes, halved⟩
  else .str (String.ofList (codes.map Text.unitChar))

/-- A text or null. -/
def ofText? : Option String → Json
  | some text => .str text
  | none => .null

/-- An integer or null. -/
def ofInt? : Option Int → Json
  | some value => .int value
  | none => .null

@[simp] theorem truthy_null : truthy .null = false := rfl

@[simp] theorem truthy_bool (value : Bool) : truthy (.bool value) = value := rfl

namespace Fields

@[simp] theorem get?_nil (key : String) : Fields.get? [] key = none := rfl

end Fields

end Json

end Triage
