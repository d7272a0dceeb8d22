import Triage.Json.Value

/-!
# Agreement of values

Two values agree if they are equal once truth values count as zero and one and
numbers are compared by what they count.  The order of an object's fields does
not matter, and a number that is none agrees with nothing.
-/

namespace Triage.Json

/-- A number without a fraction, or a truth value, as an integer. -/
def wholeOf : Json → Json
  | .bool value => .int (if value then 1 else 0)
  | .real value =>
      match value.truncate? with
      | some whole => if value.isIntegral then .int whole else .real value
      | none => .real value
  | value => value

mutual

/-- Whether two values agree. -/
def agrees : Json → Json → Bool
  | .real .notANumber, _ => false
  | .arr first, .arr second => agreesItems first second
  | .obj first, .obj second => first.length == second.length && agreesFields first second
  | first, second => first.wholeOf == second.wholeOf

/-- Whether two lists agree item by item. -/
def agreesItems : List Json → List Json → Bool
  | [], [] => true
  | first :: firsts, second :: seconds => agrees first second && agreesItems firsts seconds
  | _, _ => false

/-- Whether every field agrees with the one of the same key. -/
def agreesFields : List (String × Json) → List (String × Json) → Bool
  | [], _ => true
  | (key, first) :: rest, fields =>
      (match fields.lookup key with
      | some second => agrees first second
      | none => false) && agreesFields rest fields

end

@[simp] theorem agrees_str (first second : String) :
    agrees (.str first) (.str second) = (first == second) := by
  rw [Bool.eq_iff_iff]
  simp [agrees, wholeOf]

@[simp] theorem agrees_bool (first second : Bool) :
    agrees (.bool first) (.bool second) = (first == second) := by
  cases first <;> cases second <;> simp [agrees, wholeOf]

end Triage.Json
