import Triage.Error
import Triage.Search.Criteria

/-!
# Given searches

Search texts, keys and names as values of any kind.  A value that is no text is
refused where something is done with it that only texts allow; one that counts as
nothing asks for nothing.
-/

namespace Triage.Search

/-- Parse the search text that a value gives. -/
def parseGiven : Json → Except Error Query
  | .str raw => .ok (parse raw)
  | .arr items => .error (.misuse (.unhashable (Json.arr items).kindName))
  | .obj fields => .error (.misuse (.unhashable (Json.obj fields).kindName))
  | value =>
      if value.truthy then .error (.misuse (.notSearchable value.kindName)) else .ok (parse "")

/-- The query by which notifications are narrowed; null asks for nothing. -/
def queryGiven : Json → Except Error Query
  | .str raw => .ok (parse raw)
  | .null => .ok (parse "")
  | value => .error (.misuse (.noPart value.kindName "free_text"))

/-- A text whose case does not count. -/
def nameGiven : Json → Except Error String
  | .str text => .ok text
  | value => .error (.misuse (.notText value.kindName "lower"))

/-- The values of the first of some given keys that has any. -/
def firstGivenOf (query : Query) : List Json → Except Error (List String)
  | [] => .ok []
  | key :: rest => do
      let values := query.values (← nameGiven key)
      if values.isEmpty then firstGivenOf query rest else return values

/-- A type and a reason in the form in which they are compared. -/
def normalizeGiven (value : Json) : Except Error (String × String) := do
  let text ← nameGiven value
  return (classifyType text, normalizeReason text)

@[simp] theorem queryGiven_str (raw : String) : queryGiven (.str raw) = .ok (parse raw) := rfl

end Triage.Search
