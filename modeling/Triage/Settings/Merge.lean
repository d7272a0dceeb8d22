import Triage.Error

/-!
# Merging of settings

Settings are nested objects.  Merging lays one over another: values of the upper
one win, and objects on both sides are merged key by key.
-/

namespace Triage.Settings

mutual

/-- A value laid over what is there. -/
def mergeValue (base : Option Json) : Json → Json
  | .obj fields =>
      match base with
      | some (.obj known) => .obj (mergeFields known fields)
      | _ => .obj fields
  | value => value

/-- Fields laid over others. -/
def mergeFields (base : List (String × Json)) : List (String × Json) → List (String × Json)
  | [] => base
  | (key, value) :: rest =>
      mergeFields (Keyed.put base key (mergeValue (base.lookup key) value)) rest

end

/-- Settings laid over others. -/
def merge (base override : Json.Fields) : Json.Fields :=
  mergeFields base override

/-- The first thing that goes wrong when fields are laid over a value that is no
object. -/
def overlayMisuse? (base : Json) : Json.Fields → Option Misuse
  | [] => none
  | (_, .obj _) :: _ => some (.noFields base.kindName)
  | _ => some (.ofKeyWrite base)

/-- A value laid over another one, of which only objects can be merged. -/
def mergeGiven (base override : Json) : Except Error Json :=
  match override with
  | .obj fields =>
      match base with
      | .obj known => .ok (.obj (merge known fields))
      | other =>
          match overlayMisuse? other fields with
          | some misuse => .error (.misuse misuse)
          | none => .ok other
  | value => .error (.misuse (.noPart value.kindName "items"))

@[simp] theorem merge_nil (base : Json.Fields) : merge base [] = base := by
  simp [merge, mergeFields]

end Triage.Settings
