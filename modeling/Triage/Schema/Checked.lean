import Triage.Json.Value

/-!
# Checked values

The outcome of checking a value against a schema: the value, or every fault that
was found.  Combining two checks keeps the faults of both, in order.
-/

namespace Triage.Schema

/-- What is wrong with one value. -/
inductive FaultKind where
  | missing
  | modelType
  | stringType
  /-- A text is not made of characters alone. -/
  | stringUnicode
  | intType
  | intParsing
  | intTooLarge
  | intFromFraction
  | finiteNumber
  | boolType
  | boolParsing
  | timeType
  | timeRange
  | timeParsing
  | mapType
  | listType
  | refused
  deriving DecidableEq, Repr

/-- The code under which a kind of fault is reported. -/
def FaultKind.code : FaultKind → String
  | .missing => "missing"
  | .modelType => "model_type"
  | .stringType => "string_type"
  | .stringUnicode => "string_unicode"
  | .intType => "int_type"
  | .intParsing => "int_parsing"
  | .intTooLarge => "int_parsing_size"
  | .intFromFraction => "int_from_float"
  | .finiteNumber => "finite_number"
  | .boolType => "bool_type"
  | .boolParsing => "bool_parsing"
  | .timeType => "datetime_type"
  | .timeRange => "datetime_parsing"
  | .timeParsing => "datetime_from_date_parsing"
  | .mapType => "dict_type"
  | .listType => "list_type"
  | .refused => "value_error"

/-- A fault and the keys that lead to the value at fault. -/
structure Fault where
  path : List String
  kind : FaultKind
  deriving DecidableEq, Repr

/-- The path as one text, its keys separated by points. -/
def Fault.location (fault : Fault) : String :=
  ".".intercalate fault.path

/-- The faults found in a value of a named model. -/
structure Failure where
  model : String
  faults : List Fault
  deriving DecidableEq, Repr

/-- The number of faults and the model they were found in. -/
def Failure.message (failure : Failure) : String :=
  let count := failure.faults.length
  toString count ++ (if count == 1 then " validation error for " else " validation errors for ") ++
    failure.model

/-- A checked value, or the faults found. -/
inductive Checked (α : Type) where
  | valid (value : α)
  | invalid (faults : List Fault)
  deriving Repr

namespace Checked

variable {α β : Type}

/-- Apply a function to a checked value. -/
def map (function : α → β) : Checked α → Checked β
  | .valid value => .valid (function value)
  | .invalid faults => .invalid faults

/-- Apply a checked function to a checked value, keeping the faults of both. -/
def apply : Checked (α → β) → Checked α → Checked β
  | .valid function, .valid value => .valid (function value)
  | .valid _, .invalid faults => .invalid faults
  | .invalid faults, .valid _ => .invalid faults
  | .invalid first, .invalid second => .invalid (first ++ second)

instance : Functor Checked where
  map := map

instance : Seq Checked where
  seq function value := apply function (value ())

/-- One fault at the value itself. -/
def fault (kind : FaultKind) : Checked α :=
  .invalid [⟨[], kind⟩]

/-- Put a key in front of every path. -/
def under (key : String) : Checked α → Checked α
  | .valid value => .valid value
  | .invalid faults => .invalid (faults.map fun found => { found with path := key :: found.path })

/-- The value, or the failure of the named model. -/
def toExcept (model : String) : Checked α → Except Failure α
  | .valid value => .ok value
  | .invalid faults => .error ⟨model, faults⟩

@[simp] theorem map_valid (function : α → β) (value : α) :
    (function <$> Checked.valid value) = .valid (function value) := rfl

@[simp] theorem seq_valid (function : α → β) (value : α) :
    (Checked.valid function <*> Checked.valid value) = .valid (function value) := rfl

@[simp] theorem under_valid (key : String) (value : α) :
    (Checked.valid value).under key = .valid value := rfl

end Checked

end Triage.Schema
