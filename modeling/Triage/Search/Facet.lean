import Triage.Notification.Schema

/-!
# Facets

A facet narrows a list to the notifications in which one field has one value.
Equality is exact: neither case nor blanks are ignored.
-/

namespace Triage

/-- The fields by which a list can be narrowed. -/
inductive FacetKind where
  | owner
  | repo
  | reason
  | subjectType
  | subjectState
  | unread
  | bot
  deriving DecidableEq, Repr

namespace FacetKind

/-- Every kind. -/
def all : List FacetKind :=
  [.owner, .repo, .reason, .subjectType, .subjectState, .unread, .bot]

/-- The name of the field. -/
def name : FacetKind → String
  | .owner => "owner"
  | .repo => "repo"
  | .reason => "reason"
  | .subjectType => "subject_type"
  | .subjectState => "subject_state"
  | .unread => "unread"
  | .bot => "bot"

/-- The kind of a field's name. -/
def ofName? (name : String) : Option FacetKind :=
  all.find? fun kind => kind.name == name

@[simp] theorem ofName?_name (kind : FacetKind) : ofName? kind.name = some kind := by
  cases kind <;> decide

end FacetKind

/-- The value of a field: a text, or a truth value. -/
inductive FacetValue where
  | text (value : String)
  | flag (value : Bool)
  deriving DecidableEq, Repr

namespace FacetValue

/-- A text, or else a truth value. -/
def check : Json → Schema.Checked FacetValue
  | .str value => .valid (.text value)
  | value =>
      match Schema.flag value with
      | .valid known => .valid (.flag known)
      | .invalid faults =>
          .invalid (⟨["str"], .stringType⟩ ::
            faults.map fun found => { found with path := "bool" :: found.path })

/-- The description of a value. -/
def toJson : FacetValue → Json
  | .text value => .str value
  | .flag value => .bool value

/-- The schema reads the description of a value as that value. -/
theorem check_toJson (value : FacetValue) : check value.toJson = .valid value := by
  cases value <;> rfl

end FacetValue

/-- A field and the value it has to have. -/
structure Facet where
  kind : FacetKind
  value : FacetValue
  deriving DecidableEq, Repr

namespace Facet

/-- The value of a field in a notification; an absent field has none. -/
def valueIn (record : Notification) : FacetKind → Option FacetValue
  | .owner => record.repo.owner.map .text
  | .repo => record.repo.name.map .text
  | .reason => record.reason.map .text
  | .subjectType => record.subject.kind.map .text
  | .subjectState => record.subject.state.map .text
  | .unread => some (.flag record.flags.unread)
  | .bot => some (.flag record.isBot)

/-- Whether a notification's field has the value. -/
def keeps (facet : Facet) (record : Notification) : Bool :=
  valueIn record facet.kind == some facet.value

/-- The name of a known kind. -/
def checkKind (value : Json) : Schema.Checked FacetKind :=
  match Schema.text value with
  | .invalid faults => .invalid faults
  | .valid name =>
      match FacetKind.ofName? name with
      | some kind => .valid kind
      | none => .fault .refused

/-- A facet's fields. -/
def check (fields : Json.Fields) : Schema.Checked Facet :=
  Facet.mk
    <$> Schema.required fields "kind" checkKind
    <*> Schema.required fields "value" FacetValue.check

/-- The facet of a kind whose value is given by any value. -/
def ofValue (kind : FacetKind) (value : Json) : Except Schema.Failure Facet :=
  (Facet.mk kind <$> (FacetValue.check value).under "value").toExcept "StructuralFilter"

/-- The facet that a value describes. -/
def ofJson (value : Json) : Except Schema.Failure Facet :=
  (Schema.object check value).toExcept "StructuralFilter"

/-- The description of a facet. -/
def toJson (facet : Facet) : Json :=
  .obj [("kind", .str facet.kind.name), ("value", facet.value.toJson)]

@[simp] theorem ofValue_toJson (facet : Facet) :
    ofValue facet.kind facet.value.toJson = .ok facet := by
  simp [ofValue, FacetValue.check_toJson, Schema.Checked.toExcept]

@[simp] theorem keeps_iff (facet : Facet) (record : Notification) :
    facet.keeps record = true ↔ valueIn record facet.kind = some facet.value := by
  simp [keeps]

end Facet

end Triage
