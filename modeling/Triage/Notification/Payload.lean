import Triage.Json.Room
import Triage.Notification.Row

/-!
# Notifications from the remote service

The service describes a notification by an object of its own shape: flags may be
null, the reference number may be of any kind, and a subject or repository that
counts as empty is left out.  The first part that cannot be used is reported.  The
reference number is written as a text, and a report names the number, which takes
room.
-/

namespace Triage.Notification

open Schema

/-- A flag of the service; null stands for the default. -/
def payloadFlag (fields : Json.Fields) (flag : Flag) : Json :=
  match fields.getD flag.name with
  | .null => .bool (Flags.get {} flag)
  | value => .bool value.truthy

/-- A part of the service's object: what counts as empty has no fields. -/
def payloadPart (fields : Json.Fields) (key : String) : Except RecordFault Json.Fields :=
  match fields.getD key with
  | .obj part => .ok part
  | value => if value.truthy then .error (.noFields value.kindName) else .ok []

/-- The subject of the service's object. -/
def payloadSubject (fields : Json.Fields) : Except RecordFault Subject := do
  let part ← payloadPart fields "subject"
  match Subject.ofJson (.obj (renamed part
      (["title", "url", "type", "state", "author"].map fun name => (name, name)))) with
  | .ok subject => .ok subject
  | .error failure => .error (.invalid failure)

/-- The repository of the service's object. -/
def payloadRepo (fields : Json.Fields) : Except RecordFault Repo := do
  let part ← payloadPart fields "repo"
  match Repo.ofJson (.obj (renamed part
      [("id", "id"), ("name", "name"), ("owner", "owner"), ("url", "repo_url")])) with
  | .ok repo => .ok repo
  | .error failure => .error (.invalid failure)

/-- The reference number as a text. -/
def payloadReference (fields : Json.Fields) : Json :=
  match fields.getD "github_id" with
  | .null => .null
  | .halved text => .halved text
  | value => .str value.plainText

/-- What keeps the reference number from being written as a text. -/
def referenceFault? (room : Nat) (fields : Json.Fields) : Option Json.WritingFault :=
  match fields.getD "github_id" with
  | .null => none
  | value => value.plainFault? room

/-- The fields of the service's object that belong to no part, in the form in
which a notification has them. -/
def payloadFields (fields : Json.Fields) : Json.Fields :=
  renamed fields
      (["id", "reason", "url", "web_url", "created_at", "updated_at", "last_read_at"].map
        fun name => (name, name)) ++
    ("github_id", payloadReference fields) ::
    Flag.all.map fun flag => (flag.name, payloadFlag fields flag)

/-- The subject and the repository of the service's object. -/
def payloadParts (fields : Json.Fields) : Except RecordFault (Subject × Repo) := do
  let subject ← payloadSubject fields
  let repo ← payloadRepo fields
  return (subject, repo)

/-- The notification that the service's object describes, or its first fault. -/
def ofFields (now : Timestamp) (fields : Json.Fields) : Except RecordFault Notification := do
  let parts ← payloadParts fields
  match (checkParts (payloadFields fields) (.valid parts.1) (.valid parts.2)).toExcept
      "Notification" with
  | .ok record => .ok { record with fetchedAt := some now }
  | .error failure => .error (.invalid failure)

/-- The error for an object with a fault.  It names the number, which may be of any kind and
is not always one that can be written. -/
def faulty (room : Nat) (fields : Json.Fields) (fault : RecordFault) : Error :=
  match (fields.getD "id").writingFault? room with
  | some unwritten => .unwritten unwritten
  | none => .payload (.notification (fields.getD "id") fault)

/-- The texts without bytes among some fields, by the columns in which they end. -/
def halvedColumns (fields : Json.Fields) (columns : List (String × String)) :
    List (String × Text.Halved) :=
  columns.filterMap fun column =>
    match fields.getD column.1 with
    | .halved text => some (column.2, text)
    | _ => none

/-- The texts without bytes that the service's object has for columns. -/
def halvedTexts (fields : Json.Fields) : List (String × Text.Halved) :=
  halvedColumns fields (["github_id", "reason", "url", "web_url"].map fun name => (name, name)) ++
    (match payloadPart fields "subject" with
      | .ok part => halvedColumns part subjectColumns
      | .error _ => []) ++
    match payloadPart fields "repo" with
    | .ok part =>
        halvedColumns part
          [("name", "repo_name"), ("owner", "repo_owner"), ("repo_url", "repo_url")]
    | .error _ => []

/-- A notification that the service described.  A text without bytes stands in it with
replacement characters, and is kept beside it under the name of its column. -/
structure Received where
  record : Notification
  halved : List (String × Text.Halved) := []
  deriving DecidableEq, Repr

/-- The row of a notification that the service described, written at the given time, with
the texts of its columns that have no bytes. -/
def Received.toRow (received : Received) (fetchedAt : Timestamp) :
    Except Error (Row × List (String × Text.Halved)) := do
  return (← received.record.toRow fetchedAt, received.halved)

/-- The notification that the service describes by a value, fetched at a time on
any clock.  The reference number is written before the parts of the value are read,
and the time is moved to UTC after that. -/
def receive (room : Nat) (clock : Timestamp) : Json → Except Error Received
  | .obj fields =>
      match referenceFault? room fields, clock.toUtc? with
      | some fault, _ => .error (.unwritten fault)
      | none, some now =>
          match ofFields now fields with
          | .ok record => .ok ⟨record, halvedTexts fields⟩
          | .error fault => .error (faulty room fields fault)
      | none, none =>
          match payloadParts fields with
          | .ok _ => .error (.overflow .time)
          | .error fault => .error (faulty room fields fault)
  | value => .error (.payload (.notAnObject value.kindName))

/-- With a clock in UTC an object is refused only for its content. -/
theorem receive_obj {clock now : Timestamp} (inUtc : clock.toUtc? = some now) (room : Nat)
    (fields : Json.Fields) :
    receive room clock (.obj fields) =
      match referenceFault? room fields with
      | some fault => .error (.unwritten fault)
      | none =>
          match ofFields now fields with
          | .ok record => .ok ⟨record, halvedTexts fields⟩
          | .error fault => .error (faulty room fields fault) := by
  rw [receive, inUtc]
  cases referenceFault? room fields <;> rfl

end Triage.Notification
