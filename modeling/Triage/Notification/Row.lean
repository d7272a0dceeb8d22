import Triage.Error
import Triage.Notification.Schema

/-!
# Rows

The flat form in which a notification is stored.  Times are kept as texts of
UTC, so that their order as texts is their order in time, and the time of
writing is part of every row.
-/

namespace Triage

/-- A stored notification. -/
structure Row where
  id : Int
  githubId : Option String
  reason : Option String
  flags : Flags
  url : Option String
  webUrl : Option String
  subject : Subject
  repo : Repo
  createdAt : Option String
  updatedAt : Option String
  lastReadAt : Option String
  fetchedAt : Option String
  deriving DecidableEq, Repr

/-- The stored text of a time: the same instant on the UTC clock. -/
def Timestamp.stored (time : Timestamp) : Except Error String :=
  match time.toUtc? with
  | some utc => .ok utc.isoText
  | none => .error (.overflow .time)

/-- The stored text of an optional time. -/
def Timestamp.stored? : Option Timestamp → Except Error (Option String)
  | none => .ok none
  | some time => some <$> time.stored

/-- A flag as it is stored. -/
def Flags.bit (value : Bool) : Json :=
  .int (if value then 1 else 0)

namespace Row

/-- The columns of a row with their values. -/
def columns (row : Row) : Json.Fields :=
  [("id", .int row.id),
    ("github_id", .ofText? row.githubId),
    ("reason", .ofText? row.reason),
    ("unread", Flags.bit row.flags.unread),
    ("archived", Flags.bit row.flags.archived),
    ("starred", Flags.bit row.flags.starred),
    ("muted", Flags.bit row.flags.muted),
    ("url", .ofText? row.url),
    ("web_url", .ofText? row.webUrl),
    ("subject_title", .ofText? row.subject.title),
    ("subject_url", .ofText? row.subject.url),
    ("subject_type", .ofText? row.subject.kind),
    ("subject_state", .ofText? row.subject.state),
    ("subject_author", .ofText? row.subject.author),
    ("repo_id", .ofInt? row.repo.id),
    ("repo_name", .ofText? row.repo.name),
    ("repo_owner", .ofText? row.repo.owner),
    ("repo_url", .ofText? row.repo.url),
    ("created_at", .ofText? row.createdAt),
    ("updated_at", .ofText? row.updatedAt),
    ("last_read_at", .ofText? row.lastReadAt),
    ("fetched_at", .ofText? row.fetchedAt)]

/-- The integers of a row all fit 64 bits. -/
def fits (row : Row) : Bool :=
  Width.fits64 row.id && (row.repo.id.map Width.fits64).getD true

/-- What keeps the value of a column from being written, where some columns have texts
without bytes. -/
def columnFault? (halved : List (String × Text.Halved)) (column : String × Json) :
    Option Error :=
  match halved.lookup column.1, column.2 with
  | some text, _ => some (.unencodable text)
  | none, .int number => if Width.fits64 number then none else some (.overflow .storedInteger)
  | none, _ => none

/-- The first thing that keeps a row from being written. -/
def fault? (row : Row) (halved : List (String × Text.Halved)) : Option Error :=
  row.columns.findSome? (columnFault? halved)

end Row

namespace Notification

/-- The row of a notification written at the given time. -/
def toRow (record : Notification) (fetchedAt : Timestamp) : Except Error Row := do
  let createdAt ← Timestamp.stored? record.createdAt
  let updatedAt ← Timestamp.stored? record.updatedAt
  let lastReadAt ← Timestamp.stored? record.lastReadAt
  let fetchedAt ← fetchedAt.stored
  return {
    id := record.id
    githubId := record.githubId
    reason := record.reason
    flags := record.flags
    url := record.url
    webUrl := record.webUrl
    subject := record.subject
    repo := record.repo
    createdAt := createdAt
    updatedAt := updatedAt
    lastReadAt := lastReadAt
    fetchedAt := some fetchedAt }

/-- The values of some columns under new names. -/
def renamed (columns : Json.Fields) (names : List (String × String)) : Json.Fields :=
  names.map fun name => (name.1, columns.getD name.2)

/-- The columns of a subject and the names of its fields. -/
def subjectColumns : List (String × String) :=
  [("title", "subject_title"), ("url", "subject_url"), ("type", "subject_type"),
    ("state", "subject_state"), ("author", "subject_author")]

/-- The columns of a repository and the names of its fields. -/
def repoColumns : List (String × String) :=
  [("id", "repo_id"), ("name", "repo_name"), ("owner", "repo_owner"), ("url", "repo_url")]

/-- The columns that hold neither a part nor a flag. -/
def plainColumns : List (String × String) :=
  ["id", "github_id", "reason", "url", "web_url", "created_at", "updated_at", "last_read_at",
    "fetched_at"].map fun name => (name, name)

/-- Flags as any stored values, of which those that count as given are set. -/
def flagColumns (columns : Json.Fields) : Json.Fields :=
  Flag.all.map fun flag => (flag.name, .bool (columns.getD flag.name).truthy)

/-- The notification that a row's columns describe. -/
def ofColumns (columns : Json.Fields) : Except Error Notification :=
  if columns.has "id" then
    match Subject.ofJson (.obj (renamed columns subjectColumns)) with
    | .error failure => .error (.invalid failure)
    | .ok subject =>
        match Repo.ofJson (.obj (renamed columns repoColumns)) with
        | .error failure => .error (.invalid failure)
        | .ok repo =>
            let fields := renamed columns plainColumns ++ flagColumns columns
            match (checkParts fields (.valid subject) (.valid repo)).toExcept "Notification" with
            | .error failure => .error (.invalid failure)
            | .ok record => .ok record
  else .error (.missingColumn "id")

/-- The notification that a value describes by columns. -/
def ofColumnsGiven : Json → Except Error Notification
  | .obj columns => ofColumns columns
  | value => .error (.misuse (.ofKeyRead value))

/-- The notification that a row holds. -/
def ofRow (row : Row) : Except Error Notification :=
  ofColumns row.columns

end Notification

end Triage
