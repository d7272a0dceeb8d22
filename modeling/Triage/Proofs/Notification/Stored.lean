import Triage.Notification.Description
import Triage.Notification.Row
import Triage.Proofs.Time.IsoText
import Triage.Proofs.Work

/-!
# Stored notifications

A notification whose times are on the UTC clock is read back from its row as it
was.  What the store writes is always the row of such a notification, the given
one on the UTC clock.
-/

namespace Triage

open Schema

/-- A time that is on the UTC clock if it is there. -/
def Timestamp.InUtc? (time : Option Timestamp) : Prop :=
  ∀ given ∈ time, given.offset = some 0

theorem Timestamp.inUtc?_none : Timestamp.InUtc? none := by
  simp [Timestamp.InUtc?]

/-- Moving to the UTC clock leads there. -/
theorem Timestamp.inUtc?_toUtc? (time : Timestamp) : Timestamp.InUtc? time.toUtc? :=
  fun _ moved => (Timestamp.instant_of_toUtc? moved).2

theorem Timestamp.inUtc?_bind_toUtc? (time : Option Timestamp) :
    Timestamp.InUtc? (time.bind (·.toUtc?)) := by
  cases time with
  | none => exact Timestamp.inUtc?_none
  | some given => exact Timestamp.inUtc?_toUtc? given

/-- What is stored of a time is the text of the same instant on the UTC clock. -/
theorem Timestamp.stored_eq_ok {time : Timestamp} {text : String}
    (stored : time.stored = .ok text) : ∃ utc, time.toUtc? = some utc ∧ text = utc.isoText := by
  rw [Timestamp.stored] at stored
  split at stored
  · next utc moved => exact ⟨utc, moved, (Except.ok.inj stored).symm⟩
  · cases stored

theorem Timestamp.stored?_eq_ok {time : Option Timestamp} {text : Option String}
    (stored : Timestamp.stored? time = .ok text) :
    text = (time.bind (·.toUtc?)).map Timestamp.isoText := by
  cases time with
  | none =>
      cases stored
      rfl
  | some given =>
      obtain ⟨written, result, rfl⟩ := Outcome.map_eq_ok.1 stored
      obtain ⟨utc, moved, rfl⟩ := Timestamp.stored_eq_ok result
      simp [moved]

namespace Notification

/-- The times of a notification are on the UTC clock. -/
structure InUtc (record : Notification) : Prop where
  createdAt : Timestamp.InUtc? record.createdAt
  updatedAt : Timestamp.InUtc? record.updatedAt
  lastReadAt : Timestamp.InUtc? record.lastReadAt
  fetchedAt : Timestamp.InUtc? record.fetchedAt

/-- The row of a notification whose times are on the UTC clock. -/
def written (record : Notification) : Row where
  id := record.id
  githubId := record.githubId
  reason := record.reason
  flags := record.flags
  url := record.url
  webUrl := record.webUrl
  subject := record.subject
  repo := record.repo
  createdAt := record.createdAt.map Timestamp.isoText
  updatedAt := record.updatedAt.map Timestamp.isoText
  lastReadAt := record.lastReadAt.map Timestamp.isoText
  fetchedAt := record.fetchedAt.map Timestamp.isoText

/-- The notification with its times on the UTC clock, fetched at a given time. -/
def onUtc (record : Notification) (fetchedAt : Timestamp) : Notification :=
  { record with
    createdAt := record.createdAt.bind (·.toUtc?)
    updatedAt := record.updatedAt.bind (·.toUtc?)
    lastReadAt := record.lastReadAt.bind (·.toUtc?)
    fetchedAt := fetchedAt.toUtc? }

theorem inUtc_onUtc (record : Notification) (fetchedAt : Timestamp) :
    (record.onUtc fetchedAt).InUtc where
  createdAt := Timestamp.inUtc?_bind_toUtc? _
  updatedAt := Timestamp.inUtc?_bind_toUtc? _
  lastReadAt := Timestamp.inUtc?_bind_toUtc? _
  fetchedAt := Timestamp.inUtc?_toUtc? _

/-- A notification without times, apart from the one when it was fetched. -/
theorem inUtc_of_none {record : Notification} (createdAt : record.createdAt = none)
    (updatedAt : record.updatedAt = none) (lastReadAt : record.lastReadAt = none)
    (fetchedAt : Timestamp.InUtc? record.fetchedAt) : record.InUtc :=
  ⟨createdAt ▸ Timestamp.inUtc?_none, updatedAt ▸ Timestamp.inUtc?_none,
    lastReadAt ▸ Timestamp.inUtc?_none, fetchedAt⟩

/-! ## Writing -/

/-- A row made from a notification holds it on the UTC clock. -/
theorem toRow_eq_ok {record : Notification} {fetchedAt : Timestamp} {row : Row}
    (made : record.toRow fetchedAt = .ok row) : row = (record.onUtc fetchedAt).written := by
  obtain ⟨createdAt, created, made⟩ := Outcome.bind_eq_ok.1 made
  obtain ⟨updatedAt, updated, made⟩ := Outcome.bind_eq_ok.1 made
  obtain ⟨lastReadAt, lastRead, made⟩ := Outcome.bind_eq_ok.1 made
  obtain ⟨fetched, stored, made⟩ := Outcome.bind_eq_ok.1 made
  obtain ⟨utc, moved, rfl⟩ := Timestamp.stored_eq_ok stored
  rw [← Except.ok.inj made, Timestamp.stored?_eq_ok created, Timestamp.stored?_eq_ok updated,
    Timestamp.stored?_eq_ok lastRead]
  simp [written, onUtc, moved]

/-! ## Reading back -/

@[simp] theorem nullable_text_ofText? (value : Option String) :
    nullable text (Json.ofText? value) = .valid value := by
  cases value <;> rfl

@[simp] theorem nullable_integer_ofInt? (value : Option Int) :
    nullable integer (Json.ofInt? value) = .valid value := by
  cases value <;> rfl

theorem nullable_time_isoText {value : Option Timestamp} (utc : Timestamp.InUtc? value) :
    nullable time (Json.ofText? (value.map Timestamp.isoText)) = .valid value := by
  cases value with
  | none => rfl
  | some given => simp [nullable, Json.ofText?, time_isoText (utc given rfl)]

/-- A flag is read back from its column. -/
@[simp] theorem flag_bit (value : Bool) : flag (.bool (Flags.bit value).truthy) = .valid value := by
  cases value <;> rfl

/-- The fields under which a row's columns are read, apart from the parts. -/
theorem fields_written (record : Notification) :
    renamed record.written.columns plainColumns ++ flagColumns record.written.columns =
      [("id", .int record.id), ("github_id", .ofText? record.githubId),
        ("reason", .ofText? record.reason), ("url", .ofText? record.url),
        ("web_url", .ofText? record.webUrl),
        ("created_at", .ofText? (record.createdAt.map Timestamp.isoText)),
        ("updated_at", .ofText? (record.updatedAt.map Timestamp.isoText)),
        ("last_read_at", .ofText? (record.lastReadAt.map Timestamp.isoText)),
        ("fetched_at", .ofText? (record.fetchedAt.map Timestamp.isoText)),
        ("unread", .bool (Flags.bit record.flags.unread).truthy),
        ("archived", .bool (Flags.bit record.flags.archived).truthy),
        ("starred", .bool (Flags.bit record.flags.starred).truthy),
        ("muted", .bool (Flags.bit record.flags.muted).truthy)] := rfl

/-- A notification on the UTC clock is read back from its row. -/
theorem ofRow_written {record : Notification} (utc : record.InUtc) :
    ofRow record.written = .ok record := by
  have subject : Subject.ofJson (.obj (renamed record.written.columns subjectColumns)) =
      .ok record.subject := Subject.ofJson_toJson record.subject
  have repo : Repo.ofJson (.obj (renamed record.written.columns repoColumns)) =
      .ok record.repo := Repo.ofJson_toJson record.repo
  have known : record.written.columns.has "id" = true := rfl
  have checked : checkParts (renamed record.written.columns plainColumns ++
      flagColumns record.written.columns) (.valid record.subject) (.valid record.repo) =
        .valid record := by
    rw [fields_written]
    simp [checkParts, Flags.check, required, Schema.optional, withDefault, Json.Fields.get?,
      List.lookup_cons, integer, nullable_time_isoText utc.createdAt,
      nullable_time_isoText utc.updatedAt, nullable_time_isoText utc.lastReadAt,
      nullable_time_isoText utc.fetchedAt]
  simp only [ofRow, ofColumns, known, if_true, subject, repo, checked, Checked.toExcept]

end Notification

end Triage
