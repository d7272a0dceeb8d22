import Triage.Json.Parts
import Triage.Notification.Schema

/-!
# Descriptions of notifications

A notification as a JSON object that its schema accepts: every field is present,
and times are in ISO 8601.
-/

namespace Triage

/-- A time as a text, or null. -/
def Timestamp.toJson? : Option Timestamp → Json
  | some time => .str time.isoText
  | none => .null

/-- The description of a subject. -/
def Subject.toJson (subject : Subject) : Json :=
  .obj [("title", .ofText? subject.title), ("url", .ofText? subject.url),
    ("type", .ofText? subject.kind), ("state", .ofText? subject.state),
    ("author", .ofText? subject.author)]

/-- The description of a repository. -/
def Repo.toJson (repo : Repo) : Json :=
  .obj [("id", .ofInt? repo.id), ("name", .ofText? repo.name), ("owner", .ofText? repo.owner),
    ("url", .ofText? repo.url)]

/-- The flags by their names. -/
def Flags.toFields (flags : Flags) : Json.Fields :=
  Flag.all.map fun flag => (flag.name, .bool (flags.get flag))

/-- The description of a notification. -/
def Notification.toJson (record : Notification) : Json :=
  .obj ([("id", .int record.id), ("github_id", .ofText? record.githubId),
      ("reason", .ofText? record.reason)] ++ record.flags.toFields ++
    [("url", .ofText? record.url), ("web_url", .ofText? record.webUrl),
      ("subject", record.subject.toJson), ("repo", record.repo.toJson),
      ("created_at", Timestamp.toJson? record.createdAt),
      ("updated_at", Timestamp.toJson? record.updatedAt),
      ("last_read_at", Timestamp.toJson? record.lastReadAt),
      ("fetched_at", Timestamp.toJson? record.fetchedAt)])

/-- The schema reads the description of a subject as that subject. -/
theorem Subject.ofJson_toJson (subject : Subject) :
    Subject.ofJson subject.toJson = .ok subject := by
  obtain ⟨title, url, kind, state, author⟩ := subject
  cases title <;> cases url <;> cases kind <;> cases state <;> cases author <;> rfl

/-- The schema reads the description of a repository as that repository. -/
theorem Repo.ofJson_toJson (repo : Repo) : Repo.ofJson repo.toJson = .ok repo := by
  obtain ⟨id, name, owner, url⟩ := repo
  cases id <;> cases name <;> cases owner <;> cases url <;> rfl

end Triage
