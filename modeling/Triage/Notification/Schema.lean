import Triage.Notification.Basic
import Triage.Schema.Field

/-!
# Checks of notifications

The schema of a notification and of its parts.  Only the number is required;
faults are reported in the order of the fields.
-/

namespace Triage

open Schema

/-- A subject's fields. -/
def Subject.check (fields : Json.Fields) : Checked Subject :=
  Subject.mk
    <$> optional fields "title" Schema.text
    <*> optional fields "url" Schema.text
    <*> optional fields "type" Schema.text
    <*> optional fields "state" Schema.text
    <*> optional fields "author" Schema.text

/-- A repository's fields. -/
def Repo.check (fields : Json.Fields) : Checked Repo :=
  Repo.mk
    <$> optional fields "id" integer
    <*> optional fields "name" Schema.text
    <*> optional fields "owner" Schema.text
    <*> optional fields "url" Schema.text

/-- The four flags among an object's fields. -/
def Flags.check (fields : Json.Fields) : Checked Flags :=
  Flags.mk
    <$> withDefault fields "unread" true flag
    <*> withDefault fields "archived" false flag
    <*> withDefault fields "starred" false flag
    <*> withDefault fields "muted" false flag

namespace Notification

/-- A notification's fields, given its checked subject and repository. -/
def checkParts (fields : Json.Fields) (subject : Checked Subject) (repo : Checked Repo) :
    Checked Notification :=
  Notification.mk
    <$> required fields "id" integer
    <*> optional fields "github_id" Schema.text
    <*> optional fields "reason" Schema.text
    <*> Flags.check fields
    <*> optional fields "url" Schema.text
    <*> optional fields "web_url" Schema.text
    <*> subject
    <*> repo
    <*> optional fields "created_at" time
    <*> optional fields "updated_at" time
    <*> optional fields "last_read_at" time
    <*> optional fields "fetched_at" time

/-- A notification's fields, with its subject and repository as objects. -/
def check (fields : Json.Fields) : Checked Notification :=
  checkParts fields
    (withDefault fields "subject" {} (object Subject.check))
    (withDefault fields "repo" {} (object Repo.check))

/-- The notification that a value describes. -/
def ofJson (value : Json) : Except Failure Notification :=
  (object check value).toExcept "Notification"

end Notification

/-- The subject that a value describes. -/
def Subject.ofJson (value : Json) : Except Failure Subject :=
  (object Subject.check value).toExcept "Subject"

/-- The repository that a value describes. -/
def Repo.ofJson (value : Json) : Except Failure Repo :=
  (object Repo.check value).toExcept "Repo"

end Triage
