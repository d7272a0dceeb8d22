import Triage.Json.Parts
import Triage.Json.Reader
import Triage.Json.Writer
import Triage.Store.Transaction

/-!
# The text of the store's file

The file holds the store as one JSON object: a list of rows by their columns and
a list of the recorded synchronisations.  What a row is written as reads back as
that row.
-/

namespace Triage

namespace Row

/-- The row that columns describe; they must tell its number. -/
def ofColumns? (columns : Json.Fields) : Option Row :=
  match columns.getD "id" with
  | .int id =>
      some {
        id := id
        githubId := (columns.getD "github_id").text?
        reason := (columns.getD "reason").text?
        flags := {
          unread := (columns.getD "unread").truthy
          archived := (columns.getD "archived").truthy
          starred := (columns.getD "starred").truthy
          muted := (columns.getD "muted").truthy }
        url := (columns.getD "url").text?
        webUrl := (columns.getD "web_url").text?
        subject := {
          title := (columns.getD "subject_title").text?
          url := (columns.getD "subject_url").text?
          kind := (columns.getD "subject_type").text?
          state := (columns.getD "subject_state").text?
          author := (columns.getD "subject_author").text? }
        repo := {
          id := (columns.getD "repo_id").int?
          name := (columns.getD "repo_name").text?
          owner := (columns.getD "repo_owner").text?
          url := (columns.getD "repo_url").text? }
        createdAt := (columns.getD "created_at").text?
        updatedAt := (columns.getD "updated_at").text?
        lastReadAt := (columns.getD "last_read_at").text?
        fetchedAt := (columns.getD "fetched_at").text? }
  | _ => none

/-- The columns of a row describe that row. -/
theorem ofColumns?_columns (row : Row) : ofColumns? row.columns = some row := by
  have texts (value : Option String) : (Json.ofText? value).text? = value := by
    cases value <;> rfl
  have integers (value : Option Int) : (Json.ofInt? value).int? = value := by
    cases value <;> rfl
  have bits (value : Bool) : (Flags.bit value).truthy = value := by
    cases value <;> rfl
  simp [ofColumns?, columns, Json.Fields.getD, List.lookup_cons, texts, integers, bits]

end Row

/-- The table of some rows, of which the last one of a number counts. -/
def Table.ofRows (rows : List Row) : Table :=
  rows.foldl Table.put .empty

namespace SyncRecord

/-- A recorded synchronisation of a resource as a list of three. -/
def toJson (resource : String) (record : SyncRecord) : Json :=
  .arr [.str resource, .ofText? record.lastSync, .ofText? record.error]

/-- The recorded synchronisation that a value describes. -/
def ofJson? : Json → Option (String × SyncRecord)
  | .arr [.str resource, lastSync, error] => some (resource, ⟨lastSync.text?, error.text?⟩)
  | _ => none

/-- What a recorded synchronisation is written as reads back. -/
theorem ofJson?_toJson (resource : String) (record : SyncRecord) :
    ofJson? (toJson resource record) = some (resource, record) := by
  obtain ⟨lastSync, error⟩ := record
  cases lastSync <;> cases error <;> rfl

end SyncRecord

namespace Store

/-- A store as an object. -/
def toJson (store : Store) : Json :=
  .obj [("notifications", .arr (store.notifications.rows.map fun row => .obj row.columns)),
    ("syncs", .arr (store.syncs.map fun entry => SyncRecord.toJson entry.1 entry.2))]

/-- The store that a value describes. -/
def ofJson? (value : Json) : Option Store := do
  let rows ← (value.field "notifications").items.mapM fun item => Row.ofColumns? item.fields
  let syncs ← (value.field "syncs").items.mapM SyncRecord.ofJson?
  return { notifications := .ofRows rows, syncs := syncs }

end Store

namespace StoreFile

/-- The text of a file, which is known while it is intact. -/
def text? : StoreFile → Option String
  | .intact store => some store.toJson.write
  | .damaged => none
  | .blocked => none

/-- Whether the text of a file is too short to hold anything: no byte or one. -/
def isBlank (text : String) : Bool :=
  text.utf8ByteSize ≤ 1

/-- The file of a text; a blank one holds an empty store. -/
def ofText (text : String) : StoreFile :=
  if isBlank text then .intact {}
  else
    match (Json.read? text).bind Store.ofJson? with
    | some store => .intact store
    | none => .damaged

end StoreFile

end Triage
