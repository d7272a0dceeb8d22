import Triage.Schema.Field

/-!
# Sync status

How the last synchronisation of a resource ended.
-/

namespace Triage

open Schema

/-- The outcome of the last synchronisation of one resource. -/
structure SyncStatus where
  resource : String
  lastSync : Option Timestamp := none
  error : Option String := none
  deriving DecidableEq, Repr

namespace SyncStatus

/-- A status' fields; only the resource is required. -/
def check (fields : Json.Fields) : Checked SyncStatus :=
  SyncStatus.mk
    <$> required fields "resource" text
    <*> optional fields "last_sync" time
    <*> optional fields "error" text

/-- The status that a value describes. -/
def ofJson (value : Json) : Except Failure SyncStatus :=
  (object check value).toExcept "SyncStatus"

end SyncStatus

end Triage
