import Triage.Notification.Payload
import Triage.Store.Totals
import Triage.Store.Transaction
import Triage.Time.Duration

/-!
# Working with the store

The operations on the store's file, each of which is one transaction.  Those
that depend on the time are given it.
-/

namespace Triage.Store

/-- The resource under which synchronisations of notifications are recorded. -/
def notificationsResource : String := "notifications"

/-- How long a synchronisation counts as fresh unless settings say otherwise. -/
def defaultLifetime : Duration := Duration.ofSeconds 300

/-- Replace every notification by the given ones, the last one of a number
counting, and record a synchronisation.  The answer is their number. -/
def replaceAll (now : Timestamp) (records : List Notification) : StoreAccess Nat := do
  let rows ← records.mapM fun record => record.toRow now
  let latest := (Keyed.ofList (rows.map fun row => (row.id, row))).map Prod.snd
  Transaction.commit do
    Transaction.deleteAll
    Transaction.writeAll latest
    Transaction.recordSync notificationsResource now none
  return latest.length

/-- Replace every notification by those that the service described, which may have texts
without bytes: where such a text would be written, the replacement fails. -/
def replaceReceived (now : Timestamp) (received : List Notification.Received) :
    StoreAccess Nat := do
  let rows ← received.mapM fun each => each.toRow now
  let latest := (Keyed.ofList (rows.map fun row => (row.1.id, row))).map Prod.snd
  Transaction.commit do
    Transaction.deleteAll
    latest.forM fun row => Transaction.writeMarked row.1 row.2
    Transaction.recordSync notificationsResource now none
  return latest.length

/-- Add or replace notifications and record a synchronisation; an empty list
changes nothing.  The answer is the number of new and of replaced ones. -/
def upsert (now : Timestamp) (records : List Notification) : StoreAccess (Nat × Nat) := do
  let rows ← records.mapM fun record => record.toRow now
  if rows.isEmpty then return (0, 0)
  let ids := (rows.map (·.id)).eraseDups
  let known ← Transaction.commit do
    let known ← Transaction.findAll ids
    Transaction.writeAll rows
    Transaction.recordSync notificationsResource now none
    return known
  return (ids.length - known.length, known.length)

/-- Set flags of one notification.  The answer is no if it is not there, or if
there is nothing to set. -/
def patch (now : Timestamp) (id : Int) (changes : List (Flag × Bool)) : StoreAccess Bool := do
  if changes.isEmpty then return false
  let fetchedAt ← now.stored
  Transaction.commit (Transaction.patch id changes fetchedAt)

/-- Changes of flags by their names; other names are refused. -/
def namedChanges (fields : List (String × Bool)) : Except Error (List (Flag × Bool)) :=
  let unknown := (fields.map Prod.fst).filter fun name => (Flag.ofName? name).isNone
  if unknown.isEmpty then
    .ok (fields.filterMap fun field => (Flag.ofName? field.1).map fun flag => (flag, field.2))
  else .error (.refusal (.fields (distinctSorted unknown)))

/-- Set flags of one notification by their names. -/
def patchNamed (now : Timestamp) (id : Int) (fields : List (String × Bool)) :
    StoreAccess Bool := do
  patch now id (← namedChanges fields)

/-- The notification of a number. -/
def get (id : Int) : StoreAccess (Option Notification) := do
  match ← Transaction.commit (Transaction.find id) with
  | some row => some <$> Notification.ofRow row
  | none => return none

/-- The table of notifications. -/
def table : StoreAccess Table :=
  Transaction.commit do return (← MonadState.get).notifications

/-- The notifications of a view in its order. -/
def load (view : View) : StoreAccess (List Notification) := do
  ((← table).view view).mapM fun row => Notification.ofRow row

/-- The notifications of a named view. -/
def loadNamed (name : String) : StoreAccess (List Notification) :=
  match View.ofName? name with
  | some view => load view
  | none => throw (.refusal (.view name))

/-- The number of notifications in each tab. -/
def counts : StoreAccess TabCounts :=
  return (← table).counts

/-- How the notifications of the inbox are divided. -/
def totals : StoreAccess FacetTotals :=
  return (← table).totals

/-- Record a synchronisation of a resource now. -/
def markSynced (now : Timestamp) (resource : String) (error : Option String) :
    StoreAccess Unit := do
  let _ ← now.stored
  Transaction.commit (Transaction.recordSync resource now error)

/-- Record that a synchronisation of a resource failed. -/
def markSyncError (resource : String) (error : Option String) : StoreAccess Unit :=
  Transaction.commit (Transaction.recordError resource error)

/-- How the last synchronisation of a resource ended, if there was one. -/
def syncStatus (resource : String) : StoreAccess (Option SyncStatus) := do
  match ← Transaction.commit (do return (← MonadState.get).syncs.lookup resource) with
  | none => return none
  | some found =>
      match SyncStatus.ofJson (.obj
          [("resource", .str resource), ("last_sync", .ofText? found.lastSync),
            ("error", .ofText? found.error)]) with
      | .ok status => return some status
      | .error failure => throw (.invalid failure)

/-- The time of the last synchronisation of a resource. -/
def lastSyncTime (resource : String) : StoreAccess (Option Timestamp) :=
  return (← syncStatus resource).bind (·.lastSync)

/-- Whether a resource was never synchronised, or more than the given time
ago. -/
def isStale (now : Timestamp) (resource : String) (lifetime : Duration) : StoreAccess Bool := do
  match ← lastSyncTime resource with
  | none => return true
  | some lastSync =>
      if now.offset.isNone then throw (.misuse .mixedOffsets)
      return decide (lifetime.micros < now.instant - lastSync.instant)

end Triage.Store
