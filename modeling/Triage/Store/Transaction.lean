import Triage.Store.SyncStatus
import Triage.Store.Table

/-!
# Transactions

The store holds the table of notifications and, for each resource, how its last
synchronisation ended.  Work on it is a sequence of statements, each of which may
fail half way through; a transaction keeps the effects of all of them or of
none.
-/

namespace Triage

/-- The recorded outcome of a synchronisation; its time is a text of UTC. -/
structure SyncRecord where
  lastSync : Option String
  error : Option String
  deriving DecidableEq, Repr

/-- Everything that is kept between runs. -/
structure Store where
  notifications : Table := .empty
  /-- The outcomes by resource. -/
  syncs : List (String × SyncRecord) := []
  deriving Inhabited, Repr

/-- The file that holds the store. -/
inductive StoreFile where
  | intact (store : Store)
  /-- The file holds something else. -/
  | damaged
  /-- A directory stands in its place. -/
  | blocked
  deriving Inhabited, Repr

/-- Statements, which see the effects of those before them even if a later one
fails. -/
abbrev Transaction := ExceptT Error (StateM Store)

/-- Work on the store's file. -/
abbrev StoreAccess := ExceptT Error (StateM StoreFile)

namespace Transaction

/-- Run statements together: if one fails, the effects of all are undone. -/
def commit {α : Type} (work : Transaction α) : StoreAccess α :=
  ExceptT.mk fun file =>
    match file with
    | .damaged => (.error .notAStore, .damaged)
    | .blocked => (.error .noStorePlace, .blocked)
    | .intact store =>
        match work.run store with
        | (.ok value, changed) => (.ok value, .intact changed)
        | (.error error, _) => (.error error, .intact store)

/-- Delete every notification. -/
def deleteAll : Transaction Unit :=
  modify fun store => { store with notifications := .empty }

/-- Refuse integers beyond 64 bits. -/
def requireFits (fits : Bool) : Transaction Unit :=
  if fits then pure () else throw (.overflow .storedInteger)

/-- Write a row in the place of an old one of its number. -/
def write (row : Row) : Transaction Unit := do
  requireFits row.fits
  modify fun store => { store with notifications := store.notifications.put row }

/-- Write rows one after the other. -/
def writeAll : List Row → Transaction Unit
  | [] => pure ()
  | row :: rest => do
      write row
      writeAll rest

/-- Write a row with columns whose texts have no bytes; the first column that cannot be
written is refused. -/
def writeMarked (row : Row) (halved : List (String × Text.Halved)) : Transaction Unit := do
  if let some error := row.fault? halved then throw error
  modify fun store => { store with notifications := store.notifications.put row }

/-- The row of a number. -/
def find (id : Int) : Transaction (Option Row) := do
  requireFits (Width.fits64 id)
  return (← get).notifications.get? id

/-- The numbers that have a row. -/
def findAll (ids : List Int) : Transaction (List Int) := do
  requireFits (ids.all Width.fits64)
  let table := (← get).notifications
  return ids.filter table.has

/-- Set flags of a notification; the answer tells whether it was there. -/
def patch (id : Int) (changes : List (Flag × Bool)) (fetchedAt : String) : Transaction Bool := do
  requireFits (Width.fits64 id)
  let table := (← get).notifications
  modify fun store => { store with notifications := table.patch id changes fetchedAt }
  return table.has id

/-- Record how a synchronisation at the given time ended. -/
def recordSync (resource : String) (time : Timestamp) (error : Option String) :
    Transaction Unit := do
  let text ← time.stored
  modify fun store =>
    { store with syncs := Keyed.put store.syncs resource ⟨some text, error⟩ }

/-- Record a failure and keep the time of the last synchronisation. -/
def recordError (resource : String) (error : Option String) : Transaction Unit :=
  modify fun store =>
    let lastSync := (store.syncs.lookup resource).bind (·.lastSync)
    { store with syncs := Keyed.put store.syncs resource ⟨lastSync, error⟩ }

/-- A transaction that fails leaves the file as it was. -/
theorem commit_run_error {α : Type} {work : Transaction α} {file after : StoreFile}
    {error : Error} (failed : work.commit.run file = (.error error, after)) : after = file := by
  cases file with
  | damaged => cases failed; rfl
  | blocked => cases failed; rfl
  | intact store =>
      simp only [commit, ExceptT.run, ExceptT.mk] at failed
      split at failed
      · cases failed
      · cases failed; rfl

end Transaction

end Triage
