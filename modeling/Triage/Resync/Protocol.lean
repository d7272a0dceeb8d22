import Triage.Notification.Payload
import Triage.Resync.Session

/-!
# Synchronisation

The service is told to synchronise itself and waited for, up to a budget; then
everything is fetched and replaces what the store holds.  A failure leaves the
notifications as they were and is recorded.
-/

namespace Triage.Resync

open Session

/-- The kind of task that synchronises. -/
def taskKind : String := "sync"

/-- Tell the service to synchronise.  Only a refused token is a failure: a
service that is busy or out of order may still answer. -/
def trigger (setup : Setup) : SessionWork Unit := do
  try useRemote setup.client.triggerSync
  catch
    | .remote .unauthorized => throw (.remote .unauthorized)
    | .remote _ => pure ()
    | error => throw error

/-- Whether the service is still at work.  An answer that leaves it open counts
as no, except for a refused token. -/
def stillBusy (setup : Setup) : SessionWork Bool := do
  try useRemote setup.client.isSyncing
  catch
    | .remote .unauthorized => throw (.remote .unauthorized)
    | .remote _ => pure false
    | error => throw error

/-- Whether the budget allows one more question. -/
def mayAsk (setup : Setup) (attempts : Nat) : SessionWork Bool :=
  match setup.pollBudget.isAboveCount attempts with
  | .ok allowed => return allowed
  | .error error => throw error

/-- Ask until the service is no longer at work or the budget is used up, but at
most as many times as the first argument says.  The answer is the number of
pauses, to which those made before are added. -/
def pollFrom (setup : Setup) : Nat → Nat → SessionWork Nat
  | 0, attempts => return attempts
  | most + 1, attempts => do
      if ← mayAsk setup attempts then
        if ← stillBusy setup then
          pause setup.sleep setup.pollInterval
          pollFrom setup most (attempts + 1)
        else return attempts
      else return attempts

/-- Wait for the service.  Each question uses up one of the answers to come, and
after the last of these the service is not busy, which bounds the number of
questions. -/
def waitForService (setup : Setup) : SessionWork Nat := do
  let route := setup.client.route "GET" Client.progressPath
  let pending := ((← get).replies.lookup route).getD []
  pollFrom setup (pending.length + 1) 0

/-- Read every notification that the service described, stopping at the first
one that cannot be used. -/
def readPayloads (room : Nat) (now : Timestamp) (payloads : List Json) :
    Except Error (List Notification.Received) :=
  payloads.mapM (Notification.receive room now)

/-- The steps of a synchronisation up to the end or the first failure. -/
def steps (setup : Setup) (triggered : Bool) : SessionWork ResyncResult := do
  let attempts ←
    if triggered then do
      enter .triggering
      trigger setup
      enter .polling
      waitForService setup
    else pure 0
  enter .fetching
  let payloads ← useRemote (setup.client.fetchAll {})
  let pinned ← useRemote setup.client.pinnedSearches
  enter .replacing
  let now := (← get).now
  let received ← MonadExcept.ofExcept (readPayloads setup.client.room.writing now payloads)
  let count ← useStore (Store.replaceReceived now received)
  let totals ← useStore Store.totals
  return {
    count := count
    pinned := pinned
    totals := totals
    triggered := triggered
    attempts := attempts }

/-- Record a failure in the session and in the store; if the store cannot record
it, the failure itself still counts. -/
def recordFailure (error : Error) : SessionWork Unit := do
  enter .error
  modify fun session => { session with lastError := some error.message }
  try useStore (Store.markSyncError Store.notificationsResource (some error.message))
  catch _ => pure ()

/-- Synchronise the store with the service. -/
def resync (setup : Setup) (triggered : Bool) : SessionWork ResyncResult := do
  try
    let result ← steps setup triggered
    enter .idle
    modify fun session => { session with lastError := none }
    pure result
  catch error =>
    recordFailure error
    enter .idle
    throw error

/-- Synchronise the store with the service, which is told to do so itself if a
value counts as given.  The outcome reports the value as a truth value, and a
value that is none is only refused then. -/
def resyncGiven (setup : Setup) (wish : Json) : SessionWork ResyncResult := do
  let result ← resync setup wish.truthy
  match (Schema.flag wish).under "triggered" with
  | .valid triggered => return { result with triggered := triggered }
  | .invalid faults => throw (.invalid ⟨ResyncResult.modelName, faults⟩)

/-- Synchronise in the background. -/
def start (work : SessionWork ResyncResult) : SessionWork Unit :=
  runTask taskKind none do
    return .resync (← work)

/-- Whether the last synchronisation is too long ago. -/
def isNeeded (setup : Setup) : SessionWork Bool := do
  useStore (Store.isStale (← get).now Store.notificationsResource setup.lifetime)

end Triage.Resync
