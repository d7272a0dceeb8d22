import Triage.Console.Machine
import Triage.Report.Health

/-!
# Checkups

A look at the store, the token, the last synchronisation and the remote service.
What is wrong with one of them does not keep the others from being looked at.
-/

namespace Triage.Console

open Report (Verdict)

/-- How a part of the program was found. -/
structure Finding where
  verdict : Verdict
  message : String
  deriving DecidableEq, Repr

namespace Checkup

/-- Turn an error into a finding. -/
def guarded (work : Work Finding) : Work Finding := do
  try work
  catch error => return ⟨.bad, errorText error⟩

/-- Look at the store, which is not made if there is none. -/
def store : Work Finding := do
  if (← get).store.isNone then
    return ⟨.attention, "Not created yet (run 'tidings sync')"⟩
  guarded do
    let counts ← useStore Store.counts
    return ⟨.good, "OK (" ++ toString counts.inbox ++ " in inbox, " ++
      toString counts.archived ++ " archived)"⟩

/-- Look for a token. -/
def token : Work Finding := do
  let around := (← get).surroundings
  let token ← MonadExcept.ofExcept (around.token? .null)
  if (token.getD "").isEmpty then return ⟨.bad, "No API token"⟩
  if around.has around.tokenLocation then return ⟨.good, "OK (token file)"⟩
  return ⟨.good, "OK"⟩

/-- How a recorded synchronisation is found. -/
def syncFinding (stale : Bool) (status : SyncStatus) : Finding :=
  match status.lastSync, status.error.getD "" with
  | none, _ => ⟨.attention, "Never synced"⟩
  | some lastSync, "" =>
      let time := " (last sync " ++ lastSync.minuteText ++ " UTC)"
      if stale then ⟨.attention, "Stale" ++ time⟩ else ⟨.good, "OK" ++ time⟩
  | some _, error => ⟨.attention, "Last attempt failed: " ++ error⟩

/-- Whether it matters for a recorded synchronisation how long ago it was. -/
def ageMatters (status : SyncStatus) : Bool :=
  status.lastSync.isSome && (status.error.getD "").isEmpty

/-- Look at the last synchronisation. -/
def sync : Work Finding := do
  let machine ← get
  if machine.store.isNone then return ⟨.notApplicable, "Never synced"⟩
  guarded do
    match ← useStore (Store.syncStatus Store.notificationsResource) with
    | none => return ⟨.attention, "Never synced"⟩
    | some status =>
        let stale ←
          if ageMatters status then
            useStore (Store.isStale machine.now Store.notificationsResource
              Store.defaultLifetime)
          else pure false
        return syncFinding stale status

/-- Look at the remote service as the account. -/
def remote : Work Finding := do
  match ← account? with
  | none => return ⟨.notApplicable, "Skipped (no token)"⟩
  | some account =>
      guarded do
        let profile ← useRemote account.client.userProfile
        return ⟨.good, "OK (" ++ profile.loginOr "unknown user" ++ " @ " ++
          account.address ++ ")"⟩

/-- Look at every part. -/
def all : Work (List (String × Finding)) := do
  let store ← store
  let token ← token
  let sync ← sync
  let remote ← remote
  return [("Store", store), ("Token", token), ("Sync", sync), ("Remote", remote)]

end Checkup

end Triage.Console
