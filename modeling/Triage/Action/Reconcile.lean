import Triage.Resync.Session

/-!
# Reconciling actions

An action is applied to the store at once and sent to the remote service in the
background.  If the request fails, the values that the action replaced are
written back.
-/

namespace Triage.Plan

open Session

/-- The kind of task that sends an action. -/
def taskKind : String := "action"

/-- Write values into the store, notification by notification. -/
def applyChanges (changes : List (Int × FlagChanges)) : SessionWork Unit :=
  changes.forM fun change => do
    let _ ← useStore (Store.patch (← get).now change.1 change.2)

/-- Ask the remote service for what a plan needs. -/
def callRemote (setup : Setup) (plan : Plan) : SessionWork Unit :=
  match plan.mutation with
  | some mutation => useRemote (setup.client.mutate mutation plan.ids)
  | none => return ()

/-- Send an action in the background; an empty one is not sent. -/
def submit (setup : Setup) (plan : Plan) : SessionWork Unit := do
  unless plan.isEmpty do
    runTask taskKind (some plan) do
      callRemote setup plan
      return .plain .null

/-- Apply an action to the store and send it in the background. -/
def perform (setup : Setup) (plan : Plan) : SessionWork Unit := do
  unless plan.isEmpty do
    applyChanges plan.changes
    submit setup plan

/-- Write back the values that an action replaced. -/
def rollback (plan : Plan) : SessionWork Unit :=
  applyChanges plan.previous

/-- Deal with the outcome of a task: a failed action is rolled back.  The answer
tells whether that was so. -/
def settle (completion : TaskCompletion) : SessionWork Bool := do
  match completion.outcome, completion.context with
  | .error _, some plan =>
      rollback plan
      return true
  | _, _ => return false

end Triage.Plan
