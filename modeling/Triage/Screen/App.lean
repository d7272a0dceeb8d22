import Triage.Action.Reconcile
import Triage.Resync.Probe
import Triage.Resync.Protocol
import Triage.Screen.Transition

/-!
# The application

The screen together with a session.  Commands of the screen are carried out on
the session, and outcomes of background tasks come back as events when the
application looks at them.
-/

namespace Triage

/-- The application. -/
structure App where
  session : Session
  screen : Screen := {}
  /-- How many actions were rolled back. -/
  rollbacks : Nat := 0
  /-- The phase of synchronisation that was seen last. -/
  seenPhase : Phase := .idle
  /-- The addresses that were opened, the oldest first. -/
  opened : List String := []

/-- Work in an application. -/
abbrev AppWork := ExceptT Error (StateM App)

namespace App

/-- Work in the application's session. -/
def useSession {α : Type} (work : SessionWork α) : AppWork α :=
  ExceptT.mk fun app =>
    let done := work.run app.session
    (done.1, { app with session := done.2 })

/-- Let the screen answer an event; the commands of the answer are returned. -/
def answer (event : Event) : AppWork (List Command) := do
  let app ← get
  match app.screen.respond event with
  | .ok answer =>
      set { app with screen := answer.1 }
      return answer.2
  | .error failure => throw (.invalid failure)

/-- Read the view, the counts and the division of the inbox from the store and
show them.  The screen's answer to this has no commands. -/
def reload : AppWork Unit := do
  let view := (← get).screen.view
  let notifications ← useSession (Session.useStore (Store.loadNamed view))
  let counts ← useSession (Session.useStore Store.counts)
  let totals ← useSession (Session.useStore Store.totals)
  let _ ← answer (.loaded view notifications counts totals)

/-- Carry out a command. -/
def execute (setup : Setup) : Command → AppWork Unit
  | .reload => reload
  | .patchStore changes => useSession (Plan.applyChanges changes)
  | .callRemote plan => useSession (Plan.submit setup plan)
  | .startSync trigger => useSession (Resync.start (Resync.resync setup trigger))
  | .openUrl url => modify fun app => { app with opened := app.opened ++ [url] }

/-- Let an event happen: the screen answers and its commands are carried out. -/
def dispatch (setup : Setup) (event : Event) : AppWork Unit := do
  (← answer event).forM (execute setup)

/-- Show what the store holds, and synchronise if that is too long ago. -/
def start (setup : Setup) : AppWork Unit := do
  reload
  if ← useSession (Resync.isNeeded setup) then dispatch setup .resync

/-- Deal with the outcome of a synchronisation. -/
def completeSync (setup : Setup) (completion : TaskCompletion) : AppWork Unit := do
  modify fun app => { app with seenPhase := app.session.phase }
  match completion.outcome with
  | .ok (.resync result) => dispatch setup (.syncFinished result.pinned result.totals)
  | .ok (.plain value) => throw (.misuse (.noPart value.kindName "pinned"))
  | .error error => dispatch setup (.syncFailed error.message)

/-- Deal with the outcome of an action. -/
def completeAction (setup : Setup) (completion : TaskCompletion) : AppWork Unit := do
  if ← useSession (Plan.settle completion) then
    modify fun app => { app with rollbacks := app.rollbacks + 1 }
    match completion.context with
    | some plan => dispatch setup (.actionFailed plan.action.name completion.message)
    | none => return ()

/-- Deal with the outcome of a task; tasks of other kinds do not matter. -/
def complete (setup : Setup) (completion : TaskCompletion) : AppWork Unit := do
  if completion.kind == Resync.taskKind then completeSync setup completion
  else if completion.kind == Plan.taskKind then completeAction setup completion

/-- Show a phase that was not seen yet. -/
def followPhase (setup : Setup) : AppWork Unit := do
  let app ← get
  let phase := app.session.phase
  unless phase = app.seenPhase do
    set { app with seenPhase := phase }
    unless phase = .error do
      dispatch setup (.syncProgress phase)

/-- While nothing is going on, show the store again if it has changed. -/
def lookForChanges (setup : Setup) : AppWork Unit := do
  let app ← get
  unless app.screen.loading || app.screen.syncing do
    if (← useSession (Probe.check setup app.screen.counts)).isSome then reload

/-- Deal with everything that has come up since the last time. -/
def pump (setup : Setup) : AppWork Unit := do
  (← useSession Session.drain).forM (complete setup)
  followPhase setup
  lookForChanges setup

end App

end Triage
