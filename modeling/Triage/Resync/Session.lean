import Triage.Json.Parts
import Triage.Remote.Wire
import Triage.Resync.Setup

/-!
# Sessions

The state that synchronisation and actions share: the store's file, the answers
the remote service will give, the time, the phase of synchronisation, and the
outcomes of background tasks that have not been looked at.  A session also keeps
a record of what it did to the outside.
-/

namespace Triage

/-- What a synchronisation is doing. -/
inductive Phase where
  | idle
  | triggering
  | polling
  | fetching
  | replacing
  | error
  deriving DecidableEq, Repr, Inhabited

namespace Phase

/-- Every phase. -/
def all : List Phase := [.idle, .triggering, .polling, .fetching, .replacing, .error]

/-- The name of a phase. -/
def name : Phase → String
  | .idle => "idle"
  | .triggering => "triggering"
  | .polling => "polling"
  | .fetching => "fetching"
  | .replacing => "replacing"
  | .error => "error"

/-- The phase of a name. -/
def ofName? (name : String) : Option Phase :=
  all.find? fun phase => phase.name == name

/-- The phase that a value names. -/
def ofJson (value : Json) : Except Error Phase :=
  match value.text?.bind ofName? with
  | some phase => .ok phase
  | none => .error (.refusal (.phase value))

end Phase

/-- What a finished synchronisation brought. -/
structure ResyncResult where
  count : Int := 0
  pinned : List PinnedSearch := []
  totals : FacetTotals := {}
  triggered : Bool := false
  attempts : Int := 0
  deriving DecidableEq, Repr

namespace ResyncResult

open Schema

/-- The name of the model of results. -/
def modelName : String := "SyncResult"

/-- The result that a value describes. -/
def ofJson (value : Json) : Except Failure ResyncResult :=
  (object check value).toExcept modelName
where
  /-- The fields of a result. -/
  check (fields : Json.Fields) : Checked ResyncResult :=
    ResyncResult.mk
      <$> withDefault fields "count" 0 integer
      <*> withDefault fields "pinned" [] (list (object PinnedSearch.check))
      <*> withDefault fields "facets" {} (object FacetTotals.check)
      <*> withDefault fields "triggered" false flag
      <*> withDefault fields "attempts" 0 integer

end ResyncResult

/-- The outcome of a background task. -/
structure Completion (Value Context : Type) where
  kind : String
  outcome : Except Error Value
  context : Context
  deriving Repr

namespace Completion

variable {Value Context : Type}

/-- Put the outcome of a task behind those that have not been looked at. -/
def post (completions : List (Completion Value Context)) (kind : String)
    (outcome : Except Error Value) (context : Context) : List (Completion Value Context) :=
  completions ++ [⟨kind, outcome, context⟩]

/-- Take every outcome, the oldest first; none is left. -/
def takeAll (completions : List (Completion Value Context)) :
    List (Completion Value Context) × List (Completion Value Context) :=
  (completions, [])

/-- Whether the task succeeded. -/
def ok (completion : Completion Value Context) : Bool :=
  completion.outcome.isOk

/-- The wording of a failure, empty for a success. -/
def message (completion : Completion Value Context) : String :=
  match completion.outcome with
  | .ok _ => ""
  | .error error => error.message

end Completion

/-- What a task of a session may bring. -/
inductive TaskValue where
  | resync (result : ResyncResult)
  | plain (value : Json)
  deriving Repr

/-- The outcome of a session's task, with the plan it carried out. -/
abbrev TaskCompletion := Completion TaskValue (Option Plan)

/-- A session. -/
structure Session where
  file : StoreFile
  now : Timestamp
  /-- Answers to come, by method and path. -/
  replies : List (String × List Reply) := []
  phase : Phase := .idle
  lastError : Option String := none
  /-- Outcomes that have not been looked at, the oldest first. -/
  completions : List TaskCompletion := []
  /-- Seconds on a clock that only measures. -/
  uptime : Binary64 := .zero
  /-- When the store was last looked at for changes. -/
  lastProbe : Option Binary64 := none
  /-- The requests sent, each with the phase in which it was sent. -/
  exchanges : List (Request × Phase) := []
  /-- The pauses made, in seconds. -/
  pauses : List Json := []

/-- Work in a session. -/
abbrev SessionWork := ExceptT Error (StateM Session)

namespace Session

/-- Work on the store's file. -/
def useStore {α : Type} (work : StoreAccess α) : SessionWork α :=
  ExceptT.mk fun session =>
    let done := work.run session.file
    (done.1, { session with file := done.2 })

/-- Work with the remote service. -/
def useRemote {α : Type} (work : RemoteAccess α) : SessionWork α :=
  ExceptT.mk fun session =>
    let done := work.run ⟨session.replies, []⟩
    (done.1,
      { session with
        replies := done.2.replies
        exchanges :=
          session.exchanges ++ done.2.sent.map fun request => (request, session.phase) })

/-- Let the clocks go on: the time of day to a given one, the clock that only
measures by some seconds. -/
def pass (now : Timestamp) (seconds : Binary64) : SessionWork Unit :=
  modify fun session => { session with now := now, uptime := session.uptime.add seconds }

/-- Enter a phase. -/
def enter (phase : Phase) : SessionWork Unit :=
  modify fun session => { session with phase := phase }

/-- Pause for a number of seconds.  Seconds that what waits does not take are no pause. -/
def pause (sleep : Json → Except Error Unit) (seconds : Json) : SessionWork Unit := do
  MonadExcept.ofExcept (sleep seconds)
  modify fun session => { session with pauses := session.pauses ++ [seconds] }

/-- Run a task in the background.  Whatever becomes of it is kept as its
outcome. -/
def runTask (kind : String) (context : Option Plan) (task : SessionWork TaskValue) :
    SessionWork Unit :=
  ExceptT.mk fun session =>
    let done := task.run session
    (.ok (),
      { done.2 with completions := Completion.post done.2.completions kind done.1 context })

/-- Take every outcome that has not been looked at. -/
def drain : SessionWork (List TaskCompletion) := do
  let (completions, rest) := Completion.takeAll (← get).completions
  modify fun session => { session with completions := rest }
  return completions

end Session

end Triage
