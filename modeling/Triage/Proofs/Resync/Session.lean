import Triage.Proofs.Work
import Triage.Resync.Session

/-!
# What work in a session leaves alone

Work with the service uses up answers and records requests; pauses and changes of
phase only record themselves.  None of it touches the store's file, the clocks or
the outcomes of tasks.
-/

namespace Triage

/-- A service at a usual address, asked for pages of a hundred. -/
def Setup.sample : Setup where
  client := Client.make "https://tidings.test" "secret" (.int 100)

/-- The first moment of the calendar lies within it. -/
theorem Timestamp.origin_lt : 0 < 3652059 * 86400000000 := by
  decide

/-- The first moment of the calendar on the UTC clock. -/
def Timestamp.origin : Timestamp :=
  ⟨0, some 0, Timestamp.origin_lt⟩

namespace Session

variable {α : Type}

/-- What a session keeps while it is busy with the service. -/
def core (session : Session) : Session :=
  { session with phase := .idle, replies := [], exchanges := [], pauses := [] }

theorem file_of_core {before after : Session} (same : after.core = before.core) :
    after.file = before.file :=
  (congrArg Session.file same : after.core.file = before.core.file)

theorem now_of_core {before after : Session} (same : after.core = before.core) :
    after.now = before.now :=
  (congrArg Session.now same : after.core.now = before.core.now)

/-- A session without its exchange with the service. -/
def offline (session : Session) : Session :=
  { session with replies := [], exchanges := [] }

theorem file_of_offline {before after : Session} (same : after.offline = before.offline) :
    after.file = before.file :=
  (congrArg Session.file same : after.offline.file = before.offline.file)

theorem now_of_offline {before after : Session} (same : after.offline = before.offline) :
    after.now = before.now :=
  (congrArg Session.now same : after.offline.now = before.offline.now)

theorem phase_of_offline {before after : Session} (same : after.offline = before.offline) :
    after.phase = before.phase :=
  (congrArg Session.phase same : after.offline.phase = before.offline.phase)

theorem completions_of_offline {before after : Session} (same : after.offline = before.offline) :
    after.completions = before.completions :=
  (congrArg Session.completions same : after.offline.completions = before.offline.completions)

@[simp] theorem run_useStore (work : StoreAccess α) (session : Session) :
    (useStore work).run session =
      ((work.run session.file).1, { session with file := (work.run session.file).2 }) := rfl

@[simp] theorem run_enter (phase : Phase) (session : Session) :
    (enter phase).run session = (.ok (), { session with phase := phase }) := rfl

@[simp] theorem run_runTask (kind : String) (context : Option Plan) (task : SessionWork TaskValue)
    (session : Session) :
    (runTask kind context task).run session =
      (.ok (),
        { (task.run session).2 with
          completions :=
            (task.run session).2.completions ++ [⟨kind, (task.run session).1, context⟩] }) := rfl

theorem keeps_offline_useRemote (work : RemoteAccess α) : Work.Keeps offline (useRemote work) :=
  fun _ => rfl

theorem keeps_useRemote (work : RemoteAccess α) : Work.Keeps core (useRemote work) :=
  fun _ => rfl

theorem keeps_enter (phase : Phase) : Work.Keeps core (enter phase) :=
  fun _ => rfl

theorem keeps_pause (sleep : Json → Except Error Unit) (seconds : Json) :
    Work.Keeps core (pause sleep seconds) :=
  (Work.keeps_ofExcept _).bind fun _ => fun _ => rfl

/-- The time of day and the outcomes, which a synchronisation keeps. -/
def beside (session : Session) : Timestamp × List TaskCompletion :=
  (session.now, session.completions)

theorem keeps_beside_of_core {work : SessionWork α} (kept : Work.Keeps core work) :
    Work.Keeps beside work :=
  kept.image beside

theorem keeps_beside_useStore (work : StoreAccess α) : Work.Keeps beside (useStore work) :=
  fun _ => rfl

/-- A task that is only busy with the service leaves its outcome. -/
theorem run_runTask_of_keeps {task : SessionWork TaskValue} (kept : Work.Keeps offline task)
    (kind : String) (context : Option Plan) (session : Session) :
    ∃ outcome after, (runTask kind context task).run session = (.ok (), after) ∧
      after.offline = ({ session with
        completions := session.completions ++ [⟨kind, outcome, context⟩] } : Session).offline := by
  have same := kept session
  rw [run_runTask]
  refine ⟨(task.run session).1, _, rfl, ?_⟩
  simp only [offline, Session.mk.injEq] at same ⊢
  obtain ⟨file, now, _, phase, lastError, completions, uptime, lastProbe, _, pauses⟩ := same
  rw [file, now, phase, lastError, completions, uptime, lastProbe, pauses]
  simp only [and_self]

end Session

end Triage
