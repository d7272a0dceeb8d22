import Triage.Proofs.Action.Plan

/-!
# Carrying out plans in a session

Sending a plan never fails: whatever the service answers is kept as the outcome
of a task.  Only the store's file and the outcomes change besides what belongs to
the exchange with the service.
-/

namespace Triage

/-- The outcome of a plan that was made for notifications whose numbers fit. -/
def Completion.Planned (completion : TaskCompletion) : Prop :=
  ∃ action records, completion.context = some (Plan.make action records) ∧
    ∀ record ∈ records, Width.fits64 record.id = true

namespace Plan

open Session

variable {setup : Setup} {plan : Plan} {session : Session} {store : Store} {text : String}

theorem keeps_callRemote (setup : Setup) (plan : Plan) :
    Work.Keeps offline (callRemote setup plan) := by
  rw [callRemote]
  split
  · exact keeps_offline_useRemote _
  · exact Work.keeps_pure _

/-- A plan that is sent leaves one more outcome. -/
theorem run_submit (setup : Setup) (filled : plan.isEmpty = false) (session : Session) :
    ∃ outcome after, (submit setup plan).run session = (.ok (), after) ∧
      after.offline = ({ session with
        completions := session.completions ++
          [⟨taskKind, outcome, some plan⟩] } : Session).offline := by
  have kept : Work.Keeps offline (do
      callRemote setup plan
      return TaskValue.plain .null) :=
    (keeps_callRemote setup plan).bind fun _ => Work.keeps_pure _
  rw [submit, filled, if_neg Bool.false_ne_true]
  exact run_runTask_of_keeps kept taskKind (some plan) session

/-- A plan that is carried out is written into the store and sent. -/
theorem run_perform (setup : Setup) (filled : plan.isEmpty = false)
    (writable : Assignment.Writable plan.changes) (intact : session.file = .intact store)
    (stored : session.now.stored = .ok text) :
    ∃ outcome after, (perform setup plan).run session = (.ok (), after) ∧
      after.offline = ({ session with
        file := .intact (store.assigned text plan.changes)
        completions := session.completions ++
          [⟨taskKind, outcome, some plan⟩] } : Session).offline := by
  have applied := run_applyChanges writable intact stored
  rw [perform, filled, if_neg Bool.false_ne_true, Work.run_bind_ok applied]
  exact run_submit setup filled _

theorem keeps_applyChanges (changes : Assignment) :
    Work.Keeps Session.completions (applyChanges changes) :=
  Work.Keeps.forM (fun _ => Work.keeps_get.bind fun _ =>
    Work.Keeps.bind (fun _ => rfl) fun _ => Work.keeps_pure _) changes

/-- Dealing with an outcome leaves the outcomes that wait alone. -/
theorem keeps_settle (completion : TaskCompletion) :
    Work.Keeps Session.completions (settle completion) := by
  rw [settle]
  split
  · exact (keeps_applyChanges _).bind fun _ => Work.keeps_pure _
  · exact Work.keeps_pure _

/-- A failed action is undone. -/
theorem run_settle_of_error {completion : TaskCompletion} {error : Error}
    (failed : completion.outcome = .error error) (context : completion.context = some plan)
    (writable : Assignment.Writable plan.previous) (intact : session.file = .intact store)
    (stored : session.now.stored = .ok text) :
    (settle completion).run session =
      (.ok true, { session with file := .intact (store.assigned text plan.previous) }) := by
  have undone := run_applyChanges writable intact stored
  rw [settle, failed, context]
  exact Work.run_bind_ok undone

/-- Nothing has to be done about an action that succeeded. -/
theorem run_settle_of_ok {completion : TaskCompletion} {value : TaskValue}
    (succeeded : completion.outcome = .ok value) (session : Session) :
    (settle completion).run session = (.ok false, session) := by
  rw [settle, succeeded]
  rfl

end Plan

end Triage
