import Triage.Proofs.Remote.Mutation
import Triage.Proofs.Screen.Rollback

/-!
# Carrying out one plan

An application that has just read its store carries out one plan and waits for its
outcome.  There are three ends: the clock cannot be written and nothing happens, the
request fails and the plan is undone, or the request is granted and the plan stays.
-/

namespace Triage

/-! ## What becomes of a store -/

namespace Store

/-- Nothing but times of writing is different. -/
structure Untouched (before after : Store) : Prop where
  rows : after.notifications.Alike before.notifications
  syncs : after.syncs = before.syncs

/-- A mutation was done to the flags of some notifications, and nothing else but times
of writing is different. -/
structure Changed (targets : List Notification) (mutation : Mutation) (before after : Store) :
    Prop where
  rows : after.notifications.rows.map Row.unfetched =
    before.notifications.rows.map fun row => { row.unfetched with
      flags := if row.id ∈ targets.map Notification.id then mutation.effect row.flags
        else row.flags }
  syncs : after.syncs = before.syncs

theorem untouched_refl (store : Store) : store.Untouched store :=
  ⟨rfl, rfl⟩

end Store

namespace Plan

section Store

variable {store : Store} {action : Action} {records : List Notification}

theorem untouched_undone (sound : store.Sound)
    (known : ∀ record ∈ records, ∃ row ∈ store.notifications.rows, record = row.read)
    (action : Action) (text : String) :
    store.Untouched ((store.assigned text (make action records).changes).assigned text
      (make action records).previous) :=
  ⟨alike_undone sound known action text, by simp⟩

/-- A plan that is written does its mutation to its notifications. -/
theorem changed_assigned (sound : store.Sound)
    (known : ∀ record ∈ records, ∃ row ∈ store.notifications.rows, record = row.read)
    (single : action.isSingle = true → records.length ≤ 1) {mutation : Mutation}
    (asks : (make action records).mutation = some mutation) (text : String) :
    store.Changed records mutation (store.assigned text (make action records).changes) := by
  refine ⟨?_, Store.syncs_assigned _ _ _⟩
  rw [Store.rows_assigned, List.map_map]
  refine List.map_congr_left fun row present => ?_
  rw [Function.comp_apply, Row.unfetched_assigned (distinct_changes action records)]
  split
  · next targeted =>
      obtain ⟨record, member, same⟩ := List.mem_map.1 targeted
      obtain ⟨read, flags⟩ := flags_assigned_of_mem action sound known present member same text
      rw [Row.flags_assigned (distinct_changes action records)] at flags
      have asked : mutationFor action record = mutation :=
        Option.some.inj ((mutation_eq single member).symm.trans asks)
      have before : record.flags = row.flags := read ▸ (sound.notifications row present).flags_read
      rw [flags, ← before, assign_changesFor, asked]
  · next untargeted =>
      have absent : ∀ record ∈ records, record.id ≠ row.id := fun record member same =>
        untargeted (same ▸ List.mem_map_of_mem member)
      rw [changes_at_of_not_mem absent]
      rfl

end Store

open Session

variable {setup : Setup} {plan : Plan}

/-- Sending a plan asks the service for its mutation and keeps the outcome. -/
theorem run_submit_of_mutation (setup : Setup) (filled : plan.isEmpty = false)
    {mutation : Mutation} (asks : plan.mutation = some mutation) (session : Session) :
    ∃ outcome after, (setup.client.mutate mutation plan.ids).run ⟨session.replies, []⟩ =
        (outcome, after) ∧
      (submit setup plan).run session = (.ok (), { session with
        replies := after.replies
        exchanges := session.exchanges ++ after.sent.map fun request => (request, session.phase)
        completions := session.completions ++
          [⟨taskKind, (fun _ => .plain .null) <$> outcome, some plan⟩] }) := by
  rcases ran : (setup.client.mutate mutation plan.ids).run ⟨session.replies, []⟩ with
    ⟨outcome, after⟩
  refine ⟨outcome, after, rfl, ?_⟩
  have called : (callRemote setup plan).run session = (outcome, { session with
      replies := after.replies
      exchanges :=
        session.exchanges ++ after.sent.map fun request => (request, session.phase) }) := by
    simp only [callRemote, asks, useRemote, Work.run_mk, ran]
  rw [submit, filled, if_neg Bool.false_ne_true, run_runTask]
  simp only [Work.run_bind, called]
  cases outcome <;> rfl

/-- Without a time nothing is written. -/
theorem run_applyChanges_of_error {changes : Assignment} (filled : changes ≠ [])
    (given : ∀ change ∈ changes, change.2 ≠ []) {session : Session} {error : Error}
    (unstored : session.now.stored = .error error) :
    (applyChanges changes).run session = (.error error, session) := by
  cases changes with
  | nil => contradiction
  | cons change rest =>
      have some := given change List.mem_cons_self
      have failed : (Store.patch session.now change.1 change.2).run session.file =
          (.error error, session.file) := by
        rw [Store.patch, if_neg (by simpa using some), unstored]
        rfl
      unfold applyChanges
      rw [Work.run_forM_cons]
      simp only [Work.run_bind, Work.run_get, run_useStore, failed]

end Plan

namespace App

variable {setup : Setup} {app : App} {store : Store} {view : View}

/-- An application that has read a sound store and has nothing to look at. -/
structure Ready (app : App) (store : Store) (view : View) : Prop where
  intact : app.session.file = .intact store
  sound : store.Sound
  named : app.screen.view = view.name
  usable : app.screen.selectionFault? = none
  quiet : app.session.completions = []
  seen : app.session.phase = app.seenPhase

/-- The store, the requests that were sent and the number of actions that were rolled
back. -/
def standing (app : App) : StoreFile × List (Request × Phase) × Nat :=
  (app.session.file, app.session.exchanges, app.rollbacks)

/-- With nothing to look at a pump at most reads the store again. -/
theorem Ready.run_pump {between : App} (ready : between.Ready store view)
    (usable : setup.probeInterval.Usable)
    (completed : (app.session.completions.forM (complete setup)).run app.emptied =
      (.ok (), between)) :
    ∃ after, (pump setup).run app = (.ok (), after) ∧ after.standing = between.standing := by
  have followed : (followPhase setup).run between = (.ok (), between) := by
    rw [followPhase, Work.run_bind_ok (Work.run_get between), if_pos ready.seen]
    rfl
  rw [App.run_pump completed, Work.run_bind_ok followed]
  obtain ⟨looked, nothing | again⟩ := run_lookForChanges usable ready.intact
  · exact ⟨_, nothing, rfl⟩
  · refine ⟨_, again.trans (run_reload ?_ ready.sound ready.named ready.usable), rfl⟩
    exact ready.intact

/-- How carrying out a plan on a store may end. -/
inductive Carried (setup : Setup) (app : App) (store : Store) (plan : Plan) :
    Except Error Unit × App → Prop where
  /-- Nothing was written. -/
  | failed {error : Error} {after : App} (file : after.session.file = .intact store) :
      Carried setup app store plan (.error error, after)
  /-- The request failed and what was written was written back. -/
  | undone {text : String} {after : App} (stored : app.session.now.stored = .ok text)
      (file : after.session.file =
        .intact ((store.assigned text plan.changes).assigned text plan.previous))
      (rolled : after.rollbacks = app.rollbacks + 1) :
      Carried setup app store plan (.ok (), after)
  /-- The request was granted. -/
  | done {text : String} {mutation : Mutation} {sent : Wire} {after : App}
      (stored : app.session.now.stored = .ok text)
      (file : after.session.file = .intact (store.assigned text plan.changes))
      (rolled : after.rollbacks = app.rollbacks) (asks : plan.mutation = some mutation)
      (granted : (setup.client.mutate mutation plan.ids).run ⟨app.session.replies, []⟩ =
        (.ok (), sent))
      (exchanges : after.session.exchanges =
        app.session.exchanges ++ sent.sent.map fun request => (request, app.session.phase)) :
      Carried setup app store plan (.ok (), after)

/-- Carry out the commands of a plan and wait for its outcome. -/
def carryOut (setup : Setup) (plan : Plan) : AppWork Unit := do
  [.patchStore plan.changes, .reload, .callRemote plan].forM (execute setup)
  pump setup

theorem complete_action (setup : Setup) (outcome : Except Error TaskValue) (plan : Plan) :
    complete setup ⟨Plan.taskKind, outcome, some plan⟩ =
      completeAction setup ⟨Plan.taskKind, outcome, some plan⟩ := rfl

/-- A pump that finds a granted request changes nothing that matters. -/
theorem Ready.run_pump_of_ok (cleared : app.emptied.Ready store view)
    (usable : setup.probeInterval.Usable) {value : TaskValue} {plan : Plan}
    (waiting : app.session.completions = [⟨Plan.taskKind, .ok value, some plan⟩]) :
    ∃ after, (pump setup).run app = (.ok (), after) ∧ after.standing = app.standing := by
  have completed : (app.session.completions.forM (complete setup)).run app.emptied =
      (.ok (), app.emptied) := by
    rw [waiting, Work.run_forM_singleton, complete_action]
    exact run_completeAction_of_ok setup rfl app.emptied
  exact cleared.run_pump usable completed

/-- A pump that finds a failed request writes the old values back. -/
theorem Ready.run_pump_of_error (cleared : app.emptied.Ready store view)
    (usable : setup.probeInterval.Usable) {error : Error} {plan : Plan}
    (waiting : app.session.completions = [⟨Plan.taskKind, .error error, some plan⟩])
    (writable : Assignment.Writable plan.previous) {text : String}
    (stored : app.session.now.stored = .ok text) :
    ∃ after, (pump setup).run app = (.ok (), after) ∧
      after.session.file = .intact (store.assigned text plan.previous) ∧
      after.rollbacks = app.rollbacks + 1 := by
  have sound := cleared.sound.assigned stored plan.previous
  have undone := run_completeAction_of_error setup app.emptied writable cleared.intact stored
    cleared.usable error
  have read := undone.trans (run_reload rfl sound cleared.named cleared.usable)
  rw [← complete_action, ← Work.run_forM_singleton _ (complete setup), ← waiting] at read
  have pumps := fun ready : Ready _ (store.assigned text plan.previous) view =>
    ready.run_pump usable read
  obtain ⟨after, pumped, same⟩ :=
    pumps ⟨rfl, sound, cleared.named, cleared.usable, cleared.quiet, cleared.seen⟩
  rw [App.standing, App.standing, Prod.mk.injEq, Prod.mk.injEq] at same
  exact ⟨after, pumped, same.1, same.2.2⟩

/-- What follows the sending of a plan that was written into the store. -/
theorem Ready.carried_of_sent (ready : app.Ready store view) (usable : setup.probeInterval.Usable)
    {plan : Plan} {text : String} (stored : app.session.now.stored = .ok text)
    (filled : plan.isEmpty = false) {mutation : Mutation} (asks : plan.mutation = some mutation)
    (writable : Assignment.Writable plan.previous) :
    Carried setup app store plan ((pump setup).run (app.acted setup store text view plan)) := by
  obtain ⟨outcome, sent, ran, submitted⟩ := Plan.run_submit_of_mutation setup filled asks
    { app.session with file := .intact (store.assigned text plan.changes) }
  have session := congrArg Prod.snd submitted
  have cleared : (app.acted setup store text view plan).emptied.Ready
      (store.assigned text plan.changes) view := {
    intact := congrArg Session.file session
    sound := ready.sound.assigned stored _
    named := ready.named
    usable := ready.usable
    quiet := rfl
    seen := (congrArg Session.phase session).trans ready.seen }
  have waiting : (app.acted setup store text view plan).session.completions =
      app.session.completions ++
        [⟨Plan.taskKind, (fun _ => .plain .null) <$> outcome, some plan⟩] :=
    congrArg Session.completions session
  rw [ready.quiet, List.nil_append] at waiting
  have exchanges : (app.acted setup store text view plan).session.exchanges =
      app.session.exchanges ++ sent.sent.map fun request => (request, app.session.phase) :=
    congrArg Session.exchanges session
  cases outcome with
  | ok granted =>
      obtain ⟨after, pumped, same⟩ := cleared.run_pump_of_ok usable waiting
      rw [App.standing, App.standing, Prod.mk.injEq, Prod.mk.injEq] at same
      rw [pumped]
      exact .done stored (same.1.trans cleared.intact) same.2.2 asks ran (same.2.1.trans exchanges)
  | error error =>
      have clock : (app.acted setup store text view plan).session.now.stored = .ok text :=
        (congrArg (fun session => session.now.stored) session).trans stored
      obtain ⟨after, pumped, file, rolled⟩ :=
        cleared.run_pump_of_error usable waiting writable clock
      rw [pumped]
      exact .undone stored file rolled

/-- A plan for notifications of the store is carried out, undone or not begun. -/
theorem Ready.carried (ready : app.Ready store view) (usable : setup.probeInterval.Usable)
    {action : Action} {records : List Notification}
    (known : ∀ record ∈ records, ∃ row ∈ store.notifications.rows, record = row.read)
    (filled : records ≠ []) (single : action.isSingle = true → records.length ≤ 1) :
    Carried setup app store (Plan.make action records)
      ((carryOut setup (Plan.make action records)).run app) := by
  obtain ⟨record, member⟩ := List.exists_mem_of_ne_nil records filled
  have fits := Plan.fits_of_known ready.sound known
  have writable : Assignment.Writable (Plan.make action records).changes :=
    Plan.writable_changes fits
  have full := Plan.isEmpty_make action member
  cases clock : app.session.now.stored with
  | error error =>
      have changes : (Plan.make action records).changes ≠ [] := by
        intro empty
        simp [Plan.isEmpty, empty] at full
      have nothing := Plan.run_applyChanges_of_error changes writable.given clock
      have first : (execute setup (.patchStore (Plan.make action records).changes)).run app =
          (.error error, app) := by
        rw [execute, run_useSession, nothing]
      rw [carryOut, Work.run_bind, Work.run_forM_cons, Work.run_bind_error first]
      exact .failed ready.intact
  | ok text =>
      rw [carryOut, Work.run_bind_ok
        (run_act setup ready.intact ready.sound clock ready.named ready.usable writable full)]
      exact ready.carried_of_sent usable clock full (Plan.mutation_eq single member)
        (Plan.writable_previous fits)

end App

end Triage
