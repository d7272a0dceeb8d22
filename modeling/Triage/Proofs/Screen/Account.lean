import Triage.Proofs.Screen.Mirror

/-!
# The account of an input

An input submits tasks, deals with outcomes and sets messages, and what it writes
into the store follows from the commands and from the outcomes.  Here this is said
for each moment of a run, and proved of what the user does.
-/

namespace Triage

/-! ## Tasks and outcomes -/

/-- Work in the background. -/
inductive Task where
  | sync
  | action (plan : Plan)

/-- What a command submits. -/
def Command.task? : Command → Option Task
  | .callRemote plan => if plan.isEmpty then none else some (.action plan)
  | .startSync _ => some .sync
  | _ => none

theorem Command.task?_callRemote {plan : Plan} (filled : plan.isEmpty = false) :
    task? (.callRemote plan) = some (.action plan) := by
  rw [task?, filled]
  rfl

/-- The values that a command writes into the store. -/
def Command.values : Command → Assignment
  | .patchStore changes => changes
  | _ => []

/-- Whether a command synchronises, and then whether the service is told to do so too. -/
def Command.trigger? : Command → Option Bool
  | .startSync trigger => some trigger
  | _ => none

/-- The store's file after some commands: what a synchronisation leaves, or the values of the
commands written into the store. -/
def Command.written (setup : Setup) (session : Session) (store : Store) (text : String)
    (commands : List Command) : StoreFile :=
  match commands.findSome? Command.trigger? with
  | some trigger => ((Resync.resync setup trigger).run session).2.file
  | none => .intact (store.assigned text (commands.flatMap Command.values))

/-- A store after the values before some actions were written back, plan by plan. -/
def Store.undone (store : Store) (text : String) (plans : List Plan) : Store :=
  plans.foldl (fun store plan => store.assigned text plan.previous) store

namespace Completion

/-- The task of an outcome. -/
def task? (completion : TaskCompletion) : Option Task :=
  if completion.kind = Resync.taskKind then some .sync
  else if completion.kind = Plan.taskKind then completion.context.map .action
  else none

/-- The action that failed. -/
def failedPlan? (completion : TaskCompletion) : Option Plan :=
  match task? completion, completion.outcome with
  | some (.action plan), .error _ => some plan
  | _, _ => none

/-- The message that an outcome sets; a synchronisation that succeeded clears it. -/
def notice? (completion : TaskCompletion) : Option (Option String) :=
  match task? completion, completion.outcome with
  | some .sync, .ok _ => some none
  | some .sync, .error error => some (some error.message)
  | some (.action plan), .error error =>
      some (some (plan.action.name ++ " failed: " ++ error.message))
  | _, _ => none

theorem task?_sync (outcome : Except Error TaskValue) (context : Option Plan) :
    task? ⟨Resync.taskKind, outcome, context⟩ = some .sync :=
  if_pos rfl

theorem task?_action (outcome : Except Error TaskValue) (plan : Plan) :
    task? ⟨Plan.taskKind, outcome, some plan⟩ = some (.action plan) :=
  rfl

end Completion

/-- Another synchronisation clears the message. -/
def Event.notice? : Event → Option (Option String)
  | .refresh => some none
  | .resync => some none
  | _ => none

namespace Screen

variable {screen : Screen}

theorem error_selectItem (item : SidebarItem) :
    (selectItem screen item).1.error = screen.error := by
  cases item <;> rfl

theorem error_activateSidebar (screen : Screen) :
    (activateSidebar screen).1.error = screen.error := by
  simp only [activateSidebar]
  split
  · exact error_selectItem _
  · rfl

theorem error_escape (screen : Screen) : (escape screen).1.error = screen.error := by
  simp only [escape, exitSearch, quiet]
  split_ifs <;> rfl

theorem Acts.error {answer : Answer} (acts : screen.Acts answer) :
    answer.1.error = screen.error := by
  cases acts <;> rfl

/-- What the user does leaves the message alone unless it starts another
synchronisation. -/
theorem error_handle {event : Event} (user : event.FromUser) :
    (screen.handle event).1.error = event.notice?.getD screen.error := by
  cases event with
  | move delta =>
      simp only [handle, move]
      split <;> rfl
  | selectId id =>
      simp only [handle, selectId]
      split <;> rfl
  | enterSearch =>
      simp only [handle, enterSearch]
      split <;> rfl
  | searchBackspace =>
      simp only [handle, searchBackspace]
      split <;> rfl
  | moveSidebar delta =>
      simp only [handle, moveSidebar]
      split <;> rfl
  | escape => exact error_escape screen
  | activateSidebar => exact error_activateSidebar screen
  | selectItem item => exact error_selectItem item
  | toggleStar => exact (acts_actOnSelected screen .star).error
  | toggleArchive => exact (acts_actOnSelected screen .archive).error
  | archiveAll => exact (acts_actOnVisible screen .archiveAll).error
  | unarchiveAll => exact (acts_actOnVisible screen .unarchiveAll).error
  | mute => exact (acts_actOnSelected screen .mute).error
  | markRead => exact (acts_markRead screen).error
  | openLink =>
      simp only [handle, openLink]
      split
      · split <;> rfl
      · rfl
  | loaded => exact absurd user id
  | syncProgress => exact absurd user id
  | syncFinished => exact absurd user id
  | syncFailed => exact absurd user id
  | actionFailed => exact absurd user id
  | _ => rfl

end Screen

namespace App

/-! ## Moments -/

/-- An input, and the application that it comes to. -/
structure Moment where
  app : App
  input : Input

namespace Moment

def after (setup : Setup) (moment : Moment) : App :=
  ((feed setup moment.input).run moment.app).2

/-- The tasks that are submitted. -/
def tasks (moment : Moment) : List Task :=
  match moment.input with
  | .user event => (moment.app.screen.handle event).2.filterMap Command.task?
  | _ => []

/-- The outcomes that are dealt with. -/
def handled (moment : Moment) : List TaskCompletion :=
  match moment.input with
  | .pump => moment.app.session.completions
  | _ => []

/-- The messages that are set. -/
def notices (moment : Moment) : List (Option String) :=
  match moment.input with
  | .user event => event.notice?.toList
  | .pump => moment.app.session.completions.filterMap Completion.notice?
  | .pass _ _ => []

/-- The store's file after the writes that are due: those of the commands, and the values
before each action that failed. -/
def written (setup : Setup) (store : Store) (text : String) (moment : Moment) : StoreFile :=
  match moment.input with
  | .user event =>
      Command.written setup moment.app.session store text (moment.app.screen.handle event).2
  | .pump =>
      .intact (store.undone text
        (moment.app.session.completions.filterMap Completion.failedPlan?))
  | .pass _ _ => .intact store

/-- The writes that are due are made once, at the time of the moment, and nothing else is
written. -/
def WritesOnce (setup : Setup) (moment : Moment) : Prop :=
  ∃ store text, moment.app.session.file = .intact store ∧
    moment.app.session.now.stored = .ok text ∧
      (moment.after setup).session.file = moment.written setup store text

end Moment

/-- The moments of a run. -/
def moments (setup : Setup) : App → List Input → List Moment
  | _, [] => []
  | app, input :: rest =>
      ⟨app, input⟩ :: moments setup (Moment.after setup ⟨app, input⟩) rest

/-- The moments of a course; a start that synchronises is the first one. -/
def history (setup : Setup) (app : App) (inputs : List Input) : List Moment :=
  let shown := (reload.run app).2
  moments setup shown (opening setup shown ++ inputs)

variable {setup : Setup} {app : App}

/-! ## Accounts -/

/-- What dealing with outcomes and setting messages leaves: failed actions are
counted, and the latest message stands. -/
structure Tallies (handled : List TaskCompletion) (notices : List (Option String))
    (before after : App) : Prop where
  rollbacks : after.rollbacks =
    before.rollbacks + (handled.filterMap Completion.failedPlan?).length
  notice : after.screen.error = notices.getLast?.getD before.screen.error

/-- What was submitted, dealt with and shown between two states of the
application. -/
structure Accounts (tasks : List Task) (handled : List TaskCompletion)
    (notices : List (Option String)) (before after : App) : Prop extends
    Tallies handled notices before after where
  outcomes : ∃ posted : List TaskCompletion, posted.map Completion.task? = tasks.map some ∧
    before.session.completions ++ posted = handled ++ after.session.completions

variable {tasks later : List Task} {handled next : List TaskCompletion}
  {notices news : List (Option String)} {before between after : App}

theorem Tallies.trans (first : Tallies handled notices before between)
    (second : Tallies next news between after) :
    Tallies (handled ++ next) (notices ++ news) before after where
  rollbacks := by
    rw [second.rollbacks, first.rollbacks, List.filterMap_append, List.length_append,
      Nat.add_assoc]
  notice := by
    rw [second.notice, first.notice, List.getLast?_append, Option.getD_or]

theorem accounts_nothing (completions : after.session.completions = before.session.completions)
    (rollbacks : after.rollbacks = before.rollbacks)
    (error : after.screen.error = before.screen.error) : Accounts [] [] [] before after where
  outcomes := ⟨[], rfl, by simp [completions]⟩
  rollbacks := rollbacks
  notice := error

theorem accounts_posted {completion : TaskCompletion} {task : Task}
    (of : completion.task? = some task)
    (completions : after.session.completions = before.session.completions ++ [completion])
    (rollbacks : after.rollbacks = before.rollbacks)
    (error : after.screen.error = before.screen.error) : Accounts [task] [] [] before after where
  outcomes := ⟨[completion], by simp [of], by simp [completions]⟩
  rollbacks := rollbacks
  notice := error

/-- The accounts of two stretches are added. -/
theorem Accounts.trans (first : Accounts tasks handled notices before between)
    (second : Accounts later next news between after) :
    Accounts (tasks ++ later) (handled ++ next) (notices ++ news) before after where
  toTallies := first.toTallies.trans second.toTallies
  outcomes := by
    obtain ⟨posted, ofPosted, one⟩ := first.outcomes
    obtain ⟨added, ofAdded, two⟩ := second.outcomes
    refine ⟨posted ++ added, ?_, ?_⟩
    · rw [List.map_append, List.map_append, ofPosted, ofAdded]
    · rw [← List.append_assoc, one, List.append_assoc, two, List.append_assoc]

/-! ## What the user does -/

section Commands

variable {store : Store} {text : String}

/-- An action is written once and submits one task. -/
theorem Steady.account_act (setup : Setup) (steady : app.Steady)
    (intact : app.session.file = .intact store) (stored : app.session.now.stored = .ok text)
    {action : Action} {records : List Notification} (filled : ∃ record, record ∈ records)
    (fits : ∀ record ∈ records, Width.fits64 record.id = true) :
    ∃ after, ([.patchStore (Plan.make action records).changes, .reload,
        .callRemote (Plan.make action records)].forM (execute setup)).run app = (.ok (), after) ∧
      Accounts [.action (Plan.make action records)] [] [] app after ∧
      after.session.file = .intact (store.assigned text (Plan.make action records).changes) := by
  obtain ⟨_, found, sound⟩ := steady.working
  obtain rfl := StoreFile.intact.inj (intact.symm.trans found)
  obtain ⟨view, named⟩ := steady.proper.view
  obtain ⟨record, member⟩ := filled
  have full := Plan.isEmpty_make action member
  have writable : Assignment.Writable (Plan.make action records).changes :=
    Plan.writable_changes fits
  have run := run_act setup intact sound stored named steady.proper.usable writable full
  obtain ⟨outcome, session, sent, same⟩ := Plan.run_submit setup full { app.session with
    file := .intact (store.assigned text (Plan.make action records).changes) }
  rw [acted, sent] at run
  exact ⟨_, run, accounts_posted (Completion.task?_action outcome _)
    (Session.completions_of_offline same) rfl rfl, Session.file_of_offline same⟩

/-- A synchronisation submits one task. -/
theorem account_sync (setup : Setup) (app : App) (trigger : Bool) :
    ∃ after, (execute setup (.startSync trigger)).run app = (.ok (), after) ∧
      Accounts [.sync] [] [] app after ∧
      after.session.file = ((Resync.resync setup trigger).run app.session).2.file := by
  obtain ⟨_, beside⟩ := Resync.resync_idle setup trigger app.session
  have completions := (Prod.mk.inj beside).2
  simp only [execute, run_useSession, Resync.run_start, completions]
  exact ⟨_, rfl, accounts_posted (Completion.task?_sync _ none) rfl rfl rfl, rfl⟩

/-- The commands of an answer submit their tasks and write what they have to
write. -/
theorem Steady.account_commands (setup : Setup) (steady : app.Steady)
    (intact : app.session.file = .intact store) (stored : app.session.now.stored = .ok text)
    {screen : Screen} {commands : List Command} (asks : screen.Asks commands)
    (fits : ∀ record ∈ screen.notifications, Width.fits64 record.id = true) :
    ∃ after, (commands.forM (execute setup)).run app = (.ok (), after) ∧
      Accounts (commands.filterMap Command.task?) [] [] app after ∧
        after.session.file = Command.written setup app.session store text commands := by
  induction asks generalizing app with
  | nothing => exact ⟨app, rfl, accounts_nothing rfl rfl rfl, intact⟩
  | read =>
      obtain ⟨_, found, sound⟩ := steady.working
      obtain ⟨view, named⟩ := steady.proper.view
      have read := run_reload found sound named steady.proper.usable
      exact ⟨_, Work.run_forM_cons_ok read [], accounts_nothing rfl rfl rfl, intact⟩
  | @act action records filled known =>
      obtain ⟨after, run, account, file⟩ := steady.account_act setup intact stored filled
        fun record member => fits record (known record member)
      obtain ⟨record, member⟩ := filled
      refine ⟨after, run, ?_, ?_⟩
      · rw [List.filterMap_cons_none rfl, List.filterMap_cons_none rfl,
          List.filterMap_cons_some (Command.task?_callRemote (Plan.isEmpty_make action member))]
        exact account
      · simpa [Command.written, List.findSome?, Command.trigger?, Command.values] using file
  | @sync trigger =>
      obtain ⟨after, run, account, file⟩ := account_sync setup app trigger
      exact ⟨after, Work.run_forM_cons_ok run [], account, file⟩
  | @visit url commands asks ih =>
      have opened : Steady { app with opened := app.opened ++ [url] } := { steady with }
      obtain ⟨after, run, account, file⟩ := ih opened intact stored
      have first : (execute setup (.openUrl url)).run app =
          (.ok (), { app with opened := app.opened ++ [url] }) := rfl
      refine ⟨after, ?_, ⟨⟨account.rollbacks, account.notice⟩, account.outcomes⟩, file⟩
      rw [Work.run_forM_cons_ok first, run]

/-- An event from the user submits tasks and deals with no outcome. -/
theorem Steady.account_dispatch (setup : Setup) (steady : app.Steady)
    (intact : app.session.file = .intact store) (stored : app.session.now.stored = .ok text)
    {event : Event} (user : event.FromUser) :
    ∃ after, (App.dispatch setup event).run app = (.ok (), after) ∧
      Accounts ((app.screen.handle event).2.filterMap Command.task?) [] event.notice?.toList
        app after ∧
      after.session.file =
        Command.written setup app.session store text (app.screen.handle event).2 := by
  have polite := Screen.polite_handle steady.proper user
  obtain ⟨after, run, account, file⟩ :=
    (steady.answered user).account_commands setup intact stored polite.asks steady.fits
  have shown : Accounts [] [] event.notice?.toList app
      { app with screen := (app.screen.handle event).1 } := {
    outcomes := ⟨[], rfl, by simp⟩
    rollbacks := rfl
    notice := by
      have error : (app.screen.handle event).1.error = _ := Screen.error_handle user
      cases notice : event.notice? <;> simpa [notice] using error }
  refine ⟨after, by rw [run_dispatch steady.proper.usable, run], ?_, file⟩
  simpa using shown.trans account

end Commands

end App

end Triage
