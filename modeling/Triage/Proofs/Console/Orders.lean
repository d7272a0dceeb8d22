import Triage.Proofs.Console.Change

/-!
# Commands that change notifications

Whatever the arguments, the settings and the service, a command that changes
notifications ends with a status.  It failed and no flag is different, there was nothing to
do and nothing was sent, or it did to its notifications what one granted request does to
them at the service.
-/

namespace Triage.Console

/-- A command that changes notifications. -/
inductive Order where
  | change (change : Change)
  | sweep (sweep : Sweep)
  deriving DecidableEq, Repr

namespace Order

/-- The name of a command. -/
def name : Order → String
  | .change kind => kind.name
  | .sweep kind => kind.name

/-- What a command does to the flags of each notification. -/
def mutation : Order → Mutation
  | .change kind => kind.mutation
  | .sweep kind => kind.mutation

/-- What a command is for: the notification of the number that comes first, or what the
query that all arguments make finds in a view. -/
def targets (order : Order) (arguments : List String) (store : Store) : List Notification :=
  match order with
  | .change _ => ((arguments.head?.bind IntegerText.read?).bind store.notification?).toList
  | .sweep kind => Search.search (" ".intercalate arguments) (store.shown kind.view)

/-- What a command shows once it has changed some notifications. -/
def report (order : Order) (arguments : List String) (count : Nat) : String :=
  match order with
  | .change kind =>
      kind.title ++ ": " ++ (arguments.head?.bind IntegerText.read?).elim "" toString
  | .sweep kind => kind.report count

end Order

/-- One request was sent, for a mutation of some notifications, and it was granted. -/
def Machine.Granted (before : Machine) (mutation : Mutation) (ids : List Int)
    (after : Machine) : Prop :=
  ∃ account call address request status body,
    accountOf before.surroundings = .ok (some account) ∧
      Client.mutationCalls mutation ids = [call] ∧
      account.client.makeRequest call.1 call.2.1 call.2.2 = .ok (address, request) ∧
      Wire.nextReply ⟨before.replies, []⟩ (Client.routeOf call.1 address) = .answer status body ∧
      200 ≤ status ∧ status < 300 ∧ after.requests = before.requests ++ [request]

/-- What a command that does a mutation to some notifications may leave of a machine, and
with which status. -/
inductive Concluded (before : Machine) (store : Store) (mutation : Mutation)
    (targets : List Notification) (report : String) : Nat → Machine → Prop where
  /-- The command failed. -/
  | failed {after : Machine} {final : Store} (file : after.session.file = .intact final)
      (untouched : store.Untouched final) :
      Concluded before store mutation targets report failure after
  /-- There was nothing to do. -/
  | idle {after : Machine} (file : after.session.file = .intact store)
      (requests : after.requests = before.requests)
      (already : ∀ record ∈ targets, mutation.effect record.flags = record.flags) :
      Concluded before store mutation targets report success after
  /-- Everything was changed. -/
  | obeyed {after : Machine} {final : Store} (file : after.session.file = .intact final)
      (filled : targets ≠ []) (changed : store.Changed targets mutation final)
      (granted : before.Granted mutation (targets.map Notification.id) after)
      (output : after.output = before.output ++ report ++ "\n") :
      Concluded before store mutation targets report success after

section Work

variable {machine : Machine} {store : Store} {mutation : Mutation} {targets : List Notification}
  {report : String}

/-- What is settled in an application of its own is shown. -/
theorem concluded_of_settled {account : Account} {setup : Setup} {work : AppWork Notice}
    (known : accountOf machine.surroundings = .ok (some account))
    (speaks : setup.client = account.client)
    (settled : Settled (machine.opened store).session setup.client store mutation targets report
      (work.run { session := (machine.opened store).session })) :
    ∃ status after, (guarded (useApp work >>= Notice.show)).run (machine.opened store) =
      (.ok status, after) ∧ Concluded machine store mutation targets report status after := by
  rw [run_guarded, Work.run_bind, run_useApp]
  generalize work.run { session := (machine.opened store).session } = ended at settled
  cases settled with
  | failed file => exact ⟨_, _, rfl, .failed file store.untouched_refl⟩
  | refused file untouched => exact ⟨_, _, rfl, .failed file untouched⟩
  | idle file exchanges already =>
      refine ⟨_, _, rfl, .idle file ?_ already⟩
      change machine.requests ++ List.map Prod.fst _ = _
      rw [exchanges]
      exact List.append_nil _
  | done file filled changed one granted exchanges =>
      refine ⟨_, _, rfl, .obeyed file filled changed ?_ rfl⟩
      rw [speaks] at granted
      obtain ⟨address, request, status, body, made, answered, least, most, rfl⟩ := granted
      refine ⟨account, _, address, request, status, body, known, one, made, answered, least, most,
        ?_⟩
      change machine.requests ++ List.map Prod.fst _ = _
      rw [exchanges]
      rfl

/-- A change in an application of its own is concluded. -/
theorem concluded_makeChange (intact : machine.session.file = .intact store)
    {work : Setup → AppWork Notice}
    (settled : ∀ setup : Setup, setup.probeInterval.Usable →
      Settled (machine.opened store).session setup.client store mutation targets report
        ((work setup).run { session := (machine.opened store).session })) :
    ∃ status after, (makeChange work).run machine = (.ok status, after) ∧
      Concluded machine store mutation targets report status after := by
  rw [makeChange, run_guarded]
  cases prepared : prepare.run machine with
  | mk outcome between =>
      cases outcome with
      | error error =>
          have file : between.session.file = .intact store := by
            rcases prepare_run_error intact prepared with rfl | rfl
            · exact intact
            · rfl
          rw [Work.run_bind_error prepared]
          exact ⟨_, _, rfl, .failed file store.untouched_refl⟩
      | ok setup =>
          obtain ⟨account, known, made, rfl⟩ := prepare_eq_ok intact prepared
          obtain ⟨speaks, usable⟩ := Account.setup_eq_ok made
          rw [Work.run_bind_ok prepared, ← run_guarded]
          exact concluded_of_settled known speaks (settled setup usable)

end Work

namespace Order

/-- What the arguments of a command ask for. -/
def read (arguments : List String) : Order → Except UsageError Invocation
  | .change kind => Invocation.ofChangeArguments kind arguments
  | .sweep kind => Invocation.ofSweepArguments kind arguments

theorem ofArguments_cons (order : Order) (arguments : List String) :
    Invocation.ofArguments (order.name :: arguments) = order.read arguments := by
  rcases order with kind | kind <;> cases kind <;> rfl

end Order

/-- A command that changes notifications ends with a status, whatever its arguments are and
whatever becomes of its request.  If it fails, nothing but times of writing is different.
If it succeeds, either there was nothing to do and nothing was sent, or one request was
granted and exactly the notifications that the command is for are changed as it says. -/
theorem order_changes_all_or_nothing (order : Order) (arguments : List String)
    {machine : Machine} {store : Store}
    (journal : machine.surroundings.openJournal machine.surroundings.journalLocation = .ok ())
    (intact : machine.session.file = .intact store) (sound : store.Sound) :
    ∃ status after, (runArguments (order.name :: arguments)).run machine = (.ok status, after) ∧
      Concluded machine store order.mutation (order.targets arguments store)
        (order.report arguments (order.targets arguments store).length) status after := by
  have asked := order.ofArguments_cons arguments
  cases outcome : order.read arguments with
  | error error =>
      rw [run_runArguments_of_error journal (asked.trans outcome)]
      exact ⟨_, _, rfl, .failed intact store.untouched_refl⟩
  | ok invocation =>
      rw [run_runArguments_of_ok journal (asked.trans outcome)]
      cases order with
      | change kind =>
          cases arguments with
          | nil => cases outcome
          | cons text rest =>
              simp only [Order.read, Invocation.ofChangeArguments] at outcome
              split at outcome
              · next id known =>
                  cases outcome
                  refine concluded_makeChange intact fun setup usable => ?_
                  simp only [Order.targets, Order.report, List.head?_cons, Option.bind_some, known]
                  exact settled_applyChange setup usable rfl sound rfl rfl kind id
              · cases outcome
      | sweep kind =>
          cases arguments with
          | nil => cases outcome
          | cons word rest =>
              cases outcome
              refine concluded_makeChange intact fun setup usable => ?_
              exact settled_applySweep setup usable rfl sound rfl rfl kind _

/-- Two notifications are stored, there is a token, and the service cannot archive. -/
def pairMachine : Machine where
  surroundings := {
    environment := [("TIDINGS_API_TOKEN", "secret")]
    home := ⟨"/", ["home"]⟩ }
  store := some (.intact App.pairStore)
  now := .origin
  replies := [("POST /api/notifications/archive_selected.json", [.answer 500 ""])]

theorem archiveAll_in_pairMachine :
    pairMachine.session.file = .intact App.pairStore ∧
      ∃ status after, (runArguments ["archive-all", "is:unread"]).run pairMachine =
        (.ok status, after) ∧
        Concluded pairMachine App.pairStore .archive
          (Search.search "is:unread" (App.pairStore.shown .inbox))
          (Sweep.archiveAll.report (Search.search "is:unread" (App.pairStore.shown .inbox)).length)
          status after :=
  ⟨rfl, order_changes_all_or_nothing (.sweep .archiveAll) ["is:unread"] rfl rfl App.sound_pairStore⟩

end Triage.Console
