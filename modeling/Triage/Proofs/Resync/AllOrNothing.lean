import Triage.Json.Writer
import Triage.Proofs.Resync.Session
import Triage.Proofs.Store.Replacement
import Triage.Resync.Protocol

/-!
# A synchronisation replaces everything or nothing

Whatever the service answers, a synchronisation either replaces every row by what
was fetched or leaves every row alone, and records which of the two happened.
-/

namespace Triage.Resync

open Session

/-! ## The part before the store -/

/-- The steps up to the store: the number of pauses, what was fetched, and the
pinned searches. -/
def gather (setup : Setup) (triggered : Bool) :
    SessionWork (Nat × List Json × List PinnedSearch) := do
  let attempts ←
    if triggered then do
      enter .triggering
      trigger setup
      enter .polling
      waitForService setup
    else pure 0
  enter .fetching
  let payloads ← useRemote (setup.client.fetchAll {})
  let pinned ← useRemote setup.client.pinnedSearches
  return (attempts, payloads, pinned)

/-- The steps with the store: what was fetched is read and replaces the rows. -/
def replace (setup : Setup) (triggered : Bool)
    (fetched : Nat × List Json × List PinnedSearch) : SessionWork ResyncResult := do
  enter .replacing
  let now := (← get).now
  let received ← MonadExcept.ofExcept
    (readPayloads setup.client.room.writing now fetched.2.1)
  let count ← useStore (Store.replaceReceived now received)
  let totals ← useStore Store.totals
  return {
    count := count
    pinned := fetched.2.2
    totals := totals
    triggered := triggered
    attempts := fetched.1 }

/-- A synchronisation fetches and then replaces. -/
theorem steps_eq (setup : Setup) (triggered : Bool) :
    steps setup triggered = gather setup triggered >>= replace setup triggered := by
  cases triggered with
  | false => simp only [steps, gather, replace, Bool.false_eq_true, if_false, bind_assoc, pure_bind]
  | true => simp only [steps, gather, replace, if_true, bind_assoc, pure_bind]

theorem keeps_trigger (setup : Setup) : Work.Keeps core (trigger setup) := by
  unfold trigger
  refine Work.Keeps.tryCatch (keeps_useRemote _) fun error => ?_
  split
  · exact Work.keeps_throw _
  · exact Work.keeps_pure _
  · exact Work.keeps_throw _

theorem keeps_stillBusy (setup : Setup) : Work.Keeps core (stillBusy setup) := by
  refine Work.Keeps.tryCatch (keeps_useRemote _) fun error => ?_
  split
  · exact Work.keeps_throw _
  · exact Work.keeps_pure _
  · exact Work.keeps_throw _

theorem keeps_mayAsk (setup : Setup) (attempts : Nat) :
    Work.Keeps core (mayAsk setup attempts) := by
  rw [mayAsk]
  split
  · exact Work.keeps_pure _
  · exact Work.keeps_throw _

theorem keeps_pollFrom (setup : Setup) (most attempts : Nat) :
    Work.Keeps core (pollFrom setup most attempts) := by
  induction most generalizing attempts with
  | zero => exact Work.keeps_pure _
  | succ most ih =>
      refine (keeps_mayAsk setup attempts).bind fun allowed => ?_
      split
      · refine (keeps_stillBusy setup).bind fun busy => ?_
        split
        · exact (keeps_pause _ _).bind fun _ => ih (attempts + 1)
        · exact Work.keeps_pure _
      · exact Work.keeps_pure _

/-- Nothing before the store touches it. -/
theorem keeps_gather (setup : Setup) (triggered : Bool) :
    Work.Keeps core (gather setup triggered) := by
  have fetch (attempts : Nat) : Work.Keeps core (do
      enter .fetching
      let payloads ← useRemote (setup.client.fetchAll {})
      let pinned ← useRemote setup.client.pinnedSearches
      return (attempts, payloads, pinned)) :=
    (keeps_enter _).bind fun _ => (keeps_useRemote _).bind fun _ =>
      (keeps_useRemote _).bind fun _ => Work.keeps_pure _
  cases triggered with
  | false => exact fetch 0
  | true =>
      have waiting : Work.Keeps core (waitForService setup) :=
        Work.keeps_get.bind fun _ => keeps_pollFrom setup _ _
      have ready := (keeps_enter .triggering).bind fun _ => (keeps_trigger setup).bind fun _ =>
        (keeps_enter .polling).bind fun _ => waiting.bind fetch
      simpa only [gather, if_true, bind_assoc] using ready

/-! ## The part with the store -/

/-- What neither a change of phase nor the store touches is kept. -/
theorem keeps_replace_of {γ : Type} {part : Session → γ}
    (enters : Work.Keeps part (enter .replacing))
    (stores : ∀ {α : Type} (work : StoreAccess α), Work.Keeps part (useStore work))
    (setup : Setup) (triggered : Bool) (fetched : Nat × List Json × List PinnedSearch) :
    Work.Keeps part (replace setup triggered fetched) :=
  enters.bind fun _ => Work.keeps_get.bind fun _ => (Work.keeps_ofExcept _).bind fun _ =>
    (stores _).bind fun _ => (stores _).bind fun _ => Work.keeps_pure _

theorem keeps_replace (setup : Setup) (triggered : Bool)
    (fetched : Nat × List Json × List PinnedSearch) :
    Work.Keeps beside (replace setup triggered fetched) :=
  keeps_replace_of (keeps_beside_of_core (keeps_enter _)) keeps_beside_useStore setup triggered
    fetched

/-- A synchronisation takes no time and leaves the outcomes of tasks alone. -/
theorem keeps_steps (setup : Setup) (triggered : Bool) :
    Work.Keeps beside (steps setup triggered) := by
  rw [steps_eq]
  exact (keeps_beside_of_core (keeps_gather setup triggered)).bind (keeps_replace setup triggered)

variable {setup : Setup} {triggered : Bool} {fetched : Nat × List Json × List PinnedSearch}
  {session after : Session} {store : Store} {result : ResyncResult} {error : Error}

/-- Success means that what was fetched could be read and replaced the rows. -/
theorem replace_eq_ok (intact : session.file = .intact store)
    (done : (replace setup triggered fetched).run session = (.ok result, after)) :
    ∃ (received : List Notification.Received) (count : Nat) (changed : Store),
      readPayloads setup.client.room.writing session.now fetched.2.1 = .ok received ∧
      (Store.replaceReceived session.now received).run (.intact store) =
        (.ok count, .intact changed) ∧
      result = ⟨count, fetched.2.2, changed.notifications.totals, triggered, fetched.1⟩ ∧
      after = { session with phase := .replacing, file := .intact changed } := by
  simp only [replace, Work.run_bind, run_enter, Work.run_get, Work.run_ofExcept] at done
  cases readable : readPayloads setup.client.room.writing session.now fetched.2.1 with
  | error error =>
      simp only [readable] at done
      cases done
  | ok received =>
      simp only [readable, run_useStore, intact] at done
      rcases replaced : (Store.replaceReceived session.now received).run (.intact store) with
        ⟨outcome, file⟩
      rw [replaced] at done
      cases outcome with
      | error error => cases done
      | ok count =>
          obtain ⟨_, _, rfl⟩ := Store.exists_replaced replaced
          cases done
          exact ⟨received, count, _, rfl, replaced, rfl, rfl⟩

/-- Failure leaves the file alone. -/
theorem replace_eq_error (intact : session.file = .intact store)
    (failed : (replace setup triggered fetched).run session = (.error error, after)) :
    after.file = session.file := by
  simp only [replace, Work.run_bind, run_enter, Work.run_get, Work.run_ofExcept] at failed
  cases readable : readPayloads setup.client.room.writing session.now fetched.2.1 with
  | error error =>
      simp only [readable] at failed
      cases failed
      rfl
  | ok received =>
      simp only [readable, run_useStore] at failed
      rcases replaced : (Store.replaceReceived session.now received).run session.file with
        ⟨outcome, file⟩
      rw [replaced] at failed
      cases outcome with
      | error error =>
          cases failed
          exact Store.replaceReceived_run_error replaced
      | ok count =>
          rw [intact] at replaced
          obtain ⟨_, _, rfl⟩ := Store.exists_replaced replaced
          cases failed

/-! ## The steps together -/

theorem steps_eq_ok (intact : session.file = .intact store)
    (done : (steps setup triggered).run session = (.ok result, after)) :
    ∃ (fetched : Nat × List Json × List PinnedSearch)
      (received : List Notification.Received) (count : Nat) (changed : Store),
      ((gather setup triggered).run session).1 = .ok fetched ∧
      readPayloads setup.client.room.writing session.now fetched.2.1 = .ok received ∧
      (Store.replaceReceived session.now received).run (.intact store) =
        (.ok count, .intact changed) ∧
      result = ⟨count, fetched.2.2, changed.notifications.totals, triggered, fetched.1⟩ ∧
      after.file = .intact changed := by
  rw [steps_eq] at done
  obtain ⟨fetched, between, gathered, done⟩ := Work.bind_eq_ok done
  have kept := keeps_gather setup triggered session
  rw [gathered] at kept
  have same := file_of_core kept
  obtain ⟨received, count, changed, readable, replaced, rfl, rfl⟩ :=
    replace_eq_ok (same.trans intact) done
  rw [now_of_core kept] at readable replaced
  exact ⟨fetched, received, count, changed, by rw [gathered], readable, replaced, rfl, rfl⟩

theorem steps_eq_error (intact : session.file = .intact store)
    (failed : (steps setup triggered).run session = (.error error, after)) :
    after.file = .intact store := by
  rw [steps_eq] at failed
  have kept := keeps_gather setup triggered session
  rcases Work.bind_eq_error failed with failed | ⟨fetched, between, gathered, failed⟩
  · rw [failed] at kept
    exact (file_of_core kept).trans intact
  · rw [gathered] at kept
    have same := (file_of_core kept).trans intact
    exact (replace_eq_error same failed).trans same

/-- A synchronisation that succeeds ends in the idle phase without an error. -/
theorem run_resync_of_ok (done : (steps setup triggered).run session = (.ok result, after)) :
    (resync setup triggered).run session =
      (.ok result, { after with phase := .idle, lastError := none }) := by
  have finished : (steps setup triggered >>= fun result => do
      enter .idle
      modify fun session => { session with lastError := none }
      pure result).run session =
        (.ok result, { after with phase := .idle, lastError := none }) := by
    rw [Work.run_bind_ok done]
    rfl
  rw [resync, Work.run_tryCatch, finished]

/-- Recording a failure always succeeds, even where the store cannot do it. -/
theorem run_recordFailure (error : Error) (session : Session) :
    (recordFailure error).run session =
      (.ok (),
        { session with
          phase := .error
          lastError := some error.message
          file := ((Store.markSyncError Store.notificationsResource (some error.message)).run
            session.file).2 }) := by
  simp only [recordFailure, Work.run_bind, run_enter, Work.run_modify, Work.run_tryCatch,
    run_useStore]
  rcases (Store.markSyncError Store.notificationsResource (some error.message)).run
    session.file with ⟨outcome, file⟩
  cases outcome <;> rfl

/-- A failure is recorded wherever that is possible, and stays the outcome even
where it is not. -/
theorem run_resync_of_error (failed : (steps setup triggered).run session = (.error error, after)) :
    (resync setup triggered).run session =
      (.error error,
        { after with
          phase := .idle
          lastError := some error.message
          file := ((Store.markSyncError Store.notificationsResource (some error.message)).run
            after.file).2 }) := by
  rw [resync, Work.run_tryCatch, Work.run_bind_error failed]
  simp only [Work.run_bind, run_recordFailure, run_enter, Work.run_throw]

/-- In the background a synchronisation leaves its outcome. -/
theorem run_start (work : SessionWork ResyncResult) (session : Session) :
    (start work).run session =
      (.ok (),
        { (work.run session).2 with
          completions := (work.run session).2.completions ++
            [⟨taskKind, TaskValue.resync <$> (work.run session).1, none⟩] }) := by
  rw [start, run_runTask, Work.run_bind]
  rcases work.run session with ⟨outcome, after⟩
  cases outcome <;> rfl

/-- A synchronisation ends idle, takes no time and leaves the outcomes of tasks
alone. -/
theorem resync_idle (setup : Setup) (triggered : Bool) (session : Session) :
    ((resync setup triggered).run session).2.phase = .idle ∧
      ((resync setup triggered).run session).2.beside = session.beside := by
  have kept := keeps_steps setup triggered session
  rcases run : (steps setup triggered).run session with ⟨outcome, after⟩
  rw [run] at kept
  cases outcome with
  | ok result =>
      rw [run_resync_of_ok run]
      exact ⟨rfl, kept⟩
  | error error =>
      rw [run_resync_of_error run]
      exact ⟨rfl, kept⟩

/-- A synchronisation leaves a sound store sound, with the same rows if it
failed. -/
theorem resync_sound (setup : Setup) (triggered : Bool) (intact : session.file = .intact store)
    (sound : store.Sound) :
    ∃ changed, ((resync setup triggered).run session).2.file = .intact changed ∧ changed.Sound ∧
      ∀ error, ((resync setup triggered).run session).1 = .error error →
        changed.notifications = store.notifications := by
  rcases run : (steps setup triggered).run session with ⟨outcome, after⟩
  cases outcome with
  | ok result =>
      obtain ⟨_, _, _, changed, _, _, replaced, _, file⟩ := steps_eq_ok intact run
      obtain ⟨_, _, _, written⟩ := Store.replaceReceived_eq_ok replaced
      obtain ⟨_, same, kept⟩ := sound.replaceAll written
      cases same
      rw [run_resync_of_ok run]
      refine ⟨changed, file, kept, ?_⟩
      intro error failed
      cases failed
  | error error =>
      rw [run_resync_of_error run, steps_eq_error intact run]
      exact ⟨_, rfl, sound.marked _ _, fun _ _ => rfl⟩

/-! ## The outcomes -/

/-- The last payload of a number: it describes a notification, all of whose texts have bytes,
and no payload after it describes another of that number. -/
def Described (room : Nat) (now : Timestamp) (payloads : List Json) (record : Notification) :
    Prop :=
  ∃ earlier payload later, payloads = earlier ++ payload :: later ∧
    Notification.receive room now payload = .ok ⟨record, []⟩ ∧
    ∀ other ∈ later, ∀ given, Notification.receive room now other = .ok given →
      given.record.id ≠ record.id

/-- A store that was replaced by what payloads describe: every payload describes a
notification, and the store has one row for each number, made from the last payload of that
number, and nothing else. -/
structure Replaced (room : Nat) (now : Timestamp) (payloads : List Json) (result : ResyncResult)
    (changed : Store) : Prop where
  accepted : ∀ payload ∈ payloads, ∃ received, Notification.receive room now payload = .ok received
  rows : ∀ row, row ∈ changed.notifications.rows ↔
    ∃ record, Described room now payloads record ∧ record.toRow now = .ok row
  distinct : (changed.notifications.rows.map Row.id).Nodup
  ids : ∀ id, id ∈ changed.notifications.rows.map Row.id ↔
    ∃ payload ∈ payloads, ∃ received, Notification.receive room now payload = .ok received ∧
      received.record.id = id
  count : result.count = changed.notifications.rows.length
  totals : Store.totals.run (.intact changed) = (.ok result.totals, .intact changed)
  status : ∃ text, now.stored = .ok text ∧
    changed.syncs.lookup Store.notificationsResource = some ⟨some text, none⟩

/-- A store in which only a failure was recorded. -/
structure Undone (before changed : Store) (error : Error) : Prop where
  notifications : changed.notifications = before.notifications
  status : changed.syncs.lookup Store.notificationsResource =
    some ⟨(before.syncs.lookup Store.notificationsResource).bind (·.lastSync),
      some error.message⟩

/-- The rows of a store whose rows were replaced. -/
theorem mem_replaced {now : Timestamp} {records : List Notification} {rows : List Row}
    (made : records.mapM (fun record => record.toRow now) = .ok rows) {row : Row} :
    row ∈ (Table.ofRows (Store.latest rows)).rows ↔
      ∃ record, Keyed.IsLast Notification.id records record ∧ record.toRow now = .ok row := by
  obtain ⟨each, rfl⟩ := (Outcome.mapM_eq_ok_iff fun _ _ => Notification.toRow_eq_ok).1 made
  rw [Store.mem_ofRows_latest, Keyed.isLast_map]
  constructor
  · rintro ⟨record, last, rfl⟩
    exact ⟨record, last, each record last.mem⟩
  · rintro ⟨record, last, written⟩
    exact ⟨record, last, Notification.toRow_eq_ok written⟩

theorem map_id_of_toRow {now : Timestamp} {records : List Notification} {rows : List Row}
    (made : records.mapM (fun record => record.toRow now) = .ok rows) :
    rows.map Row.id = records.map Notification.id := by
  obtain ⟨_, rfl⟩ := (Outcome.mapM_eq_ok_iff fun _ _ => Notification.toRow_eq_ok).1 made
  rw [List.map_map]
  rfl

/-- The last notifications that were read are those that the last payloads of their numbers
describe. -/
theorem isLast_iff_described {room : Nat} {now : Timestamp} {payloads : List Json}
    {received : List Notification.Received}
    (readable : readPayloads room now payloads = .ok received)
    (whole : ∀ each, Keyed.IsLast (fun each => each.record.id) received each → each.halved = [])
    {record : Notification} :
    Keyed.IsLast Notification.id (received.map (·.record)) record ↔
      Described room now payloads record := by
  obtain ⟨image, each, rfl⟩ := Outcome.mapM_eq_ok_map ⟨{ id := 0 }, []⟩ readable
  rw [Keyed.isLast_map]
  constructor
  · rintro ⟨given, last, rfl⟩
    have bytes := whole given last
    obtain ⟨payload, ⟨earlier, later, rfl, latest⟩, rfl⟩ := Keyed.isLast_map.1 last
    refine ⟨earlier, payload, later, rfl, ?_, fun other member given found => ?_⟩
    · rw [each payload (by simp), ← bytes]
    · have same := (each other (by simp [member])).symm.trans found
      exact Except.ok.inj same ▸ latest other member
  · rintro ⟨earlier, payload, later, rfl, found, latest⟩
    have same : image payload = ⟨record, []⟩ :=
      Except.ok.inj ((each payload (by simp)).symm.trans found)
    refine ⟨image payload, Keyed.isLast_map.2 ⟨payload, ⟨earlier, later, rfl, ?_⟩, rfl⟩, ?_⟩
    · intro other member
      dsimp only
      rw [same]
      exact latest other member _ (each other (by simp [member]))
    · rw [same]

/-- A replacement by what payloads describe leaves a store that was replaced by it. -/
theorem replaced_of_replaceReceived {room : Nat} {now : Timestamp} {payloads : List Json}
    {received : List Notification.Received} {count : Nat} {changed : Store}
    (readable : readPayloads room now payloads = .ok received)
    (counted : result.count = count) (totals : result.totals = changed.notifications.totals)
    (done : (Store.replaceReceived now received).run (.intact store) =
      (.ok count, .intact changed)) :
    Replaced room now payloads result changed := by
  obtain ⟨image, each, images⟩ := Outcome.mapM_eq_ok_map ⟨{ id := 0 }, []⟩ readable
  obtain ⟨_, marked, free, written⟩ := Store.replaceReceived_eq_ok done
  obtain ⟨rows, text, made, _, stored, rfl, same⟩ := Store.replaceAll_eq_ok written
  obtain rfl : changed = store.replaced (Store.latest rows) text := StoreFile.intact.inj same
  have whole (given : Notification.Received)
      (last : Keyed.IsLast (fun each => each.record.id) received given) : given.halved = [] := by
    obtain ⟨payload, member, rfl⟩ := List.mem_map.1 (images ▸ last.mem)
    exact Notification.Received.halved_eq_nil (each payload member)
      (Store.fault?_of_isLast marked free last)
  have ids (id : Int) : id ∈ (Table.ofRows (Store.latest rows)).rows.map Row.id ↔
      id ∈ rows.map Row.id := by
    rw [List.mem_map, List.mem_map]
    constructor
    · rintro ⟨row, present, rfl⟩
      exact ⟨row, (Store.mem_ofRows_latest.1 present).mem, rfl⟩
    · rintro ⟨row, member, rfl⟩
      obtain ⟨last, latest, equal⟩ : ∃ last, Keyed.IsLast Row.id rows last ∧ last.id = row.id :=
        Keyed.exists_isLast member
      exact ⟨last, Store.mem_ofRows_latest.2 latest, equal⟩
  exact {
    accepted := fun payload member => ⟨_, each payload member⟩
    rows := fun row => (mem_replaced made).trans <| exists_congr fun record =>
      and_congr_left' (isLast_iff_described readable whole)
    distinct := (Table.ofRows (Store.latest rows)).nodup_ids
    ids := fun id => by
      rw [Store.replaced, ids, map_id_of_toRow made, images, List.map_map, List.map_map,
        List.mem_map]
      constructor
      · rintro ⟨payload, member, rfl⟩
        exact ⟨payload, member, _, each payload member, rfl⟩
      · rintro ⟨payload, member, given, found, rfl⟩
        have same := (each payload member).symm.trans found
        exact ⟨payload, member, Except.ok.inj same ▸ rfl⟩
    count := by
      rw [counted]
      exact congrArg _ (Store.length_ofRows_latest rows).symm
    totals := by rw [totals]; rfl
    status := ⟨text, stored, by simp [Store.replaced, Keyed.lookup_put]⟩ }

/-- A synchronisation replaces every row by what the last payloads of their numbers describe,
or fails and leaves every row alone.  Its own failure is always the outcome, even if the store
cannot record it, and no other resource is touched. -/
theorem resync_all_or_nothing (setup : Setup) (triggered : Bool) (session : Session) :
    let outcome := ((resync setup triggered).run session).1
    let after := ((resync setup triggered).run session).2
    after.phase = .idle ∧
      (∀ error, ((steps setup triggered).run session).1 = .error error →
        outcome = .error error ∧ after.lastError = some error.message) ∧
      ∀ store, session.file = .intact store →
        ∃ changed, after.file = .intact changed ∧
          (∀ resource, resource ≠ Store.notificationsResource →
            changed.syncs.lookup resource = store.syncs.lookup resource) ∧
          match outcome with
          | .ok result =>
              after.lastError = none ∧
                ∃ attempts payloads pinned,
                  ((gather setup triggered).run session).1 = .ok (attempts, payloads, pinned) ∧
                    Replaced setup.client.room.writing session.now payloads result changed
          | .error error =>
              after.lastError = some error.message ∧ Undone store changed error := by
  rcases run : (steps setup triggered).run session with ⟨outcome, between⟩
  cases outcome with
  | ok result =>
      rw [run_resync_of_ok run]
      refine ⟨rfl, fun _ failed => ?_, fun store intact => ?_⟩
      · cases failed
      · obtain ⟨⟨attempts, payloads, pinned⟩, received, count, changed, gathered, readable,
          replaced, rfl, file⟩ := steps_eq_ok intact run
        obtain ⟨_, _, same⟩ := Store.exists_replaced replaced
        refine ⟨changed, file, fun resource differs => ?_, rfl, attempts, payloads, pinned,
          gathered, replaced_of_replaceReceived readable rfl rfl replaced⟩
        rw [StoreFile.intact.inj same]
        exact Store.lookup_put_syncs store _ resource _ differs
  | error error =>
      rw [run_resync_of_error run]
      refine ⟨rfl, fun _ failed => ?_, fun store intact => ?_⟩
      · cases failed
        exact ⟨rfl, rfl⟩
      · rw [steps_eq_error intact run, Store.run_markSyncError]
        refine ⟨_, rfl, fun resource differs => ?_, rfl, rfl, ?_⟩
        · exact Store.lookup_put_syncs store _ resource _ differs
        · simp [Store.marked, Keyed.lookup_put]

/-- A store of one notification. -/
def sampleStore : Store where
  notifications := .ofRows [Notification.written { id := 7 }]

/-- A session whose service refuses the token when it is asked for notifications. -/
def refusedSession : Session where
  file := .intact sampleStore
  now := .origin
  replies := [("GET /api/notifications.json", [.answer 401 ""])]

/-- What a service sends that describes one notification twice. -/
def repeatedPayloads : List Json :=
  [.obj [("id", .int 1), ("reason", .str "mention")], .obj [("id", .int 2)],
    .obj [("id", .int 1), ("reason", .str "author")]]

/-- A session whose service sends one page with these payloads, and no pinned search. -/
def repeatedSession : Session where
  file := .intact sampleStore
  now := .origin
  replies :=
    [("GET /api/notifications.json",
        [.answer 200 (Json.obj [("notifications", .arr repeatedPayloads)]).write]),
      ("GET /api/pinned_searches.json", [.answer 200 "[]"])]

theorem gather_repeated :
    ((gather Setup.sample false).run repeatedSession).1 = .ok (0, repeatedPayloads, []) := by
  decide +kernel

/-- The reasons of the rows in a store's file, by their numbers. -/
def reasons (file : StoreFile) : Option (List (Int × Option String)) :=
  (Store.table.run file).1.toOption.map fun table => table.rows.map fun row => (row.id, row.reason)

theorem reasons_repeated :
    reasons ((resync Setup.sample false).run repeatedSession).2.file =
      some [(1, some "author"), (2, none)] := by
  decide +kernel

/-- The rows are replaced, the last of two payloads counting; a refused token is the outcome
and leaves the row. -/
theorem resync_repeated_and_refused :
    (((gather Setup.sample false).run repeatedSession).1 = .ok (0, repeatedPayloads, []) ∧
      ∃ result changed, ((resync Setup.sample false).run repeatedSession).1 = .ok result ∧
        ((resync Setup.sample false).run repeatedSession).2.file = .intact changed ∧
        Replaced Setup.sample.client.room.writing .origin repeatedPayloads result changed ∧
        reasons (.intact changed) = some [(1, some "author"), (2, none)]) ∧
    ((steps Setup.sample false).run refusedSession).1 = .error (.remote .unauthorized) ∧
      ((resync Setup.sample false).run refusedSession).1 = .error (.remote .unauthorized) ∧
        refusedSession.file = .intact sampleStore ∧
          ∃ changed, ((resync Setup.sample false).run refusedSession).2.file = .intact changed ∧
            Undone sampleStore changed (.remote .unauthorized) := by
  constructor
  · have kept := (resync_all_or_nothing Setup.sample false repeatedSession).2.2 sampleStore rfl
    have rows := reasons_repeated
    refine ⟨gather_repeated, ?_⟩
    generalize (resync Setup.sample false).run repeatedSession = ran at kept rows ⊢
    obtain ⟨outcome, after⟩ := ran
    obtain ⟨changed, file, -, ended⟩ := kept
    rw [file] at rows
    cases outcome with
    | ok result =>
        obtain ⟨-, _, payloads, _, fetched, replaced⟩ := ended
        cases gather_repeated.symm.trans fetched
        exact ⟨result, changed, rfl, file, replaced, rows⟩
    | error error =>
        have same : reasons (.intact changed) = reasons (.intact sampleStore) := by
          rw [reasons, Store.run_table, ended.2.notifications]
          rfl
        rw [same] at rows
        exact absurd rows (by decide +kernel)
  · have failed : ((steps Setup.sample false).run refusedSession).1 =
        .error (.remote .unauthorized) := by decide +kernel
    have outcome := ((resync_all_or_nothing Setup.sample false refusedSession).2.1 _ failed).1
    have kept := (resync_all_or_nothing Setup.sample false refusedSession).2.2 sampleStore rfl
    rw [outcome] at kept
    obtain ⟨changed, file, _, _, undone⟩ := kept
    exact ⟨failed, outcome, rfl, changed, file, undone⟩

end Triage.Resync
