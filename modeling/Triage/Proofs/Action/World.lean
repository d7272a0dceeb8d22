import Triage.Proofs.Action.Session

/-!
# The store and the service side by side

The service keeps flags of its own.  Actions are carried out here at once and at
the service if their request succeeds, and a failed one is undone here when its
outcome is dealt with.  A flag that no action sets while an earlier failed action
on it waits to be undone is the same on both sides once nothing waits any more.
-/

namespace Triage

/-! ## The service -/

/-- The flags that the service keeps. -/
abbrev RemoteFlags := Int → Flags

/-- The service after a plan whose request succeeded. -/
def Plan.carriedOut (plan : Plan) (remote : RemoteFlags) : RemoteFlags := fun id =>
  match plan.mutation with
  | some mutation => if id ∈ plan.ids then mutation.effect (remote id) else remote id
  | none => remote id

/-- The service after a task; a failed request changes nothing. -/
def Completion.carriedOut (remote : RemoteFlags) (completion : TaskCompletion) : RemoteFlags :=
  match completion.outcome, completion.context with
  | .ok _, some plan => plan.carriedOut remote
  | _, _ => remote

/-- A session and the service behind it. -/
structure World where
  session : Session
  remote : RemoteFlags

/-- What happens in a world. -/
inductive Move where
  /-- An action is planned for notifications and performed. -/
  | act (action : Action) (records : List Notification)
  /-- The oldest outcome is dealt with. -/
  | settle
  /-- The clocks go on. -/
  | pass (now : Timestamp) (seconds : Binary64)

namespace World

/-- The stored rows; there are none in a file that holds no store. -/
def rows (world : World) : List Row :=
  match world.session.file with
  | .intact store => store.notifications.rows
  | _ => []

/-- A plan is performed; the service carries out what its task succeeded in. -/
def perform (setup : Setup) (world : World) (plan : Plan) : World :=
  let session := ((Plan.perform setup plan).run world.session).2
  let posted := session.completions.drop world.session.completions.length
  { session := session, remote := posted.foldl Completion.carriedOut world.remote }

/-- The oldest outcome is dealt with. -/
def settle (world : World) : World :=
  match world.session.completions with
  | [] => world
  | completion :: rest =>
      { world with
        session :=
          ((Plan.settle completion).run { world.session with completions := rest }).2 }

/-- The world after a move; a plan that is refused changes nothing. -/
def after (setup : Setup) (world : World) : Move → World
  | .act action records =>
      match Plan.ofRecords action records with
      | .ok plan => world.perform setup plan
      | .error _ => world
  | .settle => world.settle
  | .pass now seconds =>
      { world with session := ((Session.pass now seconds).run world.session).2 }

/-- Actions are planned for notifications as they are stored, and the clock can be
written. -/
def Allowed (world : World) : Move → Prop
  | .act _ records =>
      ∀ record ∈ records, ∃ row ∈ world.rows, Notification.ofRow row = .ok record
  | .settle => True
  | .pass now _ => ∃ text, now.stored = .ok text

/-- A run of moves that pass a condition on the world in which they are made. -/
inductive Run (setup : Setup) (condition : World → Move → Prop) : World → World → Prop where
  | start (world : World) : Run setup condition world world
  | next {first world : World} {move : Move} :
      Run setup condition first world → condition world move →
        Run setup condition first (world.after setup move)

end World

/-! ## Actions that will be undone -/

/-- A failed action that set a flag, which will be undone. -/
def Completion.WillUndo (completion : TaskCompletion) (id : Int) (flag : Flag) : Prop :=
  (∃ error, completion.outcome = .error error) ∧
    ∃ plan, completion.context = some plan ∧
      flag ∈ (Assignment.at plan.previous id).map Prod.fst

/-- Undoing an action gives a flag a value, whatever it was before. -/
def Completion.Restores (completion : TaskCompletion) (id : Int) (flag : Flag) (value : Bool) :
    Prop :=
  ∀ plan, completion.context = some plan →
    ∀ flags : Flags, (flags.assign (Assignment.at plan.previous id)).get flag = value

/-- An action sets a flag of one of its notifications. -/
def Action.Touches (action : Action) (records : List Notification) (id : Int) (flag : Flag) :
    Prop :=
  ∃ record ∈ records, record.id = id ∧ flag ∈ (Plan.changesFor action record).map Prod.fst

/-- The move sets a flag while a failed action that set it waits to be undone. -/
def World.Overlaps (world : World) (id : Int) (flag : Flag) : Move → Prop
  | .act action records =>
      action.Touches records id flag ∧
        ∃ completion ∈ world.session.completions, completion.WillUndo id flag
  | _ => False

/-- A flag is the same on both sides, or will be once the failed actions that wait
are undone. -/
structure World.Tracks (world : World) (id : Int) (flag : Flag) (store : Store) : Prop where
  intact : world.session.file = .intact store
  sound : store.Sound
  clock : ∃ text, world.session.now.stored = .ok text
  planned : ∀ completion ∈ world.session.completions, completion.Planned
  undone : ∀ completion ∈ world.session.completions, completion.WillUndo id flag →
    completion.Restores id flag ((world.remote id).get flag)
  settled : (∀ completion ∈ world.session.completions, ¬ completion.WillUndo id flag) →
    ∀ row ∈ store.notifications.rows, row.id = id →
      row.flags.get flag = (world.remote id).get flag

namespace World

variable {setup : Setup} {world : World} {id : Int} {flag : Flag} {store : Store}

theorem rows_of_intact (intact : world.session.file = .intact store) :
    world.rows = store.notifications.rows := by
  rw [rows, intact]

/-- Dealing with an outcome undoes what failed. -/
theorem Tracks.settle (tracks : world.Tracks id flag store) :
    ∃ later, world.settle.Tracks id flag later ∧
      later.notifications.rows.map Row.id = store.notifications.rows.map Row.id := by
  obtain ⟨text, stored⟩ := tracks.clock
  unfold World.settle
  cases waiting : world.session.completions with
  | nil => exact ⟨store, tracks, rfl⟩
  | cons completion rest =>
      have inside : ∀ other ∈ rest, other ∈ world.session.completions := by
        simp +contextual [waiting]
      obtain ⟨action, records, context, fits⟩ := tracks.planned completion (by simp [waiting])
      cases outcome : completion.outcome with
      | ok value =>
          have quiet : ¬ completion.WillUndo id flag := by
            rintro ⟨⟨error, failed⟩, _⟩
            simp [outcome] at failed
          simp only [Plan.run_settle_of_ok outcome]
          refine ⟨store, ⟨tracks.intact, tracks.sound, ⟨text, stored⟩,
            fun other member => tracks.planned other (inside other member),
            fun other member => tracks.undone other (inside other member), fun none => ?_⟩, rfl⟩
          refine tracks.settled fun other member => ?_
          rw [waiting] at member
          rcases List.mem_cons.1 member with rfl | member
          · exact quiet
          · exact none other member
      | error error =>
          have intact : ({ world.session with completions := rest } : Session).file =
              .intact store := tracks.intact
          have undone := Plan.run_settle_of_error outcome context (Plan.writable_previous fits)
            intact stored
          simp only [undone]
          refine ⟨_, ⟨rfl, tracks.sound.assigned stored _, ⟨text, stored⟩,
            fun other member => tracks.planned other (inside other member),
            fun other member => tracks.undone other (inside other member), fun none => ?_⟩,
            Store.map_id_assigned _ _ _⟩
          intro row member number
          rw [Store.rows_assigned] at member
          obtain ⟨old, present, rfl⟩ := List.mem_map.1 member
          rw [Row.id_assigned] at number
          subst number
          rw [Row.flags_assigned (Plan.distinct_previous action records)]
          by_cases touched :
              flag ∈ (Assignment.at (Plan.make action records).previous old.id).map Prod.fst
          · apply tracks.undone completion (by simp [waiting])
              ⟨⟨error, outcome⟩, _, context, touched⟩ _ context old.flags
          · rw [Flags.get_assign_of_not_mem touched]
            refine tracks.settled (fun other member => ?_) old present rfl
            rw [waiting] at member
            rcases List.mem_cons.1 member with rfl | member
            · rintro ⟨_, plan, same, inPlan⟩
              rw [context] at same
              cases same
              exact touched inPlan
            · exact none other member

theorem perform_of_isEmpty {plan : Plan} (empty : plan.isEmpty = true) :
    world.perform setup plan = world := by
  have nothing : (Plan.perform setup plan).run world.session = (.ok (), world.session) := by
    rw [Plan.perform, empty, if_pos rfl]
    rfl
  simp only [perform, nothing, List.drop_length, List.foldl_nil]

/-- Performing a plan posts one outcome, which tells what the service did. -/
theorem perform_eq (setup : Setup) {plan : Plan} (filled : plan.isEmpty = false)
    (writable : Assignment.Writable plan.changes) (intact : world.session.file = .intact store)
    {text : String} (stored : world.session.now.stored = .ok text) :
    ∃ outcome later,
      world.perform setup plan =
        ⟨later, Completion.carriedOut world.remote ⟨Plan.taskKind, outcome, some plan⟩⟩ ∧
      later.offline = ({ world.session with
        file := .intact (store.assigned text plan.changes)
        completions := world.session.completions ++
          [⟨Plan.taskKind, outcome, some plan⟩] } : Session).offline := by
  obtain ⟨outcome, later, run, same⟩ := Plan.run_perform setup filled writable intact stored
  have posted := Session.completions_of_offline same
  refine ⟨outcome, later, ?_, same⟩
  simp only [perform, run, posted, List.drop_left, List.foldl_cons, List.foldl_nil]

theorem carriedOut_of_not_mem {action : Action} {records : List Notification}
    (absent : ∀ record ∈ records, record.id ≠ id) (remote : RemoteFlags) :
    (Plan.make action records).carriedOut remote id = remote id := by
  have outside : id ∉ (Plan.make action records).ids := fun member => by
    obtain ⟨record, present, same⟩ := Plan.mem_ids.1 member
    exact absent record present same
  rw [Plan.carriedOut]
  split
  · rw [if_neg outside]
  · rfl

theorem carriedOut_of_mem {action : Action} {records : List Notification}
    (single : action.isSingle = true → records.length ≤ 1) {record : Notification}
    (member : record ∈ records) (remote : RemoteFlags) :
    (Plan.make action records).carriedOut remote record.id =
      (Plan.mutationFor action record).effect (remote record.id) := by
  have inside : record.id ∈ (Plan.make action records).ids := Plan.mem_ids.2 ⟨record, member, rfl⟩
  simp only [Plan.carriedOut, Plan.mutation_eq single member, if_pos inside]

variable {action : Action} {records : List Notification}

/-- What an action does not touch stays as it is at the service. -/
theorem get_carriedOut_of_untouched (single : action.isSingle = true → records.length ≤ 1)
    (untouched : ¬ action.Touches records id flag) (outcome : Except Error TaskValue)
    (remote : RemoteFlags) :
    (Completion.carriedOut remote
      ⟨Plan.taskKind, outcome, some (Plan.make action records)⟩ id).get flag =
        (remote id).get flag := by
  cases outcome with
  | error error => rfl
  | ok value =>
      change ((Plan.make action records).carriedOut remote id).get flag = _
      by_cases present : ∃ record ∈ records, record.id = id
      · obtain ⟨record, member, rfl⟩ := present
        rw [carriedOut_of_mem single member]
        exact Plan.get_effect_of_not_mem (fun inside => untouched ⟨record, member, rfl, inside⟩) _
      · rw [carriedOut_of_not_mem fun record member same => present ⟨record, member, same⟩]

/-- What an action does not touch stays as it is in the store. -/
theorem get_assigned_of_untouched (consistent : Plan.Consistent records) {row : Row}
    (untouched : ¬ action.Touches records row.id flag) (text : String) :
    (row.assigned text (Plan.make action records).changes).flags.get flag =
      row.flags.get flag := by
  rw [Row.flags_assigned (Plan.distinct_changes action records)]
  refine Flags.get_assign_of_not_mem (fun inside => untouched ?_) _
  by_cases present : ∃ record ∈ records, record.id = row.id
  · obtain ⟨record, member, same⟩ := present
    rw [← same, Plan.changes_at consistent member] at inside
    exact ⟨record, member, same, inside⟩
  · rw [Plan.changes_at_of_not_mem fun record member same => present ⟨record, member, same⟩]
      at inside
    simp at inside

/-- A plan's task that failed undoes exactly what its action touches. -/
theorem willUndo_iff (consistent : Plan.Consistent records) (outcome : Except Error TaskValue) :
    Completion.WillUndo ⟨Plan.taskKind, outcome, some (Plan.make action records)⟩ id flag ↔
      (∃ error, outcome = .error error) ∧ action.Touches records id flag := by
  constructor
  · rintro ⟨failed, plan, same, inside⟩
    cases same
    refine ⟨failed, ?_⟩
    by_cases present : ∃ record ∈ records, record.id = id
    · obtain ⟨record, member, rfl⟩ := present
      rw [Plan.previous_at consistent member, Plan.map_fst_previousFor] at inside
      exact ⟨record, member, rfl, inside⟩
    · rw [Plan.previous_at_of_not_mem fun record member same => present ⟨record, member, same⟩]
        at inside
      simp at inside
  · rintro ⟨failed, record, member, rfl, inside⟩
    refine ⟨failed, _, rfl, ?_⟩
    rwa [Plan.previous_at consistent member, Plan.map_fst_previousFor]

/-- Performing an action that does not overlap with one to be undone keeps track
of the flag. -/
theorem Tracks.perform (tracks : world.Tracks id flag store)
    (allowed : world.Allowed (.act action records))
    (apart : ¬ world.Overlaps id flag (.act action records))
    (single : action.isSingle = true → records.length ≤ 1) :
    ∃ later, (world.perform setup (Plan.make action records)).Tracks id flag later ∧
      later.notifications.rows.map Row.id = store.notifications.rows.map Row.id := by
  obtain ⟨text, stored⟩ := tracks.clock
  have fresh : ∀ record ∈ records, ∃ row ∈ store.notifications.rows, record = row.read := by
    intro record member
    obtain ⟨row, present, read⟩ := allowed record member
    rw [rows_of_intact tracks.intact] at present
    rw [(tracks.sound.notifications row present).ofRow_eq] at read
    exact ⟨row, present, (Except.ok.inj read).symm⟩
  have consistent := Plan.consistent_of_stored tracks.sound fresh
  have fits : ∀ record ∈ records, Width.fits64 record.id = true := by
    intro record member
    obtain ⟨row, present, rfl⟩ := fresh record member
    rw [(tracks.sound.notifications row present).id_read]
    exact (tracks.sound.notifications row present).fits_id
  -- An action finds the flags that it sets the same on both sides.
  have equal : ∀ record ∈ records, record.id = id →
      flag ∈ (Plan.changesFor action record).map Prod.fst →
        record.flags.get flag = (world.remote id).get flag := by
    intro record member same inside
    obtain ⟨row, present, rfl⟩ := fresh record member
    have sound := tracks.sound.notifications row present
    rw [sound.flags_read]
    refine tracks.settled (fun completion old waits => ?_) row present (sound.id_read ▸ same)
    exact apart ⟨⟨_, member, same, inside⟩, completion, old, waits⟩
  by_cases filled : ∃ record, record ∈ records
  · obtain ⟨some_record, present⟩ := filled
    obtain ⟨outcome, later, performed, same⟩ := perform_eq setup
      (Plan.isEmpty_make action present) (Plan.writable_changes fits) tracks.intact stored
    have completions := Session.completions_of_offline same
    rw [performed]
    refine ⟨store.assigned text (Plan.make action records).changes, {
      intact := Session.file_of_offline same
      sound := tracks.sound.assigned stored _
      clock := ⟨text, by rw [Session.now_of_offline same]; exact stored⟩
      planned := ?_
      undone := ?_
      settled := ?_ }, Store.map_id_assigned _ _ _⟩
    · rw [completions]
      intro completion member
      rcases List.mem_append.1 member with old | new
      · exact tracks.planned completion old
      · rw [List.mem_singleton.1 new]
        exact ⟨action, records, rfl, fits⟩
    · rw [completions]
      intro completion member waits
      rcases List.mem_append.1 member with old | new
      · have untouched : ¬ action.Touches records id flag := fun touches =>
          apart ⟨touches, completion, old, waits⟩
        rw [get_carriedOut_of_untouched single untouched]
        exact tracks.undone completion old waits
      · rw [List.mem_singleton.1 new] at waits ⊢
        obtain ⟨⟨error, rfl⟩, record, member, rfl, inside⟩ := (willUndo_iff consistent _).1 waits
        rintro _ ⟨⟩ flags
        rw [Plan.previous_at consistent member, Plan.get_assign_previousFor inside]
        exact equal record member rfl inside
    · rw [completions]
      intro none row member number
      rw [Store.rows_assigned] at member
      obtain ⟨old, there, rfl⟩ := List.mem_map.1 member
      rw [Row.id_assigned] at number
      subst number
      by_cases touches : action.Touches records old.id flag
      · cases outcome with
        | error error =>
            exact absurd ((willUndo_iff consistent _).2 ⟨⟨error, rfl⟩, touches⟩)
              (none _ (by simp))
        | ok value =>
            obtain ⟨record, recorded, number, inside⟩ := touches
            change _ = ((Plan.make action records).carriedOut world.remote old.id).get flag
            rw [Row.flags_assigned (Plan.distinct_changes action records), ← number,
              Plan.changes_at consistent recorded, carriedOut_of_mem single recorded]
            refine (Plan.get_effect_of_mem inside ?_ _).symm
            rw [number]
            exact equal record recorded number inside
      · rw [get_carriedOut_of_untouched single touches,
          get_assigned_of_untouched consistent touches]
        exact tracks.settled (fun completion old => none completion (by simp [old])) old there rfl
  · have empty : records = [] := List.eq_nil_iff_forall_not_mem.2 fun record member =>
      filled ⟨record, member⟩
    subst empty
    exact ⟨store, by rwa [perform_of_isEmpty rfl], rfl⟩

/-- A move that does not overlap with an action to be undone keeps track of the
flag. -/
theorem Tracks.after (tracks : world.Tracks id flag store) {move : Move}
    (allowed : world.Allowed move) (apart : ¬ world.Overlaps id flag move) :
    ∃ later, (world.after setup move).Tracks id flag later ∧
      later.notifications.rows.map Row.id = store.notifications.rows.map Row.id := by
  cases move with
  | act action records =>
      cases planned : Plan.ofRecords action records with
      | error error =>
          simp only [World.after, planned]
          exact ⟨store, tracks, rfl⟩
      | ok plan =>
          obtain ⟨rfl, single⟩ := Plan.ofRecords_eq_ok planned
          simp only [World.after, planned]
          exact tracks.perform allowed apart single
  | settle => exact tracks.settle
  | pass now seconds =>
      exact ⟨store, ⟨tracks.intact, tracks.sound, allowed, tracks.planned, tracks.undone,
        tracks.settled⟩, rfl⟩

/-- A whole run keeps track of a flag that no move of it overlaps with. -/
theorem Run.tracks {first last : World}
    (run : Run setup (fun world move => world.Allowed move ∧ ¬ world.Overlaps id flag move)
      first last)
    (tracks : first.Tracks id flag store) :
    ∃ later, last.Tracks id flag later ∧
      later.notifications.rows.map Row.id = store.notifications.rows.map Row.id := by
  induction run with
  | start => exact ⟨store, tracks, rfl⟩
  | next _ meets ih =>
      obtain ⟨between, tracks, same⟩ := ih
      obtain ⟨later, tracks, equal⟩ := tracks.after meets.1 meets.2
      exact ⟨later, tracks, equal.trans same⟩

/-! ## Requests that fail -/

theorem foldl_carriedOut_of_failed {posted : List TaskCompletion}
    (failed : ∀ completion ∈ posted, completion.ok = false) (remote : RemoteFlags) :
    posted.foldl Completion.carriedOut remote = remote := by
  induction posted with
  | nil => rfl
  | cons completion rest ih =>
      have first : Completion.carriedOut remote completion = remote := by
        have failure := failed completion (by simp)
        unfold Completion.ok at failure
        unfold Completion.carriedOut
        cases outcome : completion.outcome with
        | ok value => simp [outcome, Except.isOk, Except.toBool] at failure
        | error error => rfl
      rw [List.foldl_cons, first]
      exact ih fun other member => failed other (by simp [member])

/-- A move after which only failures wait has not changed the service. -/
theorem remote_after_of_failed {move : Move}
    (failed : ∀ completion ∈ (world.after setup move).session.completions,
      completion.ok = false) : (world.after setup move).remote = world.remote := by
  cases move with
  | act action records =>
      cases planned : Plan.ofRecords action records with
      | error error => simp only [World.after, planned]
      | ok plan =>
          simp only [World.after, planned] at failed ⊢
          exact foldl_carriedOut_of_failed
            (fun completion member => failed completion (List.mem_of_mem_drop member)) _
  | settle =>
      change world.settle.remote = world.remote
      rw [World.settle]
      split <;> rfl
  | pass now seconds => rfl

theorem Run.remote_of_failed {first last : World}
    (run : Run setup (fun world move => ∀ completion ∈
      (world.after setup move).session.completions, completion.ok = false) first last) :
    last.remote = first.remote := by
  induction run with
  | start => rfl
  | next _ failed ih => rw [remote_after_of_failed failed, ih]

/-! ## Agreement -/

/-- A working store that the service agrees with, before the first action. -/
structure Fresh (world : World) : Prop where
  working : ∃ store, world.session.file = .intact store ∧ store.Sound
  clock : ∃ text, world.session.now.stored = .ok text
  quiet : world.session.completions = []
  equal : ∀ row ∈ world.rows, row.flags = world.remote row.id

theorem Fresh.tracks (fresh : world.Fresh) (id : Int) (flag : Flag) :
    ∃ store, world.Tracks id flag store := by
  obtain ⟨store, intact, sound⟩ := fresh.working
  refine ⟨store, intact, sound, fresh.clock, ?_, ?_, ?_⟩
  · simp [fresh.quiet]
  · simp [fresh.quiet]
  · rintro _ row member rfl
    rw [fresh.equal row (by rwa [rows_of_intact intact])]

/-- Once nothing waits, a flag that was never set over a failed action to be
undone is the same here and at the service, for every notification.  If no
request succeeded, it is as it was before. -/
theorem flags_agree_once_settled {first last : World} (fresh : first.Fresh)
    (run : Run setup (fun world move => world.Allowed move ∧ ¬ world.Overlaps id flag move)
      first last)
    (settled : last.session.completions = []) :
    last.rows.map Row.id = first.rows.map Row.id ∧
      (∀ row ∈ last.rows, row.id = id →
        row.flags.get flag = (last.remote id).get flag) ∧
      (Run setup (fun world move => ∀ completion ∈
          (world.after setup move).session.completions, completion.ok = false) first last →
        ∀ row ∈ last.rows, row.id = id →
          ∃ old ∈ first.rows, old.id = id ∧ row.flags.get flag = old.flags.get flag) := by
  obtain ⟨store, begun⟩ := fresh.tracks id flag
  obtain ⟨later, tracks, same⟩ := run.tracks begun
  rw [rows_of_intact tracks.intact, rows_of_intact begun.intact]
  have agree : ∀ row ∈ later.notifications.rows, row.id = id →
      row.flags.get flag = (last.remote id).get flag :=
    tracks.settled (by simp [settled])
  refine ⟨same, agree, fun failing row member number => ?_⟩
  have there : id ∈ store.notifications.rows.map Row.id := by
    rw [← same, ← number]
    exact List.mem_map_of_mem member
  obtain ⟨old, present, rfl⟩ := List.mem_map.1 there
  refine ⟨old, present, rfl, ?_⟩
  rw [agree row member number, failing.remote_of_failed,
    fresh.equal old (by rwa [rows_of_intact begun.intact])]

/-! ## A star that fails -/

/-- A store of one notification, and a service that answers the first request for
a star with a failure and the second one with success. -/
def starStart : World where
  session := {
    file := .intact { notifications := .ofRows [Notification.written { id := 1 }] }
    now := .origin
    replies := [("POST /api/notifications/1/star.json", [.answer 500 "", .answer 200 ""])] }
  remote := fun _ => {}

/-- The world after the first star. -/
def starFailed : World :=
  starStart.after .sample (.act .star [{ id := 1 }])

/-- The notification after the first star. -/
def starRecord : Notification :=
  { id := 1, flags := { starred := true }, fetchedAt := some .origin }

/-- The world after a second star on the same notification and both outcomes. -/
def starTwice : World :=
  ((starFailed.after .sample (.act .star [starRecord])).after .sample .settle).after .sample .settle

theorem inUtc_starRecord : starRecord.InUtc :=
  Notification.inUtc_of_none rfl rfl rfl (by simp [Timestamp.InUtc?, starRecord, Timestamp.origin])

theorem inUtc_blank : ({ id := 1 } : Notification).InUtc :=
  Notification.inUtc_of_none rfl rfl rfl Timestamp.inUtc?_none

theorem fresh_starStart : starStart.Fresh where
  working :=
    ⟨_, rfl, @Store.sound_ofRows [{ id := 1 }] (by simpa using inUtc_blank) (by decide)⟩
  clock := ⟨_, rfl⟩
  quiet := rfl
  equal := by decide

theorem allowed_starStart : starStart.Allowed (.act .star [{ id := 1 }]) := by
  intro record member
  rw [List.mem_singleton.1 member]
  exact ⟨_, by decide, Notification.ofRow_written inUtc_blank⟩

/-- A failed star that is undone before anything else happens. -/
theorem flags_agree_after_failed_star :
    starStart.Fresh ∧
      Run .sample (fun world move => world.Allowed move ∧ ¬ world.Overlaps 1 .starred move)
        starStart (starFailed.after .sample .settle) ∧
      (starFailed.after .sample .settle).session.completions = [] ∧
        ∀ row ∈ (starFailed.after .sample .settle).rows, row.id = 1 →
          row.flags.get .starred =
            ((starFailed.after .sample .settle).remote 1).get .starred := by
  have settled : (starFailed.after .sample .settle).session.completions.isEmpty = true := by
    decide +kernel
  have run : Run .sample (fun world move => world.Allowed move ∧
      ¬ world.Overlaps 1 .starred move) starStart (starFailed.after .sample .settle) := by
    refine ((Run.start starStart).next ⟨allowed_starStart, ?_⟩).next ⟨trivial, id⟩
    rintro ⟨_, completion, waits, _⟩
    exact absurd waits List.not_mem_nil
  exact ⟨fresh_starStart, run, List.isEmpty_iff.1 settled,
    (flags_agree_once_settled fresh_starStart run (List.isEmpty_iff.1 settled)).2.1⟩

/-- If the star is set again before the first one is undone, undoing the failed
star also takes back the one that the service carried out: the flags differ
although nothing waits any more. -/
theorem flags_differ_after_overlap :
    starStart.Fresh ∧ Run .sample World.Allowed starStart starTwice ∧
      starTwice.session.completions = [] ∧
        ∃ row ∈ starTwice.rows, row.flags ≠ starTwice.remote row.id := by
  have evaluated : starFailed.rows = [starRecord.written] ∧
      starTwice.session.completions.isEmpty = true ∧
        ∃ row ∈ starTwice.rows, row.flags ≠ starTwice.remote row.id := by
    decide +kernel
  obtain ⟨between, settled, differ⟩ := evaluated
  have again : starFailed.Allowed (.act .star [starRecord]) := by
    intro record member
    rw [List.mem_singleton.1 member, between]
    exact ⟨_, List.mem_singleton_self _, Notification.ofRow_written inUtc_starRecord⟩
  have once : Run .sample World.Allowed starStart
      ((starFailed.after .sample (.act .star [starRecord])).after .sample .settle) :=
    (((Run.start starStart).next allowed_starStart).next again).next trivial
  exact ⟨fresh_starStart, once.next trivial, List.isEmpty_iff.1 settled, differ⟩

end World

end Triage
