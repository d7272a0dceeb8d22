import Mathlib.Logic.Basic
import Triage.Proofs.Action.World

/-!
# The tab of a notification

A notification that is muted is archived as well, which keeps it in exactly one of
the inbox and the archive.  Every action leaves it so but one: taking a muted
notification out of the archive does not end its being muted, and neither tab
lists it afterwards.
-/

namespace Triage

theorem Completion.ok_iff {completion : TaskCompletion} :
    completion.ok = true ↔ ∃ value, completion.outcome = .ok value := by
  unfold Completion.ok
  cases completion.outcome <;> simp [Except.isOk, Except.toBool]

/-- An action keeps a muted notification archived unless it takes it out of the
archive. -/
theorem Plan.archived_assign_of_muted {action : Action} {record : Notification}
    (tidy : record.flags.muted = true → record.flags.archived = true)
    (safe : (Flag.archived, false) ∈ changesFor action record → record.flags.muted = false)
    (muted : (record.flags.assign (changesFor action record)).muted = true) :
    (record.flags.assign (changesFor action record)).archived = true := by
  cases action with
  | archive =>
      cases archived : record.flags.archived with
      | false => simp [changesFor, archived, Flags.assign, Flags.set]
      | true =>
          have kept : record.flags.muted = true := muted
          have apart := safe (by simp [changesFor, archived])
          rw [apart] at kept
          cases kept
  | unarchiveAll =>
      have kept : record.flags.muted = true := muted
      rw [safe (by simp [changesFor])] at kept
      cases kept
  | archiveAll => rfl
  | mute => rfl
  | star => exact tidy muted
  | markRead => exact tidy muted

namespace World

/-- A working store with nothing to settle. -/
structure Ready (world : World) : Prop where
  working : ∃ store, world.session.file = .intact store ∧ store.Sound
  clock : ∃ text, world.session.now.stored = .ok text
  quiet : world.session.completions = []

/-- The requests of a move succeed. -/
def Succeeds (setup : Setup) (world : World) (move : Move) : Prop :=
  ∀ completion ∈ (world.after setup move).session.completions, completion.ok = true

/-- The move takes a muted notification out of the archive. -/
def UnarchivesMuted (id : Int) : Move → Prop
  | .act action records =>
      ∃ record ∈ records, record.id = id ∧ record.flags.muted = true ∧
        (Flag.archived, false) ∈ Plan.changesFor action record
  | _ => False

/-- What the two tabs list. -/
structure Tabs (world : World) (inbox archived : List Notification) : Prop where
  inbox : (Store.loadNamed "inbox").run world.session.file = (.ok inbox, world.session.file)
  archived : (Store.loadNamed "archived").run world.session.file =
    (.ok archived, world.session.file)

/-- The store works, no action has failed, and a notification is archived if it is
muted. -/
structure Tidy (world : World) (id : Int) (store : Store) : Prop where
  intact : world.session.file = .intact store
  sound : store.Sound
  clock : ∃ text, world.session.now.stored = .ok text
  succeeded : ∀ completion ∈ world.session.completions, completion.ok = true
  archived : ∀ row ∈ store.notifications.rows, row.id = id →
    row.flags.muted = true → row.flags.archived = true

variable {setup : Setup} {world : World} {id : Int} {store : Store}

theorem tabs_of_intact (intact : world.session.file = .intact store) (sound : store.Sound) :
    world.Tabs (store.shown .inbox) (store.shown .archived) := by
  constructor
  · rw [intact]
    exact sound.run_loadNamed .inbox
  · rw [intact]
    exact sound.run_loadNamed .archived

/-! ## Moves -/

/-- Nothing is undone if nothing has failed. -/
theorem Tidy.settle (tidy : world.Tidy id store) : world.settle.Tidy id store := by
  unfold World.settle
  cases waiting : world.session.completions with
  | nil => exact tidy
  | cons completion rest =>
      have inside : ∀ other ∈ rest, other ∈ world.session.completions := by
        simp +contextual [waiting]
      obtain ⟨value, succeeded⟩ :=
        Completion.ok_iff.1 (tidy.succeeded completion (by simp [waiting]))
      simp only [Plan.run_settle_of_ok succeeded]
      exact { tidy with
        succeeded := fun other member => tidy.succeeded other (inside other member) }

variable {action : Action} {records : List Notification}

/-- What performing a plan leaves of a working store. -/
theorem perform_of_stored (action : Action) (setup : Setup)
    (intact : world.session.file = .intact store) (sound : store.Sound) {text : String}
    (stored : world.session.now.stored = .ok text)
    (known : ∀ record ∈ records, ∃ row ∈ store.notifications.rows, record = row.read) :
    (world.perform setup (Plan.make action records)).session.file =
        .intact (store.assigned text (Plan.make action records).changes) ∧
      (world.perform setup (Plan.make action records)).session.now = world.session.now := by
  cases records with
  | nil =>
      rw [perform_of_isEmpty rfl]
      exact ⟨intact, rfl⟩
  | cons record rest =>
      have fits := Plan.fits_of_known sound known
      obtain ⟨outcome, later, performed, same⟩ := perform_eq setup
        (Plan.isEmpty_make action List.mem_cons_self) (Plan.writable_changes fits) intact stored
      have now := Session.now_of_offline same
      rw [performed]
      exact ⟨Session.file_of_offline same, now⟩

/-- An action keeps a muted notification archived. -/
theorem Tidy.perform (tidy : world.Tidy id store) (allowed : world.Allowed (.act action records))
    (apart : ¬ UnarchivesMuted id (.act action records))
    (succeeds : ∀ completion ∈
      (world.perform setup (Plan.make action records)).session.completions, completion.ok = true) :
    ∃ later, (world.perform setup (Plan.make action records)).Tidy id later := by
  obtain ⟨text, stored⟩ := tidy.clock
  have known := Plan.known_of_stored tidy.sound fun record member =>
    rows_of_intact tidy.intact ▸ allowed record member
  obtain ⟨file, now⟩ := perform_of_stored action setup tidy.intact tidy.sound stored known
  refine ⟨_, file, tidy.sound.assigned stored _, ⟨text, now ▸ stored⟩, succeeds, ?_⟩
  intro row member number
  rw [Store.rows_assigned] at member
  obtain ⟨old, present, rfl⟩ := List.mem_map.1 member
  rw [Row.id_assigned] at number
  have before := tidy.archived old present number
  by_cases concerned : ∃ record ∈ records, record.id = old.id
  · obtain ⟨record, recorded, same⟩ := concerned
    obtain ⟨rfl, flags⟩ := Plan.flags_assigned_of_mem action tidy.sound known present
      recorded same text
    rw [flags, ← (tidy.sound.notifications old present).flags_read] at *
    apply Plan.archived_assign_of_muted before
    intro unarchived
    by_contra muted
    exact apart ⟨_, recorded, same.trans number, by simpa using muted, unarchived⟩
  · rw [Plan.assigned_of_not_mem fun record recorded same => concerned ⟨record, recorded, same⟩]
    exact before

theorem Tidy.after (tidy : world.Tidy id store) {move : Move} (allowed : world.Allowed move)
    (succeeds : world.Succeeds setup move) (apart : ¬ UnarchivesMuted id move) :
    ∃ later, (world.after setup move).Tidy id later := by
  cases move with
  | act action records =>
      cases planned : Plan.ofRecords action records with
      | error error =>
          simp only [World.after, planned]
          exact ⟨store, tidy⟩
      | ok plan =>
          obtain ⟨rfl, _⟩ := Plan.ofRecords_eq_ok planned
          simp only [Succeeds, World.after, planned] at succeeds ⊢
          exact tidy.perform allowed apart succeeds
  | settle => exact ⟨store, tidy.settle⟩
  | pass now seconds => exact ⟨store, { tidy with clock := allowed }⟩

/-! ## Runs -/

theorem Run.tidy {first last : World}
    (run : Run setup (fun world move => world.Allowed move ∧ world.Succeeds setup move ∧
      ¬ UnarchivesMuted id move) first last)
    (tidy : first.Tidy id store) : ∃ later, last.Tidy id later := by
  induction run with
  | start => exact ⟨store, tidy⟩
  | next _ meets ih =>
      obtain ⟨between, kept⟩ := ih
      exact kept.after meets.1 meets.2.1 meets.2.2

/-- A notification that is archived if it is muted is in one of the two tabs. -/
theorem Tidy.xor_mem (tidy : world.Tidy id store) {row : Row}
    (present : row ∈ store.notifications.rows) (number : row.id = id) :
    Xor (id ∈ (store.shown .inbox).map Notification.id)
      (id ∈ (store.shown .archived).map Notification.id) := by
  have archived := tidy.archived row present number
  subst number
  rw [tidy.sound.mem_map_id_shown .inbox present, tidy.sound.mem_map_id_shown .archived present]
  cases muted : row.flags.muted <;> cases state : row.flags.archived <;>
    simp [View.holds, Xor, muted, state] at archived ⊢

/-- A notification that was taken out of the archive is in the inbox unless it was
muted, and no longer in the archive. -/
theorem tabs_after_unarchive (setup : Setup) (intact : world.session.file = .intact store)
    (sound : store.Sound) {text : String} (stored : world.session.now.stored = .ok text)
    (known : ∀ record ∈ records, ∃ row ∈ store.notifications.rows, record = row.read)
    {record : Notification} (member : record ∈ records)
    (unarchived : (Flag.archived, false) ∈ Plan.changesFor action record) :
    ∃ inbox archived, (world.perform setup (Plan.make action records)).Tabs inbox archived ∧
      (record.id ∈ inbox.map Notification.id ↔ record.flags.muted = false) ∧
        record.id ∉ archived.map Notification.id := by
  obtain ⟨file, _⟩ := perform_of_stored action setup intact sound stored known
  have written := sound.assigned stored (Plan.make action records).changes
  obtain ⟨row, present, number, flags⟩ :=
    Plan.exists_row_assigned action sound known member text
  have cleared : row.flags.muted = record.flags.muted ∧ row.flags.archived = false := by
    rw [flags]
    cases action <;> simp [Plan.changesFor, Flags.assign, Flags.set] at unarchived ⊢
    exact unarchived
  refine ⟨_, _, tabs_of_intact file written, ?_, ?_⟩
  · rw [← number, written.mem_map_id_shown .inbox present]
    simp [View.holds, cleared.1, cleared.2]
  · rw [← number, written.mem_map_id_shown .archived present]
    simp [View.holds, cleared.2]

/-- If a notification is archived when it is muted, and is never taken out of the
archive while it is muted, then it stays so, and at every point it is in exactly
one of the two tabs.  Taken out of the archive it is back in the inbox exactly if
it is not muted, and no longer in the archive. -/
theorem in_one_tab_unless_unarchived_muted {first last : World} (ready : first.Ready)
    (tidy : ∀ row ∈ first.rows, row.id = id →
      row.flags.muted = true → row.flags.archived = true)
    (run : Run setup (fun world move => world.Allowed move ∧ world.Succeeds setup move ∧
      ¬ UnarchivesMuted id move) first last) :
    ∃ inbox archived, last.Tabs inbox archived ∧
      (∀ row ∈ last.rows, row.id = id →
        (row.flags.muted = true → row.flags.archived = true) ∧
          Xor (id ∈ inbox.map Notification.id) (id ∈ archived.map Notification.id)) ∧
      ∀ action records plan, last.Allowed (.act action records) →
        Plan.ofRecords action records = .ok plan → ∀ record ∈ records, record.id = id →
          (Flag.archived, false) ∈ Plan.changesFor action record →
            ∃ inbox archived, (last.after setup (.act action records)).Tabs inbox archived ∧
              (id ∈ inbox.map Notification.id ↔ record.flags.muted = false) ∧
                id ∉ archived.map Notification.id := by
  obtain ⟨store, intact, sound⟩ := ready.working
  have begun : first.Tidy id store :=
    ⟨intact, sound, ready.clock, by simp [ready.quiet], rows_of_intact intact ▸ tidy⟩
  obtain ⟨later, kept⟩ := run.tidy begun
  obtain ⟨text, stored⟩ := kept.clock
  refine ⟨_, _, tabs_of_intact kept.intact kept.sound, ?_, ?_⟩
  · rw [rows_of_intact kept.intact]
    intro row present number
    exact ⟨kept.archived row present number, kept.xor_mem present number⟩
  · rintro action records plan allowed planned record member rfl unarchived
    have known := Plan.known_of_stored kept.sound fun record member =>
      rows_of_intact kept.intact ▸ allowed record member
    obtain ⟨rfl, _⟩ := Plan.ofRecords_eq_ok planned
    simp only [World.after, planned]
    exact tabs_after_unarchive setup kept.intact kept.sound stored known member unarchived

/-! ## Out of the archive -/

/-- A notification that was archived. -/
def archivedRecord : Notification :=
  { id := 1, flags := { archived := true } }

/-- A notification that was muted. -/
def mutedRecord : Notification :=
  { id := 1, flags := { archived := true, muted := true } }

/-- A store of one notification, and a service to which every request succeeds. -/
def oneStart (record : Notification) : World where
  session := {
    file := .intact { notifications := .ofRows [record.written] }
    now := .origin }
  remote := fun _ => {}

theorem inUtc_archivedRecord : archivedRecord.InUtc :=
  Notification.inUtc_of_none rfl rfl rfl Timestamp.inUtc?_none

theorem inUtc_mutedRecord : mutedRecord.InUtc :=
  Notification.inUtc_of_none rfl rfl rfl Timestamp.inUtc?_none

theorem stored_origin : ∃ text, Timestamp.origin.stored = .ok text :=
  ⟨_, rfl⟩

theorem ready_oneStart {record : Notification} (utc : record.InUtc)
    (fits : record.written.fits = true) : (oneStart record).Ready where
  working := ⟨_, rfl, @Store.sound_ofRows [record] (by simpa using utc) (by simpa using fits)⟩
  clock := stored_origin
  quiet := rfl

theorem allowed_oneStart {record : Notification} (utc : record.InUtc) (action : Action) :
    (oneStart record).Allowed (.act action [record]) := by
  intro other member
  rw [List.mem_singleton.1 member]
  exact ⟨record.written, List.mem_singleton_self _, Notification.ofRow_written utc⟩

/-- The world after a star on an archived notification. -/
def starredOnce : World :=
  (oneStart archivedRecord).after .sample (.act .star [archivedRecord])

/-- Starred and then taken out of the archive, a notification is back in the inbox. -/
theorem back_in_inbox_after_unarchive :
    (oneStart archivedRecord).Ready ∧
      (∀ row ∈ (oneStart archivedRecord).rows, row.id = 1 →
        row.flags.muted = true → row.flags.archived = true) ∧
      Run .sample (fun world move => world.Allowed move ∧ world.Succeeds .sample move ∧
        ¬ UnarchivesMuted 1 move) (oneStart archivedRecord) starredOnce ∧
      (∃ inbox archived, starredOnce.Tabs inbox archived ∧
        ∀ row ∈ starredOnce.rows, row.id = 1 →
          Xor (1 ∈ inbox.map Notification.id) (1 ∈ archived.map Notification.id)) ∧
      ∃ record inbox archived, starredOnce.Allowed (.act .archive [record]) ∧
        record.flags = { archived := true, starred := true } ∧
        (starredOnce.after .sample (.act .archive [record])).Tabs inbox archived ∧
          1 ∈ inbox.map Notification.id ∧ 1 ∉ archived.map Notification.id := by
  have succeeds : starredOnce.session.completions.all Completion.ok = true := by decide +kernel
  have ready := ready_oneStart inUtc_archivedRecord (by decide)
  have tidy : ∀ row ∈ (oneStart archivedRecord).rows, row.id = 1 →
      row.flags.muted = true → row.flags.archived = true := by decide
  have run : Run .sample (fun world move => world.Allowed move ∧ world.Succeeds .sample move ∧
      ¬ UnarchivesMuted 1 move) (oneStart archivedRecord) starredOnce := by
    refine (Run.start _).next
      ⟨allowed_oneStart inUtc_archivedRecord .star, List.all_eq_true.1 succeeds, ?_⟩
    rintro ⟨record, member, _, muted, _⟩
    rw [List.mem_singleton.1 member] at muted
    cases muted
  obtain ⟨inbox, archived, tabs, listed, moved⟩ :=
    in_one_tab_unless_unarchived_muted ready tidy run
  obtain ⟨store, intact, sound⟩ := ready.working
  obtain ⟨text, stored⟩ := ready.clock
  have known := Plan.known_of_stored sound fun record member =>
    rows_of_intact intact ▸ allowed_oneStart inUtc_archivedRecord .star record member
  obtain ⟨row, present, number, starred⟩ := Plan.exists_row_assigned .star sound known
    (List.mem_singleton_self archivedRecord) text
  have file := (perform_of_stored .star .sample intact sound stored known).1
  have kept := (sound.assigned stored _).notifications row present
  have flags : row.read.flags = { archived := true, starred := true } :=
    kept.flags_read.trans starred
  have allowed : starredOnce.Allowed (.act .archive [row.read]) := by
    intro record member
    rw [List.mem_singleton.1 member]
    exact ⟨row, rows_of_intact file ▸ present, kept.ofRow_eq⟩
  have taken : (Flag.archived, false) ∈ Plan.changesFor .archive row.read := by
    rw [Plan.changesFor, flags]
    exact List.mem_singleton_self _
  obtain ⟨later, removed, shown, back, gone⟩ := moved .archive [row.read] _ allowed
    (Plan.ofRecords_singleton .archive row.read) row.read (List.mem_singleton_self _)
    (kept.id_read.trans number) taken
  have unmuted : row.read.flags.muted = false := by rw [flags]
  exact ⟨ready, tidy, run,
    ⟨inbox, archived, tabs, fun row member same => (listed row member same).2⟩,
    row.read, later, removed, allowed, flags, shown, back.2 unmuted, gone⟩

/-- The world after a muted notification was taken out of the archive. -/
def unarchivedMuted : World :=
  (oneStart mutedRecord).after .sample (.act .archive [mutedRecord])

/-- A muted notification that was taken out of the archive is still stored, but
neither tab lists it. -/
theorem in_no_tab_after_unarchive :
    (oneStart mutedRecord).Ready ∧
      (∀ row ∈ (oneStart mutedRecord).rows,
        row.flags.muted = true → row.flags.archived = true) ∧
      Run .sample (fun world move => world.Allowed move ∧ world.Succeeds .sample move)
        (oneStart mutedRecord) unarchivedMuted ∧
      (∃ row ∈ unarchivedMuted.rows, row.id = 1 ∧ row.flags.muted = true ∧
        row.flags.archived = false) ∧
      ∃ inbox archived, unarchivedMuted.Tabs inbox archived ∧
        1 ∉ inbox.map Notification.id ∧ 1 ∉ archived.map Notification.id := by
  have succeeds : unarchivedMuted.session.completions.all Completion.ok = true := by decide +kernel
  have ready := ready_oneStart inUtc_mutedRecord (by decide)
  have allowed := allowed_oneStart inUtc_mutedRecord .archive
  have archived : ∀ row ∈ (oneStart mutedRecord).rows,
      row.flags.muted = true → row.flags.archived = true := by decide
  have run : Run .sample (fun world move => world.Allowed move ∧ world.Succeeds .sample move)
      (oneStart mutedRecord) unarchivedMuted :=
    (Run.start _).next ⟨allowed, List.all_eq_true.1 succeeds⟩
  obtain ⟨store, intact, sound⟩ := ready.working
  obtain ⟨text, stored⟩ := ready.clock
  have known := Plan.known_of_stored sound fun record member =>
    rows_of_intact intact ▸ allowed record member
  have member := List.mem_singleton_self mutedRecord
  have taken : (Flag.archived, false) ∈ Plan.changesFor .archive mutedRecord := by decide
  obtain ⟨inbox, archive, tabs, back, gone⟩ :=
    tabs_after_unarchive .sample intact sound stored known member taken
  obtain ⟨row, present, number, flags⟩ :=
    Plan.exists_row_assigned .archive sound known member text
  have file := (perform_of_stored .archive .sample intact sound stored known).1
  have lost : 1 ∉ inbox.map Notification.id := fun listed => absurd (back.1 listed) (by decide)
  refine ⟨ready, archived, run, ⟨row, ?_, number, ?_, ?_⟩, inbox, archive, tabs, lost, gone⟩
  · exact rows_of_intact file ▸ present
  · rw [flags]
    rfl
  · rw [flags]
    rfl

end World

end Triage
