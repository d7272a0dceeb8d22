import Triage.Proofs.Store.Order
import Triage.Proofs.Store.Runs
import Triage.Proofs.Time.Order

/-!
# Replacing every notification

What is read after a replacement is one notification for each number, namely the
last one that was given, and the order of what is read is that of the instants of
the last update, however these were written.
-/

namespace Triage

/-! ## Times and numbers that can be stored -/

/-- The instant lies within the years 1 to 9999 of the UTC clock. -/
def Timestamp.WithinYears (time : Timestamp) : Prop :=
  0 ≤ time.instant ∧ time.instant < Timestamp.limit

theorem Timestamp.WithinYears.exists_toUtc? {time : Timestamp} (within : time.WithinYears) :
    ∃ utc, time.toUtc? = some utc := by
  have inRange : 0 ≤ time.instant ∧ time.instant < 3652059 * 86400000000 := within
  rw [Timestamp.toUtc?, Timestamp.ofWall?, dif_pos inRange]
  exact ⟨_, rfl⟩

theorem Timestamp.WithinYears.stored {time : Timestamp} (within : time.WithinYears) :
    ∃ text, time.stored = .ok text := by
  obtain ⟨utc, moved⟩ := within.exists_toUtc?
  exact ⟨utc.isoText, by rw [Timestamp.stored, moved]⟩

/-- The times of a notification lie within the years 1 to 9999, and its numbers have
64 bits. -/
structure Notification.Storable (record : Notification) : Prop where
  id : Width.fits64 record.id = true
  repo : ∀ id ∈ record.repo.id, Width.fits64 id = true
  createdAt : ∀ time ∈ record.createdAt, time.WithinYears
  updatedAt : ∀ time ∈ record.updatedAt, time.WithinYears
  lastReadAt : ∀ time ∈ record.lastReadAt, time.WithinYears

theorem Timestamp.stored?_of_withinYears {time : Option Timestamp}
    (within : ∀ given ∈ time, given.WithinYears) :
    Timestamp.stored? time = .ok ((time.bind (·.toUtc?)).map Timestamp.isoText) := by
  cases time with
  | none => rfl
  | some given =>
      obtain ⟨utc, moved⟩ := (within given rfl).exists_toUtc?
      simp [Timestamp.stored?, Timestamp.stored, moved, Functor.map, Except.map]

/-- Moving to the UTC clock keeps the instants that can be stored. -/
theorem Timestamp.map_instant_toUtc? {time : Option Timestamp}
    (within : ∀ given ∈ time, given.WithinYears) :
    (time.bind (·.toUtc?)).map Timestamp.instant = time.map Timestamp.instant := by
  cases time with
  | none => rfl
  | some given =>
      obtain ⟨utc, moved⟩ := (within given rfl).exists_toUtc?
      simp [moved, (Timestamp.instant_of_toUtc? moved).1]

namespace Notification

variable {record : Notification} {now : Timestamp}

/-- The times of a notification lie within the years 1 to 9999. -/
structure Timely (record : Notification) : Prop where
  createdAt : ∀ time ∈ record.createdAt, time.WithinYears
  updatedAt : ∀ time ∈ record.updatedAt, time.WithinYears
  lastReadAt : ∀ time ∈ record.lastReadAt, time.WithinYears

/-- The row of a notification is made if its times can be written. -/
theorem Timely.toRow (timely : record.Timely) (clock : now.WithinYears) :
    record.toRow now = .ok (record.onUtc now).written := by
  obtain ⟨utc, moved⟩ := clock.exists_toUtc?
  rw [Notification.toRow, Timestamp.stored?_of_withinYears timely.createdAt,
    Timestamp.stored?_of_withinYears timely.updatedAt,
    Timestamp.stored?_of_withinYears timely.lastReadAt, Timestamp.stored, moved]
  simp [written, onUtc, moved, bind, Except.bind, pure, Except.pure]

namespace Storable

/-- The row of a notification that can be stored is made. -/
theorem toRow (storable : record.Storable) (clock : now.WithinYears) :
    record.toRow now = .ok (record.onUtc now).written :=
  Timely.toRow ⟨storable.createdAt, storable.updatedAt, storable.lastReadAt⟩ clock

theorem sound (storable : record.Storable) (clock : now.WithinYears) :
    (record.onUtc now).written.Sound :=
  sound_of_toRow (storable.toRow clock) (Row.fits_eq_true.2 ⟨storable.id, storable.repo⟩)

end Storable

end Notification

/-! ## The order of what is read -/

/-- The order of a list of notifications: the later update comes first, and no update
comes last; of the same instant the smaller number comes first. -/
def Notification.ListedBefore (first second : Notification) : Prop :=
  match first.updatedAt, second.updatedAt with
  | some one, some other =>
      other.instant < one.instant ∨ other.instant = one.instant ∧ first.id < second.id
  | some _, none => True
  | none, some _ => False
  | none, none => first.id < second.id

/-- Rows that are ordered by texts hold notifications that are ordered in time. -/
theorem Row.Before.listedBefore {first second : Notification} (utc : first.InUtc)
    (utc' : second.InUtc) (before : first.written.Before second.written) :
    first.ListedBefore second := by
  rw [Row.Before, Row.updated, Row.updated] at before
  simp only [Notification.written] at before
  rw [Notification.ListedBefore]
  cases one : first.updatedAt with
  | none =>
      cases other : second.updatedAt with
      | none => simpa [one, other] using before
      | some time' => simp [one, other] at before
  | some time =>
      cases other : second.updatedAt with
      | none => trivial
      | some time' =>
          simp only [one, other, Option.map_some, WithBot.coe_lt_coe, WithBot.coe_inj] at before
          rwa [Timestamp.isoText_lt_iff (utc'.updatedAt time' other) (utc.updatedAt time one),
            Timestamp.isoText_eq_iff (utc'.updatedAt time' other) (utc.updatedAt time one)]
            at before

/-! ## What a replacement leaves -/

namespace Store

/-- A replacement by notifications that can be stored succeeds. -/
theorem run_replaceAll {now : Timestamp} {records : List Notification}
    (clock : now.WithinYears) (storable : ∀ record ∈ records, record.Storable) (store : Store) :
    ∃ rows text, rows = records.map (fun record => (record.onUtc now).written) ∧
      (replaceAll now records).run (.intact store) =
        (.ok (latest rows).length, .intact (store.replaced (latest rows) text)) := by
  obtain ⟨text, stored⟩ := clock.stored
  obtain ⟨rows, known⟩ : ∃ rows, rows = records.map fun record => (record.onUtc now).written :=
    ⟨_, rfl⟩
  refine ⟨rows, text, known, run_replaceAll_of_rows ?_ (fun row member => ?_) stored store⟩
  · rw [known]
    exact Outcome.mapM_eq_ok fun record member => (storable record member).toRow clock
  · have member := (mem_latest.1 member).mem
    rw [known, List.mem_map] at member
    obtain ⟨record, present, rfl⟩ := member
    exact ((storable record present).sound clock).fits

theorem nodup_ids_latest (rows : List Row) : ((latest rows).map Row.id).Nodup := by
  rw [latest, Keyed.map_key_values_ofList]
  exact Keyed.nodup_ofList _

/-- A table made of the last rows of their numbers has these rows and no others. -/
theorem perm_rows_ofRows_latest (rows : List Row) :
    (Table.ofRows (latest rows)).rows.Perm (latest rows) := by
  rw [List.perm_ext_iff_of_nodup (Table.nodup_ids _).of_map (nodup_ids_latest rows).of_map]
  intro row
  rw [mem_ofRows_latest, mem_latest]

/-- The order of texts in the store is the order in time of what is shown. -/
theorem pairwise_listedBefore_shown {store : Store} (sound : store.notifications.Sound)
    (view : View) : (store.shown view).Pairwise Notification.ListedBefore := by
  rw [shown, List.pairwise_map]
  refine (store.notifications.pairwise_view view).imp_of_mem
    fun {first second} here there before => ?_
  obtain ⟨one, utc, rfl⟩ := (sound.of_mem_view here).written
  obtain ⟨other, utc', rfl⟩ := (sound.of_mem_view there).written
  rw [Row.read_written utc, Row.read_written utc']
  exact before.listedBefore utc utc'

section Shown

variable {now : Timestamp} {records : List Notification}

/-- The rows of notifications that replace every row are those of the last ones of
their numbers. -/
theorem mem_ofRows_latest_written {row : Row} :
    row ∈ (Table.ofRows
        (latest (records.map fun record => (record.onUtc now).written))).rows ↔
      ∃ record, Keyed.IsLast Notification.id records record ∧
        row = (record.onUtc now).written := by
  rw [mem_ofRows_latest, Keyed.isLast_map]
  rfl

theorem sound_ofRows_latest_written (clock : now.WithinYears)
    (storable : ∀ record ∈ records, record.Storable) :
    (Table.ofRows
      (latest (records.map fun record => (record.onUtc now).written))).Sound := by
  intro row member
  obtain ⟨record, last, rfl⟩ := mem_ofRows_latest_written.1 member
  exact (storable record last.mem).sound clock

/-- What is shown of these rows are the notifications themselves. -/
theorem mem_map_read_latest_written {result : Notification} :
    result ∈ (Table.ofRows
        (latest (records.map fun record => (record.onUtc now).written))).rows.map Row.read ↔
      ∃ record, Keyed.IsLast Notification.id records record ∧ result = record.onUtc now := by
  rw [List.mem_map]
  constructor
  · rintro ⟨row, present, rfl⟩
    obtain ⟨record, last, rfl⟩ := mem_ofRows_latest_written.1 present
    exact ⟨record, last, Row.read_written (Notification.inUtc_onUtc record now)⟩
  · rintro ⟨record, last, rfl⟩
    exact ⟨_, mem_ofRows_latest_written.2 ⟨record, last, rfl⟩,
      Row.read_written (Notification.inUtc_onUtc record now)⟩

/-- The last notifications of their numbers have every number that was given. -/
theorem mem_map_id_of_last {loaded : List Notification}
    (members : ∀ result, result ∈ loaded ↔
      ∃ record, Keyed.IsLast Notification.id records record ∧ result = record.onUtc now)
    (id : Int) : id ∈ loaded.map Notification.id ↔ id ∈ records.map Notification.id := by
  rw [List.mem_map, List.mem_map]
  constructor
  · rintro ⟨result, member, rfl⟩
    obtain ⟨record, last, rfl⟩ := (members result).1 member
    exact ⟨record, last.mem, rfl⟩
  · rintro ⟨record, member, rfl⟩
    obtain ⟨last, latest, same⟩ : ∃ last, Keyed.IsLast Notification.id records last ∧
        last.id = record.id := Keyed.exists_isLast member
    exact ⟨last.onUtc now, (members _).2 ⟨last, latest, rfl⟩, same⟩

end Shown

/-- No number is shown twice. -/
theorem nodup_ids_shown_all {store : Store} (sound : store.notifications.Sound) :
    ((store.shown .all).map Notification.id).Nodup := by
  rw [((shown_all_perm store).map Notification.id).nodup_iff, List.map_map]
  have ids : store.notifications.rows.map (Notification.id ∘ Row.read) =
      store.notifications.rows.map Row.id :=
    List.map_congr_left fun row member => (sound row member).id_read
  rw [ids]
  exact Table.nodup_ids _

/-- Replacing every notification succeeds if all can be stored.  Then reading all of
them gives one for each number, which is the last one given on the UTC clock, its
times at the same instants; they are listed by the instant of the last update, the
latest one first, and by number where that is the same or missing.  The answer is
how many they are. -/
theorem replaceAll_shows_last_copies (store : Store) {now : Timestamp}
    {records : List Notification} (clock : now.WithinYears)
    (storable : ∀ record ∈ records, record.Storable) :
    ∃ after loaded,
      (replaceAll now records).run (.intact store) = (.ok loaded.length, .intact after) ∧
      (loadNamed "all").run (.intact after) = (.ok loaded, .intact after) ∧
      (loaded.map Notification.id).Nodup ∧
      (∀ id, id ∈ loaded.map Notification.id ↔ id ∈ records.map Notification.id) ∧
      (∀ result, result ∈ loaded ↔
        ∃ record, Keyed.IsLast Notification.id records record ∧ result = record.onUtc now) ∧
      (∀ record ∈ records,
        (record.onUtc now).createdAt.map Timestamp.instant =
            record.createdAt.map Timestamp.instant ∧
          (record.onUtc now).updatedAt.map Timestamp.instant =
            record.updatedAt.map Timestamp.instant ∧
          (record.onUtc now).lastReadAt.map Timestamp.instant =
            record.lastReadAt.map Timestamp.instant) ∧
      loaded.Pairwise Notification.ListedBefore := by
  obtain ⟨_, text, rfl, replaced⟩ := run_replaceAll clock storable store
  have sound := sound_ofRows_latest_written clock storable
  generalize known : latest (records.map fun record => (record.onUtc now).written) = rows
    at replaced sound
  have members (result : Notification) : result ∈ (store.replaced rows text).shown .all ↔
      ∃ record, Keyed.IsLast Notification.id records record ∧ result = record.onUtc now := by
    rw [(shown_all_perm _).mem_iff, ← mem_map_read_latest_written, known]
    rfl
  have many : ((store.replaced rows text).shown .all).length = rows.length := by
    rw [(shown_all_perm _).length_eq, List.length_map, ← known]
    exact (perm_rows_ofRows_latest _).length_eq
  refine ⟨store.replaced rows text, (store.replaced rows text).shown .all,
    many ▸ replaced, run_load_of_rows sound .all, nodup_ids_shown_all sound,
    mem_map_id_of_last members, members, fun record member => ?_,
    pairwise_listedBefore_shown sound .all⟩
  have within := storable record member
  exact ⟨Timestamp.map_instant_toUtc? within.createdAt,
    Timestamp.map_instant_toUtc? within.updatedAt,
    Timestamp.map_instant_toUtc? within.lastReadAt⟩

/-- Two pages that overlap: the second copy of 7 was updated half a second before 3,
which its own clock does not show. -/
def overlappingPages : List Notification :=
  [{ id := 7, updatedAt := some ⟨63849772800000000, none, by decide⟩ },
    { id := 3, updatedAt := some ⟨63849776400500000, none, by decide⟩ },
    { id := 7, updatedAt := some ⟨63849780000000000, some 3600000000, by decide⟩ },
    { id := 5 }]

/-- The clock when the pages are stored. -/
def pagesClock : Timestamp := ⟨63849790000000000, some 0, by decide⟩

theorem last_copies_of_overlapping_pages :
    pagesClock.WithinYears ∧ (∀ record ∈ overlappingPages, record.Storable) ∧
      ∃ after loaded,
        (replaceAll pagesClock overlappingPages).run (.intact {}) =
            (.ok loaded.length, .intact after) ∧
          (loadNamed "all").run (.intact after) = (.ok loaded, .intact after) ∧
          (loaded.map Notification.id).Nodup ∧
          loaded.Pairwise Notification.ListedBefore := by
  have clock : pagesClock.WithinYears := ⟨by decide, by decide⟩
  have storable : ∀ record ∈ overlappingPages, record.Storable := by
    intro record member
    simp only [overlappingPages, List.mem_cons, List.not_mem_nil, or_false] at member
    rcases member with rfl | rfl | rfl | rfl
    all_goals
      refine ⟨by decide, ?_, ?_, ?_, ?_⟩
      all_goals rintro given ⟨⟩
      all_goals exact ⟨by decide, by decide⟩
  obtain ⟨after, loaded, replaced, read, distinct, _, _, _, ordered⟩ :=
    replaceAll_shows_last_copies {} clock storable
  exact ⟨clock, storable, after, loaded, replaced, read, distinct, ordered⟩

end Store

end Triage
