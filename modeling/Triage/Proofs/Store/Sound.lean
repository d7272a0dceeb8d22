import Mathlib.Data.List.Nodup
import Triage.Proofs.Notification.Stored
import Triage.Store.Access

/-!
# Sound stores

A store is sound if it holds only what its operations write: rows of notifications
on the UTC clock whose integers fit, and times of synchronisations as they are
written.  Every row of a sound store can be read.
-/

namespace Triage

/-! ## Rows -/

/-- The notification that a row holds; of a row that cannot be read only the
number. -/
def Row.read (row : Row) : Notification :=
  match Notification.ofRow row with
  | .ok record => record
  | .error _ => { id := row.id }

/-- The row of a notification on the UTC clock, with integers of 64 bits. -/
structure Row.Sound (row : Row) : Prop where
  fits : row.fits = true
  written : ∃ record : Notification, record.InUtc ∧ row = record.written

namespace Row

@[simp] theorem read_written {record : Notification} (utc : record.InUtc) :
    record.written.read = record := by
  simp [read, Notification.ofRow_written utc]

/-- The integers of a row are its number and that of its repository. -/
theorem fits_eq_true {row : Row} :
    row.fits = true ↔
      Width.fits64 row.id = true ∧ ∀ id ∈ row.repo.id, Width.fits64 id = true := by
  rw [fits, Bool.and_eq_true]
  cases row.repo.id <;> simp

theorem Sound.ofRow_eq {row : Row} (sound : row.Sound) :
    Notification.ofRow row = .ok row.read := by
  obtain ⟨record, utc, rfl⟩ := sound.written
  rw [read_written utc, Notification.ofRow_written utc]

theorem Sound.fits_id {row : Row} (sound : row.Sound) : Width.fits64 row.id = true :=
  (fits_eq_true.1 sound.fits).1

theorem Sound.id_read {row : Row} (sound : row.Sound) : row.read.id = row.id := by
  obtain ⟨record, utc, rfl⟩ := sound.written
  rw [read_written utc]
  rfl

theorem Sound.flags_read {row : Row} (sound : row.Sound) : row.read.flags = row.flags := by
  obtain ⟨record, utc, rfl⟩ := sound.written
  rw [read_written utc]
  rfl

/-- Setting flags in a row sets them in the notification that it holds. -/
theorem Sound.patchRow {row : Row} (sound : row.Sound) (changes : List (Flag × Bool))
    {utc : Timestamp} (onUtc : utc.offset = some 0) :
    (Table.patchRow changes utc.isoText row).Sound ∧
      (Table.patchRow changes utc.isoText row).read =
        { row.read with flags := row.flags.assign changes, fetchedAt := some utc } := by
  obtain ⟨fits, record, inUtc, rfl⟩ := sound
  have patched : ({ record with
      flags := record.flags.assign changes
      fetchedAt := some utc } : Notification).InUtc :=
    ⟨inUtc.createdAt, inUtc.updatedAt, inUtc.lastReadAt, by simpa [Timestamp.InUtc?] using onUtc⟩
  refine ⟨⟨fits, _, patched, rfl⟩, ?_⟩
  rw [read_written inUtc]
  exact read_written patched

end Row

/-- A row made from a notification is sound if its integers fit. -/
theorem Notification.sound_of_toRow {record : Notification} {now : Timestamp} {row : Row}
    (made : record.toRow now = .ok row) (fits : row.fits = true) : row.Sound :=
  ⟨fits, record.onUtc now, inUtc_onUtc record now, toRow_eq_ok made⟩

/-! ## Tables -/

namespace Table

theorem nodup_ids (table : Table) : (table.rows.map Row.id).Nodup :=
  List.pairwise_map.2 (table.ascending.imp fun before => Int.ne_of_lt before)

theorem eq_of_id_eq {table : Table} {first second : Row} (one : first ∈ table.rows)
    (two : second ∈ table.rows) (same : first.id = second.id) : first = second :=
  List.inj_on_of_nodup_map table.nodup_ids one two same

/-- Every row is sound. -/
def Sound (table : Table) : Prop :=
  ∀ row ∈ table.rows, row.Sound

theorem Sound.patch {table : Table} (sound : table.Sound) (id : Int)
    (changes : List (Flag × Bool)) {utc : Timestamp} (onUtc : utc.offset = some 0) :
    (table.patch id changes utc.isoText).Sound := by
  intro row member
  obtain ⟨old, present, rfl⟩ := List.mem_map.1 member
  split
  · exact ((sound old present).patchRow changes onUtc).1
  · exact sound old present

theorem Sound.of_mem_view {table : Table} (sound : table.Sound) {view : View} {row : Row}
    (member : row ∈ table.view view) : row.Sound := by
  rw [Table.view, List.mem_mergeSort, List.mem_filter] at member
  exact sound row member.1

theorem Sound.mapM_ofRow {table : Table} (sound : table.Sound) (view : View) :
    (table.view view).mapM Notification.ofRow = .ok ((table.view view).map Row.read) :=
  Outcome.mapM_eq_ok fun _ member => (sound.of_mem_view member).ofRow_eq

end Table

/-! ## Stores -/

/-- The text of a time on the UTC clock, if there is one. -/
def SyncRecord.Sound (record : SyncRecord) : Prop :=
  ∃ lastSync, Timestamp.InUtc? lastSync ∧ record.lastSync = lastSync.map Timestamp.isoText

/-- Every row and the time of every synchronisation is as the store writes it. -/
structure Store.Sound (store : Store) : Prop where
  notifications : store.notifications.Sound
  syncs : ∀ resource record, store.syncs.lookup resource = some record → record.Sound

end Triage
