import Triage.Proofs.Keyed
import Triage.Proofs.Store.Sound
import Triage.Store.File

/-!
# Runs of the store's operations

What each operation does to an intact file: the reading ones give what the store
holds and leave it alone, the writing ones either change it in full or not at
all.
-/

namespace Triage

/-! ## Transactions -/

namespace Transaction

variable {α : Type} {work : Transaction α} {store changed : Store} {value : α}

theorem run_commit_ok (done : work.run store = (.ok value, changed)) :
    (commit work).run (.intact store) = (.ok value, .intact changed) := by
  simp only [commit, Work.run_mk, done]

/-- What was kept of a transaction that succeeded. -/
theorem commit_eq_ok {file : StoreFile}
    (done : (commit work).run (.intact store) = (.ok value, file)) :
    ∃ changed, work.run store = (.ok value, changed) ∧ file = .intact changed := by
  simp only [commit, Work.run_mk] at done
  split at done
  · next changed result =>
      cases done
      exact ⟨changed, result, rfl⟩
  · cases done

@[simp] theorem run_requireFits (fits : Bool) (store : Store) :
    (requireFits fits).run store =
      (if fits then .ok () else .error (.overflow .storedInteger), store) := by
  cases fits <;> rfl

/-- Rows are written exactly if the integers of all of them fit. -/
theorem run_writeAll_eq_ok {rows : List Row} {store after : Store} :
    (writeAll rows).run store = (.ok (), after) ↔
      (∀ row ∈ rows, row.fits = true) ∧
        after = { store with notifications := rows.foldl Table.put store.notifications } := by
  induction rows generalizing store with
  | nil =>
      constructor
      · intro done
        cases done
        exact ⟨by simp, rfl⟩
      · rintro ⟨_, rfl⟩
        rfl
  | cons row rest ih =>
      cases fits : row.fits with
      | false =>
          constructor
          · intro done
            simp only [writeAll, write, Work.run_bind, run_requireFits, fits] at done
            cases done
          · rintro ⟨every, _⟩
            simp [fits] at every
      | true => simp [writeAll, write, Work.run_bind, fits, ih]

/-- A synchronisation is recorded exactly if its time can be written. -/
theorem recordSync_eq_ok {resource : String} {time : Timestamp} {error : Option String}
    {store after : Store} (done : (recordSync resource time error).run store = (.ok (), after)) :
    ∃ text, time.stored = .ok text ∧
      after = { store with syncs := Keyed.put store.syncs resource ⟨some text, error⟩ } := by
  obtain ⟨text, between, first, done⟩ := Work.bind_eq_ok done
  obtain ⟨stored, rfl⟩ := Prod.mk.inj first
  cases done
  exact ⟨text, stored, rfl⟩

end Transaction

/-! ## Reading -/

namespace Store

@[simp] theorem run_table (store : Store) :
    table.run (.intact store) = (.ok store.notifications, .intact store) := rfl

@[simp] theorem run_counts (store : Store) :
    counts.run (.intact store) = (.ok store.notifications.counts, .intact store) := rfl

@[simp] theorem run_totals (store : Store) :
    totals.run (.intact store) = (.ok store.notifications.totals, .intact store) := rfl

/-- The notifications of a view, which a sound store can always give. -/
def shown (store : Store) (view : View) : List Notification :=
  (store.notifications.view view).map Row.read

/-- Loading a view only needs rows that can be read. -/
theorem run_load_of_rows {store : Store} (sound : store.notifications.Sound) (view : View) :
    (load view).run (.intact store) = (.ok (store.shown view), .intact store) := by
  rw [load, Work.run_bind_ok (run_table store), Work.run_mapM_lift, sound.mapM_ofRow view]
  rfl

theorem Sound.run_load {store : Store} (sound : store.Sound) (view : View) :
    (load view).run (.intact store) = (.ok (store.shown view), .intact store) :=
  run_load_of_rows sound.notifications view

theorem Sound.run_loadNamed {store : Store} (sound : store.Sound) (view : View) :
    (loadNamed view.name).run (.intact store) = (.ok (store.shown view), .intact store) := by
  simp only [loadNamed, View.ofName?_name]
  exact sound.run_load view

/-- What is shown is held by rows. -/
theorem exists_row_of_mem_shown {store : Store} {view : View} {record : Notification}
    (member : record ∈ store.shown view) : ∃ row ∈ store.notifications.rows, record = row.read := by
  obtain ⟨row, inView, rfl⟩ := List.mem_map.1 member
  rw [Table.view, List.mem_mergeSort, List.mem_filter] at inView
  exact ⟨row, inView.1, rfl⟩

/-- The notifications of a sound store have numbers that fit. -/
theorem Sound.fits_of_mem_shown {store : Store} (sound : store.Sound) {view : View}
    {record : Notification} (member : record ∈ store.shown view) :
    Width.fits64 record.id = true := by
  obtain ⟨row, present, rfl⟩ := exists_row_of_mem_shown member
  rw [(sound.notifications row present).id_read]
  exact (sound.notifications row present).fits_id

theorem Sound.map_id_shown {store : Store} (sound : store.Sound) (view : View) :
    (store.shown view).map Notification.id = (store.notifications.view view).map Row.id := by
  rw [Store.shown, List.map_map]
  apply List.map_congr_left
  intro row member
  exact (sound.notifications.of_mem_view member).id_read

/-- A view shows the numbers of the rows whose flags belong to it. -/
theorem Sound.mem_map_id_shown {store : Store} (sound : store.Sound) (view : View) {row : Row}
    (present : row ∈ store.notifications.rows) :
    row.id ∈ (store.shown view).map Notification.id ↔ view.holds row.flags = true := by
  simp only [sound.map_id_shown, Table.view, List.mem_map, List.mem_mergeSort, List.mem_filter]
  constructor
  · rintro ⟨other, ⟨there, holds⟩, same⟩
    rwa [← Table.eq_of_id_eq there present same]
  · intro holds
    exact ⟨row, ⟨present, holds⟩, rfl⟩

theorem Sound.nodup_shown {store : Store} (sound : store.Sound) (view : View) :
    ((store.shown view).map Notification.id).Nodup := by
  have sorted := List.mergeSort_perm
    (store.notifications.rows.filter fun row => view.holds row.flags) Row.comesFirst
  have kept : (store.notifications.rows.filter fun row => view.holds row.flags).Sublist
      store.notifications.rows := List.filter_sublist
  rw [sound.map_id_shown, Table.view, (sorted.map Row.id).nodup_iff]
  exact store.notifications.nodup_ids.sublist (kept.map Row.id)

/-- The status of a resource is what is recorded of it, its time read back from the text
of UTC. -/
theorem Sound.run_syncStatus {store : Store} (sound : store.Sound) (resource : String) :
    ∃ status, (syncStatus resource).run (.intact store) = (.ok status, .intact store) ∧
      Timestamp.InUtc? (status.bind (·.lastSync)) ∧
      (store.syncs.lookup resource).bind (·.lastSync) =
        (status.bind (·.lastSync)).map Timestamp.isoText ∧
      (store.syncs.lookup resource).bind (·.error) = status.bind (·.error) := by
  have looked : (Transaction.commit do return (← MonadState.get).syncs.lookup resource :
      StoreAccess (Option SyncRecord)).run (.intact store) =
        (.ok (store.syncs.lookup resource), .intact store) := rfl
  rw [syncStatus, Work.run_bind_ok looked]
  cases known : store.syncs.lookup resource with
  | none => exact ⟨none, rfl, Timestamp.inUtc?_none, rfl, rfl⟩
  | some found =>
      obtain ⟨lastSync, utc, written⟩ := sound.syncs resource found known
      have readable : SyncStatus.ofJson (.obj [("resource", .str resource),
          ("last_sync", .ofText? found.lastSync), ("error", .ofText? found.error)]) =
            .ok ⟨resource, lastSync, found.error⟩ := by
        rw [written]
        simp [SyncStatus.ofJson, SyncStatus.check, Schema.object, Schema.required,
          Schema.optional, Schema.withDefault, Json.Fields.get?, List.lookup_cons, Schema.text,
          Notification.nullable_time_isoText utc, Schema.Checked.toExcept]
      refine ⟨some ⟨resource, lastSync, found.error⟩, ?_, utc, written, rfl⟩
      simp only [readable]
      rfl

/-- The time of the last synchronisation is that of the status. -/
theorem run_lastSyncTime {store : Store} {resource : String} {status : Option SyncStatus}
    (read : (syncStatus resource).run (.intact store) = (.ok status, .intact store)) :
    (lastSyncTime resource).run (.intact store) =
      (.ok (status.bind (·.lastSync)), .intact store) := by
  rw [lastSyncTime, Work.run_bind_ok read]
  rfl

/-- With an aware clock a resource is stale if it was never synchronised or more than the
lifetime ago. -/
theorem run_isStale_of_lastSync {store : Store} {resource : String} {last : Option Timestamp}
    (read : (lastSyncTime resource).run (.intact store) = (.ok last, .intact store))
    {now : Timestamp} (aware : now.offset.isNone = false) (lifetime : Duration) :
    (isStale now resource lifetime).run (.intact store) =
      (.ok (last.all fun time => decide (lifetime.micros < now.instant - time.instant)),
        .intact store) := by
  rw [isStale, Work.run_bind_ok read]
  cases last with
  | none => rfl
  | some time =>
      simp only [aware]
      rfl

/-- With a usable clock a sound store tells whether a resource is stale. -/
theorem Sound.run_isStale {store : Store} (sound : store.Sound) {now : Timestamp}
    (aware : now.offset.isNone = false) (resource : String) (lifetime : Duration) :
    ∃ stale, (isStale now resource lifetime).run (.intact store) =
      (.ok stale, .intact store) := by
  obtain ⟨status, read, _⟩ := sound.run_syncStatus resource
  exact ⟨_, run_isStale_of_lastSync (run_lastSyncTime read) aware lifetime⟩

/-! ## Writing -/

/-- The last rows of their numbers. -/
def latest (rows : List Row) : List Row :=
  (Keyed.ofList (rows.map fun row => (row.id, row))).map Prod.snd

theorem mem_latest {rows : List Row} {row : Row} :
    row ∈ latest rows ↔ Keyed.IsLast Row.id rows row :=
  Keyed.mem_values_ofList

theorem nodup_latest (rows : List Row) : ((latest rows).map Row.id).Nodup := by
  rw [latest, Keyed.map_key_values_ofList]
  exact Keyed.nodup_ofList _

/-- What replacing every row of a store leaves, for rows of which the last one of
a number counts. -/
def replaced (store : Store) (rows : List Row) (text : String) : Store where
  notifications := .ofRows rows
  syncs := Keyed.put store.syncs notificationsResource ⟨some text, none⟩

/-- A replacement that succeeds leaves the rows of the given notifications and
nothing else, and records a synchronisation. -/
theorem replaceAll_eq_ok {now : Timestamp} {records : List Notification} {store : Store}
    {file : StoreFile} {count : Nat}
    (done : (replaceAll now records).run (.intact store) = (.ok count, file)) :
    ∃ rows text, records.mapM (fun record => record.toRow now) = .ok rows ∧
      (∀ row ∈ latest rows, row.fits = true) ∧ now.stored = .ok text ∧
      count = (latest rows).length ∧ file = .intact (store.replaced (latest rows) text) := by
  obtain ⟨rows, between, first, done⟩ := Work.bind_eq_ok done
  rw [Work.run_mapM_lift] at first
  obtain ⟨made, rfl⟩ := Prod.mk.inj first
  obtain ⟨_, kept, committed, done⟩ := Work.bind_eq_ok done
  obtain ⟨changed, written, rfl⟩ := Transaction.commit_eq_ok committed
  obtain ⟨_, cleared, deleted, written⟩ := Work.bind_eq_ok written
  cases deleted
  obtain ⟨_, filled, inserted, written⟩ := Work.bind_eq_ok written
  obtain ⟨fits, rfl⟩ := Transaction.run_writeAll_eq_ok.1 inserted
  obtain ⟨text, stored, rfl⟩ := Transaction.recordSync_eq_ok written
  cases done
  exact ⟨rows, text, made, fits, stored, rfl, rfl⟩

/-- A replacement succeeds if the rows can be made and the last ones of their numbers
fit. -/
theorem run_replaceAll_of_rows {now : Timestamp} {records : List Notification}
    {rows : List Row} {text : String}
    (made : records.mapM (fun record => record.toRow now) = .ok rows)
    (fits : ∀ row ∈ latest rows, row.fits = true) (stored : now.stored = .ok text)
    (store : Store) :
    (replaceAll now records).run (.intact store) =
      (.ok (latest rows).length, .intact (store.replaced (latest rows) text)) := by
  have gathered : (records.mapM fun record =>
      (liftM (record.toRow now) : StoreAccess Row)).run (.intact store) =
        (.ok rows, .intact store) := by
    rw [Work.run_mapM_lift, made]
  have deleted : Transaction.deleteAll.run store =
      (.ok (), { store with notifications := .empty }) := rfl
  have written : (Transaction.writeAll (latest rows)).run
      { store with notifications := .empty } =
        (.ok (), { store with notifications := .ofRows (latest rows) }) :=
    Transaction.run_writeAll_eq_ok.2 ⟨fits, rfl⟩
  have committed : (Transaction.commit do
      Transaction.deleteAll
      Transaction.writeAll (latest rows)
      Transaction.recordSync notificationsResource now none).run (.intact store) =
        (.ok (), .intact (store.replaced (latest rows) text)) := by
    apply Transaction.run_commit_ok
    rw [Work.run_bind_ok deleted, Work.run_bind_ok written, Transaction.recordSync, stored]
    rfl
  rw [replaceAll, Work.run_bind_ok gathered]
  exact Work.run_bind_ok committed

/-- A replacement that fails leaves the file as it was. -/
theorem replaceAll_run_error {now : Timestamp} {records : List Notification}
    {file after : StoreFile} {error : Error}
    (failed : (replaceAll now records).run file = (.error error, after)) : after = file := by
  rcases Work.bind_eq_error failed with failed | ⟨rows, between, made, failed⟩
  · rw [Work.run_mapM_lift] at failed
    exact (Prod.mk.inj failed).2.symm
  · rw [Work.run_mapM_lift] at made
    obtain ⟨_, rfl⟩ := Prod.mk.inj made
    rcases Work.bind_eq_error failed with failed | ⟨_, _, _, failed⟩
    · exact Transaction.commit_run_error failed
    · cases failed

/-- Writing rows one after the other leaves the last one of each number. -/
theorem mem_rows_foldl_put {rows : List Row} {table : Table} {row : Row} :
    row ∈ (rows.foldl Table.put table).rows ↔
      Keyed.IsLast Row.id rows row ∨ (row ∈ table.rows ∧ ∀ other ∈ rows, other.id ≠ row.id) := by
  induction rows using List.reverseRecOn with
  | nil => simp
  | append_singleton rows next ih =>
      rw [List.foldl_append, List.foldl_cons, List.foldl_nil, Table.rows_put,
        Table.mem_putRow (rows.foldl Table.put table).ascending, ih,
        Keyed.isLast_append_singleton]
      constructor
      · rintro (same | ⟨last | ⟨member, apart⟩, differs⟩)
        · exact .inl (.inl same)
        · exact .inl (.inr ⟨last, differs⟩)
        · refine .inr ⟨member, fun other present => ?_⟩
          rcases List.mem_append.1 present with old | new
          · exact apart other old
          · rw [List.mem_singleton.1 new]
            exact differs.symm
      · rintro ((same | ⟨last, differs⟩) | ⟨member, apart⟩)
        · exact .inl same
        · exact .inr ⟨.inl last, differs⟩
        · exact .inr ⟨.inr ⟨member, fun other old => apart other (by simp [old])⟩,
            (apart next (by simp)).symm⟩

/-- The rows of a table made of the last rows of their numbers are these rows. -/
theorem mem_ofRows_latest {rows : List Row} {row : Row} :
    row ∈ (Table.ofRows (latest rows)).rows ↔ Keyed.IsLast Row.id rows row := by
  rw [Table.ofRows, mem_rows_foldl_put, Keyed.isLast_iff_mem (nodup_latest rows), mem_latest]
  simp

/-- A table made of the last rows of their numbers has as many. -/
theorem length_ofRows_latest (rows : List Row) :
    (Table.ofRows (latest rows)).rows.length = (latest rows).length := by
  have same : (Table.ofRows (latest rows)).rows.Perm (latest rows) :=
    (List.perm_ext_iff_of_nodup (Table.nodup_ids _).of_map (nodup_latest rows).of_map).2
      fun _ => mem_ofRows_latest.trans mem_latest.symm
  exact same.length_eq

/-- Setting the record of a resource keeps those of the others. -/
theorem lookup_put_syncs (store : Store) (resource other : String) (record : SyncRecord)
    (differs : other ≠ resource) :
    (Keyed.put store.syncs resource record).lookup other = store.syncs.lookup other := by
  simp [Keyed.lookup_put, differs]

theorem Sound.putSync {store : Store} (sound : store.Sound) (resource : String)
    {record : SyncRecord} (written : record.Sound) {table : Table} (rows : table.Sound) :
    Store.Sound ⟨table, Keyed.put store.syncs resource record⟩ where
  notifications := rows
  syncs := by
    intro other found known
    rw [Keyed.lookup_put] at known
    split at known
    · cases known
      exact written
    · exact sound.syncs other found known

/-- A store that holds the rows of some notifications is sound. -/
theorem sound_ofRows {records : List Notification} (utc : ∀ record ∈ records, record.InUtc)
    (fits : ∀ record ∈ records, record.written.fits = true) :
    Store.Sound { notifications := .ofRows (records.map Notification.written) } where
  notifications := by
    intro row member
    rcases mem_rows_foldl_put.1 member with last | ⟨old, _⟩
    · obtain ⟨record, present, rfl⟩ := List.mem_map.1 last.mem
      exact ⟨fits record present, record, utc record present, rfl⟩
    · exact absurd old List.not_mem_nil
  syncs := fun _ _ known => by cases known

theorem Sound.replaceAll {store : Store} (sound : store.Sound) {now : Timestamp}
    {records : List Notification} {file : StoreFile} {count : Nat}
    (done : (Store.replaceAll now records).run (.intact store) = (.ok count, file)) :
    ∃ after, file = .intact after ∧ after.Sound := by
  obtain ⟨rows, text, made, fits, stored, _, rfl⟩ := replaceAll_eq_ok done
  obtain ⟨utc, moved, rfl⟩ := Timestamp.stored_eq_ok stored
  obtain ⟨each, rfl⟩ := (Outcome.mapM_eq_ok_iff fun _ _ => Notification.toRow_eq_ok).1 made
  refine ⟨_, rfl, sound.putSync _ ⟨some utc, ?_, rfl⟩ fun row member => ?_⟩
  · simpa [moved] using Timestamp.inUtc?_toUtc? now
  · have last := mem_ofRows_latest.1 member
    obtain ⟨record, present, rfl⟩ := List.mem_map.1 last.mem
    exact Notification.sound_of_toRow (each record present) (fits _ (mem_latest.2 last))

/-- What recording a failure leaves of a store: the time of the last
synchronisation stays. -/
def marked (store : Store) (resource : String) (error : Option String) : Store :=
  { store with
    syncs := Keyed.put store.syncs resource
      ⟨(store.syncs.lookup resource).bind (·.lastSync), error⟩ }

theorem run_markSyncError (store : Store) (resource : String) (error : Option String) :
    (markSyncError resource error).run (.intact store) =
      (.ok (), .intact (store.marked resource error)) := rfl

theorem Sound.marked {store : Store} (sound : store.Sound) (resource : String)
    (error : Option String) : (store.marked resource error).Sound := by
  refine sound.putSync resource ?_ sound.notifications
  cases known : store.syncs.lookup resource with
  | none => exact ⟨none, Timestamp.inUtc?_none, rfl⟩
  | some found => exact sound.syncs resource found known

/-- Flags are set in the row of a number that fits. -/
theorem run_patch {now : Timestamp} {text : String} (stored : now.stored = .ok text) {id : Int}
    (fits : Width.fits64 id = true) {changes : List (Flag × Bool)} (given : changes ≠ [])
    (store : Store) :
    (patch now id changes).run (.intact store) =
      (.ok (store.notifications.has id),
        .intact { store with notifications := store.notifications.patch id changes text }) := by
  have first : (liftM now.stored : StoreAccess String).run (.intact store) =
      (.ok text, .intact store) := by rw [stored]; rfl
  have second : (Transaction.patch id changes text).run store =
      (.ok (store.notifications.has id),
        { store with notifications := store.notifications.patch id changes text }) := by
    simp only [Transaction.patch, fits]
    rfl
  rw [patch, if_neg (by simpa using given), Work.run_bind_ok first]
  exact Transaction.run_commit_ok second

end Store

end Triage
