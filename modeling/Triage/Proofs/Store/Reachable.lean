import Triage.Proofs.Store.Runs

/-!
# What writes leave behind

Whatever is written to a new store, the file stays intact and its store sound; a
write that fails leaves the file as it was.
-/

namespace Triage

/-- Looking up which numbers have a row changes nothing. -/
theorem Transaction.findAll_eq_ok {ids found : List Int} {store after : Store}
    (done : (findAll ids).run store = (.ok found, after)) :
    found = ids.filter store.notifications.has ∧ after = store := by
  obtain ⟨_, between, required, done⟩ := Work.bind_eq_ok done
  rw [run_requireFits] at required
  cases (Prod.mk.inj required).2
  cases done
  exact ⟨rfl, rfl⟩

/-- Numbers that fit can be looked up. -/
theorem Transaction.run_findAll {ids : List Int} (store : Store)
    (fits : ∀ id ∈ ids, Width.fits64 id = true) :
    (findAll ids).run store = (.ok (ids.filter store.notifications.has), store) := by
  have every : ids.all Width.fits64 = true := List.all_eq_true.2 fits
  rw [findAll, every]
  rfl

namespace Store

variable {store : Store} {now : Timestamp} {file after : StoreFile} {error : Error}

/-- The store is sound after work that leaves it so when it succeeds and leaves the
file as it was when it fails. -/
theorem Sound.after_work {α : Type} (sound : store.Sound) {work : StoreAccess α}
    (done : ∀ {answer file}, work.run (.intact store) = (.ok answer, file) →
      ∃ after, file = .intact after ∧ after.Sound)
    (failed : ∀ {error file}, work.run (.intact store) = (.error error, file) →
      file = .intact store) :
    ∃ after, (work.run (.intact store)).2 = .intact after ∧ after.Sound := by
  rcases ran : work.run (.intact store) with ⟨outcome, file⟩
  cases outcome with
  | ok answer => exact done ran
  | error error => exact ⟨store, failed ran, sound⟩

/-! ## Adding and replacing -/

/-- What adding and replacing rows leaves of a store. -/
def upserted (store : Store) (rows : List Row) (text : String) : Store where
  notifications := rows.foldl Table.put store.notifications
  syncs := Keyed.put store.syncs notificationsResource ⟨some text, none⟩

/-- Adding notifications writes their rows and records a synchronisation, unless
there are none. -/
theorem upsert_eq_ok {records : List Notification} {answer : Nat × Nat}
    (done : (upsert now records).run (.intact store) = (.ok answer, file)) :
    ∃ rows, records.mapM (fun record => record.toRow now) = .ok rows ∧
      ((rows = [] ∧ answer = (0, 0) ∧ file = .intact store) ∨
        ∃ text known, (∀ row ∈ rows, row.fits = true) ∧ now.stored = .ok text ∧
          known = (rows.map Row.id).eraseDups.filter store.notifications.has ∧
          answer = ((rows.map Row.id).eraseDups.length - known.length, known.length) ∧
          file = .intact (store.upserted rows text)) := by
  obtain ⟨rows, between, first, done⟩ := Work.bind_eq_ok done
  rw [Work.run_mapM_lift] at first
  obtain ⟨made, rfl⟩ := Prod.mk.inj first
  refine ⟨rows, made, ?_⟩
  split at done
  · next empty =>
      cases done
      exact .inl ⟨by simpa using empty, rfl, rfl⟩
  · obtain ⟨known, kept, committed, done⟩ := Work.bind_eq_ok done
    cases done
    obtain ⟨changed, written, rfl⟩ := Transaction.commit_eq_ok committed
    obtain ⟨found, between, looked, written⟩ := Work.bind_eq_ok written
    obtain ⟨rfl, rfl⟩ := Transaction.findAll_eq_ok looked
    obtain ⟨_, filled, inserted, written⟩ := Work.bind_eq_ok written
    obtain ⟨fits, rfl⟩ := Transaction.run_writeAll_eq_ok.1 inserted
    obtain ⟨_, recorded, marked, written⟩ := Work.bind_eq_ok written
    obtain ⟨text, stored, rfl⟩ := Transaction.recordSync_eq_ok marked
    cases written
    exact .inr ⟨text, _, fits, stored, rfl, rfl, rfl⟩

/-- Adding notifications succeeds if their rows can be made and fit. -/
theorem run_upsert_of_rows {records : List Notification} {rows : List Row} {text : String}
    (made : records.mapM (fun record => record.toRow now) = .ok rows) (given : rows ≠ [])
    (fits : ∀ row ∈ rows, row.fits = true) (stored : now.stored = .ok text) (store : Store) :
    ∃ answer, (upsert now records).run (.intact store) =
      (.ok answer, .intact (store.upserted rows text)) := by
  have gathered : (records.mapM fun record =>
      (liftM (record.toRow now) : StoreAccess Row)).run (.intact store) =
        (.ok rows, .intact store) := by
    rw [Work.run_mapM_lift, made]
  have looked := Transaction.run_findAll store fun id member => by
    obtain ⟨row, present, rfl⟩ := List.mem_map.1 (List.mem_eraseDups.1 member)
    exact (Row.fits_eq_true.1 (fits row present)).1
  have written : (Transaction.writeAll rows).run store =
      (.ok (), { store with notifications := rows.foldl Table.put store.notifications }) :=
    Transaction.run_writeAll_eq_ok.2 ⟨fits, rfl⟩
  have committed : (Transaction.commit do
      let known ← Transaction.findAll (rows.map (·.id)).eraseDups
      Transaction.writeAll rows
      Transaction.recordSync notificationsResource now none
      return known).run (.intact store) =
        (.ok ((rows.map (·.id)).eraseDups.filter store.notifications.has),
          .intact (store.upserted rows text)) := by
    apply Transaction.run_commit_ok
    rw [Work.run_bind_ok looked, Work.run_bind_ok written, Transaction.recordSync, stored]
    rfl
  rw [upsert, Work.run_bind_ok gathered, if_neg (by simpa using given)]
  exact ⟨_, Work.run_bind_ok committed⟩

theorem upsert_run_error {records : List Notification}
    (failed : (upsert now records).run file = (.error error, after)) : after = file := by
  rcases Work.bind_eq_error failed with failed | ⟨rows, between, made, failed⟩
  · rw [Work.run_mapM_lift] at failed
    exact (Prod.mk.inj failed).2.symm
  · rw [Work.run_mapM_lift] at made
    obtain ⟨_, rfl⟩ := Prod.mk.inj made
    split at failed
    · cases failed
    · rcases Work.bind_eq_error failed with failed | ⟨_, _, _, failed⟩
      · exact Transaction.commit_run_error failed
      · cases failed

theorem Sound.upsert (sound : store.Sound) {records : List Notification} {answer : Nat × Nat}
    (done : (Store.upsert now records).run (.intact store) = (.ok answer, file)) :
    ∃ after, file = .intact after ∧ after.Sound := by
  obtain ⟨rows, made, ⟨_, _, rfl⟩ | ⟨text, known, fits, stored, _, _, rfl⟩⟩ :=
    upsert_eq_ok done
  · exact ⟨store, rfl, sound⟩
  · obtain ⟨utc, moved, rfl⟩ := Timestamp.stored_eq_ok stored
    obtain ⟨each, rfl⟩ := (Outcome.mapM_eq_ok_iff fun _ _ => Notification.toRow_eq_ok).1 made
    refine ⟨_, rfl, sound.putSync _ ⟨some utc, ?_, rfl⟩ fun row member => ?_⟩
    · simpa [moved] using Timestamp.inUtc?_toUtc? now
    · rcases mem_rows_foldl_put.1 member with last | ⟨old, _⟩
      · obtain ⟨record, present, rfl⟩ := List.mem_map.1 last.mem
        exact Notification.sound_of_toRow (each record present) (fits _ last.mem)
      · exact sound.notifications row old

/-! ## Setting flags -/

theorem patch_run_error {id : Int} {changes : List (Flag × Bool)}
    (failed : (patch now id changes).run file = (.error error, after)) : after = file := by
  rw [patch] at failed
  split at failed
  · cases failed
  · rcases Work.bind_eq_error failed with failed | ⟨text, between, written, failed⟩
    · exact (Prod.mk.inj failed).2.symm
    · cases (Prod.mk.inj written).2
      exact Transaction.commit_run_error failed

/-- Setting flags sets them in a row or changes nothing. -/
theorem patch_eq_ok {id : Int} {changes : List (Flag × Bool)} {there : Bool}
    (done : (patch now id changes).run (.intact store) = (.ok there, file)) :
    file = .intact store ∨ ∃ text, now.stored = .ok text ∧
      file = .intact { store with
        notifications := store.notifications.patch id changes text } := by
  rw [patch] at done
  split at done
  · cases done
    exact .inl rfl
  · obtain ⟨text, between, written, done⟩ := Work.bind_eq_ok done
    obtain ⟨stored, rfl⟩ := Prod.mk.inj written
    obtain ⟨changed, patched, rfl⟩ := Transaction.commit_eq_ok done
    obtain ⟨_, checked, required, patched⟩ := Work.bind_eq_ok patched
    rw [Transaction.run_requireFits] at required
    cases (Prod.mk.inj required).2
    cases patched
    exact .inr ⟨text, stored, rfl⟩

theorem Sound.patchNamed (sound : store.Sound) (now : Timestamp) (id : Int)
    (fields : List (String × Bool)) :
    ∃ after, ((Store.patchNamed now id fields).run (.intact store)).2 = .intact after ∧
      after.Sound := by
  rw [Store.patchNamed]
  cases named : namedChanges fields with
  | error error => exact ⟨store, rfl, sound⟩
  | ok changes =>
      change ∃ after, ((patch now id changes).run (.intact store)).2 = .intact after ∧ after.Sound
      refine sound.after_work (fun {answer file} ran => ?_) patch_run_error
      obtain rfl | ⟨text, stored, rfl⟩ := patch_eq_ok ran
      · exact ⟨store, rfl, sound⟩
      · obtain ⟨utc, moved, rfl⟩ := Timestamp.stored_eq_ok stored
        have onUtc := (Timestamp.instant_of_toUtc? moved).2
        exact ⟨_, rfl, sound.notifications.patch id changes onUtc, sound.syncs⟩

/-! ## Recording synchronisations -/

theorem markSynced_run_error {resource : String} {said : Option String}
    (failed : (markSynced now resource said).run file = (.error error, after)) :
    after = file := by
  rcases Work.bind_eq_error failed with failed | ⟨_, between, written, failed⟩
  · exact (Prod.mk.inj failed).2.symm
  · cases (Prod.mk.inj written).2
    exact Transaction.commit_run_error failed

theorem Sound.markSynced (sound : store.Sound) {resource : String} {said : Option String}
    (done : (Store.markSynced now resource said).run (.intact store) = (.ok (), file)) :
    ∃ after, file = .intact after ∧ after.Sound := by
  obtain ⟨_, between, written, done⟩ := Work.bind_eq_ok done
  cases (Prod.mk.inj written).2
  obtain ⟨changed, recorded, rfl⟩ := Transaction.commit_eq_ok done
  obtain ⟨text, stored, rfl⟩ := Transaction.recordSync_eq_ok recorded
  obtain ⟨utc, moved, rfl⟩ := Timestamp.stored_eq_ok stored
  refine ⟨_, rfl, sound.putSync _ ⟨some utc, ?_, rfl⟩ sound.notifications⟩
  simpa [moved] using Timestamp.inUtc?_toUtc? now

/-! ## Sequences of writes -/

/-- A writing operation with what it is given. -/
inductive Write where
  | replaceAll (now : Timestamp) (records : List Notification)
  | upsert (now : Timestamp) (records : List Notification)
  | patch (now : Timestamp) (id : Int) (fields : List (String × Bool))
  | markSynced (now : Timestamp) (resource : String) (error : Option String)
  | markSyncError (resource : String) (error : Option String)

/-- The file after a write, whether or not it succeeds. -/
def Write.apply (file : StoreFile) : Write → StoreFile
  | .replaceAll now records => ((Store.replaceAll now records).run file).2
  | .upsert now records => ((Store.upsert now records).run file).2
  | .patch now id fields => ((patchNamed now id fields).run file).2
  | .markSynced now resource error => ((Store.markSynced now resource error).run file).2
  | .markSyncError resource error => ((Store.markSyncError resource error).run file).2

/-- The file after writes to a new one. -/
def afterWrites (writes : List Write) : StoreFile :=
  writes.foldl Write.apply (.intact {})

theorem sound_empty : Sound {} where
  notifications := fun _ member => absurd member List.not_mem_nil
  syncs := fun _ _ known => by cases known

/-- A write keeps the file intact and its store sound. -/
theorem Sound.apply (sound : store.Sound) (write : Write) :
    ∃ after, write.apply (.intact store) = .intact after ∧ after.Sound := by
  cases write with
  | replaceAll now records => exact sound.after_work sound.replaceAll replaceAll_run_error
  | upsert now records => exact sound.after_work sound.upsert upsert_run_error
  | patch now id fields => exact sound.patchNamed now id fields
  | markSynced now resource error => exact sound.after_work sound.markSynced markSynced_run_error
  | markSyncError resource error =>
      rw [Write.apply, run_markSyncError]
      exact ⟨_, rfl, sound.marked resource error⟩

/-- After any writes the file is intact and its store sound. -/
theorem exists_sound_afterWrites (writes : List Write) :
    ∃ store, afterWrites writes = .intact store ∧ store.Sound := by
  suffices ∀ before : Store, before.Sound →
      ∃ store, writes.foldl Write.apply (.intact before) = .intact store ∧ store.Sound from
    this {} sound_empty
  induction writes with
  | nil => exact fun before sound => ⟨before, rfl, sound⟩
  | cons write rest ih =>
      intro before sound
      obtain ⟨between, written, kept⟩ := sound.apply write
      rw [List.foldl_cons, written]
      exact ih between kept

end Store

end Triage
