import Triage.Action.Reconcile
import Triage.Proofs.Resync.Session
import Triage.Proofs.Store.Alike

/-!
# Setting flags of several notifications

Values for flags are written notification by notification.  Where each number
occurs once, every row gets the values under its own number and the other rows
stay as they are.
-/

namespace Triage

/-- Values for flags under numbers. -/
abbrev Assignment := List (Int × FlagChanges)

/-- The values under a number. -/
def Assignment.at (changes : Assignment) (id : Int) : FlagChanges :=
  (changes.lookup id).getD []

/-- Each number occurs once, fits 64 bits and has something to set. -/
structure Assignment.Writable (changes : Assignment) : Prop where
  distinct : (changes.map Prod.fst).Nodup
  fits : ∀ change ∈ changes, Width.fits64 change.1 = true
  given : ∀ change ∈ changes, change.2 ≠ []

theorem Assignment.Writable.tail {change : Int × FlagChanges} {changes : Assignment}
    (writable : Assignment.Writable (change :: changes)) : Assignment.Writable changes where
  distinct := (List.nodup_cons.1 writable.distinct).2
  fits := fun other member => writable.fits other (by simp [member])
  given := fun other member => writable.given other (by simp [member])

namespace Row

/-- A row after one number was written. -/
def assignOne (text : String) (row : Row) (change : Int × FlagChanges) : Row :=
  if row.id == change.1 then Table.patchRow change.2 text row else row

/-- A row after all numbers were written. -/
def assigned (row : Row) (text : String) (changes : Assignment) : Row :=
  changes.foldl (assignOne text) row

@[simp] theorem assigned_nil (row : Row) (text : String) : row.assigned text [] = row := rfl

theorem assigned_cons (row : Row) (text : String) (change : Int × FlagChanges)
    (changes : Assignment) :
    row.assigned text (change :: changes) = (row.assignOne text change).assigned text changes :=
  rfl

@[simp] theorem id_assignOne (row : Row) (text : String) (change : Int × FlagChanges) :
    (row.assignOne text change).id = row.id := by
  rw [assignOne]
  split <;> rfl

@[simp] theorem id_assigned (row : Row) (text : String) (changes : Assignment) :
    (row.assigned text changes).id = row.id := by
  induction changes generalizing row with
  | nil => rfl
  | cons change changes ih => rw [assigned_cons, ih, id_assignOne]

theorem assigned_of_not_mem {row : Row} {changes : Assignment}
    (absent : row.id ∉ changes.map Prod.fst) (text : String) : row.assigned text changes = row := by
  induction changes with
  | nil => rfl
  | cons change changes ih =>
      simp only [List.map_cons, List.mem_cons, not_or] at absent
      rw [assigned_cons, assignOne, if_neg (by simpa using absent.1), ih absent.2]

/-- A row gets the values under its number. -/
theorem assigned_eq {changes : Assignment} (distinct : (changes.map Prod.fst).Nodup) (row : Row)
    (text : String) :
    row.assigned text changes =
      match changes.lookup row.id with
      | some values => Table.patchRow values text row
      | none => row := by
  induction changes with
  | nil => rfl
  | cons change changes ih =>
      obtain ⟨apart, others⟩ := List.nodup_cons.1 distinct
      rw [assigned_cons, assignOne, List.lookup_cons]
      by_cases same : row.id = change.1
      · have absent : (Table.patchRow change.2 text row).id ∉ changes.map Prod.fst :=
          same ▸ apart
        simp only [same, beq_self_eq_true, if_true]
        exact assigned_of_not_mem absent text
      · have differs : (row.id == change.1) = false := by simpa using same
        simp only [differs]
        exact ih others

theorem flags_assigned {changes : Assignment} (distinct : (changes.map Prod.fst).Nodup) (row : Row)
    (text : String) :
    (row.assigned text changes).flags = row.flags.assign (changes.at row.id) := by
  rw [assigned_eq distinct, Assignment.at]
  cases changes.lookup row.id <;> rfl

/-- Apart from the time of writing only the flags change. -/
theorem unfetched_assigned {changes : Assignment} (distinct : (changes.map Prod.fst).Nodup)
    (row : Row) (text : String) :
    (row.assigned text changes).unfetched =
      { row.unfetched with flags := row.flags.assign (changes.at row.id) } := by
  rw [assigned_eq distinct, Assignment.at]
  cases changes.lookup row.id <;> rfl

end Row

namespace Store

/-- A store after all numbers were written. -/
def assigned (store : Store) (text : String) (changes : Assignment) : Store :=
  changes.foldl (fun store change =>
    { store with notifications := store.notifications.patch change.1 change.2 text }) store

theorem assigned_cons (store : Store) (text : String) (change : Int × FlagChanges)
    (changes : Assignment) :
    store.assigned text (change :: changes) =
      Store.assigned { store with
        notifications := store.notifications.patch change.1 change.2 text } text changes :=
  rfl

theorem rows_assigned (store : Store) (text : String) (changes : Assignment) :
    (store.assigned text changes).notifications.rows =
      store.notifications.rows.map fun row => row.assigned text changes := by
  induction changes generalizing store with
  | nil => simp [assigned]
  | cons change changes ih =>
      rw [assigned_cons, ih]
      simp only [Table.patch, List.map_map]
      rfl

@[simp] theorem syncs_assigned (store : Store) (text : String) (changes : Assignment) :
    (store.assigned text changes).syncs = store.syncs := by
  induction changes generalizing store with
  | nil => rfl
  | cons change changes ih => rw [assigned_cons, ih]

@[simp] theorem map_id_assigned (store : Store) (text : String) (changes : Assignment) :
    (store.assigned text changes).notifications.rows.map Row.id =
      store.notifications.rows.map Row.id := by
  rw [rows_assigned, List.map_map]
  exact List.map_congr_left fun row _ => Row.id_assigned row text changes

theorem Sound.assigned {store : Store} (sound : store.Sound) {now : Timestamp} {text : String}
    (stored : now.stored = .ok text) (changes : Assignment) :
    (store.assigned text changes).Sound := by
  obtain ⟨utc, moved, rfl⟩ := Timestamp.stored_eq_ok stored
  have onUtc := (Timestamp.instant_of_toUtc? moved).2
  induction changes generalizing store with
  | nil => exact sound
  | cons change changes ih =>
      exact ih ⟨sound.notifications.patch change.1 change.2 onUtc, sound.syncs⟩

end Store

/-- Values are written into the store of a session whose clock can be written. -/
theorem Plan.run_applyChanges {changes : Assignment} (writable : changes.Writable)
    {session : Session} {store : Store} (intact : session.file = .intact store) {text : String}
    (stored : session.now.stored = .ok text) :
    (Plan.applyChanges changes).run session =
      (.ok (), { session with file := .intact (store.assigned text changes) }) := by
  induction changes generalizing session store with
  | nil =>
      simp only [Store.assigned, List.foldl_nil, ← intact]
      rfl
  | cons change changes ih =>
      have first := Store.run_patch stored (writable.fits change (by simp))
        (writable.given change (by simp)) store
      have later : (Plan.applyChanges changes).run
          { session with file := .intact { store with
              notifications := store.notifications.patch change.1 change.2 text } } = _ :=
        ih writable.tail rfl stored
      unfold Plan.applyChanges at later ⊢
      rw [Work.run_forM_cons]
      simp only [Work.run_bind, Work.run_get, Session.run_useStore, intact, first, Work.run_pure]
      exact later

end Triage
