import Triage.Proofs.Store.LastCopy
import Triage.Proofs.Store.Reachable
import Triage.Store.Given

/-!
# Writes that fail

A write can fail before its first statement, at any statement and at the last one.
Whether it fails is told by what it is given alone.  One that fails leaves the store
as it was, however many rows were deleted or written before.
-/

namespace Triage

/-! ## What can be written -/

theorem Timestamp.withinYears_of_stored {time : Timestamp} {text : String}
    (stored : time.stored = .ok text) : time.WithinYears := by
  obtain ⟨utc, moved, _⟩ := Timestamp.stored_eq_ok stored
  rw [Timestamp.toUtc?, Timestamp.ofWall?] at moved
  split at moved
  · next inRange => exact inRange
  · cases moved

/-- A value that a statement takes: no list, no object and no time of day, no text without
bytes, and no integer beyond 64 bits. -/
def Json.Bindable : Json → Prop
  | .int value => Width.fits64 value = true
  | .arr _ => False
  | .obj _ => False
  | .moment (.time _) => False
  | .halved _ => False
  | _ => True

theorem Store.give_eq_ok {position : Nat} {value : Json} :
    give position value = .ok () ↔ value.Bindable := by
  cases value with
  | int value => cases fits : Width.fits64 value <;> simp [give, Json.Bindable, fits]
  | moment value => cases value <;> simp [give, Json.Bindable]
  | null | bool value | real value | str text | halved text | arr items | obj fields =>
      simp [give, Json.Bindable]

/-- The number of a notification that a value gives can be written if the value can be
given. -/
theorem Store.fits_rowNumber? {value : Json} {id : Int} (number : rowNumber? value = some id) :
    Width.fits64 id = true ↔ value.Bindable := by
  have filtered {found : Option Int} (kept : found.filter Width.fits64 = some id) :
      Width.fits64 id = true := (Option.filter_eq_some_iff.1 kept).2
  have whole {value : Binary64} (kept : wholeOf? value = some id) : Width.fits64 id = true := by
    rw [wholeOf?] at kept
    split at kept
    · exact filtered kept
    · cases kept
  cases value with
  | null | halved text | moment value | arr items | obj fields => cases number
  | int value =>
      cases number
      exact Iff.rfl
  | bool value =>
      cases number
      cases value <;> exact iff_of_true (by decide) trivial
  | real value => exact iff_of_true (whole number) trivial
  | str text =>
      refine iff_of_true ?_ trivial
      obtain ⟨decimal, _, number⟩ := Option.bind_eq_some_iff.1 number
      split at number
      · exact filtered number
      · exact whole number

namespace Notification

/-- The numbers of a notification have 64 bits. -/
structure Fits (record : Notification) : Prop where
  id : Width.fits64 record.id = true
  repo : ∀ id ∈ record.repo.id, Width.fits64 id = true

variable {record : Notification} {now : Timestamp}

theorem fits_written : (record.onUtc now).written.fits = true ↔ record.Fits := by
  rw [Row.fits_eq_true]
  exact ⟨fun fits => ⟨fits.1, fits.2⟩, fun fits => ⟨fits.id, fits.repo⟩⟩

theorem withinYears_of_stored? {time : Option Timestamp} {text : Option String}
    (stored : Timestamp.stored? time = .ok text) : ∀ given ∈ time, given.WithinYears := by
  rintro given ⟨⟩
  obtain ⟨written, result, _⟩ := Outcome.map_eq_ok.1 stored
  exact Timestamp.withinYears_of_stored result

/-- The row of a notification is made exactly if its times and the clock can be
written. -/
theorem toRow_eq_ok_iff {row : Row} :
    record.toRow now = .ok row ↔
      (record.Timely ∧ now.WithinYears) ∧ row = (record.onUtc now).written := by
  constructor
  · intro made
    refine ⟨?_, toRow_eq_ok made⟩
    obtain ⟨_, created, made⟩ := Outcome.bind_eq_ok.1 made
    obtain ⟨_, updated, made⟩ := Outcome.bind_eq_ok.1 made
    obtain ⟨_, lastRead, made⟩ := Outcome.bind_eq_ok.1 made
    obtain ⟨_, fetched, _⟩ := Outcome.bind_eq_ok.1 made
    exact ⟨⟨withinYears_of_stored? created, withinYears_of_stored? updated,
      withinYears_of_stored? lastRead⟩, Timestamp.withinYears_of_stored fetched⟩
  · rintro ⟨⟨timely, clock⟩, rfl⟩
    exact timely.toRow clock

end Notification

/-- The rows of notifications are made exactly if all their times and the clock can be
written. -/
theorem Notification.mapM_toRow_eq_ok {now : Timestamp} {records : List Notification}
    {rows : List Row} :
    records.mapM (fun record => record.toRow now) = .ok rows ↔
      (∀ record ∈ records, record.Timely ∧ now.WithinYears) ∧
        rows = records.map fun record => (record.onUtc now).written := by
  rw [Outcome.mapM_eq_ok_iff fun _ _ => toRow_eq_ok]
  simp only [toRow_eq_ok_iff, and_true]

/-! ## Statements before the one that fails -/

namespace Store

/-- Rows before one that does not fit are written before the failure: within the
transaction the store has changed by then. -/
theorem run_writeAll_of_misfit {before after : List Row} {row : Row}
    (fits : ∀ other ∈ before, other.fits = true) (misfit : row.fits = false) (store : Store) :
    (Transaction.writeAll (before ++ row :: after)).run store =
      (.error (.overflow .storedInteger),
        { store with notifications := before.foldl Table.put store.notifications }) := by
  induction before generalizing store with
  | nil => simp [Transaction.writeAll, Transaction.write, Work.run_bind, misfit]
  | cons first rest ih =>
      have others := ih fun other member => fits other (by simp [member])
      simp [Transaction.writeAll, Transaction.write, Work.run_bind, fits first (by simp), others]

/-! ## Work that is decided by a condition -/

/-- Work that succeeds exactly under a condition and leaves the file as it was when it
fails. -/
def Decided {α : Type} (work : StoreAccess α) (file : StoreFile) (condition : Prop) : Prop :=
  (condition ∧ ∃ answer after, work.run file = (.ok answer, after)) ∨
    (¬condition ∧ ∃ error, work.run file = (.error error, file))

namespace Decided

variable {α β : Type} {work : StoreAccess α} {file : StoreFile} {condition other : Prop}

theorem of_runs (done : condition → ∃ answer after, work.run file = (.ok answer, after))
    (only : ∀ {answer after}, work.run file = (.ok answer, after) → condition)
    (failed : ∀ {error after}, work.run file = (.error error, after) → after = file) :
    Decided work file condition := by
  rcases ran : work.run file with ⟨outcome, after⟩
  cases outcome with
  | ok answer => exact .inl ⟨only ran, answer, after, ran⟩
  | error error =>
      cases failed ran
      refine .inr ⟨fun holds => ?_, error, ran⟩
      obtain ⟨answer, later, succeeded⟩ := done holds
      rw [succeeded] at ran
      cases ran

theorem congr (decided : Decided work file condition) (same : condition ↔ other) :
    Decided work file other := by
  rwa [Decided, ← same]

theorem pure (value : α) : Decided (pure value) file True :=
  .inl ⟨trivial, value, file, rfl⟩

theorem map (decided : Decided work file condition) (image : α → β) :
    Decided (image <$> work) file condition := by
  rw [map_eq_pure_bind]
  obtain ⟨holds, answer, after, done⟩ | ⟨fails, error, failed⟩ := decided
  · exact .inl ⟨holds, image answer, after, Work.run_bind_ok done⟩
  · exact .inr ⟨fails, error, Work.run_bind_error failed⟩

/-- A check before other work changes nothing, whether or not it is passed. -/
theorem check {outcome : Except Error α} {next : α → StoreAccess β}
    (looked : work.run file = (outcome, file)) (passed : (∃ value, outcome = .ok value) ↔ condition)
    (rest : ∀ value, outcome = .ok value → Decided (next value) file other) :
    Decided (work >>= next) file (condition ∧ other) := by
  cases outcome with
  | error error =>
      have fails : ¬condition := by simp [← passed]
      exact .inr ⟨fun both => fails both.1, error, Work.run_bind_error looked⟩
  | ok value =>
      have holds : condition := passed.1 ⟨value, rfl⟩
      rw [Decided, Work.run_bind_ok looked]
      obtain ⟨further, done⟩ | ⟨fails, failed⟩ := rest value rfl
      · exact .inl ⟨⟨holds, further⟩, done⟩
      · exact .inr ⟨fun both => fails both.2, failed⟩

end Decided

/-! ## Calls -/

/-- A call of a writing operation with what it is given; numbers, resources and error
texts may be any values. -/
inductive Call where
  | replaceAll (now : Timestamp) (records : List Notification)
  | upsert (now : Timestamp) (records : List Notification)
  | patch (now : Timestamp) (id : Json) (fields : List (String × Bool))
  | markSynced (now : Timestamp) (resource error : Json)
  | markSyncError (resource error : Json)

namespace Call

/-- Carry out a call and leave its answer aside. -/
def perform : Call → StoreAccess Unit
  | .replaceAll now records => (fun _ => ()) <$> Store.replaceAll now records
  | .upsert now records => (fun _ => ()) <$> Store.upsert now records
  | .patch now id fields => (fun _ => ()) <$> Store.patchGiven now id fields
  | .markSynced now resource error => Store.markSyncedGiven now resource error
  | .markSyncError resource error => Store.markSyncErrorGiven resource error

/-- All that a call is given can be written: the times lie within the years 1 to 9999,
the numbers that are written fit, the names are those of flags and the values can be
given to a statement. -/
def Writable : Call → Prop
  | .replaceAll now records =>
      now.WithinYears ∧ (∀ record ∈ records, record.Timely) ∧
        ∀ record, Keyed.IsLast Notification.id records record → record.Fits
  | .upsert now records =>
      records = [] ∨ now.WithinYears ∧ ∀ record ∈ records, record.Timely ∧ record.Fits
  | .patch now id fields =>
      (∀ field ∈ fields, (Flag.ofName? field.1).isSome) ∧
        (fields = [] ∨ now.WithinYears ∧ id.Bindable)
  | .markSynced now resource error => now.WithinYears ∧ resource.Bindable ∧ error.Bindable
  | .markSyncError resource error => resource.Bindable ∧ error.Bindable

end Call

variable {now : Timestamp} {store : Store}

/-- The rows that a replacement writes fit exactly if the last notifications of their
numbers do. -/
theorem fits_latest_iff {records : List Notification} :
    (∀ row ∈ latest (records.map fun record => (record.onUtc now).written),
        row.fits = true) ↔
      ∀ record, Keyed.IsLast Notification.id records record → record.Fits := by
  constructor
  · intro fits record last
    exact Notification.fits_written.1
      (fits _ (mem_latest.2 (Keyed.isLast_map.2 ⟨record, last, rfl⟩)))
  · intro fits row member
    obtain ⟨record, last, rfl⟩ := Keyed.isLast_map.1 (mem_latest.1 member)
    exact Notification.fits_written.2 (fits record last)

theorem decided_replaceAll {records : List Notification} :
    Decided (replaceAll now records) (.intact store) (Call.replaceAll now records).Writable := by
  refine .of_runs ?_ (fun done => ?_) replaceAll_run_error
  · rintro ⟨clock, timely, fits⟩
    obtain ⟨text, stored⟩ := clock.stored
    have made := Notification.mapM_toRow_eq_ok.2
      ⟨fun record member => ⟨timely record member, clock⟩, rfl⟩
    exact ⟨_, _, run_replaceAll_of_rows made (fits_latest_iff.2 fits) stored store⟩
  · obtain ⟨rows, text, made, fits, stored, _⟩ := replaceAll_eq_ok done
    obtain ⟨timely, rfl⟩ := Notification.mapM_toRow_eq_ok.1 made
    exact ⟨Timestamp.withinYears_of_stored stored, fun record member => (timely record member).1,
      fits_latest_iff.1 fits⟩

theorem decided_upsert {records : List Notification} :
    Decided (upsert now records) (.intact store) (Call.upsert now records).Writable := by
  refine .of_runs ?_ (fun done => ?_) upsert_run_error
  · intro writable
    by_cases empty : records = []
    · subst empty
      exact ⟨(0, 0), .intact store, rfl⟩
    · obtain ⟨clock, each⟩ := writable.resolve_left empty
      obtain ⟨text, stored⟩ := clock.stored
      have made := Notification.mapM_toRow_eq_ok.2
        ⟨fun record member => ⟨(each record member).1, clock⟩, rfl⟩
      obtain ⟨answer, done⟩ := run_upsert_of_rows made (by simpa using empty)
        (List.forall_mem_map.2 fun record member =>
          Notification.fits_written.2 (each record member).2) stored store
      exact ⟨answer, _, done⟩
  · obtain ⟨rows, made, ⟨empty, _⟩ | ⟨text, known, fits, stored, _⟩⟩ := upsert_eq_ok done
    · obtain ⟨_, rfl⟩ := Notification.mapM_toRow_eq_ok.1 made
      exact .inl (List.map_eq_nil_iff.1 empty)
    · obtain ⟨timely, rfl⟩ := Notification.mapM_toRow_eq_ok.1 made
      refine .inr ⟨Timestamp.withinYears_of_stored stored, fun record member => ?_⟩
      exact ⟨(timely record member).1,
        Notification.fits_written.1 (fits _ (List.mem_map_of_mem member))⟩

/-- The time of the clock is checked before anything is written. -/
theorem Decided.ofClock {α : Type} {next : String → StoreAccess α} {file : StoreFile}
    {condition : Prop}
    (rest : ∀ text, now.stored = .ok text → Decided (next text) file condition) :
    Decided (liftM now.stored >>= next) file (now.WithinYears ∧ condition) := by
  refine .check (Work.run_lift _ file) ⟨?_, Timestamp.WithinYears.stored⟩ rest
  rintro ⟨text, stored⟩
  exact Timestamp.withinYears_of_stored stored

/-- Values are given to statements within a transaction. -/
theorem Decided.ofGiven {α : Type} {given : Transaction Unit} {outcome : Except Error Unit}
    {next : StoreAccess α} {condition other : Prop} (ran : given.run store = (outcome, store))
    (passed : outcome = .ok () ↔ condition) (rest : Decided next (.intact store) other) :
    Decided (Transaction.commit given >>= fun _ => next) (.intact store)
      (condition ∧ other) := by
  have committed : (Transaction.commit given).run (.intact store) = (outcome, .intact store) := by
    cases outcome <;> simp [Transaction.commit, ran]
  refine .check committed ?_ fun _ _ => rest
  rw [← passed]
  constructor
  · rintro ⟨_, given⟩
    exact given
  · intro given
    exact ⟨(), given⟩

/-- Two values are given one after the other. -/
theorem run_give_both (first second : Nat) (resource error : Json) (store : Store) :
    (do
      liftM (give first resource)
      liftM (give second error) : Transaction Unit).run store =
        ((do give first resource; give second error), store) := by
  cases give first resource <;> cases give second error <;> rfl

theorem give_both_eq_ok {first second : Nat} {resource error : Json} :
    (do give first resource; give second error) = .ok () ↔
      resource.Bindable ∧ error.Bindable := by
  rw [← @give_eq_ok first, ← @give_eq_ok second, Outcome.bind_eq_ok]
  exact ⟨fun ⟨_, one, two⟩ => ⟨one, two⟩, fun ⟨one, two⟩ => ⟨(), one, two⟩⟩

/-- Names of flags give a change each, and any other name is refused. -/
theorem namedChanges_eq_ok_iff {fields : List (String × Bool)} :
    (∃ changes, namedChanges fields = .ok changes) ↔
      ∀ field ∈ fields, (Flag.ofName? field.1).isSome := by
  have nothing : ((fields.map Prod.fst).filter fun name =>
      (Flag.ofName? name).isNone).isEmpty = true ↔
        ∀ field ∈ fields, (Flag.ofName? field.1).isSome := by
    simp only [List.isEmpty_iff, List.filter_eq_nil_iff, List.forall_mem_map,
      Option.isNone_iff_eq_none, Option.isSome_iff_ne_none, ne_eq]
  rw [← nothing, namedChanges]
  split
  · next known => exact iff_of_true ⟨_, rfl⟩ known
  · next unknown =>
      refine iff_of_false ?_ unknown
      rintro ⟨changes, named⟩
      cases named

theorem eq_nil_of_namedChanges {fields : List (String × Bool)} {changes : List (Flag × Bool)}
    (named : namedChanges fields = .ok changes) : changes = [] ↔ fields = [] := by
  have known := namedChanges_eq_ok_iff.1 ⟨changes, named⟩
  rw [namedChanges] at named
  split at named
  · cases named
    rw [List.filterMap_eq_nil_iff]
    constructor
    · intro none
      rw [List.eq_nil_iff_forall_not_mem]
      intro field member
      obtain ⟨flag, found⟩ := Option.isSome_iff_exists.1 (known field member)
      simpa [found] using none field member
    · rintro rfl field member
      exact absurd member List.not_mem_nil
  · cases named

theorem decided_patch {id : Int} {changes : List (Flag × Bool)} :
    Decided (patch now id changes) (.intact store)
      (changes = [] ∨ now.WithinYears ∧ Width.fits64 id = true) := by
  by_cases empty : changes = []
  · subst empty
    exact (Decided.pure false).congr (by simp)
  · refine .of_runs ?_ (fun {there file} done => .inr ?_) patch_run_error
    · intro writable
      obtain ⟨clock, fits⟩ := writable.resolve_left empty
      obtain ⟨text, stored⟩ := clock.stored
      exact ⟨_, _, run_patch stored fits empty store⟩
    · rw [patch, if_neg (by simpa using empty)] at done
      obtain ⟨text, between, written, done⟩ := Work.bind_eq_ok done
      obtain ⟨stored, rfl⟩ := Prod.mk.inj written
      obtain ⟨changed, patched, _⟩ := Transaction.commit_eq_ok done
      obtain ⟨_, checked, required, _⟩ := Work.bind_eq_ok patched
      rw [Transaction.run_requireFits] at required
      refine ⟨Timestamp.withinYears_of_stored stored, ?_⟩
      by_contra misfit
      rw [if_neg misfit] at required
      cases required

theorem decided_patchGiven {key : Json} {fields : List (String × Bool)} :
    Decided (patchGiven now key fields) (.intact store)
      (Call.patch now key fields).Writable := by
  rw [Call.Writable, ← namedChanges_eq_ok_iff, patchGiven]
  cases number : rowNumber? key with
  | some id =>
      refine .check (Work.run_lift _ _) Iff.rfl fun changes named => ?_
      rw [← eq_nil_of_namedChanges named, ← fits_rowNumber? number]
      exact decided_patch
  | none =>
      refine .check (Work.run_lift _ _) Iff.rfl fun changes named => ?_
      rw [← eq_nil_of_namedChanges named]
      split
      · next empty =>
          have empty : changes = [] := List.isEmpty_iff.1 empty
          exact (Decided.pure false).congr (iff_of_true trivial (.inl empty))
      · next given =>
          have given : changes ≠ [] := fun empty => given (List.isEmpty_iff.2 empty)
          refine (Decided.ofClock fun text stored => Decided.ofGiven (Work.run_lift _ _)
            give_eq_ok (Decided.pure false)).congr ?_
          rw [and_true, or_iff_right given]

theorem decided_markSynced {resource : String} {error : Option String} :
    Decided (markSynced now resource error) (.intact store) now.WithinYears := by
  refine .of_runs (fun clock => ?_) (fun done => ?_) markSynced_run_error
  · obtain ⟨text, stored⟩ := clock.stored
    have recorded : (Transaction.recordSync resource now error).run store =
        (.ok (), { store with syncs := Keyed.put store.syncs resource ⟨some text, error⟩ }) := by
      rw [Transaction.recordSync, stored]
      rfl
    rw [markSynced, stored]
    exact ⟨(), _, Transaction.run_commit_ok recorded⟩
  · obtain ⟨text, between, written, _⟩ := Work.bind_eq_ok done
    exact Timestamp.withinYears_of_stored (Prod.mk.inj written).1

theorem decided_markSyncedGiven {resource error : Json} :
    Decided (markSyncedGiven now resource error) (.intact store)
      (Call.markSynced now resource error).Writable := by
  have decided : Decided (markSyncedGiven now resource error) (.intact store)
      (now.WithinYears ∧ (resource.Bindable ∧ error.Bindable) ∧ True) := by
    refine .ofClock fun text stored => .ofGiven (run_give_both 1 3 resource error store)
      give_both_eq_ok ?_
    cases columnText? resource with
    | none => exact .pure ()
    | some name =>
        have clock := Timestamp.withinYears_of_stored stored
        exact decided_markSynced.congr (iff_of_true clock trivial)
  exact decided.congr (by rw [and_true]; rfl)

theorem decided_markSyncErrorGiven {resource error : Json} :
    Decided (markSyncErrorGiven resource error) (.intact store)
      (Call.markSyncError resource error).Writable := by
  have decided : Decided (markSyncErrorGiven resource error) (.intact store)
      ((resource.Bindable ∧ error.Bindable) ∧ True) := by
    refine .ofGiven (run_give_both 1 2 resource error store) give_both_eq_ok ?_
    cases columnText? resource with
    | none => exact .pure ()
    | some name => exact .inl ⟨trivial, (), _, run_markSyncError store name (columnText? error)⟩
  exact decided.congr (by rw [and_true]; rfl)

/-- Every call is decided by what it is given. -/
theorem decided_perform (store : Store) (call : Call) :
    Decided call.perform (.intact store) call.Writable := by
  cases call with
  | replaceAll now records => exact decided_replaceAll.map _
  | upsert now records => exact decided_upsert.map _
  | patch now id fields => exact decided_patchGiven.map _
  | markSynced now resource error => exact decided_markSyncedGiven
  | markSyncError resource error => exact decided_markSyncErrorGiven

/-- A call succeeds exactly if all that it is given can be written.  Otherwise it fails
and the store is as it was before, notifications and recorded synchronisations alike. -/
theorem call_writes_or_changes_nothing (store : Store) (call : Call) :
    (call.Writable ∧ ∃ after, call.perform.run (.intact store) = (.ok (), after)) ∨
      (¬call.Writable ∧ ∃ error,
        call.perform.run (.intact store) = (.error error, .intact store)) := by
  obtain ⟨writable, _, done⟩ | failed := decided_perform store call
  · exact .inl ⟨writable, done⟩
  · exact .inr failed

/-- The second number has 65 bits. -/
def oneMisfit : List Notification := [{ id := 1 }, { id := 9223372036854775808 }]

/-- A replacement that fails after it has deleted every row and written a new one. -/
theorem replacement_by_oneMisfit_changes_nothing :
    ∃ store : Store, store.notifications.has 5 = true ∧ ∃ error,
      (Call.replaceAll pagesClock oneMisfit).perform.run (.intact store) =
        (.error error, .intact store) := by
  refine ⟨{ notifications := .ofRows [({ id := 5 } : Notification).written] }, by decide, ?_⟩
  obtain ⟨⟨_, _, fits⟩, _⟩ | ⟨_, failed⟩ := call_writes_or_changes_nothing
    { notifications := .ofRows [({ id := 5 } : Notification).written] }
    (.replaceAll pagesClock oneMisfit)
  · have last : Keyed.IsLast Notification.id oneMisfit { id := 9223372036854775808 } :=
      ⟨[{ id := 1 }], [], rfl, by simp⟩
    exact absurd (fits _ last).id (by decide)
  · exact failed

end Store

end Triage
