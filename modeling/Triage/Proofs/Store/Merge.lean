import Mathlib.Data.Finset.Card
import Mathlib.Data.Finset.SDiff
import Triage.Proofs.Notification.RoundTrip
import Triage.Proofs.Store.Bookkeeping

/-!
# Adding to what is stored

Adding notifications row by row leaves what replacing all of them leaves, by those that are
stored with the given ones behind them: a given notification counts before a stored one and a
later one before an earlier one.  Only rows that are not given keep the time when they were
written.
-/

namespace Triage

/-! ## One list behind another -/

/-- Of two lists, the items of the second one count, and those of the first one whose key is
not in the second. -/
theorem Keyed.isLast_append {α κ : Type} {key : α → κ} {first second : List α} {item : α} :
    Keyed.IsLast key (first ++ second) item ↔
      Keyed.IsLast key second item ∨
        (Keyed.IsLast key first item ∧ ∀ other ∈ second, key other ≠ key item) := by
  induction second using List.reverseRecOn with
  | nil => simp
  | append_singleton second next ih =>
      rw [← List.append_assoc, Keyed.isLast_append_singleton, ih,
        Keyed.isLast_append_singleton, List.forall_mem_append, List.forall_mem_singleton,
        ne_comm (a := key next)]
      tauto

theorem Keyed.nodup_eraseDups {κ : Type} [BEq κ] [LawfulBEq κ] (keys : List κ) :
    keys.eraseDups.Nodup := by
  have distinct := Keyed.nodup_ofList (keys.map fun key => (key, ()))
  rwa [Keyed.map_fst_ofList, List.map_map, Function.comp_def, List.map_id'] at distinct

/-- Rows in ascending order of their numbers are known by what they hold. -/
theorem Row.eq_of_ascending {first second : List Row}
    (ascending : first.Pairwise fun one other => one.id < other.id)
    (ascending' : second.Pairwise fun one other => one.id < other.id)
    (same : ∀ row, row ∈ first ↔ row ∈ second) : first = second := by
  have distinct {rows : List Row} (ordered : rows.Pairwise fun one other => one.id < other.id) :
      rows.Nodup := ordered.imp fun before equal => by
    rw [equal] at before
    exact lt_irrefl _ before
  refine List.Perm.eq_of_pairwise (fun one other _ _ before after => ?_) ascending ascending'
    ((List.perm_ext_iff_of_nodup (distinct ascending) (distinct ascending')).2 same)
  exact absurd after before.asymm

/-- The row with a new time of writing, unless its number is one of the given ones. -/
def Row.stampedUnless (ids : List Int) (stamp : String) (row : Row) : Row :=
  if row.id ∈ ids then row else { row with fetchedAt := some stamp }

@[simp] theorem Row.id_stampedUnless (ids : List Int) (stamp : String) (row : Row) :
    (row.stampedUnless ids stamp).id = row.id := by
  rw [stampedUnless]
  split <;> rfl

/-- The row of what a stored row holds is that row, with a new time of writing. -/
theorem Row.Sound.written_onUtc_read {row : Row} (sound : row.Sound) {now : Timestamp}
    {stamp : String} (stored : now.stored = .ok stamp) :
    (row.read.onUtc now).written = { row with fetchedAt := some stamp } := by
  obtain ⟨_, record, utc, rfl⟩ := sound
  obtain ⟨moved, known, rfl⟩ := Timestamp.stored_eq_ok stored
  rw [Row.read_written utc, utc.onUtc_eq, known]
  rfl

namespace Store

variable {store : Store} {now : Timestamp} {stamp : String} {records : List Notification}

/-! ## What is stored -/

/-- What a sound store shows can be stored again. -/
theorem Sound.storable_of_mem_shown (sound : store.Sound) {view : View} {record : Notification}
    (member : record ∈ store.shown view) : record.Storable := by
  obtain ⟨row, present, rfl⟩ := exists_row_of_mem_shown member
  obtain ⟨fits, record, utc, rfl⟩ := sound.notifications row present
  rw [Row.read_written utc]
  obtain ⟨id, repo⟩ := Row.fits_eq_true.1 fits
  have timely := utc.timely
  exact ⟨id, repo, timely.createdAt, timely.updatedAt, timely.lastReadAt⟩

/-- The numbers that a store shows are those that have a row. -/
theorem Sound.mem_map_id_shown_all (sound : store.Sound) {id : Int} :
    id ∈ (store.shown .all).map Notification.id ↔ store.notifications.has id = true := by
  rw [sound.map_id_shown]
  simp [Table.view, Table.has, View.holds, List.mem_mergeSort]

/-! ## Rows that are left -/

/-- No notification has the number of a row. -/
theorem forall_id_ne_iff {id : Int} :
    (∀ other ∈ records, other.id ≠ id) ↔ id ∉ records.map Notification.id := by
  simp [List.mem_map]

/-- Adding leaves the row of each last notification, and every stored row whose number is not
given. -/
theorem mem_rows_upserted {row : Row} :
    row ∈ (store.upserted (records.map fun record => (record.onUtc now).written)
        stamp).notifications.rows ↔
      (∃ record, Keyed.IsLast Notification.id records record ∧
        row = (record.onUtc now).written) ∨
      (row ∈ store.notifications.rows ∧ row.id ∉ records.map Notification.id) := by
  have apart : (∀ other ∈ records.map fun record => (record.onUtc now).written,
      other.id ≠ row.id) ↔ row.id ∉ records.map Notification.id := by
    rw [List.forall_mem_map, ← forall_id_ne_iff]
    rfl
  rw [upserted, mem_rows_foldl_put, Keyed.isLast_map, apart]
  rfl

/-- Replacing leaves the row of each last notification as well, and every stored row whose
number is not given with a new time of writing. -/
theorem mem_rows_replaced_append {row : Row} (sound : store.Sound)
    (stored : now.stored = .ok stamp) :
    row ∈ (store.replaced (latest ((store.shown .all ++ records).map
        fun record => (record.onUtc now).written)) stamp).notifications.rows ↔
      (∃ record, Keyed.IsLast Notification.id records record ∧
        row = (record.onUtc now).written) ∨
      (∃ old ∈ store.notifications.rows, old.id ∉ records.map Notification.id ∧
        row = { old with fetchedAt := some stamp }) := by
  rw [replaced, mem_ofRows_latest_written]
  simp only [Keyed.isLast_append, or_and_right, exists_or, forall_id_ne_iff,
    Keyed.isLast_iff_mem (sound.nodup_shown .all), (shown_all_perm store).mem_iff]
  refine or_congr_right ⟨?_, ?_⟩
  · rintro ⟨_, ⟨read, absent⟩, rfl⟩
    obtain ⟨old, present, rfl⟩ := List.mem_map.1 read
    have kept := sound.notifications old present
    exact ⟨old, present, kept.id_read ▸ absent, kept.written_onUtc_read stored⟩
  · rintro ⟨old, present, absent, rfl⟩
    have kept := sound.notifications old present
    exact ⟨old.read, ⟨List.mem_map_of_mem present, kept.id_read.symm ▸ absent⟩,
      (kept.written_onUtc_read stored).symm⟩

/-- What replacing leaves differs from what adding leaves only in the time of writing of the
rows that are not given. -/
theorem rows_replaced_append (sound : store.Sound) (stored : now.stored = .ok stamp) :
    (store.replaced (latest ((store.shown .all ++ records).map
        fun record => (record.onUtc now).written)) stamp).notifications.rows =
      (store.upserted (records.map fun record => (record.onUtc now).written)
        stamp).notifications.rows.map (Row.stampedUnless (records.map Notification.id) stamp) := by
  refine Row.eq_of_ascending (Table.ascending _) ?_ fun row => ?_
  · refine List.pairwise_map.2 ((Table.ascending _).imp fun {one other} before => ?_)
    simpa using before
  rw [mem_rows_replaced_append sound stored, List.mem_map]
  constructor
  · rintro (⟨record, last, rfl⟩ | ⟨old, present, absent, rfl⟩)
    · exact ⟨_, mem_rows_upserted.2 (.inl ⟨record, last, rfl⟩),
        if_pos (List.mem_map_of_mem last.mem)⟩
    · exact ⟨old, mem_rows_upserted.2 (.inr ⟨present, absent⟩), if_neg absent⟩
  · rintro ⟨row, member, rfl⟩
    obtain ⟨record, last, rfl⟩ | ⟨present, absent⟩ := mem_rows_upserted.1 member
    · exact .inl ⟨record, last, if_pos (List.mem_map_of_mem last.mem)⟩
    · exact .inr ⟨row, present, absent, if_neg absent⟩

/-! ## How many are new -/

/-- The distinct numbers are divided into those that have no row and those that have one. -/
theorem counts_eq (sound : store.Sound) (ids : List Int) :
    let known := ids.eraseDups.filter store.notifications.has
    let held := ((store.shown .all).map Notification.id).toFinset
    (ids.eraseDups.length - known.length, known.length) =
      ((ids.toFinset \ held).card, (ids.toFinset ∩ held).card) := by
  intro known held
  have distinct : known.Nodup := (Keyed.nodup_eraseDups ids).filter _
  have all : ids.eraseDups.toFinset = ids.toFinset := by
    ext id
    simp [List.mem_eraseDups]
  have both : known.toFinset = ids.toFinset ∩ held := by
    ext id
    simp [known, held, List.mem_eraseDups, ← sound.mem_map_id_shown_all]
  rw [← List.toFinset_card_of_nodup (Keyed.nodup_eraseDups ids),
    ← List.toFinset_card_of_nodup distinct, all, both, Finset.card_sdiff, Finset.inter_comm]

/-! ## Adding -/

/-- Adding notifications that can be stored succeeds and answers how many of their numbers are
new and how many are known. -/
theorem Sound.run_upsert (sound : store.Sound) (clock : now.WithinYears)
    (storable : ∀ record ∈ records, record.Storable) (given : records ≠ [])
    (stored : now.stored = .ok stamp) :
    let ids := (records.map Notification.id).toFinset
    let held := ((store.shown .all).map Notification.id).toFinset
    (Store.upsert now records).run (.intact store) =
      (.ok ((ids \ held).card, (ids ∩ held).card),
        .intact (store.upserted (records.map fun record => (record.onUtc now).written)
          stamp)) := by
  intro ids held
  have made := Outcome.mapM_eq_ok fun record member => (storable record member).toRow clock
  obtain ⟨answer, done⟩ := run_upsert_of_rows made (by simpa using given)
    (List.forall_mem_map.2 fun record member => ((storable record member).sound clock).fits)
    stored store
  obtain ⟨rows, again, ⟨empty, _⟩ | ⟨_, known, _, _, rfl, rfl, _⟩⟩ := upsert_eq_ok done
  · cases made.symm.trans again
    exact absurd (List.map_eq_nil_iff.1 empty) given
  · cases made.symm.trans again
    rw [done, counts_eq sound, List.map_map]
    rfl

/-- Whatever happens to a new store, it stays intact and sound. -/
theorem sound_of_play {happenings : List Happening}
    (reached : play (.intact {}) happenings = .intact store) : store.Sound := by
  obtain ⟨after, played, sound, _⟩ := @told_play happenings _ [] sound_empty told_nil
  cases reached.symm.trans played
  exact sound

/-- Adding nothing changes no file.  In any store that comes about, adding notifications that
can be stored leaves the same rows as replacing all by those that are shown with the given
ones behind them, apart from the time of writing of the rows that are not given, which are
left as they are.  The status of notifications is the same.  The answer is how many distinct
numbers are new and how many are shown. -/
theorem upsert_is_incremental_replaceAll (now : Timestamp) :
    (∀ file : StoreFile, (upsert now []).run file = (.ok (0, 0), file)) ∧
    ∀ {happenings : List Happening} {store : Store},
      play (.intact {}) happenings = .intact store → now.WithinYears →
      ∀ {records : List Notification}, records ≠ [] → (∀ record ∈ records, record.Storable) →
      ∃ loaded stamp count, ∃ added replaced : Store,
        (loadNamed "all").run (.intact store) = (.ok loaded, .intact store) ∧
        now.stored = .ok stamp ∧
        (let ids := (records.map Notification.id).toFinset
          let held := (loaded.map Notification.id).toFinset
          (upsert now records).run (.intact store) =
            (.ok ((ids \ held).card, (ids ∩ held).card), .intact added)) ∧
        (replaceAll now (loaded ++ records)).run (.intact store) =
          (.ok count, .intact replaced) ∧
        replaced.notifications.rows = added.notifications.rows.map
          (Row.stampedUnless (records.map Notification.id) stamp) ∧
        (∀ row ∈ added.notifications.rows, row.id ∉ records.map Notification.id →
          row ∈ store.notifications.rows) ∧
        added.syncs = replaced.syncs ∧
        added.syncs.lookup notificationsResource = some ⟨some stamp, none⟩ := by
  refine ⟨fun file => rfl, ?_⟩
  intro happenings store reached clock records given storable
  have sound := sound_of_play reached
  obtain ⟨stamp, stored⟩ := clock.stored
  have all : ∀ record ∈ store.shown .all ++ records, record.Storable :=
    List.forall_mem_append.2 ⟨fun _ => sound.storable_of_mem_shown, storable⟩
  have made := Outcome.mapM_eq_ok fun record member => (all record member).toRow clock
  have fits (row : Row) (member : row ∈ latest ((store.shown .all ++ records).map
      fun record => (record.onUtc now).written)) : row.fits = true := by
    obtain ⟨record, present, rfl⟩ := List.mem_map.1 (mem_latest.1 member).mem
    exact ((all record present).sound clock).fits
  refine ⟨store.shown .all, stamp, _, _, _, sound.run_loadNamed .all, stored,
    sound.run_upsert clock storable given stored, run_replaceAll_of_rows made fits stored store,
    rows_replaced_append sound stored, fun row member absent => ?_, rfl, ?_⟩
  · obtain ⟨record, last, rfl⟩ | ⟨present, _⟩ := mem_rows_upserted.1 member
    · exact absurd (List.mem_map_of_mem last.mem) absent
    · exact present
  · rw [upserted, Keyed.lookup_put]
    rfl

/-- Two copies of a notification that is stored with the overlapping pages, and a new one. -/
def lateCopies : List Notification :=
  [{ id := 5, flags := { starred := true } }, { id := 9 }, { id := 5, reason := some "mention" }]

theorem late_copies_added :
    ∃ store, play (.intact {}) [.called (.replaceAll pagesClock overlappingPages)] =
        .intact store ∧
      pagesClock.WithinYears ∧ lateCopies ≠ [] ∧ (∀ record ∈ lateCopies, record.Storable) ∧
      ∃ loaded count added replaced,
        (upsert pagesClock lateCopies).run (.intact store) = (.ok (1, 1), .intact added) ∧
        (replaceAll pagesClock (loaded ++ lateCopies)).run (.intact store) =
          (.ok count, .intact replaced) ∧
        added.syncs = replaced.syncs := by
  have utc : pagesClock.offset = some 0 := rfl
  have clock := Timestamp.withinYears_of_utc utc
  have given : lateCopies ≠ [] := by decide
  have storable : ∀ record ∈ lateCopies, record.Storable := by
    intro record member
    simp only [lateCopies, List.mem_cons, List.not_mem_nil, or_false] at member
    rcases member with rfl | rfl | rfl
    all_goals exact ⟨by decide, nofun, nofun, nofun, nofun⟩
  obtain ⟨store, reached, _⟩ := @told_play
    [.called (.replaceAll pagesClock overlappingPages)] _ [] sound_empty told_nil
  obtain ⟨loaded, _, count, added, replaced, _, _, done, again, _, _, same, _⟩ :=
    (upsert_is_incremental_replaceAll pagesClock).2 reached clock given storable
  have counted : ((upsert pagesClock lateCopies).run
      (play (.intact {}) [.called (.replaceAll pagesClock overlappingPages)])).1 = .ok (1, 1) := by
    decide +kernel
  rw [reached, done] at counted
  exact ⟨store, reached, clock, given, storable, loaded, count, added, replaced, counted ▸ done,
    again, same⟩

end Store

end Triage
