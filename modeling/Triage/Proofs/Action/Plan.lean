import Triage.Proofs.Store.Assign

/-!
# Plans

A plan made for notifications of which none occurs in two versions sets in each
of them what its action sets, and keeps for each flag the value that it replaces.
Writing these values back therefore undoes the plan.
-/

namespace Triage

/-! ## Flags after assignments -/

namespace Flags

theorem get_assign_of_not_mem {changes : FlagChanges} {flag : Flag}
    (absent : flag ∉ changes.map Prod.fst) (flags : Flags) :
    (flags.assign changes).get flag = flags.get flag := by
  induction changes generalizing flags with
  | nil => rfl
  | cons change changes ih =>
      simp only [List.map_cons, List.mem_cons, not_or] at absent
      rw [assign_cons, ih absent.2, get_set, if_neg absent.1]

end Flags

/-- What a request does to the flags of a notification at the service. -/
def Mutation.effect (flags : Flags) : Mutation → Flags
  | .star => { flags with starred := !flags.starred }
  | .archive => { flags with archived := true }
  | .unarchive => { flags with archived := false }
  | .mute => { flags with muted := true, archived := true }
  | .markRead => { flags with unread := false }

namespace Plan

/-! ## One notification -/

theorem changesFor_ne_nil (action : Action) (record : Notification) :
    changesFor action record ≠ [] := by
  cases action <;> simp [changesFor]

theorem previousFor_ne_nil (action : Action) (record : Notification) :
    previousFor action record ≠ [] := by
  simpa [previousFor] using changesFor_ne_nil action record

/-- The flags whose values an action replaces are those it sets. -/
theorem map_fst_previousFor (action : Action) (record : Notification) :
    (previousFor action record).map Prod.fst = (changesFor action record).map Prod.fst := by
  simp [previousFor, Function.comp_def]

/-- Writing back gives each flag that the action sets its old value. -/
theorem get_assign_previousFor {action : Action} {record : Notification} {flag : Flag}
    (touched : flag ∈ (changesFor action record).map Prod.fst) (flags : Flags) :
    (flags.assign (previousFor action record)).get flag = record.flags.get flag := by
  cases action <;> cases flag <;>
    simp [changesFor, previousFor, Flags.assign, Flags.set, Flags.get] at touched ⊢

/-- Writing back undoes what an action set. -/
theorem assign_previousFor (action : Action) (record : Notification) :
    (record.flags.assign (changesFor action record)).assign (previousFor action record) =
      record.flags := by
  refine Flags.ext_get fun flag => ?_
  by_cases touched : flag ∈ (changesFor action record).map Prod.fst
  · exact get_assign_previousFor touched _
  · rw [Flags.get_assign_of_not_mem (map_fst_previousFor action record ▸ touched),
      Flags.get_assign_of_not_mem touched]

/-- A request does to a flag at the service what its action does to it here, if
the flag was the same on both sides. -/
theorem get_effect_of_mem {action : Action} {record : Notification} {flag : Flag}
    (touched : flag ∈ (changesFor action record).map Prod.fst) {remote : Flags}
    (same : record.flags.get flag = remote.get flag) (flags : Flags) :
    ((mutationFor action record).effect remote).get flag =
      (flags.assign (changesFor action record)).get flag := by
  cases action with
  | archive =>
      cases archived : record.flags.archived <;> cases flag <;>
        simp [changesFor, mutationFor, Mutation.effect, Flags.assign, Flags.set, Flags.get,
          archived] at touched ⊢
  | _ =>
      cases flag <;>
        simp [changesFor, mutationFor, Mutation.effect, Flags.assign, Flags.set, Flags.get]
          at touched same ⊢ <;>
        simp [same]

/-- A request leaves the flags alone that its action leaves alone. -/
theorem get_effect_of_not_mem {action : Action} {record : Notification} {flag : Flag}
    (untouched : flag ∉ (changesFor action record).map Prod.fst) (remote : Flags) :
    ((mutationFor action record).effect remote).get flag = remote.get flag := by
  cases action with
  | archive =>
      cases archived : record.flags.archived <;> cases flag <;>
        simp [changesFor, mutationFor, Mutation.effect, Flags.get, archived] at untouched ⊢
  | _ =>
      cases flag <;>
        simp [changesFor, mutationFor, Mutation.effect, Flags.get] at untouched ⊢

/-- An action does to a notification what its request does at the service. -/
theorem assign_changesFor (action : Action) (record : Notification) :
    record.flags.assign (changesFor action record) =
      (mutationFor action record).effect record.flags := by
  refine Flags.ext_get fun flag => ?_
  by_cases touched : flag ∈ (changesFor action record).map Prod.fst
  · exact (get_effect_of_mem touched rfl record.flags).symm
  · rw [Flags.get_assign_of_not_mem touched, get_effect_of_not_mem touched]

/-! ## Several notifications -/

/-- No notification occurs in two versions. -/
def Consistent (records : List Notification) : Prop :=
  ∀ first ∈ records, ∀ second ∈ records, first.id = second.id → first = second

variable {action : Action} {records : List Notification}

theorem changes_at (consistent : Consistent records) {record : Notification}
    (member : record ∈ records) :
    Assignment.at (make action records).changes record.id = changesFor action record := by
  have found : (make action records).changes.lookup record.id = some (changesFor action record) :=
    Keyed.lookup_ofList_of_mem
      (fun first one second two same => by rw [consistent first one second two same]) member
  rw [Assignment.at, found, Option.getD_some]

theorem previous_at (consistent : Consistent records) {record : Notification}
    (member : record ∈ records) :
    Assignment.at (make action records).previous record.id = previousFor action record := by
  have found : (make action records).previous.lookup record.id = some (previousFor action record) :=
    Keyed.lookup_ofList_of_mem
      (fun first one second two same => by rw [consistent first one second two same]) member
  rw [Assignment.at, found, Option.getD_some]

theorem changes_at_of_not_mem {id : Int} (absent : ∀ record ∈ records, record.id ≠ id) :
    Assignment.at (make action records).changes id = [] := by
  have missing : (make action records).changes.lookup id = none :=
    Keyed.lookup_ofList_of_not_mem absent
  rw [Assignment.at, missing, Option.getD_none]

theorem previous_at_of_not_mem {id : Int} (absent : ∀ record ∈ records, record.id ≠ id) :
    Assignment.at (make action records).previous id = [] := by
  have missing : (make action records).previous.lookup id = none :=
    Keyed.lookup_ofList_of_not_mem absent
  rw [Assignment.at, missing, Option.getD_none]

theorem distinct_changes (action : Action) (records : List Notification) :
    ((make action records).changes.map Prod.fst).Nodup :=
  Keyed.nodup_ofList _

theorem distinct_previous (action : Action) (records : List Notification) :
    ((make action records).previous.map Prod.fst).Nodup :=
  Keyed.nodup_ofList _

/-- Values for notifications whose numbers fit can be written. -/
theorem writable_ofList {values : Notification → FlagChanges} (given : ∀ record, values record ≠ [])
    (fits : ∀ record ∈ records, Width.fits64 record.id = true) :
    Assignment.Writable (Keyed.ofList (records.map fun record => (record.id, values record))) where
  distinct := Keyed.nodup_ofList _
  fits := by
    intro change member
    obtain ⟨record, last, rfl⟩ := Keyed.isLast_map.1 (Keyed.mem_ofList.1 member)
    exact fits record last.mem
  given := by
    intro change member
    obtain ⟨record, _, rfl⟩ := Keyed.isLast_map.1 (Keyed.mem_ofList.1 member)
    exact given record

theorem writable_changes (fits : ∀ record ∈ records, Width.fits64 record.id = true) :
    Assignment.Writable (make action records).changes :=
  writable_ofList (changesFor_ne_nil action) fits

theorem writable_previous (fits : ∀ record ∈ records, Width.fits64 record.id = true) :
    Assignment.Writable (make action records).previous :=
  writable_ofList (previousFor_ne_nil action) fits

theorem ofRecords_eq_ok {plan : Plan} (planned : ofRecords action records = .ok plan) :
    plan = make action records ∧ (action.isSingle = true → records.length ≤ 1) := by
  rw [ofRecords] at planned
  split at planned
  · cases planned
  · next several =>
      refine ⟨(Except.ok.inj planned).symm, fun single => ?_⟩
      simpa [single] using several

/-- A plan is empty if it was made for no notifications. -/
theorem isEmpty_make (action : Action) {record : Notification} (member : record ∈ records) :
    (make action records).isEmpty = false := by
  have present : record.id ∈ (make action records).changes.map Prod.fst :=
    Keyed.mem_keys_ofList.2 ⟨record, member, rfl⟩
  cases empty : (make action records).changes with
  | nil => simp [empty] at present
  | cons => simp [isEmpty, empty]

/-- The numbers of a plan are those of its notifications. -/
theorem mem_ids {id : Int} :
    id ∈ (make action records).ids ↔ ∃ record ∈ records, record.id = id :=
  Keyed.mem_keys_ofList

/-- A plan for notifications with distinct numbers has these numbers in their order. -/
theorem ids_make (action : Action) (distinct : (records.map Notification.id).Nodup) :
    (make action records).ids = records.map Notification.id := by
  have keys : (records.map fun record => (record.id, changesFor action record)).map Prod.fst =
      records.map Notification.id := by
    rw [List.map_map]
    rfl
  rw [ids, make, Keyed.map_fst_ofList_of_nodup (keys ▸ distinct), keys]

/-- The request of an action on several notifications does not depend on them. -/
theorem mutationFor_of_not_isSingle (several : action.isSingle = false)
    (first second : Notification) : mutationFor action first = mutationFor action second := by
  cases action <;> first | rfl | simp [Action.isSingle] at several

/-- The request of a plan does to each of its notifications what the action
does. -/
theorem mutation_eq (single : action.isSingle = true → records.length ≤ 1) {record : Notification}
    (member : record ∈ records) :
    (make action records).mutation = some (mutationFor action record) := by
  have filled : records ≠ [] := List.ne_nil_of_mem member
  obtain ⟨last, found⟩ : ∃ last, records.getLast? = some last :=
    ⟨_, List.getLast?_eq_some_getLast filled⟩
  have present := List.mem_of_getLast? found
  have same : mutationFor action last = mutationFor action record := by
    cases several : action.isSingle with
    | false => exact mutationFor_of_not_isSingle several last record
    | true =>
        have one : records.length = 1 :=
          Nat.le_antisymm (single several) (List.length_pos_of_mem member)
        obtain ⟨only, rfl⟩ := List.length_eq_one_iff.1 one
        rw [List.mem_singleton.1 present, List.mem_singleton.1 member]
  rw [make, found, Option.map_some, same]

/-! ## Notifications of a store -/

variable {store : Store}

theorem known_of_stored (sound : store.Sound)
    (stored : ∀ record ∈ records, ∃ row ∈ store.notifications.rows,
      Notification.ofRow row = .ok record) :
    ∀ record ∈ records, ∃ row ∈ store.notifications.rows, record = row.read := by
  intro record member
  obtain ⟨row, present, read⟩ := stored record member
  rw [(sound.notifications row present).ofRow_eq] at read
  exact ⟨row, present, (Except.ok.inj read).symm⟩

theorem fits_of_known (sound : store.Sound)
    (known : ∀ record ∈ records, ∃ row ∈ store.notifications.rows, record = row.read) :
    ∀ record ∈ records, Width.fits64 record.id = true := by
  intro record member
  obtain ⟨row, present, rfl⟩ := known record member
  rw [(sound.notifications row present).id_read]
  exact (sound.notifications row present).fits_id

/-- Notifications as they are stored occur in one version. -/
theorem consistent_of_stored (sound : store.Sound)
    (known : ∀ record ∈ records, ∃ row ∈ store.notifications.rows, record = row.read) :
    Consistent records := by
  intro first one second two same
  obtain ⟨row, present, rfl⟩ := known first one
  obtain ⟨other, there, rfl⟩ := known second two
  rw [(sound.notifications row present).id_read, (sound.notifications other there).id_read] at same
  rw [Table.eq_of_id_eq present there same]

/-- Performing a plan does to the row of a notification what its action does. -/
theorem flags_assigned_of_mem (action : Action) (sound : store.Sound)
    (known : ∀ record ∈ records, ∃ row ∈ store.notifications.rows, record = row.read) {row : Row}
    (present : row ∈ store.notifications.rows) {record : Notification} (member : record ∈ records)
    (same : record.id = row.id) (text : String) :
    record = row.read ∧ (row.assigned text (make action records).changes).flags =
      row.flags.assign (changesFor action record) := by
  constructor
  · obtain ⟨other, there, rfl⟩ := known record member
    rw [(sound.notifications other there).id_read] at same
    rw [Table.eq_of_id_eq there present same]
  · rw [Row.flags_assigned (distinct_changes action records), ← same,
      changes_at (consistent_of_stored sound known) member]

/-- After a plan was performed there is a row for each of its notifications, which
its action was done to. -/
theorem exists_row_assigned (action : Action) (sound : store.Sound)
    (known : ∀ record ∈ records, ∃ row ∈ store.notifications.rows, record = row.read)
    {record : Notification} (member : record ∈ records) (text : String) :
    ∃ row ∈ (store.assigned text (make action records).changes).notifications.rows,
      row.id = record.id ∧ row.flags = record.flags.assign (changesFor action record) := by
  obtain ⟨row, present, same⟩ := known record member
  have number : record.id = row.id := same ▸ (sound.notifications row present).id_read
  have before : record.flags = row.flags := same ▸ (sound.notifications row present).flags_read
  refine ⟨row.assigned text (make action records).changes, ?_, ?_, ?_⟩
  · rw [Store.rows_assigned]
    exact List.mem_map_of_mem present
  · rw [Row.id_assigned, number]
  · rw [before]
    exact (flags_assigned_of_mem action sound known present member number text).2

/-- Performing a plan leaves the rows of other notifications alone. -/
theorem assigned_of_not_mem {row : Row} (absent : ∀ record ∈ records, record.id ≠ row.id)
    (text : String) : row.assigned text (make action records).changes = row := by
  apply Row.assigned_of_not_mem
  intro inside
  obtain ⟨record, member, same⟩ := mem_ids.1 inside
  exact absent record member same

/-- Writing back undoes an action in every row. -/
theorem unfetched_undone (sound : store.Sound)
    (known : ∀ record ∈ records, ∃ row ∈ store.notifications.rows, record = row.read) {row : Row}
    (present : row ∈ store.notifications.rows) (text : String) :
    ((row.assigned text (make action records).changes).assigned text
      (make action records).previous).unfetched = row.unfetched := by
  have consistent := consistent_of_stored sound known
  have back : (row.flags.assign (Assignment.at (make action records).changes row.id)).assign
      (Assignment.at (make action records).previous row.id) = row.flags := by
    by_cases touched : ∃ record ∈ records, record.id = row.id
    · obtain ⟨record, member, same⟩ := touched
      obtain ⟨other, there, rfl⟩ := known record member
      rw [(sound.notifications other there).id_read] at same
      obtain rfl := Table.eq_of_id_eq there present same
      have id := (sound.notifications other there).id_read
      have flags := (sound.notifications other there).flags_read
      rw [← id, changes_at consistent member, previous_at consistent member, ← flags]
      exact assign_previousFor action other.read
    · have absent : ∀ record ∈ records, record.id ≠ row.id :=
        fun record member same => touched ⟨record, member, same⟩
      rw [changes_at_of_not_mem absent, previous_at_of_not_mem absent]
      rfl
  rw [Row.unfetched_assigned (distinct_previous action records), Row.id_assigned,
    Row.flags_assigned (distinct_changes action records), back,
    Row.unfetched_assigned (distinct_changes action records)]
  rfl

/-- An action that is undone leaves nothing in the store but times of writing. -/
theorem alike_undone (sound : store.Sound)
    (known : ∀ record ∈ records, ∃ row ∈ store.notifications.rows, record = row.read)
    (action : Action) (text : String) :
    ((store.assigned text (make action records).changes).assigned text
      (make action records).previous).notifications.Alike store.notifications := by
  rw [Table.Alike, Store.rows_assigned, Store.rows_assigned, List.map_map, List.map_map]
  apply List.map_congr_left
  intro row present
  exact unfetched_undone sound known present text

end Plan

end Triage
