import Mathlib.Data.List.Perm.Basic
import Triage.Proofs.Action.Session

/-!
# Plans that are apart

Two plans are apart if no flag of a notification is set by both.  Such plans can be
carried out in any order, and writing one back leaves the others in force.
-/

namespace Triage

/-! ## Plans and rows -/

namespace Flags

theorem get_assign_congr {first second : Flags} {flag : Flag}
    (same : first.get flag = second.get flag) (changes : FlagChanges) :
    (first.assign changes).get flag = (second.assign changes).get flag := by
  induction changes generalizing first second with
  | nil => exact same
  | cons change rest ih =>
      rw [assign_cons, assign_cons]
      apply ih
      rw [get_set, get_set, same]

/-- Values for different flags can be assigned in either order. -/
theorem assign_comm {one two : FlagChanges}
    (apart : ∀ flag ∈ one.map Prod.fst, flag ∉ two.map Prod.fst) (flags : Flags) :
    (flags.assign one).assign two = (flags.assign two).assign one := by
  apply Flags.ext_get
  intro flag
  by_cases set : flag ∈ one.map Prod.fst
  · have unset := apart flag set
    rw [get_assign_of_not_mem unset]
    exact get_assign_congr (get_assign_of_not_mem unset flags).symm one
  · rw [get_assign_of_not_mem set]
    exact get_assign_congr (get_assign_of_not_mem set flags) two

/-- The flags of a notification after plans, one after the other. -/
def changedBy (flags : Flags) (id : Int) (plans : List Plan) : Flags :=
  plans.foldl (fun flags plan => flags.assign (Assignment.at plan.changes id)) flags

theorem changedBy_concat (flags : Flags) (id : Int) (plans : List Plan) (plan : Plan) :
    flags.changedBy id (plans ++ [plan]) =
      (flags.changedBy id plans).assign (Assignment.at plan.changes id) := by
  rw [changedBy, List.foldl_append]
  rfl

end Flags

/-- A row whose flags were set by plans, one after the other. -/
def Row.changedBy (row : Row) (plans : List Plan) : Row :=
  { row with flags := row.flags.changedBy row.id plans }

namespace Plan

/-- A plan sets a flag of a notification. -/
def Sets (plan : Plan) (id : Int) (flag : Flag) : Prop :=
  flag ∈ (Assignment.at plan.changes id).map Prod.fst

/-- No flag of a notification is set by both plans. -/
def Apart (first second : Plan) : Prop :=
  ∀ id flag, first.Sets id flag → ¬ second.Sets id flag

theorem Apart.symm {first second : Plan} (apart : first.Apart second) : second.Apart first :=
  fun id flag two one => apart id flag one two

/-- The order of plans that are apart does not matter. -/
theorem changedBy_perm {first second : List Plan} (same : first.Perm second)
    (apart : first.Pairwise Apart) (flags : Flags) (id : Int) :
    flags.changedBy id first = flags.changedBy id second := by
  induction same generalizing flags with
  | nil => rfl
  | cons plan _ ih => exact ih (List.pairwise_cons.1 apart).2 _
  | swap one two rest =>
      have disjoint := (List.pairwise_cons.1 apart).1 one List.mem_cons_self
      exact congrArg (Flags.changedBy · id rest) (Flags.assign_comm (disjoint id) flags)
  | trans first_second _ ih_first ih_second =>
      have still := (first_second.pairwise_iff Apart.symm).1 apart
      exact (ih_first apart flags).trans (ih_second still flags)

theorem get_changedBy_of_not_sets {plans : List Plan} {id : Int} {flag : Flag}
    (unset : ∀ plan ∈ plans, ¬ plan.Sets id flag) (flags : Flags) :
    (flags.changedBy id plans).get flag = flags.get flag := by
  induction plans generalizing flags with
  | nil => rfl
  | cons plan rest ih =>
      calc
        (flags.changedBy id (plan :: rest)).get flag =
            (flags.assign (Assignment.at plan.changes id)).get flag :=
          ih (fun other member => unset other (List.mem_cons_of_mem _ member)) _
        _ = flags.get flag := Flags.get_assign_of_not_mem (unset plan List.mem_cons_self) flags

/-- Writing back gives each flag that a plan sets in a row the value that the row
has. -/
structure Reversible (plan : Plan) (row : Row) : Prop where
  same : (Assignment.at plan.previous row.id).map Prod.fst =
    (Assignment.at plan.changes row.id).map Prod.fst
  restores : ∀ flag, plan.Sets row.id flag → ∀ flags : Flags,
    (flags.assign (Assignment.at plan.previous row.id)).get flag = row.flags.get flag

/-- Writing back undoes a plan that is apart from the others in force. -/
theorem Reversible.undone {plan : Plan} {row : Row} (reversible : plan.Reversible row)
    {others : List Plan} (apart : ∀ other ∈ others, plan.Apart other) :
    (row.flags.changedBy row.id (others ++ [plan])).assign (Assignment.at plan.previous row.id) =
      row.flags.changedBy row.id others := by
  rw [Flags.changedBy_concat]
  apply Flags.ext_get
  intro flag
  by_cases set : plan.Sets row.id flag
  · have unset : ∀ other ∈ others, ¬ other.Sets row.id flag :=
      fun other member => apart other member row.id flag set
    rw [reversible.restores flag set, get_changedBy_of_not_sets unset]
  · rw [Flags.get_assign_of_not_mem (reversible.same ▸ set), Flags.get_assign_of_not_mem set]

/-- A plan that can be written into a store and written back. -/
structure Sound (plan : Plan) (store : Store) : Prop where
  changes : Assignment.Writable plan.changes
  previous : Assignment.Writable plan.previous
  ids : plan.previous.map Prod.fst = plan.ids
  reversible : ∀ row ∈ store.notifications.rows, plan.Reversible row

variable {action : Action} {records : List Notification}

/-- A plan for notifications as they are stored can be written back into any store
in which the flags that it sets have the same values. -/
theorem sound_make {first current : Store} (sound : current.Sound)
    (known : ∀ record ∈ records, ∃ row ∈ current.notifications.rows, record = row.read)
    (agree : ∀ row ∈ first.notifications.rows, ∃ now ∈ current.notifications.rows,
      now.id = row.id ∧ ∀ flag, (make action records).Sets row.id flag →
        now.flags.get flag = row.flags.get flag) :
    (make action records).Sound first where
  changes := writable_changes (fits_of_known sound known)
  previous := writable_previous (fits_of_known sound known)
  ids := by
    rw [ids, make, Keyed.map_fst_ofList, Keyed.map_fst_ofList, List.map_map, List.map_map]
    rfl
  reversible := by
    intro row present
    obtain ⟨now, there, number, values⟩ := agree row present
    have consistent := consistent_of_stored sound known
    by_cases concerned : ∃ record ∈ records, record.id = row.id
    · obtain ⟨record, member, same⟩ := concerned
      obtain ⟨rfl, _⟩ := flags_assigned_of_mem action sound known there member
        (same.trans number.symm) ""
      have changes : Assignment.at (make action records).changes row.id =
          changesFor action now.read :=
        same ▸ changes_at consistent member
      have previous : Assignment.at (make action records).previous row.id =
          previousFor action now.read :=
        same ▸ previous_at consistent member
      refine ⟨?_, ?_⟩
      · rw [changes, previous, map_fst_previousFor]
      · intro flag set flags
        rw [← values flag set, ← (sound.notifications now there).flags_read, previous]
        rw [Sets, changes] at set
        exact get_assign_previousFor set flags
    · have absent : ∀ record ∈ records, record.id ≠ row.id :=
        fun record member same => concerned ⟨record, member, same⟩
      have changes : Assignment.at (make action records).changes row.id = [] :=
        changes_at_of_not_mem absent
      have previous : Assignment.at (make action records).previous row.id = [] :=
        previous_at_of_not_mem absent
      refine ⟨by rw [changes, previous], ?_⟩
      intro flag set
      simp [Sets, changes] at set

end Plan

/-! ## Stores under plans -/

namespace Store

/-- A store holds, apart from the times of writing, the rows of another one as
plans changed them. -/
def Under (initial : Store) (plans : List Plan) (store : Store) : Prop :=
  store.notifications.rows.map Row.unfetched =
    initial.notifications.rows.map fun row => (row.changedBy plans).unfetched

variable {initial store : Store} {plans : List Plan} {plan : Plan}

theorem map_unfetched_assigned {changes : Assignment} (distinct : (changes.map Prod.fst).Nodup)
    (store : Store) (text : String) :
    (store.assigned text changes).notifications.rows.map Row.unfetched =
      (store.notifications.rows.map Row.unfetched).map fun row =>
        { row with flags := row.flags.assign (changes.at row.id) } := by
  rw [rows_assigned, List.map_map, List.map_map]
  exact List.map_congr_left fun row _ => Row.unfetched_assigned distinct row text

theorem under_nil (store : Store) : store.Under [] store :=
  rfl

theorem Under.perm {others : List Plan} (under : initial.Under plans store)
    (same : plans.Perm others) (apart : plans.Pairwise Plan.Apart) :
    initial.Under others store := by
  refine Eq.trans under (List.map_congr_left fun row _ => ?_)
  rw [Row.changedBy, Row.changedBy, Plan.changedBy_perm same apart]

/-- Performing a plan puts it in force. -/
theorem Under.performed (under : initial.Under plans store) (sound : plan.Sound initial)
    (text : String) : initial.Under (plans ++ [plan]) (store.assigned text plan.changes) := by
  rw [Under, map_unfetched_assigned sound.changes.distinct, under, List.map_map]
  refine List.map_congr_left fun row _ => ?_
  rw [Row.changedBy, Flags.changedBy_concat]
  rfl

/-- Writing back takes a plan out of force that is apart from the others. -/
theorem Under.undone (under : initial.Under (plans ++ [plan]) store) (sound : plan.Sound initial)
    (apart : ∀ other ∈ plans, plan.Apart other) (text : String) :
    initial.Under plans (store.assigned text plan.previous) := by
  rw [Under, map_unfetched_assigned sound.previous.distinct, under, List.map_map]
  refine List.map_congr_left fun row present => ?_
  simp only [Row.changedBy, ← (sound.reversible row present).undone apart]
  rfl

theorem Under.exists_row (under : initial.Under plans store) {old : Row}
    (present : old ∈ initial.notifications.rows) :
    ∃ row ∈ store.notifications.rows, row.id = old.id ∧
      row.flags = old.flags.changedBy old.id plans := by
  have there : (old.changedBy plans).unfetched ∈ store.notifications.rows.map Row.unfetched :=
    under ▸ List.mem_map_of_mem present
  obtain ⟨row, member, same⟩ := List.mem_map.1 there
  have number : row.unfetched.id = (old.changedBy plans).unfetched.id := by rw [same]
  have flags : row.unfetched.flags = (old.changedBy plans).unfetched.flags := by rw [same]
  exact ⟨row, member, number, flags⟩

/-- A row stays as it is if nothing is written under its number. -/
theorem mem_assigned_of_not_mem {changes : Assignment} {row : Row}
    (present : row ∈ store.notifications.rows) (absent : row.id ∉ changes.map Prod.fst)
    (text : String) : row ∈ (store.assigned text changes).notifications.rows := by
  rw [rows_assigned, ← Row.assigned_of_not_mem absent text]
  exact List.mem_map_of_mem present

end Store

end Triage
