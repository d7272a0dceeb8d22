import Mathlib.Data.String.Basic
import Mathlib.Order.WithBot
import Triage.Proofs.Store.Runs

/-!
# The order of views

Views list their rows in one strict order, by the time of the last update and then
by number.  A view is therefore the part of the view of all rows that it holds,
and not only one of its arrangements.
-/

namespace Triage

/-- A stable sort keeps the order of a list among items that it does not tell
apart. -/
theorem StableSort.pairwise_of_pairwise {α : Type} {le : α → α → Bool}
    (trans : ∀ first second third, le first second = true → le second third = true →
      le first third = true)
    (total : ∀ first second, (le first second || le second first) = true)
    {before : α → α → Prop} {items : List α} (ordered : items.Pairwise before) :
    (items.mergeSort le).Pairwise fun first second =>
      le first second = true ∧ (le second first = true → before first second) := by
  rw [List.pairwise_iff_forall_sublist]
  intro first second inside
  have sorted := List.pairwise_mergeSort trans total items
  have forward := List.pairwise_iff_forall_sublist.1 sorted inside
  refine ⟨forward, fun backward => ?_⟩
  -- The items of the same place are in the sorted list as they are in the list.
  let tied : α → Bool := fun item => le first item && le item first
  have classSorted : (items.filter tied).Pairwise fun one other => le one other = true := by
    refine List.pairwise_of_forall_mem_list fun one here other there => ?_
    obtain ⟨_, oneTied⟩ := List.mem_filter.1 here
    obtain ⟨_, otherTied⟩ := List.mem_filter.1 there
    simp only [tied, Bool.and_eq_true] at oneTied otherTied
    exact trans one first other oneTied.2 otherTied.1
  have classInside : (items.filter tied).Sublist ((items.mergeSort le).filter tied) := by
    have kept := (List.sublist_mergeSort trans total classSorted List.filter_sublist).filter tied
    simpa only [List.filter_filter, Bool.and_self] using kept
  have sameClass : items.filter tied = (items.mergeSort le).filter tied :=
    classInside.eq_of_length ((List.mergeSort_perm items le).filter tied).length_eq.symm
  have reflexive : le first first = true := by simpa using total first first
  have pairInside := inside.filter tied
  rw [← sameClass] at pairInside
  simp only [tied, List.filter_cons, reflexive, forward, backward, Bool.and_self, if_true,
    List.filter_nil] at pairInside
  exact List.pairwise_iff_forall_sublist.1 ordered (pairInside.trans List.filter_sublist)

namespace Row

/-- What a view is ordered by: no update is below every time. -/
def updated (row : Row) : WithBot String :=
  match row.updatedAt with
  | none => ⊥
  | some text => text

theorem comesFirst_iff {first second : Row} :
    first.comesFirst second = true ↔ second.updated ≤ first.updated := by
  rw [comesFirst, updated, updated]
  cases first.updatedAt <;> cases second.updatedAt <;> simp [-String.lt_iff_ltb]

theorem comesFirst_trans (first second third : Row) (one : first.comesFirst second = true)
    (two : second.comesFirst third = true) : first.comesFirst third = true := by
  rw [comesFirst_iff] at one two ⊢
  exact two.trans one

theorem comesFirst_total (first second : Row) :
    (first.comesFirst second || second.comesFirst first) = true := by
  rw [Bool.or_eq_true, comesFirst_iff, comesFirst_iff]
  exact le_total _ _

/-- A row is before another one in a view: it was updated later, or at the same time
and has the smaller number. -/
def Before (first second : Row) : Prop :=
  second.updated < first.updated ∨ (second.updated = first.updated ∧ first.id < second.id)

theorem Before.asymm {first second : Row} (before : first.Before second) :
    ¬ second.Before first := by
  rintro (later | ⟨same, smaller⟩) <;> rcases before with earlier | ⟨equal, less⟩
  · exact lt_asymm later earlier
  · exact absurd equal later.ne'
  · exact absurd same earlier.ne'
  · omega

end Row

namespace Table

/-- A view is in strict order. -/
theorem pairwise_view (table : Table) (view : View) : (table.view view).Pairwise Row.Before := by
  have ascending := table.ascending.sublist
    (List.filter_sublist (p := fun row => view.holds row.flags))
  have stable := StableSort.pairwise_of_pairwise Row.comesFirst_trans Row.comesFirst_total
    ascending
  refine stable.imp fun {first second} places => ?_
  rw [Row.comesFirst_iff, Row.comesFirst_iff] at places
  obtain ⟨later, tied⟩ := places
  rcases later.lt_or_eq with strictly | same
  · exact .inl strictly
  · exact .inr ⟨same, tied same.ge⟩

theorem view_perm (table : Table) (view : View) :
    (table.view view).Perm (table.rows.filter fun row => view.holds row.flags) :=
  List.mergeSort_perm _ _

/-- A view is the part of the view of all rows that it holds. -/
theorem view_eq_filter (table : Table) (view : View) :
    table.view view = (table.view .all).filter fun row => view.holds row.flags := by
  have every : (table.view .all).Perm table.rows := by
    simpa [View.holds] using table.view_perm .all
  refine List.Perm.eq_of_pairwise (fun first second _ _ one two => absurd two one.asymm)
    (table.pairwise_view view)
    ((table.pairwise_view .all).sublist List.filter_sublist) ?_
  exact (table.view_perm view).trans (every.symm.filter _)

end Table

namespace Store

/-- A view shows what its rows hold, in whichever order these are taken. -/
theorem shown_perm (store : Store) (view : View) :
    (store.shown view).Perm
      ((store.notifications.rows.filter fun row => view.holds row.flags).map Row.read) :=
  (store.notifications.view_perm view).map Row.read

theorem shown_all_perm (store : Store) :
    (store.shown .all).Perm (store.notifications.rows.map Row.read) := by
  simpa [View.holds] using store.shown_perm .all

end Store

end Triage
