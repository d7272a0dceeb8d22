import Mathlib.Data.List.Sort
import Triage.Proofs.Screen.SidebarCursor

/-!
# Where the cursor of the sidebar goes

Headings and separators stand between the entries that can be selected, also several
in a row.  The cursor goes over as many of the latter as it is asked to, in either
direction, and over all that there are if there are fewer.
-/

namespace Triage

namespace Sidebar

variable {items : List SidebarItem} {position : Int}

/-- The positions of the entries that can be selected, from above to below. -/
def stops (items : List SidebarItem) : List Int :=
  ((List.range items.length).filter fun position =>
    items[position]?.any SidebarItem.selectable).map Int.ofNat

/-- The entry at a position can be selected. -/
def Stop (items : List SidebarItem) (position : Int) : Prop :=
  ∃ item, entryAt? items position = some item ∧ item.selectable = true

theorem mem_stops : position ∈ stops items ↔ Stop items position := by
  simp only [stops, Stop, List.mem_map, List.mem_filter, List.mem_range, entryAt?_eq_some]
  constructor
  · rintro ⟨place, ⟨_, selectable⟩, rfl⟩
    obtain ⟨item, found, allowed⟩ := (Option.any_eq_true _ _).1 selectable
    exact ⟨item, ⟨Int.natCast_nonneg place, found⟩, allowed⟩
  · rintro ⟨item, ⟨nonneg, found⟩, allowed⟩
    refine ⟨position.toNat, ⟨(List.getElem?_eq_some_iff.1 found).1, ?_⟩,
      Int.toNat_of_nonneg nonneg⟩
    rw [found]
    exact allowed

theorem pairwise_stops (items : List SidebarItem) : (stops items).Pairwise (· < ·) := by
  rw [stops, List.pairwise_map]
  exact (List.pairwise_lt_range.filter _).imp fun less => Int.ofNat_lt.2 less

/-- The positions of the entries that can be selected below an index, or above it, in
the order in which a walk from there comes to them. -/
def ahead (items : List SidebarItem) (down : Bool) (index : Int) : List Int :=
  if down then (stops items).filter fun position => index < position
  else ((stops items).filter fun position => position < index).reverse

end Sidebar

namespace Screen

open Sidebar

variable {items : List SidebarItem} {down : Bool} {index next position : Int}

instance (down : Bool) : Std.Asymm (Beyond down) where
  asymm first second before after := by
    cases down <;> simp only [beyond_true, beyond_false] at before after <;> omega

theorem Beyond.trans (first : Beyond down index next) (second : Beyond down next position) :
    Beyond down index position := by
  cases down <;> simp only [beyond_true, beyond_false] at first second ⊢ <;> omega

theorem beyond_trichotomy (down : Bool) (next position : Int) :
    Beyond down position next ∨ position = next ∨ Beyond down next position := by
  cases down <;> simp only [beyond_true, beyond_false] <;> omega

theorem mem_ahead :
    position ∈ ahead items down index ↔ Beyond down index position ∧ Stop items position := by
  cases down <;> simp [ahead, mem_stops, and_comm]

theorem pairwise_ahead (items : List SidebarItem) (down : Bool) (index : Int) :
    (ahead items down index).Pairwise (Beyond down) := by
  cases down with
  | true => exact (pairwise_stops items).filter _
  | false =>
      rw [ahead, if_neg Bool.false_ne_true, List.pairwise_reverse]
      exact ((pairwise_stops items).filter _).imp beyond_false.2

/-- A walk goes over nothing that can be selected. -/
theorem not_stop_of_before_next
    (found : nextSelectable items down index = some next) (beyond : Beyond down index position)
    (before : Beyond down position next) : ¬ Stop items position := by
  rintro ⟨item, there, allowed⟩
  obtain ⟨nonneg, there⟩ := entryAt?_eq_some.1 there
  obtain ⟨inside, rfl⟩ := List.getElem?_eq_some_iff.1 there
  cases down with
  | true =>
      rw [beyond_true] at beyond before
      rw [nextSelectable_down, Option.ite_none_right_eq_some] at found
      obtain ⟨within, found⟩ := found
      obtain ⟨offset, located, rfl⟩ := Option.map_eq_some_iff.1 found
      obtain ⟨_, _, skipped⟩ := List.findIdx?_eq_some_iff_getElem.1 located
      have passed := skipped (position - (index + 1)).toNat (by omega)
      rw [List.getElem_drop] at passed
      apply passed
      convert allowed using 3
      omega
  | false =>
      rw [beyond_false] at beyond before
      rw [nextSelectable_up, Option.ite_none_right_eq_some] at found
      obtain ⟨within, found⟩ := found
      obtain ⟨offset, located, rfl⟩ := Option.map_eq_some_iff.1 found
      obtain ⟨_, _, skipped⟩ := List.findIdx?_eq_some_iff_getElem.1 located
      have passed := skipped (index - 1 - position).toNat (by omega)
      rw [List.getElem_reverse, List.getElem_take] at passed
      apply passed
      convert allowed using 3
      rw [List.length_take]
      omega

/-- The entry that a walk comes to next is the first ahead, and the others are ahead of
it. -/
theorem ahead_of_nextSelectable (found : nextSelectable items down index = some next) :
    ahead items down index = next :: ahead items down next := by
  obtain ⟨beyond, stop⟩ := nextSelectable_eq_some found
  apply List.Pairwise.eq_of_mem_iff (pairwise_ahead items down index)
  · exact List.pairwise_cons.2
      ⟨fun position member => (mem_ahead.1 member).1, pairwise_ahead items down next⟩
  · intro position
    rw [mem_ahead, List.mem_cons, mem_ahead]
    constructor
    · rintro ⟨after, there⟩
      rcases beyond_trichotomy down next position with before | same | behind
      · exact absurd there (not_stop_of_before_next found after before)
      · exact .inl same
      · exact .inr ⟨behind, there⟩
    · rintro (rfl | ⟨behind, there⟩)
      · exact ⟨beyond, stop⟩
      · exact ⟨beyond.trans behind, there⟩

/-- A walk within the sidebar ends only where there is nothing ahead. -/
theorem ahead_of_nextSelectable_eq_none (nonneg : 0 ≤ index) (within : index < items.length)
    (ended : nextSelectable items down index = none) : ahead items down index = [] := by
  rw [List.eq_nil_iff_forall_not_mem]
  intro position member
  obtain ⟨beyond, item, there, allowed⟩ := mem_ahead.1 member
  rw [selectable_of_nextSelectable_eq_none nonneg within ended beyond there] at allowed
  cases allowed

/-- A walk goes as many entries ahead as it is asked to, or to the last one. -/
theorem getElem?_walk (down : Bool) (nonneg : 0 ≤ index) (within : index < items.length)
    (count : Nat) :
    (index :: ahead items down index)[min count (ahead items down index).length]? =
      some (walk items down count index) := by
  induction count generalizing index with
  | zero => rw [Nat.zero_min, walk, List.getElem?_cons_zero]
  | succ count ih =>
      rw [walk]
      cases found : nextSelectable items down index with
      | some next =>
          obtain ⟨_, item, there, _⟩ := nextSelectable_eq_some found
          obtain ⟨nonneg, within⟩ := exists_entryAt?_iff.1 ⟨item, there⟩
          rw [ahead_of_nextSelectable found, List.length_cons, Nat.add_min_add_right,
            List.getElem?_cons_succ]
          exact ih nonneg within
      | none => simp [ahead_of_nextSelectable_eq_none nonneg within found]

variable {screen : Screen}

/-- The positions that the cursor of the sidebar can go to in the direction of a step,
the nearest first. -/
def sidebarAhead (screen : Screen) (delta : Int) : List Int :=
  ahead screen.sidebar (0 < delta) screen.sidebarIndex

/-- From an entry the cursor of the sidebar goes over as many entries as the step is
long, or to the last one that can be selected.  Nothing else changes and nothing is
carried out, also while the list cannot be narrowed. -/
theorem respond_moveSidebar (inside : screen.OnEntry) (delta : Int) :
    ∃ index,
      screen.respond (.moveSidebar delta) = .ok ({ screen with sidebarIndex := index }, []) ∧
      (delta = 0 ∨ screen.sidebarAhead delta = [] → index = screen.sidebarIndex) ∧
      (delta ≠ 0 → screen.sidebarAhead delta ≠ [] →
        (screen.sidebarAhead delta)[
          min delta.natAbs (screen.sidebarAhead delta).length - 1]? = some index) ∧
      (index ≠ screen.sidebarIndex → Stop screen.sidebar index) := by
  have reached := getElem?_walk (0 < delta) inside.nonneg inside.within delta.natAbs
  refine ⟨walk screen.sidebar (0 < delta) delta.natAbs screen.sidebarIndex, ?_, ?_, ?_, ?_⟩
  · have answered : screen.respond (.moveSidebar delta) = .ok (screen.moveSidebar delta) := by
      rw [respond]
      split <;> rfl
    rw [answered, moveSidebar]
    split
    · next still =>
        rw [eq_of_beq still]
        rfl
    · rfl
  · rintro (rfl | nothing)
    · rfl
    · rw [sidebarAhead] at nothing
      simpa [nothing] using reached.symm
  · intro moves something
    rw [sidebarAhead] at something ⊢
    have count : 0 < delta.natAbs := Int.natAbs_pos.2 moves
    have length := List.length_pos_iff.2 something
    rwa [List.getElem?_cons, if_neg (by omega)] at reached
  · intro moved
    exact (walk_cases screen.sidebar (0 < delta) delta.natAbs screen.sidebarIndex).resolve_left
      moved

/-- A separator and a heading stand between the tabs and a pinned search, and another
separator before what is unread. -/
def betweenHeadings : Screen :=
  { pinned := [{ name := "mine", query := "is:starred" }]
    totals := { unread := 2 }
    sidebarIndex := 2 }

theorem respond_moveSidebar_betweenHeadings :
    betweenHeadings.OnEntry ∧
      betweenHeadings.sidebarAhead 2 = [3, 6, 8] ∧
      betweenHeadings.respond (.moveSidebar 2) =
        .ok ({ betweenHeadings with sidebarIndex := 6 }, []) ∧
      betweenHeadings.respond (.moveSidebar 9) =
        .ok ({ betweenHeadings with sidebarIndex := 8 }, []) := by
  have inside : betweenHeadings.OnEntry := ⟨by decide, by decide⟩
  obtain ⟨second, answered, _, reached, _⟩ := respond_moveSidebar inside 2
  obtain ⟨last, ended, _, exhausted, _⟩ := respond_moveSidebar inside 9
  obtain rfl : 6 = second := Option.some.inj (reached (by decide) (by decide))
  obtain rfl : 8 = last := Option.some.inj (exhausted (by decide) (by decide))
  exact ⟨inside, by decide, answered, ended⟩

end Screen
end Triage
