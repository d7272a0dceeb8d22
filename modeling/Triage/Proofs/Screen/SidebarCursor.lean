import Triage.Proofs.Screen.Cursor

/-!
# The cursor of the sidebar

Moving the cursor of the sidebar keeps it on an entry, and no other event moves it.
It stays on an entry as long as the sidebar keeps one for it: what is read from the
store, and what a synchronisation brings, may make the sidebar end before it.
-/

namespace Triage

namespace Sidebar

/-- The entry under a cursor, if there is one. -/
def entryAt? (items : List SidebarItem) (index : Int) : Option SidebarItem :=
  if 0 ≤ index then items[index.toNat]? else none

variable {items : List SidebarItem} {index : Int} {item : SidebarItem}

theorem entryAt?_eq_some : entryAt? items index = some item ↔
    0 ≤ index ∧ items[index.toNat]? = some item := by
  rw [entryAt?]
  split
  · next nonneg => simp [nonneg]
  · next negative => simp [negative]

/-- There is an entry under a cursor exactly within the sidebar. -/
theorem exists_entryAt?_iff :
    (∃ item, entryAt? items index = some item) ↔ 0 ≤ index ∧ index < items.length := by
  constructor
  · rintro ⟨item, found⟩
    obtain ⟨nonneg, found⟩ := entryAt?_eq_some.1 found
    have inside := (List.getElem?_eq_some_iff.1 found).1
    omega
  · rintro ⟨nonneg, within⟩
    have inside : index.toNat < items.length := by omega
    exact ⟨items[index.toNat], entryAt?_eq_some.2 ⟨nonneg, List.getElem?_eq_getElem inside⟩⟩

/-- Behind the heading of the views there is the tab of the inbox. -/
theorem entryAt?_items_one (counts : TabCounts) (pinned : List PinnedSearch)
    (totals : FacetTotals) :
    entryAt? (Sidebar.items counts pinned totals) 1 = some (.tab "inbox" counts.inbox) := rfl

end Sidebar

namespace Screen

open Sidebar

variable {items : List SidebarItem} {down : Bool} {index next : Int}

/-! ## Walking over entries -/

/-- One index lies beyond another in the direction of a walk. -/
def Beyond (down : Bool) (index other : Int) : Prop :=
  if down then index < other else other < index

@[simp] theorem beyond_true : Beyond true index next ↔ index < next := Iff.rfl

@[simp] theorem beyond_false : Beyond false index next ↔ next < index := by
  simp [Beyond]

theorem nextSelectable_down (items : List SidebarItem) (index : Int) :
    nextSelectable items true index =
      if 0 ≤ index + 1 ∧ index + 1 < items.length then
        ((items.drop (index + 1).toNat).findIdx? SidebarItem.selectable).map
          fun offset : Nat => index + 1 + offset
      else none := by
  simp only [nextSelectable, if_true, Bool.and_eq_true, decide_eq_true_eq]
  cases (items.drop (index + 1).toNat).findIdx? SidebarItem.selectable <;> rfl

theorem nextSelectable_up (items : List SidebarItem) (index : Int) :
    nextSelectable items false index =
      if 0 ≤ index - 1 ∧ index - 1 < items.length then
        ((items.take ((index - 1).toNat + 1)).reverse.findIdx? SidebarItem.selectable).map
          fun offset : Nat => index - 1 - offset
      else none := by
  simp only [nextSelectable, Bool.false_eq_true, if_false, Bool.and_eq_true, decide_eq_true_eq]
  cases (items.take ((index - 1).toNat + 1)).reverse.findIdx? SidebarItem.selectable <;> rfl

/-- The next entry can be selected and lies in the direction of the walk. -/
theorem nextSelectable_eq_some (found : nextSelectable items down index = some next) :
    Beyond down index next ∧
      ∃ item, entryAt? items next = some item ∧ item.selectable = true := by
  cases down with
  | true =>
      rw [nextSelectable_down, Option.ite_none_right_eq_some] at found
      obtain ⟨within, found⟩ := found
      obtain ⟨offset, located, rfl⟩ := Option.map_eq_some_iff.1 found
      obtain ⟨inside, selectable, _⟩ := List.findIdx?_eq_some_iff_getElem.1 located
      rw [List.getElem_drop] at selectable
      rw [List.length_drop] at inside
      refine ⟨by simp; omega, _, entryAt?_eq_some.2 ⟨by omega, ?_⟩, selectable⟩
      rw [List.getElem?_eq_some_iff]
      exact ⟨by omega, by congr 1; omega⟩
  | false =>
      rw [nextSelectable_up, Option.ite_none_right_eq_some] at found
      obtain ⟨within, found⟩ := found
      obtain ⟨offset, located, rfl⟩ := Option.map_eq_some_iff.1 found
      obtain ⟨inside, selectable, _⟩ := List.findIdx?_eq_some_iff_getElem.1 located
      rw [List.getElem_reverse, List.getElem_take] at selectable
      rw [List.length_reverse, List.length_take] at inside
      refine ⟨by simp; omega, _, entryAt?_eq_some.2 ⟨by omega, ?_⟩, selectable⟩
      rw [List.getElem?_eq_some_iff]
      refine ⟨by omega, ?_⟩
      congr 1
      rw [List.length_take]
      omega

/-- A walk within the sidebar ends only where no entry beyond can be selected. -/
theorem selectable_of_nextSelectable_eq_none (nonneg : 0 ≤ index) (within : index < items.length)
    (ended : nextSelectable items down index = none) {other : Int} {item : SidebarItem}
    (beyond : Beyond down index other) (found : entryAt? items other = some item) :
    item.selectable = false := by
  obtain ⟨position, found⟩ := entryAt?_eq_some.1 found
  obtain ⟨inside, rfl⟩ := List.getElem?_eq_some_iff.1 found
  cases down with
  | true =>
      rw [beyond_true] at beyond
      rw [nextSelectable_down, if_pos (by omega), Option.map_eq_none_iff,
        List.findIdx?_eq_none_iff] at ended
      apply ended
      rw [List.mem_drop_iff_getElem]
      exact ⟨other.toNat - (index + 1).toNat, by omega, by congr 1; omega⟩
  | false =>
      rw [beyond_false] at beyond
      rw [nextSelectable_up, if_pos (by omega), Option.map_eq_none_iff,
        List.findIdx?_eq_none_iff] at ended
      apply ended
      rw [List.mem_reverse, List.mem_take_iff_getElem]
      exact ⟨other.toNat, by omega, rfl⟩

/-- A walk ends where it began or on an entry that can be selected. -/
theorem walk_cases (items : List SidebarItem) (down : Bool) (count : Nat) (index : Int) :
    walk items down count index = index ∨
      ∃ item, entryAt? items (walk items down count index) = some item ∧
        item.selectable = true := by
  induction count generalizing index with
  | zero => exact .inl rfl
  | succ count ih =>
      rw [walk]
      split
      · next next found =>
          rcases ih next with stays | moved
          · rw [stays]
            exact .inr (nextSelectable_eq_some found).2
          · exact .inr moved
      · exact .inl rfl

/-- Further behind the end than one entry there is nowhere to walk to. -/
theorem walk_of_behind (behind : items.length < index) (down : Bool) (count : Nat) :
    walk items down count index = index := by
  have nowhere : nextSelectable items down index = none := by
    cases down with
    | true => rw [nextSelectable_down, if_neg (by omega)]
    | false => rw [nextSelectable_up, if_neg (by omega)]
  cases count with
  | zero => rfl
  | succ count => rw [walk, nowhere]

/-! ## Steps -/

variable {screen : Screen}

/-- What the sidebar is made of, and its cursor. -/
def sidebarPart (screen : Screen) : TabCounts × List PinnedSearch × FacetTotals × Int :=
  (screen.counts, screen.pinned, screen.totals, screen.sidebarIndex)

/-- The entry under the cursor of the sidebar. -/
def underCursor? (screen : Screen) : Option SidebarItem :=
  entryAt? screen.sidebar screen.sidebarIndex

/-- The cursor is on an entry of the sidebar. -/
structure OnEntry (screen : Screen) : Prop where
  nonneg : 0 ≤ screen.sidebarIndex
  within : screen.sidebarIndex < screen.sidebar.length

theorem onEntry_iff : screen.OnEntry ↔ ∃ item, screen.underCursor? = some item := by
  rw [underCursor?, exists_entryAt?_iff]
  exact ⟨fun inside => ⟨inside.nonneg, inside.within⟩, fun inside => ⟨inside.1, inside.2⟩⟩

theorem OnEntry.of_sidebarPart (inside : screen.OnEntry) {next : Screen}
    (same : next.sidebarPart = screen.sidebarPart) : next.OnEntry := by
  simp only [sidebarPart, Prod.mk.injEq] at same
  obtain ⟨counts, pinned, totals, index⟩ := same
  have sidebar : next.sidebar = screen.sidebar := by
    rw [Screen.sidebar, Screen.sidebar, counts, pinned, totals]
  constructor
  · rw [index]
    exact inside.nonneg
  · rw [index, sidebar]
    exact inside.within

theorem sidebarPart_selectItem (screen : Screen) (item : SidebarItem) :
    (selectItem screen item).1.sidebarPart = screen.sidebarPart := by
  cases item <;> rfl

theorem sidebarPart_activateSidebar (screen : Screen) :
    (activateSidebar screen).1.sidebarPart = screen.sidebarPart := by
  simp only [activateSidebar]
  split
  · exact sidebarPart_selectItem screen _
  · rfl

theorem sidebarPart_escape (screen : Screen) :
    (escape screen).1.sidebarPart = screen.sidebarPart := by
  simp only [escape, exitSearch, quiet]
  split_ifs <;> rfl

theorem Acts.sidebarPart {answer : Answer} (acts : screen.Acts answer) :
    answer.1.sidebarPart = screen.sidebarPart := by
  cases acts <;> rfl

end Screen

/-- The event brings what the sidebar is made of. -/
def Event.Rebuilds : Event → Prop
  | .loaded _ _ _ _ => True
  | .syncFinished _ _ => True
  | _ => False

/-- The event moves the cursor of the sidebar. -/
def Event.MovesSidebar : Event → Prop
  | .moveSidebar _ => True
  | _ => False

namespace Screen

open Sidebar

variable {screen : Screen} {event : Event}

/-- Every other event leaves the sidebar and its cursor as they are. -/
theorem sidebarPart_handle (kept : ¬ event.Rebuilds) (still : ¬ event.MovesSidebar) :
    (screen.handle event).1.sidebarPart = screen.sidebarPart := by
  cases event with
  | move delta =>
      simp only [handle, move]
      split <;> rfl
  | selectId id =>
      simp only [handle, selectId]
      split <;> rfl
  | enterSearch =>
      simp only [handle, enterSearch]
      split <;> rfl
  | searchBackspace =>
      simp only [handle, searchBackspace]
      split <;> rfl
  | openLink =>
      simp only [handle, openLink]
      split
      · split <;> rfl
      · rfl
  | escape => exact sidebarPart_escape screen
  | activateSidebar => exact sidebarPart_activateSidebar screen
  | selectItem item => exact sidebarPart_selectItem screen item
  | toggleStar => exact (acts_actOnSelected screen .star).sidebarPart
  | toggleArchive => exact (acts_actOnSelected screen .archive).sidebarPart
  | archiveAll => exact (acts_actOnVisible screen .archiveAll).sidebarPart
  | unarchiveAll => exact (acts_actOnVisible screen .unarchiveAll).sidebarPart
  | mute => exact (acts_actOnSelected screen .mute).sidebarPart
  | markRead => exact (acts_markRead screen).sidebarPart
  | moveSidebar delta => exact absurd trivial still
  | loaded view notifications counts totals => exact absurd trivial kept
  | syncFinished pinned totals => exact absurd trivial kept
  | _ => rfl

/-- An event that brings the sidebar does not move its cursor. -/
theorem sidebarIndex_of_rebuilds (rebuilds : event.Rebuilds) :
    (screen.handle event).1.sidebarIndex = screen.sidebarIndex := by
  cases event with
  | loaded view notifications counts totals =>
      simp only [handle, loaded]
      split <;> rfl
  | syncFinished pinned totals => rfl
  | _ => exact absurd rebuilds id

/-- The cursor stays where it is or moves to an entry that can be selected. -/
theorem moveSidebar_cases (screen : Screen) (delta : Int) :
    (moveSidebar screen delta).1 = screen ∨
      ∃ item, (moveSidebar screen delta).1.underCursor? = some item ∧
        item.selectable = true := by
  rw [moveSidebar]
  split
  · exact .inl rfl
  · rcases walk_cases screen.sidebar (0 < delta) delta.natAbs screen.sidebarIndex with
      stays | moved
    · left
      simp only [quiet, stays]
    · exact .inr moved

theorem moveSidebar_of_behind (behind : screen.sidebar.length < screen.sidebarIndex)
    {delta : Int} : moveSidebar screen delta = (screen, []) := by
  rw [moveSidebar, walk_of_behind behind]
  split <;> rfl

/-- An event brings a new sidebar and leaves the cursor where it is, or puts the cursor
on an entry, or changes neither. -/
theorem handle_sidebar_cases (screen : Screen) (event : Event) :
    (event.Rebuilds ∧ (screen.handle event).1.sidebarIndex = screen.sidebarIndex) ∨
      (screen.handle event).1.OnEntry ∨
      (screen.handle event).1.sidebarPart = screen.sidebarPart := by
  by_cases rebuilds : event.Rebuilds
  · exact .inl ⟨rebuilds, sidebarIndex_of_rebuilds rebuilds⟩
  · by_cases moves : event.MovesSidebar
    · cases event with
      | moveSidebar delta =>
          rcases moveSidebar_cases screen delta with stays | ⟨item, found, _⟩
          · exact .inr (.inr (congrArg sidebarPart stays))
          · exact .inr (.inl (onEntry_iff.2 ⟨item, found⟩))
      | _ => exact absurd moves id
    · exact .inr (.inr (sidebarPart_handle rebuilds moves))

theorem sidebarIndex_nonneg_handle (nonneg : 0 ≤ screen.sidebarIndex) (event : Event) :
    0 ≤ (screen.handle event).1.sidebarIndex := by
  rcases handle_sidebar_cases screen event with ⟨_, index⟩ | inside | same
  · rw [index]
    exact nonneg
  · exact inside.nonneg
  · have index : (screen.handle event).1.sidebarIndex = screen.sidebarIndex :=
      congrArg (fun part => part.2.2.2) same
    rw [index]
    exact nonneg

/-- The cursor stays on an entry if the event leaves one for it. -/
theorem OnEntry.handle (inside : screen.OnEntry)
    (room : event.Rebuilds →
      screen.sidebarIndex < (screen.handle event).1.sidebar.length) :
    (screen.handle event).1.OnEntry := by
  rcases handle_sidebar_cases screen event with ⟨rebuilds, index⟩ | moved | same
  · exact ⟨index ▸ inside.nonneg, index ▸ room rebuilds⟩
  · exact moved
  · exact inside.of_sidebarPart same

/-! ## Whole runs -/

/-- Whenever the sidebar is made anew, it has an entry at the cursor. -/
def KeepsEntry (screen : Screen) : List Event → Prop
  | [] => True
  | event :: rest =>
      (event.Rebuilds → screen.sidebarIndex < (screen.handle event).1.sidebar.length) ∧
        KeepsEntry (screen.handle event).1 rest

theorem onEntry_start : OnEntry {} where
  nonneg := Int.le_refl 0
  within := by decide

/-- The run of `Orderly.play`, with what happens to the cursor of the sidebar. -/
theorem play_sidebarIndex (orderly : screen.Orderly) (nonneg : 0 ≤ screen.sidebarIndex)
    {events : List Event} (typed : ∀ event ∈ events, event.Typed) :
    ∃ last, screen.play events = .ok last ∧ 0 ≤ last.sidebarIndex ∧
      (screen.OnEntry → screen.KeepsEntry events → last.OnEntry) := by
  induction events generalizing screen with
  | nil => exact ⟨screen, rfl, nonneg, fun inside _ => inside⟩
  | cons event rest ih =>
      have answered := orderly.handle (typed event List.mem_cons_self)
      obtain ⟨last, played, lastNonneg, keeps⟩ :=
        ih answered.orderly (sidebarIndex_nonneg_handle nonneg event) fun other member =>
          typed other (List.mem_cons_of_mem _ member)
      refine ⟨last, ?_, lastNonneg, fun inside kept => keeps (inside.handle kept.1) kept.2⟩
      rw [Screen.play, List.foldlM_cons, respond_eq_handle orderly.usable]
      exact played

/-- From an entry the entry under the cursor is what is activated. -/
theorem OnEntry.activateSidebar (inside : screen.OnEntry) :
    ∃ item ∈ screen.sidebar, screen.underCursor? = some item ∧
      screen.activateSidebar = screen.selectItem item := by
  obtain ⟨item, found⟩ := onEntry_iff.1 inside
  refine ⟨item, List.mem_of_getElem? (entryAt?_eq_some.1 found).2, found, ?_⟩
  simp only [underCursor?, entryAt?] at found
  simp only [Screen.activateSidebar, found]

/-- Moving by one entry goes to the next one that can be selected. -/
theorem moveSidebar_one {down : Bool} {next : Int}
    (found : nextSelectable screen.sidebar down screen.sidebarIndex = some next) :
    (moveSidebar screen (if down then 1 else -1)).1.underCursor? =
      entryAt? screen.sidebar next := by
  rw [Screen.sidebar] at found
  cases down <;> simp [moveSidebar, walk, found, quiet, underCursor?, Screen.sidebar]

/-- From an entry at most one step leads to one that can be selected. -/
theorem OnEntry.moveSidebar (inside : screen.OnEntry) :
    ∃ delta : Int, delta.natAbs ≤ 1 ∧ ∃ item,
      (moveSidebar screen delta).1.underCursor? = some item ∧ item.selectable = true := by
  obtain ⟨item, found⟩ := onEntry_iff.1 inside
  by_cases selectable : item.selectable = true
  · exact ⟨0, Nat.zero_le 1, item, found, selectable⟩
  · -- The tab of the inbox is on one side of every entry that cannot be selected.
    have elsewhere : screen.sidebarIndex ≠ 1 := by
      intro first
      rw [underCursor?, first, Screen.sidebar, entryAt?_items_one] at found
      cases found
      exact selectable rfl
    have beyond : Beyond (decide (screen.sidebarIndex < 1)) screen.sidebarIndex 1 := by
      by_cases before : screen.sidebarIndex < 1
      · simp [before]
      · simp [before]
        omega
    cases walked : nextSelectable screen.sidebar (decide (screen.sidebarIndex < 1))
        screen.sidebarIndex with
    | some next =>
        obtain ⟨_, target, there, allowed⟩ := nextSelectable_eq_some walked
        refine ⟨if decide (screen.sidebarIndex < 1) then 1 else -1, by split <;> decide,
          target, ?_, allowed⟩
        rw [moveSidebar_one walked, there]
    | none =>
        have blocked := selectable_of_nextSelectable_eq_none inside.nonneg inside.within walked
          beyond (entryAt?_items_one screen.counts screen.pinned screen.totals)
        cases blocked

/-- After any events the index of the cursor is not negative.  As long as every new
sidebar has an entry at the cursor, the cursor is on an entry, which is what is
activated there, and one step leads from it to an entry that can be selected. -/
theorem sidebar_cursor_on_entry (events : List Event) (typed : ∀ event ∈ events, event.Typed) :
    ∃ screen, play {} events = .ok screen ∧ 0 ≤ screen.sidebarIndex ∧
      (KeepsEntry {} events →
        screen.sidebarIndex < screen.sidebar.length ∧
        (∃ item ∈ screen.sidebar, screen.underCursor? = some item ∧
          screen.activateSidebar = screen.selectItem item) ∧
        ∃ delta : Int, delta.natAbs ≤ 1 ∧ ∃ item,
          (moveSidebar screen delta).1.underCursor? = some item ∧ item.selectable = true) := by
  obtain ⟨screen, played, nonneg, keeps⟩ :=
    play_sidebarIndex orderly_start (Int.le_refl 0) typed
  refine ⟨screen, played, nonneg, fun kept => ?_⟩
  have inside := keeps onEntry_start kept
  exact ⟨inside.within, inside.activateSidebar, inside.moveSidebar⟩

/-- The cursor goes down to what is unread, the only facet of the inbox. -/
def unreadEvents : List Event :=
  [.loaded "inbox" [] {} { unread := 1 }, .moveSidebar 4]

/-- It stays there while another facet comes below. -/
theorem sidebar_cursor_on_unread :
    (∀ event ∈ unreadEvents ++ [.syncFinished [] { unread := 2, read := 1 }], event.Typed) ∧
      KeepsEntry {} (unreadEvents ++ [.syncFinished [] { unread := 2, read := 1 }]) ∧
      ∃ screen, play {} (unreadEvents ++ [.syncFinished [] { unread := 2, read := 1 }]) =
          .ok screen ∧
        screen.sidebarIndex < screen.sidebar.length ∧
        ∃ item ∈ screen.sidebar, screen.underCursor? = some item ∧
          screen.activateSidebar = screen.selectItem item := by
  have typed : ∀ event ∈ unreadEvents ++ [.syncFinished [] { unread := 2, read := 1 }],
      event.Typed := by
    intro event member
    simp only [unreadEvents, List.cons_append, List.nil_append, List.mem_cons,
      List.not_mem_nil, or_false] at member
    rcases member with rfl | rfl | rfl <;> trivial
  have kept : KeepsEntry {} (unreadEvents ++ [.syncFinished [] { unread := 2, read := 1 }]) :=
    ⟨fun _ => by decide, False.elim, fun _ => by decide, trivial⟩
  obtain ⟨screen, played, _, keeps⟩ := sidebar_cursor_on_entry _ typed
  obtain ⟨within, activated, _⟩ := keeps kept
  exact ⟨typed, kept, screen, played, within, activated⟩

/-- With nothing left in the inbox the sidebar ends before the cursor, which then
neither activates anything nor moves. -/
theorem sidebar_cursor_lost :
    ∃ screen, play {} (unreadEvents ++ [.loaded "inbox" [] {} {}]) = .ok screen ∧
      ¬ screen.sidebarIndex < screen.sidebar.length ∧
      screen.activateSidebar = (screen, []) ∧
      ∀ delta, moveSidebar screen delta = (screen, []) := by
  refine ⟨_, rfl, by decide, rfl, fun delta => moveSidebar_of_behind (by decide)⟩

end Screen
end Triage
