import Triage.Proofs.Screen.Answer

/-!
# The cursor and the selected entry

Whatever happens to the screen, the cursor stays within the visible list, nothing
but a pinned search or a facet narrows the list, and a pinned search narrows the
inbox.  An answer that changes the view asks for reading the store again.
-/

namespace Triage

/-! ## Entries that narrow the list -/

namespace SidebarItem

/-- The value of a facet's entry is a text or a truth value. -/
def Typed : SidebarItem → Prop
  | .facet _ value _ => ∃ known : FacetValue, value = known.toJson
  | _ => True

/-- Pinned searches and facets narrow the list. -/
def Narrows : SidebarItem → Prop
  | .pinned _ _ _ => True
  | .facet _ _ _ => True
  | _ => False

/-- The entry is that of a pinned search. -/
def IsPinned : SidebarItem → Prop
  | .pinned _ _ _ => True
  | _ => False

theorem Typed.fault?_eq_none {item : SidebarItem} (typed : item.Typed) : item.fault? = none := by
  cases item with
  | facet kind value count =>
      obtain ⟨known, rfl⟩ := typed
      exact Sidebar.usable_facet kind known count
  | _ => rfl

theorem Usable.fault?_eq_none {item : SidebarItem} (usable : item.Usable) :
    item.fault? = none := by
  cases item with
  | facet kind value count => exact usable
  | _ => rfl

end SidebarItem

/-- The entry that an event selects has a value of the right type. -/
def Event.Typed : Event → Prop
  | .selectItem item => item.Typed
  | _ => True

namespace Screen

/-! ## The list -/

theorem lastIndex_nonneg (screen : Screen) : 0 ≤ screen.lastIndex :=
  Int.le_max_right _ _

/-- A cursor within the list is on the notification at its index. -/
theorem selected_eq (screen : Screen) (inside : 0 ≤ screen.selectedIndex) :
    screen.selected = screen.visible[screen.selectedIndex.toNat]? :=
  if_pos inside

theorem lastIndex_mono {first second : Screen}
    (shorter : first.visible.length ≤ second.visible.length) :
    first.lastIndex ≤ second.lastIndex := by
  rw [lastIndex, lastIndex]
  omega

/-- A search text leaves part of what is visible without it. -/
theorem sublist_visible_of_query (screen : Screen) (searchMode : Bool) :
    screen.visible.Sublist
      { screen with searchMode := searchMode, searchQuery := "" }.visible := by
  have whole : { screen with searchMode := searchMode, searchQuery := "" }.visible =
      screen.narrowed.filter (Search.meetsAll
        ((screen.selection.bind SidebarItem.facet?).map Facet.keeps).toList) := by
    change Search.select _ (Search.parse "") screen.narrowed = _
    rw [Search.parse_empty, Search.select, Search.criteria_empty, List.append_nil]
  rw [whole, visible, Search.select]
  apply List.monotone_filter_right
  intro record meets
  rw [Search.meetsAll_append, Bool.and_eq_true] at meets
  exact meets.1

/-! ## States in order -/

/-- The cursor is within the visible list, and what is selected in the sidebar can
narrow the view. -/
structure Orderly (screen : Screen) : Prop where
  nonneg : 0 ≤ screen.selectedIndex
  within : screen.selectedIndex ≤ screen.lastIndex
  narrows : ∀ item, screen.selection = some item → item.Narrows
  inbox : ∀ item, screen.selection = some item → item.IsPinned → screen.view = "inbox"
  usable : screen.selectionFault? = none

/-- An answer that leaves the screen in order and reads the store again if it
changes the view. -/
structure Ordered (screen : Screen) (answer : Answer) : Prop where
  orderly : answer.1.Orderly
  reloads : answer.1.view ≠ screen.view → .reload ∈ answer.2

variable {screen next : Screen}

theorem orderly_start : Orderly {} where
  nonneg := Int.le_refl 0
  within := lastIndex_nonneg _
  narrows := by rintro item ⟨⟩
  inbox := by rintro item ⟨⟩
  usable := rfl

/-- Exactly an empty list leaves nothing to select. -/
theorem Orderly.selected_eq_none (orderly : screen.Orderly) :
    screen.selected = none ↔ screen.visible = [] := by
  have within := orderly.within
  rw [selected_eq screen orderly.nonneg, List.getElem?_eq_none_iff, ← List.length_eq_zero_iff]
  rw [lastIndex] at within
  have nonneg := orderly.nonneg
  omega

/-- The cursor may move within the list. -/
theorem Orderly.moved (orderly : screen.Orderly) (selection : next.selection = screen.selection)
    (view : next.view = screen.view) (nonneg : 0 ≤ next.selectedIndex)
    (within : next.selectedIndex ≤ next.lastIndex) : next.Orderly where
  nonneg := nonneg
  within := within
  narrows := by
    rw [selection]
    exact orderly.narrows
  inbox := by
    rw [selection, view]
    exact orderly.inbox
  usable := by
    rw [selectionFault?, selection]
    exact orderly.usable

/-- The cursor may go to the start of any list. -/
theorem Orderly.restarted (orderly : screen.Orderly)
    (selection : next.selection = screen.selection) (view : next.view = screen.view)
    (index : next.selectedIndex = 0) : next.Orderly :=
  orderly.moved selection view (Int.le_of_eq index.symm) (index ▸ lastIndex_nonneg next)

/-- The cursor may stay where it is if the list has the same length. -/
theorem Orderly.kept (orderly : screen.Orderly) (selection : next.selection = screen.selection)
    (view : next.view = screen.view) (index : next.selectedIndex = screen.selectedIndex)
    (last : next.lastIndex = screen.lastIndex) : next.Orderly :=
  orderly.moved selection view (index ▸ orderly.nonneg) (index ▸ last ▸ orderly.within)

/-- Without a selected entry the cursor may go to the start of any list. -/
theorem orderly_of_unselected (selection : next.selection = none)
    (index : next.selectedIndex = 0) : next.Orderly where
  nonneg := Int.le_of_eq index.symm
  within := index ▸ lastIndex_nonneg next
  narrows := by simp [selection]
  inbox := by simp [selection]
  usable := by rw [selectionFault?, selection]; rfl

theorem Orderly.ordered (orderly : next.Orderly) (view : next.view = screen.view)
    (commands : List Command) : Ordered screen (next, commands) where
  orderly := orderly
  reloads := fun changed => absurd view changed

theorem ordered_quiet (orderly : next.Orderly) (view : next.view = screen.view) :
    Ordered screen (quiet next) :=
  orderly.ordered view []

/-! ## Answers -/

theorem ordered_switchView (screen : Screen) (view : String) :
    Ordered screen (switchView screen view) where
  orderly := orderly_of_unselected rfl rfl
  reloads := fun _ => List.mem_singleton_self _

theorem Orderly.move (orderly : screen.Orderly) (delta : Int) :
    Ordered screen (screen.move delta) := by
  rw [Screen.move]
  split
  · exact ordered_quiet orderly rfl
  · next filled =>
      have positive : 0 < screen.visible.length := by
        rw [List.length_pos_iff]
        simpa using filled
      refine ordered_quiet (orderly.moved rfl rfl ?_ ?_) rfl
      · change 0 ≤ min (max (screen.selectedIndex + delta) 0) ((screen.visible.length : Int) - 1)
        omega
      · change min (max (screen.selectedIndex + delta) 0) ((screen.visible.length : Int) - 1) ≤
          max ((screen.visible.length : Int) - 1) 0
        omega

theorem Orderly.selectId (orderly : screen.Orderly) (id : Int) :
    Ordered screen (screen.selectId id) := by
  rw [Screen.selectId]
  split
  · next index found =>
      have inside : index < screen.visible.length :=
        (List.findIdx?_eq_some_iff_findIdx_eq.1 found).1
      refine ordered_quiet (orderly.moved rfl rfl ?_ ?_) rfl
      · exact Int.natCast_nonneg index
      · change (index : Int) ≤ max ((screen.visible.length : Int) - 1) 0
        omega
  · exact ordered_quiet orderly rfl

/-- Dropping the search text makes the list no shorter. -/
theorem Orderly.enterSearch (orderly : screen.Orderly) : Ordered screen screen.enterSearch := by
  rw [Screen.enterSearch]
  split
  · exact ordered_quiet orderly rfl
  · have longer := lastIndex_mono (sublist_visible_of_query screen true).length_le
    have within := Int.le_trans orderly.within longer
    exact ordered_quiet (orderly.moved rfl rfl orderly.nonneg within) rfl

theorem Orderly.searchBackspace (orderly : screen.Orderly) :
    Ordered screen screen.searchBackspace := by
  rw [Screen.searchBackspace]
  split
  · exact ordered_quiet orderly rfl
  · exact ordered_quiet (orderly.restarted rfl rfl rfl) rfl

theorem Orderly.escape (orderly : screen.Orderly) : Ordered screen screen.escape := by
  rw [Screen.escape]
  split
  · exact ordered_quiet (orderly.kept rfl rfl rfl rfl) rfl
  · split
    · exact ordered_quiet (orderly.restarted rfl rfl rfl) rfl
    · split
      · exact ⟨orderly_of_unselected rfl rfl, fun _ => List.mem_singleton_self _⟩
      · split
        · exact ordered_quiet (orderly.kept rfl rfl rfl rfl) rfl
        · exact ordered_quiet orderly rfl

/-- Only pinned searches and facets are ever selected, and with a pinned search the
inbox is shown. -/
theorem Orderly.selectItem (orderly : screen.Orderly) {item : SidebarItem}
    (usable : item.fault? = none) : Ordered screen (screen.selectItem item) := by
  cases item with
  | header label => exact ordered_quiet orderly rfl
  | separator => exact ordered_quiet orderly rfl
  | tab view count => exact ordered_switchView screen view
  | pinned name query count =>
      refine ⟨⟨Int.le_refl 0, lastIndex_nonneg _, ?_, fun _ _ _ => rfl, usable⟩,
        fun _ => List.mem_singleton_self _⟩
      rintro item ⟨⟩
      trivial
  | facet kind value count =>
      have selected : ∀ active : Bool, Orderly { screen with
          selection := if active then none else some (.facet kind value count)
          sidebarFocus := false
          selectedIndex := 0 } := by
        intro active
        cases active with
        | true => exact orderly_of_unselected rfl rfl
        | false =>
            refine ⟨Int.le_refl 0, lastIndex_nonneg _, ?_, ?_, usable⟩
            · rintro item ⟨⟩
              trivial
            · rintro item ⟨⟩ pinned
              exact absurd pinned id
      exact ordered_quiet (selected _) rfl

theorem Orderly.activateSidebar (orderly : screen.Orderly) :
    Ordered screen screen.activateSidebar := by
  simp only [Screen.activateSidebar]
  generalize found : (if 0 ≤ screen.sidebarIndex then
    screen.sidebar[screen.sidebarIndex.toNat]? else none) = item?
  cases item? with
  | none => exact ordered_quiet orderly rfl
  | some item =>
      apply orderly.selectItem
      apply SidebarItem.Usable.fault?_eq_none
      apply Sidebar.usable_items screen.counts screen.pinned screen.totals
      split at found
      · exact List.mem_of_getElem? found
      · cases found

theorem Acts.ordered {answer : Answer} (acts : screen.Acts answer) (orderly : screen.Orderly) :
    Ordered screen answer := by
  cases acts with
  | nothing => exact orderly.ordered rfl _
  | act filled known => exact orderly.ordered rfl _

theorem Orderly.openLink (orderly : screen.Orderly) : Ordered screen screen.openLink := by
  rw [Screen.openLink]
  split
  · split
    · exact orderly.ordered rfl _
    · exact orderly.ordered rfl _
  · exact orderly.ordered rfl _

/-- Whatever was read, the cursor is moved into the list. -/
theorem Orderly.loaded (orderly : screen.Orderly) (view : String)
    (notifications : List Notification) (counts : TabCounts) (totals : FacetTotals) :
    Ordered screen (screen.loaded view notifications counts totals) := by
  rw [Screen.loaded]
  split
  · have last := lastIndex_nonneg
      { screen with notifications := notifications, counts := counts, totals := totals }
    refine ordered_quiet (orderly.moved rfl rfl ?_ ?_) rfl
    · change 0 ≤ min (max screen.selectedIndex 0) (lastIndex _)
      omega
    · exact Int.min_le_right _ _
  · exact ordered_quiet orderly rfl

/-- Every event leaves the screen in order. -/
theorem Orderly.handle (orderly : screen.Orderly) {event : Event} (typed : event.Typed) :
    Ordered screen (screen.handle event) := by
  cases event with
  | move delta => exact orderly.move delta
  | moveFirst => exact ordered_quiet (orderly.restarted rfl rfl rfl) rfl
  | moveLast =>
      exact ordered_quiet
        (orderly.moved rfl rfl (lastIndex_nonneg screen) (Int.le_refl screen.lastIndex)) rfl
  | selectId id => exact orderly.selectId id
  | switchView view => exact ordered_switchView screen view
  | nextTab delta => exact ordered_switchView screen _
  | enterSearch => exact orderly.enterSearch
  | searchInput text => exact ordered_quiet (orderly.restarted rfl rfl rfl) rfl
  | searchBackspace => exact orderly.searchBackspace
  | exitSearch => exact ordered_quiet (orderly.restarted rfl rfl rfl) rfl
  | toggleHelp => exact ordered_quiet (orderly.kept rfl rfl rfl rfl) rfl
  | escape => exact orderly.escape
  | focusSidebar focused => exact ordered_quiet (orderly.kept rfl rfl rfl rfl) rfl
  | moveSidebar delta =>
      change Ordered screen (moveSidebar screen delta)
      rw [moveSidebar]
      split <;> exact ordered_quiet (orderly.kept rfl rfl rfl rfl) rfl
  | activateSidebar => exact orderly.activateSidebar
  | selectItem item => exact orderly.selectItem (SidebarItem.Typed.fault?_eq_none typed)
  | toggleStar => exact (acts_actOnSelected screen .star).ordered orderly
  | toggleArchive => exact (acts_actOnSelected screen .archive).ordered orderly
  | archiveAll => exact (acts_actOnVisible screen .archiveAll).ordered orderly
  | unarchiveAll => exact (acts_actOnVisible screen .unarchiveAll).ordered orderly
  | mute => exact (acts_actOnSelected screen .mute).ordered orderly
  | markRead => exact (acts_markRead screen).ordered orderly
  | openLink => exact orderly.openLink
  | refresh => exact ⟨orderly.kept rfl rfl rfl rfl, fun changed => absurd rfl changed⟩
  | resync => exact ⟨orderly.kept rfl rfl rfl rfl, fun changed => absurd rfl changed⟩
  | loaded view notifications counts totals =>
      exact orderly.loaded view notifications counts totals
  | syncProgress phase => exact ordered_quiet (orderly.kept rfl rfl rfl rfl) rfl
  | syncFinished pinned totals =>
      exact ⟨orderly.kept rfl rfl rfl rfl, fun changed => absurd rfl changed⟩
  | syncFailed error => exact ordered_quiet (orderly.kept rfl rfl rfl rfl) rfl
  | actionFailed action error =>
      exact ⟨orderly.kept rfl rfl rfl rfl, fun changed => absurd rfl changed⟩

/-! ## Whole runs -/

/-- The screen after some events; without it if one of them has no answer. -/
def play (screen : Screen) (events : List Event) : Except Schema.Failure Screen :=
  events.foldlM (fun screen event => Prod.fst <$> screen.respond event) screen

theorem Orderly.play (orderly : screen.Orderly) {events : List Event}
    (typed : ∀ event ∈ events, event.Typed) :
    ∃ last, screen.play events = .ok last ∧ last.Orderly := by
  induction events generalizing screen with
  | nil => exact ⟨screen, rfl, orderly⟩
  | cons event rest ih =>
      have answered := orderly.handle (typed event List.mem_cons_self)
      obtain ⟨last, played, kept⟩ := ih answered.orderly fun other member =>
        typed other (List.mem_cons_of_mem _ member)
      refine ⟨last, ?_, kept⟩
      rw [Screen.play, List.foldlM_cons, respond_eq_handle orderly.usable]
      exact played

/-- After any events the cursor is within the visible list, so that nothing is
selected only if nothing is visible; the list is narrowed by nothing but a pinned
search or a facet, and by a pinned search only in the inbox.  The next event is
answered, and reads the store again if it changes the view. -/
theorem orderly_after_events (events : List Event) (typed : ∀ event ∈ events, event.Typed) :
    ∃ screen, play {} events = .ok screen ∧
      0 ≤ screen.selectedIndex ∧
      screen.selectedIndex ≤ max ((screen.visible.length : Int) - 1) 0 ∧
      (screen.selected = none ↔ screen.visible = []) ∧
      (∀ item, screen.selection = some item →
        item.Narrows ∧ (item.IsPinned → screen.view = "inbox")) ∧
      ∀ event, event.Typed → ∃ next commands, screen.respond event = .ok (next, commands) ∧
        (next.view ≠ screen.view → .reload ∈ commands) := by
  obtain ⟨screen, played, orderly⟩ := orderly_start.play typed
  refine ⟨screen, played, orderly.nonneg, orderly.within, orderly.selected_eq_none,
    fun item selected => ⟨orderly.narrows item selected, orderly.inbox item selected⟩, ?_⟩
  intro event allowed
  exact ⟨_, _, respond_eq_handle orderly.usable event, (orderly.handle allowed).reloads⟩

/-- Two notifications are read, the cursor goes to the last one, a search text and a
facet hide both, the text is dropped, and a pinned search is selected. -/
def narrowingEvents : List Event :=
  [.loaded "inbox" [{ id := 1 }, { id := 2 }] {} {}, .moveLast, .searchInput "octobox",
    .selectItem (.facet .owner (.str "octobox") 1), .enterSearch,
    .selectItem (.pinned "mine" "is:starred" none), .nextTab 1]

theorem orderly_after_narrowing :
    (∀ event ∈ narrowingEvents, event.Typed) ∧
      ∃ screen, play {} narrowingEvents = .ok screen ∧
        0 ≤ screen.selectedIndex ∧
        screen.selectedIndex ≤ max ((screen.visible.length : Int) - 1) 0 ∧
        (screen.selected = none ↔ screen.visible = []) ∧
        (∀ item, screen.selection = some item →
          item.Narrows ∧ (item.IsPinned → screen.view = "inbox")) ∧
        ∀ event, event.Typed → ∃ next commands, screen.respond event = .ok (next, commands) ∧
          (next.view ≠ screen.view → .reload ∈ commands) := by
  have typed : ∀ event ∈ narrowingEvents, event.Typed := by
    intro event member
    simp only [narrowingEvents, List.mem_cons, List.not_mem_nil, or_false] at member
    rcases member with rfl | rfl | rfl | rfl | rfl | rfl | rfl
    case inr.inr.inr.inl => exact ⟨.text "octobox", rfl⟩
    all_goals trivial
  exact ⟨typed, orderly_after_events narrowingEvents typed⟩

end Screen

end Triage
