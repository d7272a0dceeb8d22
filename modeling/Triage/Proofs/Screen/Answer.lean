import Triage.Proofs.Action.Plan
import Triage.Screen.Transition

/-!
# Answers to the user

What the screen does when the user does something: the notifications, the counts
and the progress that are shown stay as they are, a change of the view asks for
reading the store again, and an action asks for writing, reading and sending.
-/

namespace Triage

/-! ## Entries that can be used -/

/-- A tab shows a known view, and a facet can have its value. -/
def SidebarItem.Usable : SidebarItem → Prop
  | .tab view _ => ∃ known : View, view = known.name
  | .facet kind value count => (SidebarItem.facet kind value count).fault? = none
  | _ => True

namespace Sidebar

open SidebarItem

theorem usable_facet (kind : FacetKind) (value : FacetValue) (count : Int) :
    (SidebarItem.facet kind value.toJson count).Usable := by
  have valid : Facet.ofValue kind value.toJson = .ok ⟨kind, value⟩ :=
    Facet.ofValue_toJson ⟨kind, value⟩
  simp only [Usable, fault?, checkedFacet, valid]
  rfl

theorem usable_textEntries (kind : FacetKind) (values : Groups) :
    ∀ item ∈ textEntries kind values, item.Usable := by
  intro item member
  obtain ⟨value, _, rfl⟩ := List.mem_map.1 member
  exact usable_facet kind (.text value.1) value.2

theorem usable_group (label : String) (values : Groups) {entries : List SidebarItem}
    (each : ∀ item ∈ entries, item.Usable) : ∀ item ∈ group label values entries, item.Usable := by
  intro item member
  rw [group] at member
  split at member
  · simp at member
  · rcases List.mem_cons.1 member with rfl | inside
    · trivial
    · exact each item inside

theorem usable_flagEntry (kind : FacetKind) (value : Bool) (count : Int) :
    ∀ item ∈ flagEntry kind value count, item.Usable := by
  intro item member
  rw [flagEntry] at member
  split at member
  · simp at member
  · rw [List.mem_singleton.1 member]
    exact usable_facet kind (.flag value) count

theorem usable_tabEntries (counts : TabCounts) : ∀ item ∈ tabEntries counts, item.Usable := by
  intro item member
  simp only [tabEntries, List.mem_cons, List.not_mem_nil, or_false] at member
  rcases member with rfl | rfl | rfl
  · exact ⟨.inbox, rfl⟩
  · exact ⟨.starred, rfl⟩
  · exact ⟨.archived, rfl⟩

theorem usable_pinnedEntries (pinned : List PinnedSearch) :
    ∀ item ∈ pinnedEntries pinned, item.Usable := by
  intro item member
  rw [pinnedEntries] at member
  split at member
  · simp at member
  · simp only [List.mem_cons, List.mem_map] at member
    rcases member with rfl | rfl | ⟨search, _, rfl⟩ <;> trivial

theorem usable_unreadEntries (totals : FacetTotals) :
    ∀ item ∈ unreadEntries totals, item.Usable := by
  intro item member
  rw [unreadEntries] at member
  split at member
  · simp at member
  · simp only [List.mem_cons, List.mem_append] at member
    rcases member with rfl | inside | inside
    · trivial
    · exact usable_flagEntry .unread true _ item inside
    · exact usable_flagEntry .unread false _ item inside

theorem usable_botEntries (totals : FacetTotals) : ∀ item ∈ botEntries totals, item.Usable := by
  intro item member
  rw [botEntries] at member
  split at member
  · simp at member
  · rcases List.mem_append.1 member with inside | inside
    · exact usable_flagEntry .bot true _ item inside
    · exact usable_flagEntry .bot false _ item inside

theorem usable_ownerEntries (totals : FacetTotals) : ∀ item ∈ ownerEntries totals, item.Usable := by
  intro item member
  obtain ⟨owner, _, inside⟩ := List.mem_flatMap.1 member
  rcases List.mem_cons.1 inside with rfl | inside
  · exact usable_facet .owner (.text owner.1) owner.2
  · obtain ⟨short, _, rfl⟩ := List.mem_map.1 inside
    exact usable_facet .repo (.text (owner.1 ++ "/" ++ short)) _

/-- Every entry of the sidebar can be used. -/
theorem usable_items (counts : TabCounts) (pinned : List PinnedSearch) (totals : FacetTotals) :
    ∀ item ∈ items counts pinned totals, item.Usable := by
  intro item member
  simp only [items, List.mem_cons, List.mem_append] at member
  rcases member with rfl | ((((((inside | inside) | inside) | inside) | inside) | inside) |
    inside) | inside
  · trivial
  · exact usable_tabEntries counts item inside
  · exact usable_pinnedEntries pinned item inside
  · exact usable_unreadEntries totals item inside
  · exact usable_botEntries totals item inside
  · exact usable_group _ _ (usable_textEntries .subjectState _) item inside
  · exact usable_group _ _ (usable_textEntries .subjectType _) item inside
  · exact usable_group _ _ (usable_textEntries .reason _) item inside
  · exact usable_group _ _ (usable_ownerEntries totals) item inside

end Sidebar

/-! ## Answers -/

namespace Screen

/-- The screen shows a known view, and the selected entry can narrow the list. -/
structure Proper (screen : Screen) : Prop where
  view : ∃ known : View, screen.view = known.name
  usable : screen.selectionFault? = none

/-- What the screen may ask for in answer to the user: nothing, reading the store,
an action on notifications that it has, a synchronisation, or any of these after
opening a page. -/
inductive Asks (screen : Screen) : List Command → Prop where
  | nothing : Asks screen []
  | read : Asks screen [.reload]
  | act {action : Action} {records : List Notification} :
      (∃ record, record ∈ records) → (∀ record ∈ records, record ∈ screen.notifications) →
        Asks screen [.patchStore (Plan.make action records).changes, .reload,
          .callRemote (Plan.make action records)]
  | sync {trigger : Bool} : Asks screen [.startSync trigger]
  | visit {url : String} {commands : List Command} :
      Asks screen commands → Asks screen (.openUrl url :: commands)

/-- Answers that leave the screen as it is and do nothing, or an action on
notifications that it has. -/
inductive Acts (screen : Screen) : Answer → Prop where
  | nothing : Acts screen (screen, [])
  | act {action : Action} {records : List Notification} :
      (∃ record, record ∈ records) → (∀ record ∈ records, record ∈ screen.notifications) →
        Acts screen (screen, [.patchStore (Plan.make action records).changes, .reload,
          .callRemote (Plan.make action records)])

/-- An answer to the user: what was read is still shown, unless it is read again. -/
structure Polite (screen : Screen) (answer : Answer) : Prop where
  notifications : answer.1.notifications = screen.notifications
  counts : answer.1.counts = screen.counts
  totals : answer.1.totals = screen.totals
  loading : answer.1.loading = screen.loading
  syncing : answer.1.syncing = screen.syncing
  view : answer.1.view = screen.view ∨ answer.2 = [.reload]
  proper : answer.1.Proper
  asks : screen.Asks answer.2

theorem mem_select {facet : Option Facet} {query : Search.Query} {records : List Notification}
    {record : Notification} (member : record ∈ Search.select facet query records) :
    record ∈ records :=
  (List.mem_filter.1 member).1

/-- The visible list is part of what was read. -/
theorem mem_visible {screen : Screen} {record : Notification} (member : record ∈ screen.visible) :
    record ∈ screen.notifications := by
  have narrowed : record ∈ screen.narrowed := mem_select member
  rw [Screen.narrowed] at narrowed
  split at narrowed
  · exact mem_select narrowed
  · exact narrowed

theorem mem_visible_of_selected {screen : Screen} {record : Notification}
    (selected : screen.selected = some record) : record ∈ screen.visible := by
  rw [Screen.selected] at selected
  split at selected
  · exact List.mem_of_getElem? selected
  · cases selected

theorem mem_of_selected {screen : Screen} {record : Notification}
    (selected : screen.selected = some record) : record ∈ screen.notifications :=
  mem_visible (mem_visible_of_selected selected)

variable {screen next : Screen}

/-- What the screen shows apart from cursors, messages and the search text. -/
def content (screen : Screen) : Screen :=
  { screen with
    selectedIndex := 0
    searchMode := false
    searchQuery := ""
    error := none
    showHelp := false
    pinned := []
    sidebarFocus := false
    sidebarIndex := 0 }

theorem Proper.of_content (proper : screen.Proper) (same : next.content = screen.content) :
    next.Proper := by
  have view : next.view = screen.view := (congrArg Screen.view same : next.content.view = _)
  have selection : next.selection = screen.selection :=
    (congrArg Screen.selection same : next.content.selection = _)
  constructor
  · rw [view]
    exact proper.view
  · have usable := proper.usable
    unfold selectionFault? at usable ⊢
    rw [selection]
    exact usable

/-- An answer that leaves the content as it is. -/
theorem polite_of_content (proper : screen.Proper) (same : next.content = screen.content)
    {commands : List Command} (asks : screen.Asks commands) : Polite screen (next, commands) where
  notifications := (congrArg Screen.notifications same : next.content.notifications = _)
  counts := (congrArg Screen.counts same : next.content.counts = _)
  totals := (congrArg Screen.totals same : next.content.totals = _)
  loading := (congrArg Screen.loading same : next.content.loading = _)
  syncing := (congrArg Screen.syncing same : next.content.syncing = _)
  view := .inl (congrArg Screen.view same : next.content.view = _)
  proper := proper.of_content same
  asks := asks

theorem polite_quiet (proper : screen.Proper) (same : next.content = screen.content) :
    Polite screen (quiet next) :=
  polite_of_content proper same .nothing

/-- A view is shown from its start. -/
theorem polite_switchView (screen : Screen) (known : View) :
    Polite screen (switchView screen known.name) where
  notifications := rfl
  counts := rfl
  totals := rfl
  loading := rfl
  syncing := rfl
  view := .inr rfl
  proper := ⟨⟨known, rfl⟩, rfl⟩
  asks := .read

/-- Every tab is a view. -/
theorem exists_view_of_mem_tabs {name : String} (member : name ∈ tabs) :
    ∃ known : View, name = known.name := by
  simp only [tabs, List.mem_cons, List.not_mem_nil, or_false] at member
  rcases member with rfl | rfl | rfl
  · exact ⟨.inbox, rfl⟩
  · exact ⟨.starred, rfl⟩
  · exact ⟨.archived, rfl⟩

theorem exists_tabAfter (view : String) (delta : Int) :
    ∃ known : View, tabAfter view delta = known.name := by
  apply exists_view_of_mem_tabs
  simp only [tabAfter]
  have positive : (0 : Int) < tabs.length := by decide
  have bound := Int.emod_lt_of_pos (((tabs.idxOf? view).getD 0 : Nat) + delta) positive
  have within : ((((tabs.idxOf? view).getD 0 : Nat) + delta) % (tabs.length : Int)).toNat <
      tabs.length := by omega
  rw [List.getD_eq_getElem?_getD, List.getElem?_eq_getElem within, Option.getD_some]
  exact List.getElem_mem within

/-- A tab is shown, and any other entry narrows the list or does nothing. -/
theorem polite_selectItem (proper : screen.Proper) {item : SidebarItem} (usable : item.Usable) :
    Polite screen (selectItem screen item) := by
  cases item with
  | header label => exact polite_quiet proper rfl
  | separator => exact polite_quiet proper rfl
  | tab view count =>
      obtain ⟨known, rfl⟩ := usable
      exact polite_switchView screen known
  | pinned name query count =>
      exact ⟨rfl, rfl, rfl, rfl, rfl, .inr rfl, ⟨⟨.inbox, rfl⟩, rfl⟩, .read⟩
  | facet kind value count =>
      have selection : ∀ active : Bool, Proper { screen with
          selection := if active then none else some (.facet kind value count)
          sidebarFocus := false
          selectedIndex := 0 } := by
        intro active
        constructor
        · exact proper.view
        · cases active with
          | true => rfl
          | false => exact usable
      exact ⟨rfl, rfl, rfl, rfl, rfl, .inl rfl, selection _, .nothing⟩

theorem polite_escape (proper : screen.Proper) : Polite screen (escape screen) := by
  rw [escape]
  split
  · exact polite_quiet proper rfl
  · split
    · exact polite_quiet proper rfl
    · split
      · exact ⟨rfl, rfl, rfl, rfl, rfl, .inl rfl, ⟨proper.view, rfl⟩, .read⟩
      · split
        · exact polite_quiet proper rfl
        · exact polite_quiet proper rfl

/-- The entry under the cursor is selected. -/
theorem polite_activateSidebar (proper : screen.Proper) :
    Polite screen (activateSidebar screen) := by
  simp only [activateSidebar]
  generalize found : (if 0 ≤ screen.sidebarIndex then
    screen.sidebar[screen.sidebarIndex.toNat]? else none) = item?
  cases item? with
  | none => exact polite_quiet proper rfl
  | some item =>
      apply polite_selectItem proper
      apply Sidebar.usable_items screen.counts screen.pinned screen.totals
      split at found
      · exact List.mem_of_getElem? found
      · cases found

/-- An action on notifications that the screen has. -/
theorem acts_optimistic (action : Action) {records : List Notification}
    (known : ∀ record ∈ records, record ∈ screen.notifications) :
    screen.Acts (optimistic screen (Plan.make action records)) := by
  rw [optimistic]
  split
  · exact .nothing
  · next filled =>
      cases records with
      | nil => exact absurd rfl filled
      | cons record rest => exact .act ⟨record, by simp⟩ known

theorem acts_actOnSelected (screen : Screen) (action : Action) :
    screen.Acts (actOnSelected screen action) := by
  rw [actOnSelected]
  split
  · next record selected =>
      apply acts_optimistic action
      intro other member
      rw [List.mem_singleton.1 member]
      exact mem_of_selected selected
  · exact .nothing

theorem acts_actOnVisible (screen : Screen) (action : Action) :
    screen.Acts (actOnVisible screen action) :=
  acts_optimistic action fun _ => mem_visible

theorem acts_markRead (screen : Screen) : screen.Acts (markRead screen) := by
  rw [markRead]
  split
  · next record selected =>
      split
      · apply acts_optimistic .markRead
        intro other member
        rw [List.mem_singleton.1 member]
        exact mem_of_selected selected
      · exact .nothing
  · exact .nothing

theorem Acts.polite {answer : Answer} (acts : screen.Acts answer) (proper : screen.Proper) :
    screen.Polite answer := by
  cases acts with
  | nothing => exact polite_quiet proper rfl
  | act filled known => exact polite_of_content proper rfl (.act filled known)

theorem polite_openLink (proper : screen.Proper) : Polite screen (openLink screen) := by
  rw [openLink]
  split
  · split
    · exact polite_quiet proper rfl
    · exact polite_of_content proper rfl (.visit ((acts_markRead screen).polite proper).asks)
  · exact polite_quiet proper rfl

end Screen

/-! ## Events from the user -/

/-- The events that the application does not send itself, for known views and
entries that can be used. -/
def Event.FromUser : Event → Prop
  | .switchView view => ∃ known : View, view = known.name
  | .selectItem item => item.Usable
  | .loaded _ _ _ _ => False
  | .syncProgress _ => False
  | .syncFinished _ _ => False
  | .syncFailed _ => False
  | .actionFailed _ _ => False
  | _ => True

/-- Every event from the user is answered politely. -/
theorem Screen.polite_handle {screen : Screen} (proper : screen.Proper) {event : Event}
    (user : event.FromUser) : screen.Polite (screen.handle event) := by
  cases event with
  | move delta =>
      change Polite screen (move screen delta)
      rw [move]
      split <;> exact polite_quiet proper rfl
  | moveFirst => exact polite_quiet proper rfl
  | moveLast => exact polite_quiet proper rfl
  | selectId id =>
      change Polite screen (selectId screen id)
      rw [selectId]
      split <;> exact polite_quiet proper rfl
  | switchView view =>
      obtain ⟨known, rfl⟩ := user
      exact polite_switchView screen known
  | nextTab delta =>
      obtain ⟨known, named⟩ := exists_tabAfter screen.view delta
      simp only [handle, named]
      exact polite_switchView screen known
  | enterSearch =>
      change Polite screen (enterSearch screen)
      rw [enterSearch]
      split <;> exact polite_quiet proper rfl
  | searchInput text => exact polite_quiet proper rfl
  | searchBackspace =>
      change Polite screen (searchBackspace screen)
      rw [searchBackspace]
      split <;> exact polite_quiet proper rfl
  | exitSearch => exact polite_quiet proper rfl
  | toggleHelp => exact polite_quiet proper rfl
  | escape => exact polite_escape proper
  | focusSidebar focused => exact polite_quiet proper rfl
  | moveSidebar delta =>
      change Polite screen (moveSidebar screen delta)
      rw [moveSidebar]
      split <;> exact polite_quiet proper rfl
  | activateSidebar => exact polite_activateSidebar proper
  | selectItem item => exact polite_selectItem proper user
  | toggleStar => exact (acts_actOnSelected screen .star).polite proper
  | toggleArchive => exact (acts_actOnSelected screen .archive).polite proper
  | archiveAll => exact (acts_actOnVisible screen .archiveAll).polite proper
  | unarchiveAll => exact (acts_actOnVisible screen .unarchiveAll).polite proper
  | mute => exact (acts_actOnSelected screen .mute).polite proper
  | markRead => exact (acts_markRead screen).polite proper
  | openLink => exact polite_openLink proper
  | refresh =>
      have same : content { screen with error := none } = screen.content := rfl
      exact polite_of_content proper same .sync
  | resync =>
      have same : content { screen with error := none } = screen.content := rfl
      exact polite_of_content proper same .sync
  | loaded view notifications counts totals => exact absurd user id
  | syncProgress phase => exact absurd user id
  | syncFinished pinned totals => exact absurd user id
  | syncFailed error => exact absurd user id
  | actionFailed action error => exact absurd user id

end Triage
