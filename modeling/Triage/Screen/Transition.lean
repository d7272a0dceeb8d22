import Triage.Screen.Event

/-!
# Transitions of the screen

How the screen answers an event: by its next state and by commands, in the order
in which they are carried out.  Nothing here reads or writes anything else.
-/

namespace Triage.Screen

/-- The next state and the commands. -/
abbrev Answer := Screen × List Command

/-- A state without commands. -/
def quiet (screen : Screen) : Answer :=
  (screen, [])

/-! ## The list -/

/-- Move the cursor within the visible list. -/
def move (screen : Screen) (delta : Int) : Answer :=
  if screen.visible.isEmpty then quiet screen
  else
    quiet { screen with
      selectedIndex := min (max (screen.selectedIndex + delta) 0) (screen.visible.length - 1) }

/-- Put the cursor on a notification, if it is visible. -/
def selectId (screen : Screen) (id : Int) : Answer :=
  match screen.visible.findIdx? fun record => record.id == id with
  | some index => quiet { screen with selectedIndex := index }
  | none => quiet screen

/-- Show a view from its start, without selection and search text. -/
def switchView (screen : Screen) (view : String) : Answer :=
  ({ screen with
      view := view
      selection := none
      sidebarFocus := false
      selectedIndex := 0
      searchQuery := "" },
    [.reload])

/-- The tab at a distance from a view, going round; a view that is no tab counts
as the first. -/
def tabAfter (view : String) (delta : Int) : String :=
  let current : Int := (tabs.idxOf? view).getD 0
  tabs.getD ((current + delta) % tabs.length).toNat ""

/-! ## The search text -/

/-- Start a search with an empty text, unless one is going on. -/
def enterSearch (screen : Screen) : Answer :=
  if screen.searchMode then quiet screen
  else quiet { screen with searchMode := true, searchQuery := "" }

/-- Remove the last character of the search text. -/
def searchBackspace (screen : Screen) : Answer :=
  if screen.searchQuery.isEmpty then quiet screen
  else
    quiet { screen with searchQuery := Text.dropLast screen.searchQuery, selectedIndex := 0 }

/-- End a search. -/
def exitSearch (screen : Screen) : Answer :=
  quiet { screen with searchMode := false, searchQuery := "", selectedIndex := 0 }

/-- Leave what was entered last: the help, the search, the selection or the
sidebar. -/
def escape (screen : Screen) : Answer :=
  if screen.showHelp then quiet { screen with showHelp := false }
  else if screen.searchMode then exitSearch screen
  else if screen.selection.isSome then
    ({ screen with selection := none, selectedIndex := 0 }, [.reload])
  else if screen.sidebarFocus then quiet { screen with sidebarFocus := false }
  else quiet screen

/-! ## The sidebar -/

/-- The next selectable entry after an index, going down or up. -/
def nextSelectable (items : List SidebarItem) (down : Bool) (index : Int) : Option Int :=
  let start := if down then index + 1 else index - 1
  if 0 ≤ start && start < items.length then
    if down then
      ((items.drop start.toNat).findIdx? SidebarItem.selectable).map fun offset => start + offset
    else
      ((items.take (start.toNat + 1)).reverse.findIdx? SidebarItem.selectable).map
        fun offset => start - offset
  else none

/-- Go from an index over a number of selectable entries, or as far as there are
any. -/
def walk (items : List SidebarItem) (down : Bool) : Nat → Int → Int
  | 0, index => index
  | count + 1, index =>
      match nextSelectable items down index with
      | some next => walk items down count next
      | none => index

/-- Move the cursor of the sidebar. -/
def moveSidebar (screen : Screen) (delta : Int) : Answer :=
  if delta == 0 then quiet screen
  else
    quiet { screen with
      sidebarIndex := walk screen.sidebar (0 < delta) delta.natAbs screen.sidebarIndex }

/-- Select an entry of the sidebar.  A tab is shown, a pinned search narrows the
inbox, and a facet narrows the view; the facet that is selected already is
cleared. -/
def selectItem (screen : Screen) (item : SidebarItem) : Answer :=
  match item with
  | .header _ => quiet screen
  | .separator => quiet screen
  | .tab view _ => switchView screen view
  | .pinned _ _ _ =>
      ({ screen with
          view := "inbox"
          selection := some item
          sidebarFocus := false
          selectedIndex := 0 },
        [.reload])
  | .facet _ _ _ =>
      let active :=
        match screen.selection with
        | some other => item.sameAs other
        | none => false
      quiet { screen with
        selection := if active then none else some item
        sidebarFocus := false
        selectedIndex := 0 }

/-- Select the entry under the cursor of the sidebar, if there is one. -/
def activateSidebar (screen : Screen) : Answer :=
  let item? :=
    if 0 ≤ screen.sidebarIndex then screen.sidebar[screen.sidebarIndex.toNat]? else none
  match item? with
  | some item => selectItem screen item
  | none => quiet screen

/-! ## Actions -/

/-- Carry out a plan: write it to the store, show that, and send it. -/
def optimistic (screen : Screen) (plan : Plan) : Answer :=
  if plan.isEmpty then quiet screen
  else (screen, [.patchStore plan.changes, .reload, .callRemote plan])

/-- An action on the selected notification. -/
def actOnSelected (screen : Screen) (action : Action) : Answer :=
  match screen.selected with
  | some record => optimistic screen (Plan.make action [record])
  | none => quiet screen

/-- An action on every visible notification. -/
def actOnVisible (screen : Screen) (action : Action) : Answer :=
  optimistic screen (Plan.make action screen.visible)

/-- Mark the selected notification as read unless it is. -/
def markRead (screen : Screen) : Answer :=
  match screen.selected with
  | some record =>
      if record.flags.unread then optimistic screen (Plan.make .markRead [record])
      else quiet screen
  | none => quiet screen

/-- Open the page of the selected notification and mark it as read. -/
def openLink (screen : Screen) : Answer :=
  match screen.selected.bind (·.webUrl) with
  | some url =>
      if url.isEmpty then quiet screen
      else (screen, .openUrl url :: (markRead screen).2)
  | none => quiet screen

/-! ## News from the store and from the background -/

/-- Show what was read from the store, unless it belongs to another view. -/
def loaded (screen : Screen) (view : String) (notifications : List Notification)
    (counts : TabCounts) (totals : FacetTotals) : Answer :=
  if view == screen.view then
    quiet (clampSelection
      { screen with notifications := notifications, counts := counts, totals := totals })
  else quiet screen

/-- Show the phase of a synchronisation. -/
def syncProgress (screen : Screen) (phase : Phase) : Answer :=
  quiet { screen with
    syncing := phase == .triggering || phase == .polling
    loading := phase == .fetching || phase == .replacing }

/-- Show what a finished synchronisation brought. -/
def syncFinished (screen : Screen) (pinned : List PinnedSearch) (totals : FacetTotals) :
    Answer :=
  ({ screen with
      pinned := pinned
      totals := totals
      syncing := false
      loading := false
      error := none },
    [.reload])

/-- The answer of the screen to an event. -/
def handle (screen : Screen) : Event → Answer
  | .move delta => move screen delta
  | .moveFirst => quiet { screen with selectedIndex := 0 }
  | .moveLast => quiet { screen with selectedIndex := screen.lastIndex }
  | .selectId id => selectId screen id
  | .switchView view => switchView screen view
  | .nextTab delta => switchView screen (tabAfter screen.view delta)
  | .enterSearch => enterSearch screen
  | .searchInput text =>
      quiet { screen with searchQuery := screen.searchQuery ++ text, selectedIndex := 0 }
  | .searchBackspace => searchBackspace screen
  | .exitSearch => exitSearch screen
  | .toggleHelp => quiet { screen with showHelp := !screen.showHelp }
  | .escape => escape screen
  | .focusSidebar focused => quiet { screen with sidebarFocus := focused }
  | .moveSidebar delta => moveSidebar screen delta
  | .activateSidebar => activateSidebar screen
  | .selectItem item => selectItem screen item
  | .toggleStar => actOnSelected screen .star
  | .toggleArchive => actOnSelected screen .archive
  | .archiveAll => actOnVisible screen .archiveAll
  | .unarchiveAll => actOnVisible screen .unarchiveAll
  | .mute => actOnSelected screen .mute
  | .markRead => markRead screen
  | .openLink => openLink screen
  | .refresh => ({ screen with error := none }, [.startSync false])
  | .resync => ({ screen with error := none }, [.startSync true])
  | .loaded view notifications counts totals => loaded screen view notifications counts totals
  | .syncProgress phase => syncProgress screen phase
  | .syncFinished pinned totals => syncFinished screen pinned totals
  | .syncFailed error =>
      quiet { screen with syncing := false, loading := false, error := some error }
  | .actionFailed action error =>
      ({ screen with error := some (action ++ " failed: " ++ error) }, [.reload])

/-- Whether the answer to an event depends on the visible list. -/
def looksAtList (screen : Screen) : Event → Bool
  | .move _ => true
  | .moveLast => true
  | .selectId _ => true
  | .toggleStar => true
  | .toggleArchive => true
  | .archiveAll => true
  | .unarchiveAll => true
  | .mute => true
  | .markRead => true
  | .openLink => true
  | .loaded view _ _ _ => view == screen.view
  | _ => false

/-- The answer of the screen to an event, unless it depends on a list that cannot
be narrowed by the selected entry. -/
def respond (screen : Screen) (event : Event) : Except Schema.Failure Answer :=
  match screen.selectionFault? with
  | some failure =>
      if looksAtList screen event then .error failure else .ok (handle screen event)
  | none => .ok (handle screen event)

/-- With a usable selection every event is answered. -/
theorem respond_eq_handle {screen : Screen} (usable : screen.selectionFault? = none)
    (event : Event) : respond screen event = .ok (handle screen event) := by
  simp [respond, usable]

end Triage.Screen
