import Triage.Screen.Sidebar
import Triage.Search.Criteria

/-!
# The screen

The state of the screen, and what follows from it: the list that is visible, the
selected notification and the sidebar.
-/

namespace Triage

/-- The state of the screen. -/
structure Screen where
  /-- The notifications of the view, as loaded from the store. -/
  notifications : List Notification := []
  view : String := "inbox"
  selectedIndex : Int := 0
  searchMode : Bool := false
  searchQuery : String := ""
  loading : Bool := false
  syncing : Bool := false
  error : Option String := none
  showHelp : Bool := false
  counts : TabCounts := {}
  totals : FacetTotals := {}
  pinned : List PinnedSearch := []
  /-- The entry of the sidebar that narrows the list. -/
  selection : Option SidebarItem := none
  sidebarFocus : Bool := false
  sidebarIndex : Int := 0
  deriving DecidableEq, Repr

namespace Screen

/-- The notifications that the selected entry leaves. -/
def narrowed (screen : Screen) : List Notification :=
  match screen.selection with
  | some (.pinned _ query _) => Search.search query screen.notifications
  | _ => screen.notifications

/-- What is wrong with the selected entry, if the list cannot be narrowed by
it. -/
def selectionFault? (screen : Screen) : Option Schema.Failure :=
  screen.selection.bind SidebarItem.fault?

/-- The visible list: what the selected entry and the search text leave, in the
order of the store. -/
def visible (screen : Screen) : List Notification :=
  Search.select (screen.selection.bind SidebarItem.facet?) (Search.parse screen.searchQuery)
    screen.narrowed

/-- The selected notification, if the cursor is on one. -/
def selected (screen : Screen) : Option Notification :=
  if 0 ≤ screen.selectedIndex then screen.visible[screen.selectedIndex.toNat]? else none

/-- The greatest index of the visible list, or zero if it is empty. -/
def lastIndex (screen : Screen) : Int :=
  max ((screen.visible.length : Int) - 1) 0

/-- Move the cursor into the visible list. -/
def clampSelection (screen : Screen) : Screen :=
  { screen with selectedIndex := min (max screen.selectedIndex 0) screen.lastIndex }

/-- The entries of the sidebar. -/
def sidebar (screen : Screen) : List SidebarItem :=
  Sidebar.items screen.counts screen.pinned screen.totals

end Screen

end Triage
