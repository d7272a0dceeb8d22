import Triage.Action.Plan
import Triage.Resync.Session
import Triage.Screen.State

/-!
# Events and commands

What can happen to the screen, and what the screen asks for in return.
-/

namespace Triage

/-- Something that happens to the screen. -/
inductive Event where
  | move (delta : Int)
  | moveFirst
  | moveLast
  | selectId (id : Int)
  | switchView (view : String)
  | nextTab (delta : Int)
  | enterSearch
  | searchInput (text : String)
  | searchBackspace
  | exitSearch
  | toggleHelp
  | escape
  | focusSidebar (focused : Bool)
  | moveSidebar (delta : Int)
  | activateSidebar
  | selectItem (item : SidebarItem)
  | toggleStar
  | toggleArchive
  | archiveAll
  | unarchiveAll
  | mute
  | markRead
  | openLink
  | refresh
  | resync
  /-- The store was read. -/
  | loaded (view : String) (notifications : List Notification) (counts : TabCounts)
      (totals : FacetTotals)
  | syncProgress (phase : Phase)
  | syncFinished (pinned : List PinnedSearch) (totals : FacetTotals)
  | syncFailed (error : String)
  | actionFailed (action error : String)
  deriving DecidableEq, Repr

/-- Something that the screen asks for. -/
inductive Command where
  /-- Read the view, the counts and the division of the inbox from the store. -/
  | reload
  /-- Write values of flags into the store. -/
  | patchStore (changes : List (Int × FlagChanges))
  /-- Send an action to the remote service. -/
  | callRemote (plan : Plan)
  | startSync (trigger : Bool)
  | openUrl (url : String)
  deriving DecidableEq, Repr

end Triage
