import Triage.Console.Checkup
import Triage.Console.Help
import Triage.Console.Invocation
import Triage.Report.Overview

/-!
# Runs

What the program does for each invocation.  A run ends with a status, and only a
fault of the settings, the token or the journal can keep it from doing so.
-/

namespace Triage.Console

/-! ## Looking at the store -/

/-- Show the notifications of a view that a query finds. -/
def list (view : View) (query : String) : Work Nat :=
  guarded do
    let records ← useStore (Store.load view)
    let machine ← get
    say (Report.listing machine.coloured machine.utcNow view.name.toUpper
      (Search.search query records))
    if (← useStore (Store.lastSyncTime Store.notificationsResource)).isNone then
      say (← styled [.dim] "\nCache is empty. Run 'tidings sync' first.")
    return success

/-- Show how the inbox is divided. -/
def facets : Work Nat :=
  guarded do
    let totals ← useStore Store.totals
    say (Report.facets (← get).coloured totals)
    return success

/-- Show the counts of the tabs and the state of synchronisation. -/
def status : Work Nat :=
  guarded do
    let counts ← useStore Store.counts
    let sync ← useStore (Store.syncStatus Store.notificationsResource)
    let machine ← get
    let stale ← useStore (Store.isStale machine.now Store.notificationsResource
      Store.defaultLifetime)
    say (Report.status machine.coloured machine.utcNow counts sync stale)
    return success

/-- Show how every part of the program is found. -/
def health : Work Nat := do
  let findings ← Checkup.all
  say (Report.health (findings.map fun (name, finding) =>
    (name, finding.verdict.symbol, finding.message)))
  return if findings.all fun finding => finding.2.verdict != .bad then success else failure

/-! ## Talking to the service -/

/-- Do something for which an account is needed. -/
def withAccount (work : Account → Work Nat) : Work Nat := do
  match ← account? with
  | some account => guarded (work account)
  | none => fail "Error: No API token. Run 'tidings login' first."

/-- The number of matches in the inbox under the name of each pinned search, the
last one of a name counting. -/
def pinnedCounts (inbox : List Notification) (searches : List PinnedSearch) :
    List (String × Option Int) :=
  Keyed.ofList (searches.map fun pinned =>
    (pinned.name, some ((Search.search pinned.query inbox).length : Int)))

/-- The pinned search of a name, in which the case of letters does not count. -/
def findPinned? (name : String) (searches : List PinnedSearch) : Option PinnedSearch :=
  searches.find? fun pinned => Text.lower pinned.name == Text.lower name

/-- Show the pinned searches, or the matches of one of them in the inbox. -/
def pinned (name : Option String) : Work Nat :=
  withAccount fun account => do
    let searches ← useRemote account.client.pinnedSearches
    let inbox ← useStore (Store.load .inbox)
    let machine ← get
    match name with
    | none =>
        say (Report.pinnedSearches machine.coloured (pinnedCounts inbox searches) searches)
        return success
    | some name =>
        match findPinned? name searches with
        | some pinned =>
            say (Report.listing machine.coloured machine.utcNow pinned.name
              (Search.search pinned.query inbox))
            return success
        | none => fail ("Error: No pinned search named '" ++ name ++ "'")

/-- Show to whom the token belongs. -/
def whoami : Work Nat :=
  withAccount fun account => do
    let profile ← useRemote account.client.userProfile
    say (profile.loginOr "unknown" ++ " @ " ++ account.address)
    return success

/-- Keep a token that was found to belong to an account. -/
def keepToken (token : String) (profile : UserProfile) : Work Nat := do
  let machine ← get
  let around ← MonadExcept.ofExcept (machine.surroundings.saveToken (.str token))
  set { machine with surroundings := around }
  say ("Logged in as " ++ profile.loginOr "unknown" ++ ". Token saved to " ++
    around.tokenLocation.text)
  return success

/-- Ask for a token, try it and keep it. -/
def login : Work Nat := do
  let settings ← settings
  say ("Get an API token from " ++ (Account.mk settings "").address ++ "/settings")
  let token := Text.strip (← askSecret "API token: ")
  if token.isEmpty then fail "Error: Empty token"
  else
    match ← attempt (useRemote (Account.mk settings token).client.userProfile) with
    | .ok profile => keepToken token profile
    | .error error => fail (errorText error)

/-- Synchronise the store. -/
def sync (triggered : Bool) : Work Nat :=
  guarded do
    let setup ← prepare
    say (if triggered then "Syncing..." else "Refreshing...")
    let result ← useSession (Resync.resync setup triggered)
    say ("Done. " ++ toString result.count ++ " notifications cached, " ++
      toString result.pinned.length ++ " pinned searches.")
    return success

/-! ## Changes -/

/-- How a change ended. -/
inductive Notice where
  | done (text : String)
  | refused (text : String)
  deriving DecidableEq, Repr

/-- Show how a change ended. -/
def Notice.show : Notice → Work Nat
  | .done text => do
      say text
      return success
  | .refused text => fail text

/-- The event that changes a notification, or what there is to say if it is
already as it should be. -/
def Change.event (change : Change) (record : Notification) : Except String Event :=
  match change with
  | .star => .ok .toggleStar
  | .archive =>
      if record.flags.archived then .error ("Already archived: " ++ toString record.id)
      else .ok .toggleArchive
  | .unarchive =>
      if record.flags.archived then .ok .toggleArchive
      else .error ("Not archived: " ++ toString record.id)
  | .mute => .ok .mute
  | .read =>
      if record.flags.unread then .ok .markRead
      else .error ("Already read: " ++ toString record.id)

/-- The event that changes every notification shown. -/
def Sweep.event : Sweep → Event
  | .archiveAll => .archiveAll
  | .unarchiveAll => .unarchiveAll

/-- Wait for what was started in the background; a change that was rolled back
has not been done. -/
def settle (setup : Setup) (name text : String) : AppWork Notice := do
  App.pump setup
  let app ← get
  if app.rollbacks = 0 then return .done text
  return .refused ("Rolled back " ++ name ++ ": " ++ app.screen.error.getD "")

/-- Change the notification of a number. -/
def applyChange (setup : Setup) (change : Change) (id : Int) : AppWork Notice := do
  App.dispatch setup (.switchView View.all.name)
  App.dispatch setup (.selectId id)
  match (← get).screen.selected.filter fun record => record.id == id with
  | none => return .refused ("Not cached: " ++ toString id ++ " (run 'tidings sync')")
  | some record =>
      match change.event record with
      | .error text => return .done text
      | .ok event =>
          App.dispatch setup event
          settle setup change.name (change.title ++ ": " ++ toString id)

/-- Change every notification that a query finds. -/
def applySweep (setup : Setup) (sweep : Sweep) (query : String) : AppWork Notice := do
  App.dispatch setup (.switchView sweep.view.name)
  App.dispatch setup (.searchInput query)
  let count := (← get).screen.visible.length
  if count = 0 then return .done "No matching notifications."
  App.dispatch setup sweep.event
  settle setup sweep.name (sweep.participle ++ " " ++ toString count ++ " notification(s)")

/-- Make a change in an application of its own. -/
def makeChange (work : Setup → AppWork Notice) : Work Nat :=
  guarded do
    let setup ← prepare
    (← useApp (work setup)).show

/-! ## The command line -/

/-- Do what the user asks for. -/
def run : Invocation → Work Nat
  | .help => do
      say helpText
      return success
  | .version => do
      say versionText
      return success
  | .list view query => list view query
  | .pinned name => pinned name
  | .sync triggered => sync triggered
  | .change change id => makeChange fun setup => applyChange setup change id
  | .sweep sweep query => makeChange fun setup => applySweep setup sweep query
  | .facets => facets
  | .status => status
  | .health => health
  | .whoami => whoami
  | .login => login

/-- Do what the arguments of the command line ask for.  Whatever needs more than
to show a text opens the journal first. -/
def runArguments (arguments : List String) : Work Nat := do
  match Invocation.ofArguments arguments with
  | .ok .help => run .help
  | .ok .version => run .version
  | .ok invocation =>
      openJournal
      run invocation
  | .error error =>
      openJournal
      fail error.message

end Triage.Console
