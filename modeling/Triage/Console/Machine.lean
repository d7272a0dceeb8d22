import Triage.Json.Parts
import Triage.Report.Style
import Triage.Screen.App
import Triage.Settings.Surroundings

/-!
# The machine

Everything that a run of the program finds and changes: its surroundings, the
file of the store, the answers of the remote service and of the user, and what
is shown to the user.  Work on it may fail, and what was done before the failure
stays done.  What shows texts to the user takes every text, and shows a half of a
surrogate pair as the replacement character.
-/

namespace Triage.Console

/-- What a run of the program finds and changes. -/
structure Machine where
  surroundings : Surroundings := {}
  /-- The file of the store, once there is one. -/
  store : Option StoreFile := none
  now : Timestamp
  /-- Answers of the remote service to come, by method and path. -/
  replies : List (String × List Reply) := []
  /-- What the user types in secret. -/
  password : String := ""
  /-- What waits for a number of seconds. -/
  sleep : Json → Except Error Unit := Pause.check
  /-- The requests sent, the oldest first. -/
  requests : List Request := []
  /-- The pauses made, in seconds. -/
  pauses : List Json := []
  /-- The questions put to the user, the oldest first. -/
  prompts : List String := []
  output : String := ""
  complaints : String := ""

/-- Work on a machine. -/
abbrev Work := ExceptT Error (StateM Machine)

namespace Machine

/-- Whether colours are used. -/
def coloured (machine : Machine) : Bool :=
  (machine.surroundings.given? "NO_COLOR").isNone

/-- The file of the store in some surroundings, where texts of files are read by
the given function. -/
def storeFile? (around : Surroundings) (read : String → StoreFile) : Option StoreFile :=
  if around.isDirectory around.storeLocation then some .blocked
  else (around.file? around.storeLocation).map read

/-- The time on the UTC clock. -/
def utcNow (machine : Machine) : Timestamp :=
  machine.now.toUtc?.getD machine.now

/-- A fresh session on the machine. -/
def session (machine : Machine) : Session where
  file := machine.store.getD (.intact {})
  now := machine.now
  replies := machine.replies

/-- The machine after a session. -/
def afterSession (machine : Machine) (session : Session) : Machine :=
  { machine with
    store := machine.store.map fun _ => session.file
    replies := session.replies
    requests := machine.requests ++ session.exchanges.map Prod.fst
    pauses := machine.pauses ++ session.pauses }

end Machine

/-! ## Showing and asking -/

/-- Show a text. -/
def say (text : String) : Work Unit :=
  modify fun machine => { machine with output := machine.output ++ text ++ "\n" }

/-- Show a text among complaints. -/
def complain (text : String) : Work Unit :=
  modify fun machine => { machine with complaints := machine.complaints ++ text ++ "\n" }

/-- Ask the user for a secret. -/
def askSecret (question : String) : Work String := do
  modify fun machine => { machine with prompts := machine.prompts ++ [question] }
  return (← get).password

/-- A text in some styles, if colours are used. -/
def styled (styles : List Report.Style) (text : String) : Work String :=
  return Report.paint (← get).coloured styles text

/-! ## Ends of a run -/

/-- The statuses with which a run ends. -/
def success : Nat := 0

@[inherit_doc success]
def failure : Nat := 1

/-- End with a complaint. -/
def fail (text : String) : Work Nat := do
  complain text
  return failure

/-- The complaint about an error. -/
def errorText (error : Error) : String :=
  "Error: " ++ error.message

/-- The outcome of work. -/
def attempt {α : Type} (work : Work α) : Work (Except Error α) := do
  try
    let value ← work
    return .ok value
  catch error => return .error error

/-- Turn an error into a complaint. -/
def guarded (work : Work Nat) : Work Nat := do
  try work
  catch error => fail (errorText error)

/-! ## Access to the parts of the machine -/

/-- Work in a session of its own. -/
def useSession {α : Type} (work : SessionWork α) : Work α :=
  ExceptT.mk fun machine =>
    let done := work.run machine.session
    (done.1, machine.afterSession done.2)

/-- Work in an application of its own. -/
def useApp {α : Type} (work : AppWork α) : Work α :=
  ExceptT.mk fun machine =>
    let done := work.run { session := machine.session }
    (done.1, machine.afterSession done.2.session)

/-- Make sure that the journal can be written. -/
def openJournal : Work Unit := do
  let around := (← get).surroundings
  MonadExcept.ofExcept (around.openJournal around.journalLocation)

/-- Make sure that there is a store; a file that holds something else is
refused. -/
def openStore : Work Unit := do
  let machine ← get
  MonadExcept.ofExcept (machine.surroundings.makeDirectory machine.surroundings.dataDirectory)
  match machine.store with
  | none => set { machine with store := some (.intact {}) }
  | some (.intact _) => return ()
  | some .damaged => throw .notAStore
  | some .blocked => throw .noStorePlace

/-- Work on the store, which is made if there is none. -/
def useStore {α : Type} (work : StoreAccess α) : Work α := do
  openStore
  useSession (Session.useStore work)

/-- Work with the remote service. -/
def useRemote {α : Type} (work : RemoteAccess α) : Work α :=
  useSession (Session.useRemote work)

/-! ## The account -/

/-- Settings and the token that belongs to them. -/
structure Account where
  settings : Json.Fields
  token : String

namespace Account

/-- The section about the service. -/
def service (account : Account) : Json :=
  account.settings.getD "remote"

/-- The address of the service. -/
def address (account : Account) : String :=
  (account.service.field "base_url").text

/-- The client that speaks for the account. -/
def client (account : Account) : Client :=
  Client.make account.address account.token
    ((account.service.field? "per_page").getD Client.defaultPerPage)

/-- How the account's settings want synchronisation, given what waits. -/
def setup (account : Account) (sleep : Json → Except Error Unit) : Except Error Setup := do
  let setup ← Setup.ofSettings account.settings account.client
  let _ ← Setup.section? account.settings "ui"
  return { setup with sleep := sleep }

end Account

/-- The settings. -/
def settings : Work Json.Fields := do
  MonadExcept.ofExcept (← get).surroundings.settings

/-- The account, if there is a token. -/
def account? : Work (Option Account) := do
  let settings ← settings
  let token ← MonadExcept.ofExcept ((← get).surroundings.token? (.obj settings))
  return (token.filter fun token => !token.isEmpty).map fun token => ⟨settings, token⟩

/-- Everything that changes and synchronisation need: an account, a store and a
setup. -/
def prepare : Work Setup := do
  match ← account? with
  | none => throw .noToken
  | some account =>
      openStore
      MonadExcept.ofExcept (account.setup (← get).sleep)

end Triage.Console
