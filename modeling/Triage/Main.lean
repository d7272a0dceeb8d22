import Std.Time.DateTime.Timestamp
import Triage.Console.Run
import Triage.Store.File

/-!
# The program

What a run finds is read from the environment, from files and from the clock,
and what it leaves is written back.  No connection to a remote service is made
here: every request is lost.
-/

open Triage

namespace Triage.Program

/-- The environment variables that matter. -/
def variableNames : List String :=
  ["XDG_CONFIG_HOME", "TIDINGS_HOME", "TIDINGS_API_TOKEN", "TIDINGS_URL", "NO_COLOR"]

/-- The environment variables that are set. -/
def findVariables : IO (List (String × String)) :=
  variableNames.filterMapM fun name => do
    return (← IO.getEnv name).map fun value => (name, value)

/-- The text of a file that can be read. -/
def readText? (location : Location) : IO (Option String) := do
  try return some (← IO.FS.readFile location.text)
  catch _ => return none

/-- The surroundings of a run. -/
def findSurroundings : IO Surroundings := do
  let around : Surroundings :=
    { environment := ← findVariables
      home := Location.ofText ((← IO.getEnv "HOME").getD "") }
  let files ← [around.settingsLocation, around.tokenLocation].filterMapM fun location => do
    return (← readText? location).map fun text => (location.text, text)
  return { around with files := files }

/-- The time. -/
def readClock : IO Timestamp := do
  let seconds := (← Std.Time.Timestamp.now).toSecondsSinceUnixEpoch.val
  return (Timestamp.ofWall? ((seconds + Timestamp.unixEpoch) * Timestamp.second) (some 0)).getD
    ⟨0, some 0, by decide⟩

/-- The paths that requests may lead to, given the numbers of notifications. -/
def paths (ids : List Int) : List (String × String) :=
  [("GET", Client.pagePath), ("POST", Client.triggerPath), ("GET", Client.progressPath),
    ("GET", Client.pinnedPath), ("GET", Client.profilePath)] ++
    [Mutation.star, .archive, .unarchive, .mute, .markRead].flatMap fun mutation =>
      (Client.mutationCalls mutation ids).map fun call => (call.1, call.2.1)

/-- No answer to any request that a run can make. -/
def lostReplies (around : Surroundings) (arguments : List String) : List (String × List Reply) :=
  let settings := around.settings.toOption.getD []
  let client := (Console.Account.mk settings "").client
  (paths (arguments.filterMap IntegerText.read?)).map fun (method, path) =>
    (client.route method path, [.lost "no connection"])

/-- The secret that the user types, if a run asks for one. -/
def readSecret (arguments : List String) : IO String := do
  match Console.Invocation.ofArguments arguments with
  | .ok .login => (← IO.getStdin).getLine
  | _ => return ""

/-- The machine on which a run starts. -/
def findMachine (arguments : List String) : IO Console.Machine := do
  let around ← findSurroundings
  return {
    surroundings := around
    store := (← readText? around.storeLocation).map StoreFile.ofText
    now := ← readClock
    replies := lostReplies around arguments
    password := ← readSecret arguments }

/-- Write a file into the directory of everything the program keeps. -/
def writeText (around : Surroundings) (location : Location) (text : String) : IO Unit := do
  IO.FS.createDirAll around.dataDirectory.text
  IO.FS.writeFile location.text text

/-- Write what a run leaves. -/
def leave (machine : Console.Machine) : IO Unit := do
  let around := machine.surroundings
  if let some text := machine.store.bind StoreFile.text? then
    writeText around around.storeLocation text
  if let some token := around.file? around.tokenLocation then
    writeText around around.tokenLocation token

end Triage.Program

/-- Do what the arguments ask for. -/
def main (arguments : List String) : IO UInt32 := do
  let done := (Console.runArguments arguments).run (← Program.findMachine arguments)
  IO.print done.2.output
  IO.eprint done.2.complaints
  Program.leave done.2
  match done.1 with
  | .ok status => return status.toUInt32
  | .error error =>
      IO.eprintln (Console.errorText error)
      return 1
