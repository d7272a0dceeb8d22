import Triage.Error
import Triage.Settings.Location
import Triage.Settings.Merge
import Triage.Toml.Document

/-!
# Surroundings

What the program finds when it starts: environment variables, the user's home
directory and text files.  Settings and the token are read from them.  A
directory is a location on the way to a file; others are made when they are
needed, unless a file stands in the way.
-/

namespace Triage

/-- What the program finds when it starts. -/
structure Surroundings where
  /-- Environment variables by name. -/
  environment : List (String × String) := []
  home : Location := ⟨"", []⟩
  /-- Text files by location. -/
  files : List (String × String) := []
  /-- What the reader of settings says of a malformed text. -/
  complaint : String → String := fun _ => "Malformed settings"

namespace Surroundings

/-- The value of an environment variable. -/
def lookup? (around : Surroundings) (name : String) : Option String :=
  around.environment.lookup name

/-- The value of an environment variable that is not empty. -/
def given? (around : Surroundings) (name : String) : Option String :=
  (around.lookup? name).filter fun value => !value.isEmpty

/-- Whether a file lies below a location. -/
def isDirectory (around : Surroundings) (location : Location) : Bool :=
  around.files.any fun file => location.isAbove (Location.ofText file.1)

/-- Whether a file stands above a location. -/
def isBelowFile (around : Surroundings) (location : Location) : Bool :=
  around.files.any fun file => (Location.ofText file.1).isAbove location

/-- The text of a file. -/
def file? (around : Surroundings) (location : Location) : Option String :=
  around.files.lookup location.text

/-- Whether there is a file or a directory. -/
def has (around : Surroundings) (location : Location) : Bool :=
  (around.file? location).isSome || around.isDirectory location

/-- The text of a file, if there is one; a directory in its place cannot be
read. -/
def readFile (around : Surroundings) (location : Location) : Except Error (Option String) :=
  if around.isDirectory location then .error (.file (.isDirectory location.text))
  else .ok (around.file? location)

/-- Make sure that there is a directory. -/
def makeDirectory (around : Surroundings) (location : Location) : Except Error Unit :=
  if around.isBelowFile location then .error (.file (.notDirectory location.text))
  else if (around.file? location).isSome then .error (.file (.occupied location.text))
  else .ok ()

/-- Write a file. -/
def writeFile (around : Surroundings) (location : Location) (text : String) : Surroundings :=
  { around with files := Keyed.put around.files location.text text }

/-! ## Locations -/

/-- The directory of settings. -/
def settingsDirectory (around : Surroundings) : Location :=
  let base :=
    match around.lookup? "XDG_CONFIG_HOME" with
    | some text => Location.ofText text
    | none => around.home.child ".config"
  base.child "tidings"

/-- The file of settings. -/
def settingsLocation (around : Surroundings) : Location :=
  around.settingsDirectory.child "config.toml"

/-- The directory of everything the program keeps. -/
def dataDirectory (around : Surroundings) : Location :=
  match around.given? "TIDINGS_HOME" with
  | some text => Location.ofText text
  | none => around.home.child ".tidings"

/-- The file of the store. -/
def storeLocation (around : Surroundings) : Location :=
  around.dataDirectory.child "cache.db"

/-- The file of the journal. -/
def journalLocation (around : Surroundings) : Location :=
  around.dataDirectory.child "debug.log"

/-- The file of the token. -/
def tokenLocation (around : Surroundings) : Location :=
  around.dataDirectory.child "token"

/-! ## Settings -/

/-- The address of the service unless settings say otherwise. -/
def defaultAddress : String := "https://octobox.io"

/-- The settings that hold where no others are given. -/
def defaultSettings : Json.Fields :=
  [("remote", .obj
      [("base_url", .str defaultAddress),
        ("per_page", .int 100),
        ("timeout", .real (Binary64.ofInt 30))]),
    ("sync", .obj
      [("cache_ttl_seconds", .int 300),
        ("poll_interval_seconds", .real (Binary64.ofInt 1)),
        ("poll_attempts", .int 30)]),
    ("ui", .obj
      [("probe_interval_seconds", .real (Binary64.ofInt 1))])]

/-- The settings of the file laid over the default ones. -/
def fileSettings (around : Surroundings) : Except Error Json.Fields := do
  match ← around.readFile around.settingsLocation with
  | none => return defaultSettings
  | some text =>
      match Toml.read text with
      | .ok fields => return Settings.merge defaultSettings fields
      | .error fault => throw (.settings fault (around.complaint text))

/-- The settings of the service with the address that is given from outside. -/
def overrideAddress (address : Option String) (remote : Json) : Except Error Json :=
  match address with
  | none => .ok remote
  | some text =>
      match remote with
      | .obj fields => .ok (.obj (Keyed.put fields "base_url" (.str text)))
      | other => .error (.misuse (.ofKeyWrite other))

/-- The settings of the service with an address that does not end in slashes. -/
def trimAddress : Json → Except Error Json
  | .obj fields =>
      match Json.Fields.getD fields "base_url" with
      | .str address =>
          .ok (.obj (Keyed.put fields "base_url" (.str (Text.stripTrailingSlashes address))))
      | other => .error (.misuse (.notText other.kindName "rstrip"))
  | other => .error (.misuse (.ofKeyRead other))

/-- The settings: the default ones, those of the file over them, and the address
that is given from outside over these. -/
def settings (around : Surroundings) : Except Error Json.Fields := do
  let found ← around.fileSettings
  let remote ← overrideAddress (around.given? "TIDINGS_URL") (found.getD "remote")
  let remote ← trimAddress remote
  return Keyed.put found "remote" remote

/-! ## The token -/

/-- The token in the file of the token, without blanks at its ends.  Line ends of
every kind are read as line feeds. -/
def fileToken? (around : Surroundings) : Except Error (Option String) := do
  let text ← around.readFile around.tokenLocation
  return (text.map fun text => Text.strip (Text.withLineFeeds text)).filter fun token =>
    !token.isEmpty

/-- The settings in which the token is looked up: those given, or if they do not
count as given the program's own. -/
def tokenSettings (around : Surroundings) (given : Json) : Except Error Json :=
  if given.truthy then .ok given else Json.obj <$> around.settings

/-- The section about the service in settings; an absent one is empty. -/
def remoteSection : Json → Except Error Json
  | .obj fields => .ok ((Json.Fields.get? fields "remote").getD (.obj []))
  | other => .error (.misuse (.noFields other.kindName))

/-- The token in a section about the service, null if there is none. -/
def sectionToken : Json → Except Error Json
  | .obj fields => .ok (Json.Fields.getD fields "api_token")
  | other => .error (.misuse (.noFields other.kindName))

/-- The token: the environment's, or else that of the settings, or else that of
the token's file. -/
def token? (around : Surroundings) (given : Json) : Except Error (Option String) :=
  match around.given? "TIDINGS_API_TOKEN" with
  | some token => .ok (some (Text.strip token))
  | none => do
      let settings ← around.tokenSettings given
      let remote ← remoteSection settings
      let token ← sectionToken remote
      if token.truthy then
        match token with
        | .str text => return some (Text.strip text)
        | other => throw (.misuse (.notText other.kindName "strip"))
      else around.fileToken?

/-- Keep a token for later, without blanks at its ends. -/
def saveToken (around : Surroundings) (token : Json) : Except Error Surroundings := do
  around.makeDirectory around.settingsDirectory
  around.makeDirectory around.dataDirectory
  match token with
  | .str text =>
      let _ ← around.readFile around.tokenLocation
      return around.writeFile around.tokenLocation (Text.strip text)
  | other => throw (.misuse (.notText other.kindName "strip"))

/-! ## The journal -/

/-- Make sure that the journal can be written at a location. -/
def openJournal (around : Surroundings) (location : Location) : Except Error Unit := do
  around.makeDirectory location.parent
  let _ ← around.readFile location.resolved

end Surroundings

end Triage
