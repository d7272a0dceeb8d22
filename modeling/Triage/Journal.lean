import Triage.Settings.Surroundings
import Triage.Text.CharClass

/-!
# The journal

Diagnostics are written to a file, never to the terminal.  The journal takes
messages once it has been set up; setting it up again changes only what it
takes.
-/

namespace Triage

/-- How much a message matters. -/
inductive Severity where
  /-- Less than anything that is ever taken. -/
  | unset
  | debug
  | info
  | warning
  | error
  | critical
  deriving DecidableEq, Repr

namespace Severity

/-- Every severity in ascending order. -/
def all : List Severity := [.unset, .debug, .info, .warning, .error, .critical]

/-- The name of a severity. -/
def name : Severity → String
  | .unset => "NOTSET"
  | .debug => "DEBUG"
  | .info => "INFO"
  | .warning => "WARNING"
  | .error => "ERROR"
  | .critical => "CRITICAL"

/-- The rank of a severity. -/
def rank : Severity → Nat
  | .unset => 0
  | .debug => 10
  | .info => 20
  | .warning => 30
  | .error => 40
  | .critical => 50

/-- Other names of severities. -/
def otherNames : List (String × Severity) :=
  [("WARN", .warning), ("FATAL", .critical)]

/-- The severity of a name. -/
def ofName? (name : String) : Option Severity :=
  (all.find? fun severity => severity.name == name).or (otherNames.lookup name)

end Severity

/-- The journal. -/
structure Journal where
  /-- The least severity that is taken. -/
  threshold : Severity := .info
  /-- The file, once the journal is set up. -/
  location : Option Location := none
  /-- The messages taken, the oldest first. -/
  entries : List (Severity × String × String) := []
  deriving Repr

namespace Journal

/-- The name under which the program's own parts report. -/
def root : String := "tidings"

/-- Whether a name belongs to a part of the program. -/
def isOwn (source : String) : Bool :=
  source == root || (root ++ ".").toList.isPrefixOf source.toList

/-- Set the journal up; only the first time decides the file. -/
def setUp (journal : Journal) (debug : Bool) (location : Location) : Journal :=
  { journal with
    threshold := if debug then .debug else .info
    location := journal.location.or (some location.resolved) }

/-- Set the journal up as the surroundings have it, unless it is told how much to take or
where to write. -/
def setUpIn (journal : Journal) (around : Surroundings) (debug : Option Bool)
    (location : Option Location) : Journal :=
  journal.setUp (debug.getD (around.given? "TIDINGS_DEBUG").isSome)
    (location.getD around.journalLocation)

/-- Report a message. -/
def report (journal : Journal) (source : String) (severity : Severity) (message : String) :
    Journal :=
  if isOwn source && journal.location.isSome && journal.threshold.rank ≤ severity.rank then
    { journal with entries := journal.entries ++ [(severity, source, message)] }
  else journal

/-- The line of a message after its time. -/
def entryText (entry : Severity × String × String) : String :=
  entry.1.name ++ ": " ++ entry.2.1 ++ ": " ++ entry.2.2

/-! ## The text of the file -/

/-- The mark in the place of the time in front of an entry. -/
def timeMark : List Char := ['[', 'T', ']', ' ']

/-- What follows a time of day between brackets and a space. -/
def afterTime? (characters : List Char) : Option (List Char) :=
  let isDigit := fun character => (Text.decimalValue? character).isSome
  match characters with
  | '[' :: h :: i :: ':' :: m :: n :: ':' :: s :: t :: ']' :: ' ' :: rest =>
      if [h, i, m, n, s, t].all isDigit then some rest else none
  | _ => none

/-- A line with the mark in the place of a time in front. -/
def markLine (line : List Char) : List Char :=
  match afterTime? line with
  | some rest => timeMark ++ rest
  | none => line

/-- The text of the file, with the mark in the place of every time in front of a
line.  Line ends of every kind are read as line feeds. -/
def text (journal : Journal) : String :=
  let whole := String.join (journal.entries.map fun entry =>
    String.ofList timeMark ++ entryText entry ++ "\n")
  String.ofList (Text.joinWith ['\n']
    ((Text.splitAt '\n' (Text.unifyLineEnds whole.toList)).map markLine))

@[simp] theorem location_setUp (journal : Journal) (debug : Bool) (first second : Location) :
    ((journal.setUp debug first).setUp debug second).location =
      (journal.setUp debug first).location := by
  cases journal with
  | mk threshold location entries => cases location <;> rfl

end Journal

end Triage
