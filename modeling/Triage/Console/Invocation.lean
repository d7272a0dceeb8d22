import Triage.Number.IntegerText
import Triage.Store.Totals

/-!
# Invocations

What the user asks for with the arguments of the command line, and what is wrong
with arguments that ask for nothing.
-/

namespace Triage.Console

/-- A change of one notification. -/
inductive Change where
  | star
  | archive
  | unarchive
  | mute
  | read
  deriving DecidableEq, Repr

namespace Change

/-- Every change. -/
def all : List Change := [.star, .archive, .unarchive, .mute, .read]

/-- The name of a change. -/
def name : Change → String
  | .star => "star"
  | .archive => "archive"
  | .unarchive => "unarchive"
  | .mute => "mute"
  | .read => "read"

/-- The name of a change at the start of a line. -/
def title : Change → String
  | .star => "Star"
  | .archive => "Archive"
  | .unarchive => "Unarchive"
  | .mute => "Mute"
  | .read => "Read"

/-- The change of a name. -/
def ofName? (name : String) : Option Change :=
  all.find? fun change => change.name == name

end Change

/-- A change of every notification that a query finds. -/
inductive Sweep where
  | archiveAll
  | unarchiveAll
  deriving DecidableEq, Repr

namespace Sweep

/-- Both sweeps. -/
def all : List Sweep := [.archiveAll, .unarchiveAll]

/-- The name of a sweep. -/
def name : Sweep → String
  | .archiveAll => "archive-all"
  | .unarchiveAll => "unarchive-all"

/-- The sweep of a name. -/
def ofName? (name : String) : Option Sweep :=
  all.find? fun sweep => sweep.name == name

/-- What has been done to the notifications of a sweep. -/
def participle : Sweep → String
  | .archiveAll => "Archived"
  | .unarchiveAll => "Unarchived"

/-- The view that a sweep goes over. -/
def view : Sweep → View
  | .archiveAll => .inbox
  | .unarchiveAll => .archived

end Sweep

/-- What the user asks for. -/
inductive Invocation where
  | help
  | version
  /-- The notifications of a view that a query finds. -/
  | list (view : View) (query : String)
  /-- The pinned searches, or the matches of one of them. -/
  | pinned (name : Option String)
  /-- A synchronisation, before which the service synchronises itself if it is
  triggered. -/
  | sync (triggered : Bool)
  | change (change : Change) (id : Int)
  | sweep (sweep : Sweep) (query : String)
  | facets
  | status
  | health
  | whoami
  | login
  deriving DecidableEq, Repr

/-- Why arguments ask for nothing. -/
inductive UsageError where
  /-- A command lacks the argument that its usage shows. -/
  | noArgument (command argument : String)
  | notANumber (text : String)
  | unknownView (name : String)
  | unknownCommand (name : String)
  deriving DecidableEq, Repr

/-- The wording of a usage error. -/
def UsageError.message : UsageError → String
  | .noArgument command argument => "Usage: tidings " ++ command ++ " <" ++ argument ++ ">"
  | .notANumber text => "Error: Not a notification id: " ++ text
  | .unknownView name =>
      "Error: Unknown view '" ++ name ++ "' (choose from " ++
        ", ".intercalate (View.every.map View.name) ++ ")"
  | .unknownCommand name =>
      "Error: Unknown command '" ++ name ++ "'. See 'tidings --help'."

namespace Invocation

/-- Whether an argument announces the name of a view. -/
def announcesView (argument : String) : Bool :=
  argument == "--view" || argument == "-V"

/-- The name of a view that arguments give, the last one if there are several,
and the other arguments.  An announcement that nothing follows is one of
these. -/
def splitView : List String → Option String × List String
  | announcement :: name :: rest =>
      if announcesView announcement then
        let found := splitView rest
        (found.1.or (some name), found.2)
      else
        let found := splitView (name :: rest)
        (found.1, announcement :: found.2)
  | arguments => (none, arguments)

/-- A list of notifications, by default those of the given view. -/
def ofListArguments (view : View) (arguments : List String) : Except UsageError Invocation :=
  let found := splitView arguments
  let name := found.1.getD view.name
  match View.ofName? name with
  | some view => .ok (.list view (" ".intercalate found.2))
  | none => .error (.unknownView name)

/-- A change of the notification of a number; further arguments do not
matter. -/
def ofChangeArguments (change : Change) : List String → Except UsageError Invocation
  | [] => .error (.noArgument change.name "id")
  | text :: _ =>
      match IntegerText.read? text with
      | some id => .ok (.change change id)
      | none => .error (.notANumber text)

/-- A sweep over the notifications that a query finds. -/
def ofSweepArguments (sweep : Sweep) : List String → Except UsageError Invocation
  | [] => .error (.noArgument sweep.name "query")
  | arguments => .ok (.sweep sweep (" ".intercalate arguments))

/-- What a command that is neither a change nor a sweep asks for. -/
def ofCommand (command : String) (arguments : List String) : Except UsageError Invocation :=
  match command with
  | "list" => ofListArguments .inbox arguments
  | "find" =>
      if arguments.isEmpty then .error (.noArgument "find" "query")
      else ofListArguments .all arguments
  | "pinned" =>
      .ok (.pinned (if arguments.isEmpty then none else some (" ".intercalate arguments)))
  | "sync" => .ok (.sync true)
  | "refresh" => .ok (.sync false)
  | "facets" => .ok .facets
  | "status" => .ok .status
  | "health" => .ok .health
  | "whoami" => .ok .whoami
  | "login" => .ok .login
  | other => .error (.unknownCommand other)

/-- What the arguments of the command line ask for; without any it is help. -/
def ofArguments : List String → Except UsageError Invocation
  | [] => .ok .help
  | command :: arguments =>
      if ["--help", "-h", "help"].contains command then .ok .help
      else if ["--version", "-v", "version"].contains command then .ok .version
      else
        match Change.ofName? command, Sweep.ofName? command with
        | some found, _ => ofChangeArguments found arguments
        | none, some found => ofSweepArguments found arguments
        | none, none => ofCommand command arguments

/-- Nothing is lost when the name of a view is taken out: each argument is kept,
or is an announcement or the name after it. -/
theorem length_splitView (arguments : List String) :
    (splitView arguments).2.length ≤ arguments.length := by
  fun_induction splitView arguments with
  | case1 announcement name rest announces found ih =>
      exact Nat.le_trans ih (by simp only [List.length_cons]; omega)
  | case2 announcement name rest other found ih =>
      simpa [found] using ih
  | case3 arguments => exact Nat.le_refl _

end Invocation

end Triage.Console
