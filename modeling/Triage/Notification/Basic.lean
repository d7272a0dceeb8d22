import Triage.Text.Case
import Triage.Time.Timestamp

/-!
# Notifications

A notification tells that something happened to a subject, such as an issue or a
release, in a repository.  Four flags record how far it has been dealt with; the
tabs of the screen are decided by them.
-/

namespace Triage

/-- A mark that actions set and clear. -/
inductive Flag where
  | unread
  | archived
  | starred
  | muted
  deriving DecidableEq, Repr

namespace Flag

/-- Every flag, in the order in which flags are listed. -/
def all : List Flag := [.unread, .archived, .starred, .muted]

/-- The name of a flag in settings, rows and messages. -/
def name : Flag → String
  | .unread => "unread"
  | .archived => "archived"
  | .starred => "starred"
  | .muted => "muted"

/-- The flag of a name. -/
def ofName? (name : String) : Option Flag :=
  all.find? fun flag => flag.name == name

theorem mem_all (flag : Flag) : flag ∈ all := by
  cases flag <;> decide

@[simp] theorem ofName?_name (flag : Flag) : ofName? flag.name = some flag := by
  cases flag <;> decide

end Flag

/-- The values of the four flags. -/
structure Flags where
  unread : Bool := true
  archived : Bool := false
  starred : Bool := false
  muted : Bool := false
  deriving DecidableEq, Repr

namespace Flags

/-- The value of a flag. -/
def get (flags : Flags) : Flag → Bool
  | .unread => flags.unread
  | .archived => flags.archived
  | .starred => flags.starred
  | .muted => flags.muted

/-- The flags with one of them set to a value. -/
def set (flags : Flags) (flag : Flag) (value : Bool) : Flags :=
  match flag with
  | .unread => { flags with unread := value }
  | .archived => { flags with archived := value }
  | .starred => { flags with starred := value }
  | .muted => { flags with muted := value }

/-- The flags after a list of assignments, the last one of a flag counting. -/
def assign (flags : Flags) (changes : List (Flag × Bool)) : Flags :=
  changes.foldl (fun known change => known.set change.1 change.2) flags

/-- Neither archived nor muted. -/
def inInbox (flags : Flags) : Bool :=
  !flags.archived && !flags.muted

@[simp] theorem get_set (flags : Flags) (flag other : Flag) (value : Bool) :
    (flags.set flag value).get other = if other = flag then value else flags.get other := by
  cases flag <;> cases other <;> simp [get, set]

@[simp] theorem set_get (flags : Flags) (flag : Flag) :
    flags.set flag (flags.get flag) = flags := by
  cases flag <;> rfl

/-- Flags are known by their values. -/
theorem ext_get {first second : Flags} (same : ∀ flag, first.get flag = second.get flag) :
    first = second := by
  cases first
  cases second
  simp only [mk.injEq]
  exact ⟨same .unread, same .archived, same .starred, same .muted⟩

@[simp] theorem assign_nil (flags : Flags) : flags.assign [] = flags := rfl

@[simp] theorem assign_cons (flags : Flags) (change : Flag × Bool)
    (changes : List (Flag × Bool)) :
    flags.assign (change :: changes) = (flags.set change.1 change.2).assign changes := rfl

end Flags

/-- What a notification is about. -/
structure Subject where
  title : Option String := none
  url : Option String := none
  kind : Option String := none
  state : Option String := none
  author : Option String := none
  deriving DecidableEq, Repr

/-- The repository a subject belongs to; its name includes the owner's. -/
structure Repo where
  id : Option Int := none
  name : Option String := none
  owner : Option String := none
  url : Option String := none
  deriving DecidableEq, Repr

/-- A notification. -/
structure Notification where
  id : Int
  githubId : Option String := none
  reason : Option String := none
  flags : Flags := {}
  url : Option String := none
  webUrl : Option String := none
  subject : Subject := {}
  repo : Repo := {}
  createdAt : Option Timestamp := none
  updatedAt : Option Timestamp := none
  lastReadAt : Option Timestamp := none
  fetchedAt : Option Timestamp := none
  deriving DecidableEq, Repr

namespace Notification

/-- The texts that are given and not empty. -/
def givenTexts (texts : List (Option String)) : List String :=
  (texts.filterMap fun text => text).filter fun text => !text.isEmpty

/-- The text in which free text is looked for: title, repository, owner and
reason, separated by spaces. -/
def searchText (record : Notification) : String :=
  " ".intercalate
    (givenTexts [record.subject.title, record.repo.name, record.repo.owner, record.reason])

/-- Whether an account name looks like that of a program: it holds `[bot]` or
ends in `-bot`, in any case. -/
def isBotName (author : String) : Bool :=
  let name := Text.lower author
  Text.contains "[bot]" name || Text.endsWith "-bot" name

/-- Whether the subject's author looks like a program.  Without an author the
answer is no. -/
def isBot (record : Notification) : Bool :=
  match record.subject.author with
  | some author => isBotName author
  | none => false

/-- Whether the notification is in the inbox. -/
def inInbox (record : Notification) : Bool :=
  record.flags.inInbox

@[simp] theorem inInbox_eq (record : Notification) :
    record.inInbox = (!record.flags.archived && !record.flags.muted) := rfl

end Notification

end Triage
