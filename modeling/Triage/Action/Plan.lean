import Triage.Error
import Triage.Keyed
import Triage.Notification.Basic

/-!
# Plans of actions

A user's action on notifications is planned before anything is written: the
values it sets, the values it replaces, and the request that makes the remote
service do the same.
-/

namespace Triage

/-- What a user can do with notifications. -/
inductive Action where
  | star
  | archive
  | archiveAll
  | unarchiveAll
  | mute
  | markRead
  deriving DecidableEq, Repr

namespace Action

/-- Every action. -/
def all : List Action := [.star, .archive, .archiveAll, .unarchiveAll, .mute, .markRead]

/-- The name of an action in messages. -/
def name : Action → String
  | .star => "star"
  | .archive => "archive"
  | .archiveAll => "archive_all"
  | .unarchiveAll => "unarchive_all"
  | .mute => "mute"
  | .markRead => "mark_read"

/-- The action of a name. -/
def ofName? (name : String) : Option Action :=
  all.find? fun action => action.name == name

/-- Whether an action is for one notification at a time. -/
def isSingle : Action → Bool
  | .star => true
  | .archive => true
  | _ => false

@[simp] theorem ofName?_name (action : Action) : ofName? action.name = some action := by
  cases action <;> decide

end Action

/-- What the remote service can be asked to do with notifications. -/
inductive Mutation where
  /-- Set a star that is not set, or clear one that is. -/
  | star
  | archive
  | unarchive
  | mute
  | markRead
  deriving DecidableEq, Repr

/-- The name of a mutation. -/
def Mutation.name : Mutation → String
  | .star => "star"
  | .archive => "archive"
  | .unarchive => "unarchive"
  | .mute => "mute"
  | .markRead => "mark_read"

/-- Values for flags of one notification, in the order of writing. -/
abbrev FlagChanges := List (Flag × Bool)

/-- A planned action. -/
structure Plan where
  action : Action
  /-- The request for the remote service; none if there is nothing to do. -/
  mutation : Option Mutation
  /-- The values that the action sets, by notification. -/
  changes : List (Int × FlagChanges)
  /-- The values that the same flags had before. -/
  previous : List (Int × FlagChanges)
  deriving DecidableEq, Repr

namespace Plan

/-- The notifications of a plan. -/
def ids (plan : Plan) : List Int :=
  plan.changes.map Prod.fst

/-- A plan without notifications. -/
def isEmpty (plan : Plan) : Bool :=
  plan.changes.isEmpty

/-- The name of the request; without one the name of the action stands for it. -/
def remoteName (plan : Plan) : String :=
  match plan.mutation with
  | some mutation => mutation.name
  | none => plan.action.name

/-- The values that an action sets in a notification.  The service archives what
it mutes. -/
def changesFor (action : Action) (record : Notification) : FlagChanges :=
  match action with
  | .star => [(.starred, !record.flags.starred)]
  | .archive => [(.archived, !record.flags.archived)]
  | .archiveAll => [(.archived, true)]
  | .unarchiveAll => [(.archived, false)]
  | .mute => [(.muted, true), (.archived, true)]
  | .markRead => [(.unread, false)]

/-- The request by which an action is done to a notification. -/
def mutationFor (action : Action) (record : Notification) : Mutation :=
  match action with
  | .star => .star
  | .archive => if record.flags.archived then .unarchive else .archive
  | .archiveAll => .archive
  | .unarchiveAll => .unarchive
  | .mute => .mute
  | .markRead => .markRead

/-- The values that an action replaces in a notification. -/
def previousFor (action : Action) (record : Notification) : FlagChanges :=
  (changesFor action record).map fun change => (change.1, record.flags.get change.1)

/-- The plan of an action on notifications. -/
def make (action : Action) (records : List Notification) : Plan where
  action := action
  mutation := records.getLast?.map (mutationFor action)
  changes := Keyed.ofList (records.map fun record => (record.id, changesFor action record))
  previous := Keyed.ofList (records.map fun record => (record.id, previousFor action record))

/-- The plan of an action on notifications; some actions take one at a time. -/
def ofRecords (action : Action) (records : List Notification) : Except Error Plan :=
  if action.isSingle && 1 < records.length then
    .error (.refusal (.severalRecords action.name))
  else .ok (make action records)

/-- The plan of a named action. -/
def ofName (name : String) (records : List Notification) : Except Error Plan :=
  match Action.ofName? name with
  | some action => ofRecords action records
  | none => .error (.refusal (.action name))

/-- The plan of the action that a value names. -/
def ofGiven (name : Json) (records : List Notification) : Except Error Plan :=
  ofName name.plainText records

/-- The description of values of flags, by notification. -/
def changesToJson (changes : List (Int × FlagChanges)) : Json :=
  .arr (changes.map fun entry =>
    .arr [.int entry.1, .obj (entry.2.map fun change => (change.1.name, .bool change.2))])

/-- The description of a plan. -/
def toJson (plan : Plan) : Json :=
  .obj [("action", .str plan.action.name), ("remote", .str plan.remoteName),
    ("ids", .arr (plan.ids.map .int)), ("empty", .bool plan.isEmpty),
    ("changes", changesToJson plan.changes), ("previous", changesToJson plan.previous)]

@[simp] theorem make_nil (action : Action) :
    make action [] = ⟨action, none, [], []⟩ := rfl

@[simp] theorem make_singleton (action : Action) (record : Notification) :
    make action [record] =
      ⟨action, some (mutationFor action record), [(record.id, changesFor action record)],
        [(record.id, previousFor action record)]⟩ := rfl

@[simp] theorem ofRecords_singleton (action : Action) (record : Notification) :
    ofRecords action [record] = .ok (make action [record]) := by
  simp [ofRecords]

end Plan

end Triage
