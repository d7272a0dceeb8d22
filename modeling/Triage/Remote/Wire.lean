import Triage.Error
import Triage.Remote.Address

/-!
# The wire

What the remote service will answer, and the requests that were sent to it.  The
answers to each path are used up in order; after the last one the service
answers with an empty object.
-/

namespace Triage

/-- What comes back for a request. -/
inductive Reply where
  | answer (status : Int) (body : String)
  /-- Nothing comes back, for the given reason. -/
  | lost (reason : String)
  deriving DecidableEq, Repr

/-- A request as it is sent. -/
structure Request where
  method : String
  address : String
  /-- The header that tells the account. -/
  authorization : String
  deriving DecidableEq, Repr

/-- The remote service as seen from here. -/
structure Wire where
  /-- Answers to come, by method and path. -/
  replies : List (String × List Reply) := []
  /-- The requests sent, the oldest first. -/
  sent : List Request := []
  deriving Inhabited, Repr

/-- Work that sends requests. -/
abbrev RemoteAccess := ExceptT Error (StateM Wire)

namespace Wire

/-- The answer of a service that has nothing to say. -/
def emptyReply : Reply := .answer 200 "\x7b\x7d"

/-- The key of a method and a path among the answers to come. -/
def route (method path : String) : String :=
  method ++ " " ++ path

/-- The answers to come on a route. -/
def pending (wire : Wire) (key : String) : List Reply :=
  (wire.replies.lookup key).getD []

/-- The next answer on a route. -/
def nextReply (wire : Wire) (key : String) : Reply :=
  (wire.pending key).headD emptyReply

/-- Send a request: it is recorded and uses up one answer of its route. -/
def send (wire : Wire) (key : String) (request : Request) : Wire where
  replies :=
    match wire.pending key with
    | [] => wire.replies
    | _ :: rest => Keyed.put wire.replies key rest
  sent := wire.sent ++ [request]

/-- Sending uses up one answer of the route. -/
theorem pending_send (wire : Wire) (key : String) (request : Request) :
    (wire.send key request).pending key = (wire.pending key).tail := by
  unfold send
  split
  · next none =>
      simp only [pending] at none ⊢
      simp [none]
  · next first rest found =>
      rw [found]
      simp [pending, Keyed.lookup_put]

end Wire

end Triage
