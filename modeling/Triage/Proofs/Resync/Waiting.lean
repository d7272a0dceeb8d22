import Mathlib.Logic.Function.Iterate
import Triage.Proofs.Remote.Sending
import Triage.Proofs.Resync.AllOrNothing

/-!
# Waiting for the service

Before it fetches, a synchronisation tells the service to synchronise itself and asks whether
it is still busy.  Each question that finds it busy is followed by one pause, and the first
that does not is the last one.  The budget bounds the questions, and what they come to depends
on the answers alone.
-/

namespace Triage

/-! ## Replies by their status -/

namespace Client

variable {client : Client} {method path : String} {request : Request}

end Client

/-! ## Sessions and the service -/

namespace Session

variable {α : Type} {session : Session} {route : String} {request : Request}

/-- The service as seen from a session. -/
def wire (session : Session) : Wire :=
  ⟨session.replies, []⟩

/-- The session after a request, which uses up an answer of its route. -/
def sent (session : Session) (route : String) (request : Request) : Session :=
  { session with
    replies := (session.wire.send route request).replies
    exchanges := session.exchanges ++ [(request, session.phase)] }

end Session

namespace Resync

open Session

variable {setup : Setup} {order question : Request}

/-- The route on which the service is told to synchronise. -/
abbrev orderRoute (setup : Setup) : String :=
  setup.client.route "POST" Client.triggerPath

section Poll

variable {budget : Int} {most attempts : Nat} {session : Session}

end Poll

/-- The steps that follow the waiting, after a number of pauses. -/
def finish (setup : Setup) (triggered : Bool) (attempts : Nat) : SessionWork ResyncResult := do
  enter .fetching
  let payloads ← useRemote (setup.client.fetchAll {})
  let pinned ← useRemote setup.client.pinnedSearches
  replace setup triggered (attempts, payloads, pinned)

/-- What was exchanged and how often the session paused. -/
def outside (session : Session) : List (Request × Phase) × List Json :=
  (session.exchanges, session.pauses)

/-- A synchronisation sent some requests while it waited, then others to fetch, and paused a
number of times. -/
structure Course (setup : Setup) (before after : Session) (waiting : List (Request × Phase))
    (pauses : Nat) (fetching : List Request) : Prop where
  exchanges : after.exchanges =
    before.exchanges ++ (waiting ++ fetching.map fun request => (request, .fetching))
  pauses : after.pauses = before.pauses ++ List.replicate pauses setup.pollInterval

variable {before between after : Session} {waiting : List (Request × Phase)} {pauses : Nat}
  {fetching : List Request}

/-- A course of waiting goes on with one of fetching. -/
theorem Course.append (waited : Course setup before between waiting pauses [])
    (fetched : Course setup between after [] 0 fetching) :
    Course setup before after waiting pauses fetching where
  exchanges := by simp [fetched.exchanges, waited.exchanges]
  pauses := by simp [fetched.pauses, waited.pauses]

/-- A session that has told the service to synchronise and is about to wait. -/
def ordered (setup : Setup) (order : Request) (session : Session) : Session :=
  { ({ session with phase := .triggering } : Session).sent (orderRoute setup) order with
    phase := .polling }

section Order

variable {session waited : Session}

end Order

end Resync

end Triage
