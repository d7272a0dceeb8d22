import Triage.Remote.Client
import Triage.Store.Access

/-!
# Setup of synchronisation

How often and how long the service's own synchronisation is waited for, and when
the store counts as stale.  The values come from settings and are of any kind;
one that cannot be used is refused where it is needed.
-/

namespace Triage

/-- A duration in seconds as settings give it. -/
def Duration.ofJson : Json → Except Error Duration
  | .int seconds => checkDays (Duration.ofSeconds seconds)
  | .bool value => checkDays (Duration.ofSeconds (if value then 1 else 0))
  | .real (.infinite _) => .error (.overflow .infinite)
  | .real seconds =>
      match Duration.ofReal? seconds with
      | some duration => checkDays duration
      | none => .error (.refusal .notANumber)
  | value => .error (.misuse (.noSeconds value.kindName))
where
  /-- Refuse a duration that is too long. -/
  checkDays (duration : Duration) : Except Error Duration :=
    if duration.fits then .ok duration else .error (.overflow (.days duration.days))

/-- A limit of a number as settings give it. -/
inductive Limit where
  | integer (bound : Int)
  | fraction (bound : Binary64)
  /-- A value that has no order among numbers. -/
  | unusable (kind : String)
  deriving DecidableEq, Repr

namespace Limit

/-- The limit that settings give. -/
def ofJson : Json → Limit
  | .int bound => .integer bound
  | .bool value => .integer (if value then 1 else 0)
  | .real bound => .fraction bound
  | value => .unusable value.kindName

/-- Whether a count is below the limit. -/
def isAboveCount (count : Nat) : Limit → Except Error Bool
  | .integer bound => .ok (decide ((count : Int) < bound))
  | .fraction bound => .ok (bound.intLt count)
  | .unusable kind => .error (.misuse (.noOrder "int" kind))

/-- Whether a fractional number is below the limit. -/
def isAbove (value : Binary64) : Limit → Except Error Bool
  | .integer bound => .ok (value.ltInt bound)
  | .fraction bound => .ok (value.lt bound)
  | .unusable kind => .error (.misuse (.noOrder "float" kind))

@[simp] theorem isAboveCount_integer (count : Nat) (bound : Int) :
    (Limit.integer bound).isAboveCount count = .ok (decide ((count : Int) < bound)) := rfl

end Limit

/-! ## Pauses -/

namespace Pause

/-- The nanoseconds of a second. -/
def second : Nat := 1000000000

/-- A fractional number of seconds in nanoseconds, rounded to the format. -/
def nanoseconds : Binary64 → Binary64
  | .finite negative significand exponent =>
      let seconds := Binary64.fraction significand exponent
      Binary64.ofRatio negative (seconds.1 * second) seconds.2
  | other => other

/-- Refuse a whole number of seconds for which nothing can wait.  The clock counts
nanoseconds with 64 bits. -/
def checkWhole (seconds : Int) : Except Error Unit :=
  if !Width.fits64 (seconds * second) then .error (.overflow .pause)
  else if seconds < 0 then .error (.refusal .negativePause)
  else .ok ()

/-- Refuse a fractional number of seconds for which nothing can wait. -/
def checkFraction (seconds : Binary64) : Except Error Unit :=
  let count := nanoseconds seconds
  let bound : Int := Nat.pow 2 63
  if seconds == .notANumber then .error (.refusal .pauseOfNoNumber)
  else if count.ltInt (-bound) || !count.ltInt bound then .error (.overflow .finePause)
  else if count.ltInt 0 then .error (.refusal .negativePause)
  else .ok ()

/-- Refuse seconds for which nothing can wait. -/
def check : Json → Except Error Unit
  | .int seconds => checkWhole seconds
  | .bool value => checkWhole (if value then 1 else 0)
  | .real seconds => checkFraction seconds
  | value => .error (.misuse (.noInteger value.kindName))

end Pause

/-- Everything that synchronisation has to know beforehand. -/
structure Setup where
  client : Client
  /-- The seconds between two questions, as settings give them. -/
  pollInterval : Json := .real (Binary64.ofInt 1)
  /-- How many times the service may be asked whether it is still at work. -/
  pollBudget : Limit := .integer 30
  /-- How long a synchronisation counts as fresh. -/
  lifetime : Duration := Store.defaultLifetime
  /-- The least number of seconds between two looks at the store. -/
  probeInterval : Limit := .fraction (Binary64.ofInt 1)
  /-- What waits for a number of seconds.  Unless it fails, the time has passed. -/
  sleep : Json → Except Error Unit := Pause.check

namespace Setup

/-- A section of settings; an absent one is empty. -/
def section? (settings : Json.Fields) (name : String) : Except Error Json.Fields :=
  match settings.get? name with
  | none => .ok []
  | some (.obj fields) => .ok fields
  | some value => .error (.misuse (.noFields value.kindName))

/-- The value of a key, or a default if the key is absent. -/
def valueOr (fields : Json.Fields) (key : String) (default : Json) : Json :=
  (fields.get? key).getD default

/-- The setup that settings give for a client. -/
def ofSettings (settings : Json.Fields) (client : Client) : Except Error Setup := do
  let sync ← section? settings "sync"
  let lifetime ← Duration.ofJson (valueOr sync "cache_ttl_seconds" (.int 300))
  return {
    client := client
    pollInterval := valueOr sync "poll_interval_seconds" (.real (Binary64.ofInt 1))
    pollBudget := Limit.ofJson (valueOr sync "poll_attempts" (.int 30))
    lifetime := lifetime }

end Setup

end Triage
