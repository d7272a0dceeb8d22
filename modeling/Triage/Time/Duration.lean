import Triage.Number.Binary64
import Triage.Time.Timestamp

/-!
# Durations

A duration is a count of microseconds.  Seconds given as a number are rounded
to it, a tie to the even count.
-/

namespace Triage

/-- A signed number of microseconds. -/
structure Duration where
  micros : Int
  deriving DecidableEq, Repr

namespace Duration

/-- A whole number of seconds. -/
def ofSeconds (seconds : Int) : Duration :=
  ⟨seconds * Timestamp.second⟩

/-- A finite fractional number of seconds. -/
def ofReal? (seconds : Binary64) : Option Duration :=
  match seconds, seconds.truncate? with
  | .finite negative _ _, some whole =>
      let fraction := seconds.fractionalPart.scaled Timestamp.second
      let micros : Int := Binary64.roundHalfEven fraction.1 fraction.2
      some ⟨whole * Timestamp.second + if negative then -micros else micros⟩
  | _, _ => none

/-- The longest duration in days, in either direction. -/
def maxDays : Int := 999999999

/-- The number of whole days, rounded down. -/
def days (duration : Duration) : Int :=
  Int.fdiv duration.micros Timestamp.day

/-- Whether the duration is within the greatest number of days. -/
def fits (duration : Duration) : Bool :=
  -maxDays ≤ duration.days && duration.days ≤ maxDays

end Duration

end Triage
