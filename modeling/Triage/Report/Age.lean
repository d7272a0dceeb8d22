import Triage.Number.Binary64
import Triage.Time.Timestamp

/-!
# Ages

How long ago a time was, as a number of the greatest unit that suits: seconds,
minutes, hours, days up to two weeks, weeks up to sixty days, months of thirty
days up to a year, then years.
-/

namespace Triage.Report

/-- A unit of age: ages below the limit are counted in it. -/
structure AgeUnit where
  /-- The number of seconds from which on a greater unit is used. -/
  limit : Nat
  /-- The number of seconds in the unit. -/
  size : Nat
  symbol : String
  deriving DecidableEq, Repr

/-- The units but the greatest, in ascending order. -/
def ageUnits : List AgeUnit :=
  [⟨60, 1, "s"⟩,
    ⟨3600, 60, "m"⟩,
    ⟨86400, 3600, "h"⟩,
    ⟨86400 * 14, 86400, "d"⟩,
    ⟨86400 * 60, 86400 * 7, "w"⟩,
    ⟨86400 * 365, 86400 * 30, "mo"⟩]

/-- The number of seconds in a year and its symbol. -/
def year : Nat × String := (86400 * 365, "y")

/-- The size and the symbol of the unit for a number of seconds. -/
def ageUnit (seconds : Nat) : Nat × String :=
  match ageUnits.find? fun unit => seconds < unit.limit with
  | some unit => (unit.size, unit.symbol)
  | none => year

/-- The text of an age in seconds. -/
def ageText (seconds : Nat) : String :=
  let unit := ageUnit seconds
  toString (seconds / unit.1) ++ unit.2

/-- The whole seconds from one time to a later one, none if it is not later.  The
seconds are first taken as a floating-point number, which matters only for
times that are centuries apart. -/
def elapsedSeconds (now time : Timestamp) : Nat :=
  let micros := (now.instant - time.instant).toNat
  (((Binary64.ofRatio false micros Timestamp.second).truncate?).getD 0).toNat

/-- The age of a time, or a dash without one. -/
def age (now : Timestamp) : Option Timestamp → String
  | none => "-"
  | some time => ageText (elapsedSeconds now time)

end Triage.Report
