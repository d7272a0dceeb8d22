import Triage.Resync.Session

/-!
# Looking for changes

The store may change without the session's doing.  Comparing the counts of the
tabs, at most once per interval, shows that.
-/

namespace Triage.Probe

/-- Whether the interval since the last look at the store is not over. -/
def isEarly (setup : Setup) (session : Session) : Except Error Bool :=
  match session.lastProbe with
  | some last => setup.probeInterval.isAbove (session.uptime.sub last)
  | none => .ok false

/-- The counts of the tabs if they are not those known; nothing before the
interval since the last look is over. -/
def check (setup : Setup) (known : TabCounts) : SessionWork (Option TabCounts) := do
  let session ← get
  match isEarly setup session with
  | .error error => throw error
  | .ok true => return none
  | .ok false =>
      modify fun session => { session with lastProbe := some session.uptime }
      let counts ← Session.useStore Store.counts
      return if counts = known then none else some counts

end Triage.Probe
