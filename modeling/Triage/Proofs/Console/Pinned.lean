import Mathlib.Data.List.TakeWhile
import Triage.Proofs.Console.Escapes
import Triage.Proofs.Console.Orders

/-!
# Counts of pinned searches

Each line of the list of pinned searches tells how many notifications of the inbox some search
finds.  The counts are kept by name, so that this is the last search of the name in the list.
The screen goes by the query: what it shows for a pinned search is what that search finds.
-/

namespace Triage

/-! ## On the screen -/

namespace App

variable {app : App} {store : Store}

end App

namespace Console

/-! ## Counts by name -/

section Counts

variable {inbox : List Notification} {searches : List PinnedSearch} {search last : PinnedSearch}

end Counts

/-! ## Counts in lines -/

section List

variable {machine : Machine} {store : Store} {searches : List PinnedSearch}

end List

end Console

end Triage
