import Triage.Report.Style

/-!
# Help

The texts that tell how the program is used.
-/

namespace Triage.Console

/-- The version of the program. -/
def versionText : String := "tidings 0.1.0"

/-- The commands and how to write queries. -/
def helpText : String :=
  Report.joinLines [
    "tidings - local-first notification triage",
    "",
    "Usage:",
    "    tidings list [--view V] [query]   List cached notifications (inbox, starred, archived, all)",
    "    tidings find <query>              Search every cached notification",
    "",
    "Commands:",
    "    tidings pinned [name]             Show pinned searches, or the matches for one",
    "    tidings sync                      Trigger a remote sync, wait for it, refetch",
    "    tidings refresh                   Refetch without triggering a remote sync",
    "    tidings star <id>                 Toggle star",
    "    tidings archive <id>              Archive",
    "    tidings unarchive <id>            Move back to the inbox",
    "    tidings mute <id>                 Mute (also archives)",
    "    tidings read <id>                 Mark as read",
    "    tidings archive-all <query>       Archive every inbox match",
    "    tidings unarchive-all <query>     Unarchive every archived match",
    "    tidings facets                    Show inbox facets (owners, repos, types...)",
    "    tidings status                    Show counts and last sync",
    "    tidings health                    Check store, token and remote service",
    "    tidings whoami                    Show the authenticated user",
    "    tidings login                     Save an API token",
    "",
    "Options:",
    "    tidings --help, -h                Show this help",
    "    tidings --version, -v             Show version",
    "",
    "Query syntax:",
    "    free text plus key:value operators, e.g.",
    "    repo:octobox/octobox is:unread type:pr -reason:subscribed",
    "",
    "Changes are applied to the local cache first and sent in the background.",
    "If the remote call fails the change is rolled back."]

end Triage.Console
