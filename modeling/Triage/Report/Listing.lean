import Triage.Notification.Basic
import Triage.Report.Age
import Triage.Report.Style

/-!
# Lists of notifications

A list has a heading and one line for each notification: number, marks, type,
reason, age, repository, title and state.
-/

namespace Triage.Report

/-- The labels of the types that are known. -/
def typeLabels : List (String × String) :=
  [("PullRequest", "PR"),
    ("Issue", "IS"),
    ("Release", "RL"),
    ("Commit", "CM"),
    ("Discussion", "DS"),
    ("CheckSuite", "CI")]

/-- The label of a type: of an unknown one the first two letters. -/
def typeLabel : Option String → String
  | none => "??"
  | some kind =>
      if kind.isEmpty then "??"
      else (typeLabels.lookup kind).getD (Text.upper (Text.take 2 kind))

/-- The style of a type's label. -/
def typeStyles (kind : Option String) : List Style :=
  ([("PullRequest", Style.brightMagenta),
    ("Issue", .green),
    ("Release", .brightCyan),
    ("Commit", .blue),
    ("Discussion", .yellow),
    ("CheckSuite", .red)].lookup (kind.getD "")).toList

/-- The style of a state. -/
def stateStyle (state : String) : Style :=
  ([("open", Style.green), ("merged", .magenta), ("closed", .red)].lookup state).getD .dim

/-- The mark of a reason; an unknown one has none. -/
def reasonMark (reason : Option String) : String :=
  ([("assign", "@"),
    ("author", "A"),
    ("comment", "C"),
    ("mention", "M"),
    ("team_mention", "T"),
    ("review_requested", "R"),
    ("state_change", "S"),
    ("subscribed", "W"),
    ("security_alert", "!"),
    ("ci_activity", "B"),
    ("manual", "+")].lookup (reason.getD "")).getD " "

/-- A mark that is shown if a flag is set. -/
def mark (coloured shown : Bool) (style : Style) (text : String) : String :=
  if shown then paint coloured [style] text else " "

/-- The marks of a notification. -/
def marks (coloured : Bool) (flags : Flags) : String :=
  mark coloured flags.starred .brightYellow "*" ++
    mark coloured flags.unread .brightCyan "●" ++
    mark coloured flags.muted .dim "m"

/-- The number of characters of a title that a line shows. -/
def titleWidth : Nat := 60

/-- The title of a subject, as far as it is shown. -/
def titleText (subject : Subject) : String :=
  let title := subject.title.getD ""
  Text.take titleWidth (if title.isEmpty then "(no title)" else title)

/-- The state of a subject after its title. -/
def stateText (coloured : Bool) (subject : Subject) : String :=
  match subject.state with
  | none => ""
  | some state =>
      if state.isEmpty then ""
      else " " ++ paint coloured [stateStyle state] ("[" ++ state ++ "]")

/-- The line of a notification. -/
def line (coloured : Bool) (now : Timestamp) (record : Notification) : String :=
  Text.padLeft 8 (toString record.id) ++ "  " ++ marks coloured record.flags ++ " " ++
    paint coloured (typeStyles record.subject.kind)
      (Text.padRight 2 (typeLabel record.subject.kind)) ++ " " ++
    paint coloured [.dim] (reasonMark record.reason) ++ " " ++
    paint coloured [.dim] (Text.padLeft 4 (age now record.updatedAt)) ++ "  " ++
    paint coloured [.brightBlack] (record.repo.name.getD "") ++ "  " ++
    titleText record.subject ++ stateText coloured record.subject

/-- A heading. -/
def heading (coloured : Bool) (text : String) : String :=
  paint coloured [.bold, .blue] ("━━━ " ++ text ++ " ━━━")

/-- A list under a heading that tells its length. -/
def listing (coloured : Bool) (now : Timestamp) (header : String)
    (records : List Notification) : String :=
  if records.isEmpty then paint coloured [.dim] "No notifications."
  else
    joinLines (heading coloured (header ++ " (" ++ toString records.length ++ ")") :: "" ::
      records.map (line coloured now))

end Triage.Report
