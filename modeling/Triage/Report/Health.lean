import Triage.Report.Style

/-!
# Reports of health

The outcome of a look at each part of the program.
-/

namespace Triage.Report

/-- How a part of the program was found. -/
inductive Verdict where
  | good
  | attention
  | notApplicable
  | bad
  deriving DecidableEq, Repr

/-- The symbol of a verdict. -/
def Verdict.symbol : Verdict → String
  | .good => "✓"
  | .attention => "!"
  | .notApplicable => "-"
  | .bad => "✗"

/-- The line of a part, given the symbol of how it was found. -/
def healthLine (name symbol message : String) : String :=
  symbol ++ " " ++ name ++ ": " ++ message

/-- A report with one line for each part. -/
def health (checks : List (String × String × String)) : String :=
  joinLines ("Tidings Health Check" :: String.ofList (List.replicate 40 '-') ::
    checks.map fun check => healthLine check.1 check.2.1 check.2.2)

end Triage.Report
