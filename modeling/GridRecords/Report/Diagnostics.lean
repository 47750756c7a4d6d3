/-
# Diagnostics

What happened to the rows of a batch.  A row that fails is skipped and noted as an error; a row
that was mapped with a substituted value is noted as a warning.  Notes are kept in the order in
which they were made, and every row is counted once.
-/
import GridRecords.Report.Failure

namespace GridRecords

/-- How bad a note is. -/
inductive Severity where
  /-- the row was mapped with a substituted value -/
  | warning
  /-- the row was skipped -/
  | error
deriving DecidableEq, Repr

/-- Name of a severity. -/
def Severity.name : Severity → String
  | .warning => "warning"
  | .error => "error"

/-- One thing that went wrong. -/
structure Issue where
  severity : Severity
  /-- code of the failure, or what was substituted -/
  category : String
  message : String
  /-- the row in its batch, counted from one -/
  row : Option Nat := none
  /-- the entity or kind the row is about -/
  entity : Option String := none
deriving DecidableEq, Repr

namespace Issue

/-- A warning without a place. -/
def warning (category message : String) : Issue := { severity := .warning, category, message }

/-- An error without a place, its category the code of the failure. -/
def ofFailure (f : Failure) : Issue :=
  { severity := .error, category := f.code, message := f.message }

/-- An issue of a row. -/
def atRow (i : Issue) (row : Nat) (entity : String) : Issue :=
  { i with row := some row, entity := some entity }

/-- An issue on one line. -/
def text (i : Issue) : String :=
  let place := match i.row with
    | some row => s!"row {row}: "
    | none => ""
  let entity := match i.entity with
    | some entity => s!" ({entity})"
    | none => ""
  s!"{place}{i.severity.name} [{i.category}] {i.message}{entity}"

end Issue

/-- Number of issues of a severity. -/
def countIssues (severity : Severity) (issues : List Issue) : Nat :=
  (issues.filter (·.severity = severity)).length

/-- How many issues of each severity there are, in words. -/
def summarizeIssues (issues : List Issue) : String :=
  let counted (severity : Severity) : Option String :=
    match countIssues severity issues with
    | 0 => none
    | 1 => some s!"1 {severity.name}"
    | n => some s!"{n} {severity.name}s"
  match [Severity.warning, .error].filterMap counted with
  | [] => "no issues"
  | parts => ", ".intercalate parts

/-! ## Batches -/

/-- What is known about a batch after some of its rows. -/
structure BatchReport where
  processed : Nat
  succeeded : Nat
  skipped : Nat
  issues : List Issue
deriving DecidableEq, Repr

namespace BatchReport

/-- Nothing has happened yet. -/
def empty : BatchReport := ⟨0, 0, 0, []⟩

/-- A row was mapped. -/
def success (r : BatchReport) : BatchReport :=
  { r with processed := r.processed + 1, succeeded := r.succeeded + 1 }

/-- A value was substituted in a row.  The row itself is counted by `success`. -/
def warn (r : BatchReport) (row : Nat) (entity category message : String) : BatchReport :=
  { r with issues := r.issues ++ [(Issue.warning category message).atRow row entity] }

/-- A row was skipped. -/
def failure (r : BatchReport) (row : Nat) (entity : String) (f : Failure) : BatchReport :=
  { r with
    processed := r.processed + 1
    skipped := r.skipped + 1
    issues := r.issues ++ [(Issue.ofFailure f).atRow row entity] }

/-- Whether no row was skipped. -/
def isClean (r : BatchReport) : Bool := r.skipped == 0

/-- A batch on one line. -/
def summary (r : BatchReport) : String :=
  s!"{r.processed} rows, {r.succeeded} mapped, {r.skipped} skipped ({summarizeIssues r.issues})"

/-- A batch with its issues, each on a line of its own. -/
def text (r : BatchReport) : String :=
  r.summary ++ "\n" ++ String.join (r.issues.map fun i => "  " ++ i.text ++ "\n")

end BatchReport

end GridRecords
