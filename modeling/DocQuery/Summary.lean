import DocQuery.Error
import DocQuery.Json.Writer
import DocQuery.Query.Plan

/-!
Summaries of executions: how much was scanned, matched and returned, and how it ended.

* `Outcome`: the four ways in which an execution ends;
* `Summary`: what is reported about an execution;
* `Summary.line`: a summary as one line of JSON.
-/

namespace DocQuery

/-- How an execution ended. -/
inductive Outcome where
  /-- It reached the end or its limit. -/
  | ok
  | failed
  | cancelled
  /-- Its cursor was given up before the end. -/
  | abandoned
deriving DecidableEq

namespace Outcome

/-- The name of an outcome. -/
def name : Outcome → String
  | .ok => "ok"
  | .failed => "failed"
  | .cancelled => "cancelled"
  | .abandoned => "abandoned"

/-- The outcome of an execution that an error ends. -/
def ofError : QueryError → Outcome
  | .cancelled _ => .cancelled
  | _ => .failed

end Outcome

/-- What is reported about an execution. -/
structure Summary where
  scan : ScanKind
  scanned : Nat
  matched : Nat
  returned : Nat
  slow : Bool
  outcome : Outcome
deriving DecidableEq

namespace Summary

/-- The milliseconds that an execution took.  Time is not observed: every execution takes none. -/
def durationMs : Nat := 0

/-- Executions that take as long as the threshold says, or longer, are slow. -/
def isSlow (threshold : Nat) : Bool := threshold ≤ durationMs

/-- A number of a summary as JSON. -/
def count (n : Nat) : Json := .number (.int n)

/-- A summary as JSON. -/
def toJson (summary : Summary) : Json :=
  .object
    [("scan", .string summary.scan.label), ("scanned", count summary.scanned),
      ("matched", count summary.matched), ("returned", count summary.returned),
      ("duration_ms", count durationMs), ("slow", .bool summary.slow),
      ("outcome", .string summary.outcome.name)]

/-- A summary as one line of JSON. -/
def line (summary : Summary) : String := Json.text summary.toJson

end Summary

end DocQuery
