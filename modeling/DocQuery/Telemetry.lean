import DocQuery.Event

/-!
Telemetry: counters over all executions, and captures that collect the summaries of the executions
that end while they are in force.

* `Counters.count`: the counters after one more execution;
* `Telemetry.observe` (**recording**): takes one event in; a summary goes to the innermost capture;
* `Telemetry.openCapture` and `Telemetry.closeCapture`: the extent of a capture.
-/

namespace DocQuery

/-- Counters over executions. -/
structure Counters where
  total : Nat
  failed : Nat
  cancelled : Nat
  scanned : Nat
  slow : Nat
deriving DecidableEq

namespace Counters

/-- The counters before any execution. -/
def zero : Counters := ⟨0, 0, 0, 0, 0⟩

/-- The counters after one more execution. -/
def count (counters : Counters) (summary : Summary) : Counters where
  total := counters.total + 1
  failed := counters.failed + if summary.outcome = .failed then 1 else 0
  cancelled := counters.cancelled + if summary.outcome = .cancelled then 1 else 0
  scanned := counters.scanned + summary.scanned
  slow := counters.slow + if summary.slow then 1 else 0

/-- The counters in order. -/
def toList (counters : Counters) : List Nat :=
  [counters.total, counters.failed, counters.cancelled, counters.scanned, counters.slow]

/-- The names under which counters are published, in the same order. -/
def names : List String :=
  ["cblite_mango_queries_total", "cblite_mango_queries_failed", "cblite_mango_queries_cancelled",
    "cblite_mango_documents_scanned", "cblite_mango_slow_queries_total"]

/-- The published counters. -/
def published (counters : Counters) : List (String × Nat) := names.zip counters.toList

end Counters

/-- What is known about executions. -/
structure Telemetry where
  counters : Counters
  /-- What each capture in force has collected, the innermost first. -/
  captures : List (List Summary)
  /-- Everything that was logged. -/
  log : List LogRecord

namespace Telemetry

/-- Nothing has happened and nothing is captured. -/
def start : Telemetry := ⟨.zero, [], []⟩

/-- Hands a summary to the innermost capture. -/
def deliver (summary : Summary) : List (List Summary) → List (List Summary)
  | [] => []
  | innermost :: outer => (innermost ++ [summary]) :: outer

/-- Takes a summary in. -/
def record (telemetry : Telemetry) (summary : Summary) : Telemetry :=
  { telemetry with
    counters := telemetry.counters.count summary
    captures := deliver summary telemetry.captures }

/-- Takes an event in. -/
def observe (telemetry : Telemetry) (event : Event) : Telemetry :=
  let logged := { telemetry with log := telemetry.log ++ event.records }
  match event with
  | .finished summary => logged.record summary
  | _ => logged

/-- Takes events in, one after the other. -/
def observeAll (telemetry : Telemetry) (events : List Event) : Telemetry :=
  events.foldl observe telemetry

/-- Starts a capture inside those in force. -/
def openCapture (telemetry : Telemetry) : Telemetry :=
  { telemetry with captures := [] :: telemetry.captures }

/-- Ends the innermost capture and gives what it has collected. -/
def closeCapture (telemetry : Telemetry) : List Summary × Telemetry :=
  (telemetry.captures.headD [], { telemetry with captures := telemetry.captures.tail })

end Telemetry

end DocQuery
