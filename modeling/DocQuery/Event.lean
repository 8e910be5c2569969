import DocQuery.Config
import DocQuery.Diagnostic
import DocQuery.Summary

/-!
Events: what a program that embeds queries can follow in its log.

* `LogLevel` and `LogRecord`: a line of a log with its level and its target;
* `Event`: what is logged;
* `Event.records`: the lines that an event is logged as.
-/

namespace DocQuery

/-! ### Log records -/

/-- How important a line of a log is. -/
inductive LogLevel where
  | error
  | warn
  | info
  | debug
  | trace
deriving DecidableEq

/-- The name of a level. -/
def LogLevel.name : LogLevel → String
  | .error => "ERROR"
  | .warn => "WARN"
  | .info => "INFO"
  | .debug => "DEBUG"
  | .trace => "TRACE"

/-- A line of a log. -/
structure LogRecord where
  level : LogLevel
  /-- The part of the program that the line is about. -/
  target : String
  message : String
deriving DecidableEq

/-- A line as it is written. -/
def LogRecord.text (entry : LogRecord) : String :=
  s!"{entry.level.name} {entry.target} {entry.message}"

/-- The target of the lines with summaries. -/
def metricsTarget : String := "cblite_mango::metrics"

/-! ### Events -/

/-- What is logged. -/
inductive Event where
  /-- A query was read. -/
  | parsed (query : Query)
  /-- A way to the documents of a query was chosen. -/
  | planned (query : Query)
  /-- The store cannot look up, so everything is scanned. -/
  | lookupUnsupported
  /-- A document does not fulfil the selector. -/
  | rejected (id : DocumentId)
  /-- An execution ended. -/
  | finished (summary : Summary)
  /-- A document was written under a new identifier. -/
  | stored (id : DocumentId)
  | configLoaded (config : QueryConfig)
  /-- Logging was configured again, without effect. -/
  | loggingKept

/-- The lines that an event is logged as. -/
def Event.records : Event → List LogRecord
  | .parsed query =>
    [⟨.debug, "cblite_mango::query::parse",
      s!"parsed query: sort_keys={query.sort.length} " ++
        "projection=" ++ Diagnostic.optional (query.projection.map List.length) ++
        s!" skip={query.skip} limit=" ++ Diagnostic.optional query.limit⟩]
  | .planned query =>
    [⟨.debug, "cblite_mango::query::exec",
      s!"query plan: {query.scanKind.label} sort_keys={query.sort.length} " ++
        s!"skip={query.skip} limit=" ++ Diagnostic.optional query.limit⟩]
  | .lookupUnsupported =>
    [⟨.debug, "cblite_mango::query::exec",
      "store has no id lookup; falling back to a full scan"⟩]
  | .rejected id =>
    [⟨.trace, "cblite_mango::query::cursor", s!"document {id} rejected by selector"⟩]
  | .finished summary =>
    let warning : LogRecord :=
      ⟨.warn, "cblite_mango::query::telemetry",
        s!"slow query: {Summary.durationMs} ms ({summary.scan.label} scan, " ++
          s!"{summary.scanned} scanned, {summary.returned} returned)"⟩
    (if summary.slow then [warning] else []) ++ [⟨.info, metricsTarget, summary.line⟩]
  | .stored id => [⟨.trace, "cblite_mango::store", s!"memory store insert {id}"⟩]
  | .configLoaded config =>
    [⟨.debug, "cblite_mango::config", "query config loaded: " ++ config.diagnostic⟩]
  | .loggingKept =>
    [⟨.debug, "cblite_mango::logger",
      "logger already initialized; keeping existing configuration"⟩]

end DocQuery
