import DocQuery.Cursor
import DocQuery.Query.OfJson

/-!
Executing queries against a store.  A query that is refused from the start does not touch the
store.

* `Query.openScan`: the scan that a query runs over, and its kind;
* `Query.execute` (**opening**): a cursor for a query, or the error that prevents one;
* `Query.find`: reads a query, executes it and collects its results.
-/

namespace DocQuery

/-- The result of an activity with what is logged about it. -/
structure Reported (α : Type) where
  result : Except QueryError α
  events : List Event

namespace Query

/-- The scan that a query runs over: of a single lookup if the query demands an identifier and the
store supports it, else of the whole store. -/
def openScan (query : Query) (store : Store) : ScanKind × Except StoreError (List ScanItem) :=
  match query.scanKind with
  | .fullScan => (.fullScan, store.enumerate)
  | .idLookup id =>
    match store.lookup id with
    | some (.ok found) => (.idLookup id, .ok (found.toList.map ScanItem.ofDocument))
    | some (.error cause) => (.idLookup id, .ok [ScanItem.ofFailure cause])
    | none => (.fullScan, store.enumerate)

/-- The summary of an execution that an error prevents. -/
def failure (options : ExecOptions) (scan : ScanKind) (e : QueryError) : Summary where
  scan := scan
  scanned := 0
  matched := 0
  returned := 0
  slow := Summary.isSlow options.slowQueryMs
  outcome := .ofError e

/-- Opens a cursor for a query. -/
def execute (query : Query) (store : Store) (options : ExecOptions) (cancelled : Cancellations) :
    Reported Cursor :=
  match options.refusal? cancelled with
  | some reason =>
    ⟨.error (.cancelled reason),
      [.planned query, .finished (failure options query.scanKind (.cancelled reason))]⟩
  | none =>
    let opened := query.openScan store
    let fallback := if opened.1 = query.scanKind then [] else [Event.lookupUnsupported]
    match opened.2 with
    | .ok items => ⟨.ok (.ofScan query options opened.1 items), .planned query :: fallback⟩
    | .error cause =>
      ⟨.error (.storeFailure cause),
        .planned query :: fallback ++
          [.finished (failure options opened.1 (.storeFailure cause))]⟩

/-- Executes a query and collects its results; no token is cancelled. -/
def run (query : Query) (store : Store) (options : ExecOptions) : Reported (List Document) :=
  let opened := query.execute store options .empty
  match opened.result with
  | .error e => ⟨.error e, opened.events⟩
  | .ok cursor =>
    let collected := cursor.collect .empty
    ⟨collected.result, opened.events ++ collected.events⟩

/-- Reads a query, executes it and collects its results. -/
def findWith (config : QueryConfig) (options : ExecOptions) (raw : List UInt8) (store : Store) :
    Reported (List Document) :=
  match ofTextWith config raw with
  | .error e => ⟨.error e, []⟩
  | .ok query =>
    let found := query.run store options
    ⟨found.result, .parsed query :: found.events⟩

/-- The same under the standard configuration. -/
def find (raw : List UInt8) (store : Store) : Reported (List Document) :=
  findWith .standard .standard raw store

end Query

/-- Documents as the text of a JSON array. -/
def Document.listText (docs : List Document) : String :=
  Json.text (.array (docs.map Document.toJson))

end DocQuery
