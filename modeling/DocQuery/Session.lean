import DocQuery.Execution
import DocQuery.Store.Journal
import DocQuery.Store.Scripted
import DocQuery.Telemetry
import DocQuery.Value.OfText

/-!
Sessions: a store, cursors and scans under names, and tokens, all driven by commands.  A session
keeps count of what its executions do.

* `Command` and `Reply`: what can be asked of a session and how it answers;
* `Session.perform` (**one command**): the reply to a command and the session after it;
* `Session.finish`: gives up the cursors that are still open, in order of name;
* `Session.run`: a whole session.
-/

namespace DocQuery

/-! ### Commands and replies -/

/-- The store of a session. -/
inductive Backing where
  | memory (store : MemoryStore)
  | scripted (store : ScriptedStore)

/-- The store as queries see it. -/
def Backing.toStore : Backing → Store
  | .memory store => store.toStore
  | .scripted store => store.toStore

/-- How a command names a document. -/
inductive DocumentRef where
  | id (id : DocumentId)
  /-- What the insertion with this number, counted from zero, has returned. -/
  | inserted (n : Nat)

/-- Where the query of a command comes from. -/
inductive QuerySource where
  | all
  | text (config : QueryConfig) (raw : List UInt8)

/-- What can be asked of a session. -/
inductive Command where
  /-- Inserts the document of a JSON text. -/
  | insert (raw : List UInt8)
  | put (ref : DocumentRef) (raw : List UInt8)
  | delete (ref : DocumentRef)
  | get (ref : DocumentRef)
  | size
  | lookup (ref : DocumentRef)
  | openScan (name : String)
  | pullScan (name : String)
  /-- Asks how many items were pulled from the scripted store. -/
  | pulled
  | openCursor (name : String) (source : QuerySource) (options : ExecOptions)
  | next (name : String)
  | collect (name : String)
  /-- Collects into the text of a JSON array. -/
  | collectText (name : String)
  | close (name : String)
  | cancel (token : CancelToken)
  | isCancelled (token : CancelToken)
  | capture (commands : List Command)

/-- What a command names and is not there. -/
inductive Missing where
  | cursor
  | scan
  | insertion
deriving DecidableEq

/-- How a session answers. -/
inductive Reply where
  | inserted (id : DocumentId) (size : Nat)
  | stored (size : Nat)
  | deleted (found : Bool) (size : Nat)
  | document (doc : Option Document)
  | size (n : Nat)
  | lookupUnsupported
  | lookedUp (doc : Option Document)
  | scanOpened
  /-- The next document of a scan, or none at its end. -/
  | scanned (doc : Option Document)
  | pulled (n : Nat)
  | opened (cursor : Cursor)
  | advanced (result : Except QueryError (Option Document)) (cursor : Cursor)
  | collected (docs : List Document)
  | collectedText (text : String)
  | closed
  | token (cancelled : Bool)
  | captured (replies : List Reply) (summaries : List Summary)
  | failed (e : QueryError)
  | missing (what : Missing)
  /-- The store cannot do that. -/
  | unsupported

/-- Reads a query. -/
def QuerySource.read : QuerySource → Reported Query
  | .all => ⟨.ok .all, []⟩
  | .text config raw =>
    match Query.ofTextWith config raw with
    | .ok query => ⟨.ok query, [.parsed query]⟩
    | .error e => ⟨.error e, []⟩

/-! ### Sessions -/

/-- The state of a session. -/
structure Session where
  backing : Backing
  cancelled : Cancellations
  telemetry : Telemetry
  cursors : Fields Cursor
  /-- The items that named scans have left. -/
  scans : Fields (List ScanItem)
  /-- What insertions have returned, the first one first. -/
  insertions : List DocumentId
  /-- How many items were pulled from scans of the whole store. -/
  pulled : Nat

namespace Session

/-- The start of a session, where tokens may already be cancelled: those of deadlines that have
passed. -/
def start (backing : Backing) (cancelled : Cancellations) : Session :=
  ⟨backing, cancelled, .start, [], [], [], 0⟩

/-- Takes note of what is logged. -/
def observe (session : Session) (events : List Event) : Session :=
  { session with telemetry := session.telemetry.observeAll events }

/-- The identifier that a command means. -/
def resolve? (session : Session) : DocumentRef → Option DocumentId
  | .id id => some id
  | .inserted n => session.insertions[n]?

/-- A cursor has moved on: what it pulled from the whole store is counted. -/
def moved (session : Session) (before after : Cursor) (cancelled : Cancellations)
    (events : List Event) : Session :=
  let pulls := if before.scan = .fullScan then before.rest.length - after.rest.length else 0
  { session with cancelled := cancelled, pulled := session.pulled + pulls }.observe events

/-! ### Commands on the store -/

/-- Inserts a body. -/
def insert (session : Session) (body : Value) : Reply × Session :=
  match session.backing with
  | .scripted _ => (.unsupported, session)
  | .memory store =>
    let written := store.insert body
    (.inserted written.1 written.2.size,
      { session with
        backing := .memory written.2
        insertions := session.insertions ++ [written.1] }.observe (store.insertEvents body))

/-- Writes a body under an identifier. -/
def put (session : Session) (id : DocumentId) (body : Value) : Reply × Session :=
  match session.backing with
  | .scripted _ => (.unsupported, session)
  | .memory store =>
    let written := store.put id body
    (.stored written.size,
      { session with backing := .memory written }.observe (store.putEvents id))

/-- Removes a document. -/
def delete (session : Session) (id : DocumentId) : Reply × Session :=
  match session.backing with
  | .scripted _ => (.unsupported, session)
  | .memory store =>
    let deleted := store.delete id
    (.deleted deleted.1 deleted.2.size, { session with backing := .memory deleted.2 })

/-- The reply about a document. -/
def get (session : Session) (id : DocumentId) : Reply :=
  match session.backing with
  | .scripted _ => .unsupported
  | .memory store => .document (store.get? id)

/-- The reply about the number of documents. -/
def size (session : Session) : Reply :=
  match session.backing with
  | .scripted _ => .unsupported
  | .memory store => .size store.size

/-- The reply to a lookup. -/
def lookup (session : Session) (id : DocumentId) : Reply :=
  match session.backing.toStore.lookup id with
  | none => .lookupUnsupported
  | some (.ok doc) => .lookedUp doc
  | some (.error cause) => .failed (.storeFailure cause)

/-! ### Commands on scans and cursors -/

/-- Opens a scan under a name. -/
def openScan (session : Session) (name : String) : Reply × Session :=
  match session.backing.toStore.enumerate with
  | .ok items => (.scanOpened, { session with scans := session.scans.insert name items })
  | .error cause => (.failed (.storeFailure cause), session)

/-- Pulls from the scan of a name. -/
def pullScan (session : Session) (name : String) : Reply × Session :=
  match session.scans.get? name with
  | none => (.missing .scan, session)
  | some [] => (.scanned none, session)
  | some (item :: rest) =>
    let session :=
      { session with
        scans := session.scans.insert name rest
        cancelled := session.cancelled.cancelAny item.cancels
        pulled := session.pulled + 1 }
    match item.content with
    | .ok doc => (.scanned (some doc), session)
    | .error cause => (.failed (.storeFailure cause), session)

/-- The reply about the items that were pulled from the scripted store. -/
def pulledReply (session : Session) : Reply :=
  match session.backing with
  | .scripted _ => .pulled session.pulled
  | .memory _ => .pulled 0

/-- Opens a cursor under a name; an older one of the name is given up afterwards. -/
def openCursor (session : Session) (name : String) (source : QuerySource)
    (options : ExecOptions) : Reply × Session :=
  let reading := source.read
  let session := session.observe reading.events
  match reading.result with
  | .error e => (.failed e, session)
  | .ok query =>
    let opening := query.execute session.backing.toStore options session.cancelled
    let session := session.observe opening.events
    match opening.result with
    | .error e => (.failed e, session)
    | .ok cursor =>
      let replaced :=
        match session.cursors.get? name with
        | some older => older.close
        | none => []
      (.opened cursor,
        { session with cursors := session.cursors.insert name cursor }.observe replaced)

/-- Steps the cursor of a name. -/
def next (session : Session) (name : String) : Reply × Session :=
  match session.cursors.get? name with
  | none => (.missing .cursor, session)
  | some cursor =>
    let step := cursor.advance session.cancelled
    (.advanced step.result step.cursor,
      { session with cursors := session.cursors.insert name step.cursor }.moved cursor
        step.cursor step.cancelled step.events)

/-- Collects the cursor of a name, which is then no longer open. -/
def collect (session : Session) (name : String) (reply : List Document → Reply) :
    Reply × Session :=
  match session.cursors.get? name with
  | none => (.missing .cursor, session)
  | some cursor =>
    let collected := cursor.collect session.cancelled
    let session :=
      { session with cursors := session.cursors.erase name }.moved cursor collected.cursor
        collected.cancelled collected.events
    match collected.result with
    | .ok docs => (reply docs, session)
    | .error e => (.failed e, session)

/-- Gives the cursor of a name up. -/
def close (session : Session) (name : String) : Reply × Session :=
  match session.cursors.get? name with
  | none => (.missing .cursor, session)
  | some cursor =>
    (.closed, { session with cursors := session.cursors.erase name }.observe cursor.close)

/-! ### All commands -/

/-- Performs something with the value of a text. -/
def withBody (session : Session) (raw : List UInt8) (perform : Value → Reply × Session) :
    Reply × Session :=
  match Value.ofText raw with
  | .ok body => perform body
  | .error e => (.failed e, session)

/-- Performs something on the document that a command means. -/
def onDocument (session : Session) (ref : DocumentRef)
    (perform : DocumentId → Reply × Session) : Reply × Session :=
  match session.resolve? ref with
  | some id => perform id
  | none => (.missing .insertion, session)

mutual

/-- Performs a command. -/
def perform (session : Session) : Command → Reply × Session
  | .insert raw => session.withBody raw session.insert
  | .put ref raw => session.onDocument ref fun id => session.withBody raw (session.put id)
  | .delete ref => session.onDocument ref session.delete
  | .get ref => session.onDocument ref fun id => (session.get id, session)
  | .size => (session.size, session)
  | .lookup ref => session.onDocument ref fun id => (session.lookup id, session)
  | .openScan name => session.openScan name
  | .pullScan name => session.pullScan name
  | .pulled => (session.pulledReply, session)
  | .openCursor name source options => session.openCursor name source options
  | .next name => session.next name
  | .collect name => session.collect name .collected
  | .collectText name => session.collect name fun docs => .collectedText (Document.listText docs)
  | .close name => session.close name
  | .cancel token =>
    (.token true, { session with cancelled := session.cancelled.cancel token })
  | .isCancelled token => (.token (session.cancelled.contains token), session)
  | .capture commands =>
    let opened := { session with telemetry := session.telemetry.openCapture }
    let performed := performAll opened commands
    let closed := performed.2.telemetry.closeCapture
    (.captured performed.1 closed.1, { performed.2 with telemetry := closed.2 })

/-- Performs commands one after the other. -/
def performAll (session : Session) : List Command → List Reply × Session
  | [] => ([], session)
  | command :: rest =>
    let first := perform session command
    let later := performAll first.2 rest
    (first.1 :: later.1, later.2)

end

/-- Gives up the cursors that are still open, in order of name. -/
def finish (session : Session) : Session :=
  { session with cursors := [] }.observe
    ((Fields.sortByKey session.cursors).flatMap fun (entry : String × Cursor) => entry.2.close)

/-- A whole session: its replies, the summaries outside of captures, and what is known at its
end. -/
def run (backing : Backing) (cancelled : Cancellations) (commands : List Command) :
    List Reply × List Summary × Telemetry :=
  let opened := { start backing cancelled with telemetry := Telemetry.start.openCapture }
  let performed := opened.performAll commands
  let closed := performed.2.finish.telemetry.closeCapture
  (performed.1, closed.1, closed.2)

end Session

end DocQuery
