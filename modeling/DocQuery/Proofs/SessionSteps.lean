import DocQuery.Proofs.KeyedStore
import DocQuery.Proofs.Recording
import DocQuery.Session

/-!
What the commands of a session do, said once for all that is proved about sessions.

* `Command.IsPlain` and `Reply.IsPlain`: commands that concern no cursor, and replies that tell
  nothing of one;
* `Write.FromText`: what is written was read from a text;
* `Session.Effect` (**effects**): what a command that is no capture does, with the reply to it;
* `Session.effect_perform`: every such command has one of these effects;
* `Session.Composes` and `Session.Composes.performAll` (**main statement**): what holds of effects
  and is put together as captures and lists are holds of all that a session can be told to do.
-/

namespace DocQuery

/-! ### Commands and replies -/

/-- A command that concerns no cursor, and no other commands. -/
def Command.IsPlain : Command → Prop
  | .openCursor .. | .next _ | .collect _ | .collectText _ | .close _ | .capture _ => False
  | _ => True

/-- The cursor that a command asks or gives up. -/
def Command.cursor? : Command → Option String
  | .next name | .collect name | .collectText name | .close name => some name
  | _ => none

/-- A reply that is neither the result of a cursor nor that of a capture. -/
def Reply.IsPlain : Reply → Prop
  | .advanced .. | .captured .. => False
  | _ => True

/-- What is written was read from a text. -/
def Write.FromText : Write → Prop
  | .insert body => ∃ raw, Value.ofText raw = .ok body
  | .put _ body => ∃ raw, Value.ofText raw = .ok body
  | .delete _ => True

namespace Session

/-! ### Effects -/

/-- What a command that is no capture does to a session, with the reply to it. -/
inductive Effect (session : Session) : Command → Reply → Session → Prop
  /-- It tells something, or there is nothing to be done. -/
  | told {command : Command} {reply : Reply} (hcommand : command.IsPlain)
    (hreply : reply.IsPlain) : Effect session command reply session
  /-- It writes to documents in memory. -/
  | written {command : Command} {reply : Reply} (hcommand : command.IsPlain)
    (hreply : reply.IsPlain) {store : MemoryStore} {w : Write} (hw : w.FromText)
    (hstore : session.backing = .memory store) (insertions : List DocumentId)
    {events : List Event} (hevents : summaries events = []) :
    Effect session command reply
      ({ session with backing := .memory (store.write w), insertions := insertions }.observe
        events)
  /-- It opens a scan, pulls from one or cancels a token. -/
  | scanned {command : Command} {reply : Reply} (hcommand : command.IsPlain)
    (hreply : reply.IsPlain) (scans : Fields (List ScanItem)) (cancels : Option CancelToken)
    (pulled : Nat) :
    Effect session command reply
      { session with
        scans := scans
        cancelled := session.cancelled.cancelAny cancels
        pulled := pulled }
  /-- It concerns a cursor that is not open. -/
  | missing {command : Command} {name : String} (hcommand : command.cursor? = some name)
    (hname : session.cursors.get? name = none) : Effect session command (.missing .cursor) session
  /-- It opens a cursor for a query that cannot be read. -/
  | unread {name : String} {source : QuerySource} {options : ExecOptions} {e : QueryError}
    (hread : source.read.result = .error e) :
    Effect session (.openCursor name source options) (.failed e)
      (session.observe source.read.events)
  /-- It opens a cursor for a query that is refused. -/
  | refused {name : String} {source : QuerySource} {options : ExecOptions} {query : Query}
    {e : QueryError} (hread : source.read.result = .ok query)
    (hopening : (query.execute session.backing.toStore options session.cancelled).result
      = .error e) :
    Effect session (.openCursor name source options) (.failed e)
      ((session.observe source.read.events).observe
        (query.execute session.backing.toStore options session.cancelled).events)
  /-- It opens a cursor, which takes the place of an older one of the name. -/
  | opened {name : String} {source : QuerySource} {options : ExecOptions} {query : Query}
    {cursor : Cursor} (hread : source.read.result = .ok query)
    (hopening : (query.execute session.backing.toStore options session.cancelled).result
      = .ok cursor) :
    Effect session (.openCursor name source options) (.opened cursor)
      ((({ session with cursors := session.cursors.insert name cursor }.observe
        source.read.events).observe
          (query.execute session.backing.toStore options session.cancelled).events).observe
            ((session.cursors.get? name).elim [] Cursor.close))
  /-- It asks a cursor. -/
  | asked {name : String} {cursor : Cursor} (hname : session.cursors.get? name = some cursor) :
    Effect session (.next name)
      (.advanced (cursor.advance session.cancelled).result
        (cursor.advance session.cancelled).cursor)
      ({ session with
        cursors := session.cursors.insert name (cursor.advance session.cancelled).cursor }.moved
          cursor (cursor.advance session.cancelled).cursor
          (cursor.advance session.cancelled).cancelled (cursor.advance session.cancelled).events)
  /-- It collects a cursor. -/
  | collected {command : Command} {reply : Reply} {name : String} {cursor : Cursor}
    (hcommand : command = .collect name ∨ command = .collectText name) (hreply : reply.IsPlain)
    (hname : session.cursors.get? name = some cursor) :
    Effect session command reply
      ({ session with cursors := session.cursors.erase name }.moved cursor
        (cursor.collect session.cancelled).cursor (cursor.collect session.cancelled).cancelled
        (cursor.collect session.cancelled).events)
  /-- It gives a cursor up. -/
  | closed {name : String} {cursor : Cursor} (hname : session.cursors.get? name = some cursor) :
    Effect session (.close name) .closed
      ({ session with cursors := session.cursors.erase name }.observe cursor.close)

variable {session : Session} {command : Command}

/-! ### Commands on the store -/

lemma effect_withBody (hcommand : command.IsPlain) (raw : List UInt8)
    {write : Value → Reply × Session}
    (h : ∀ body, Value.ofText raw = .ok body →
      Effect session command (write body).1 (write body).2) :
    Effect session command (session.withBody raw write).1 (session.withBody raw write).2 := by
  rw [withBody]
  split
  · next body hbody => exact h body hbody
  · exact .told hcommand trivial

lemma effect_onDocument (hcommand : command.IsPlain) (ref : DocumentRef)
    {onId : DocumentId → Reply × Session}
    (h : ∀ id, Effect session command (onId id).1 (onId id).2) :
    Effect session command (session.onDocument ref onId).1 (session.onDocument ref onId).2 := by
  rw [onDocument]
  split
  · exact h _
  · exact .told hcommand trivial

lemma summaries_putEvents (store : MemoryStore) (id : DocumentId) :
    summaries (store.putEvents id) = [] := by
  rw [MemoryStore.putEvents]
  split <;> rfl

lemma effect_insert (hcommand : command.IsPlain) {raw : List UInt8} {body : Value}
    (hbody : Value.ofText raw = .ok body) :
    Effect session command (session.insert body).1 (session.insert body).2 := by
  rw [insert]
  split
  · exact .told hcommand trivial
  · next store hstore =>
    exact .written hcommand (by trivial) (w := .insert body) ⟨raw, hbody⟩ hstore _
      (summaries_putEvents store _)

lemma effect_put (hcommand : command.IsPlain) (id : DocumentId) {raw : List UInt8} {body : Value}
    (hbody : Value.ofText raw = .ok body) :
    Effect session command (session.put id body).1 (session.put id body).2 := by
  rw [put]
  split
  · exact .told hcommand trivial
  · next store hstore =>
    exact .written hcommand (by trivial) (w := .put id body) ⟨raw, hbody⟩ hstore _
      (summaries_putEvents store id)

lemma effect_delete (hcommand : command.IsPlain) (id : DocumentId) :
    Effect session command (session.delete id).1 (session.delete id).2 := by
  rw [delete]
  split
  · exact .told hcommand trivial
  · next store hstore =>
    exact .written hcommand (by trivial) (w := .delete id) trivial hstore session.insertions
      (show summaries [] = [] from rfl)

lemma effect_get (hcommand : command.IsPlain) (id : DocumentId) :
    Effect session command (session.get id) session := by
  rw [get]
  split <;> exact .told hcommand trivial

lemma effect_size (hcommand : command.IsPlain) : Effect session command session.size session := by
  rw [size]
  split <;> exact .told hcommand trivial

lemma effect_lookup (hcommand : command.IsPlain) (id : DocumentId) :
    Effect session command (session.lookup id) session := by
  rw [lookup]
  split <;> exact .told hcommand trivial

/-! ### Commands on scans -/

lemma effect_openScan (hcommand : command.IsPlain) (name : String) :
    Effect session command (session.openScan name).1 (session.openScan name).2 := by
  rw [openScan]
  split
  · exact .scanned hcommand (by trivial) _ none session.pulled
  · exact .told hcommand trivial

lemma effect_pullScan (hcommand : command.IsPlain) (name : String) :
    Effect session command (session.pullScan name).1 (session.pullScan name).2 := by
  rw [pullScan]
  split
  · exact .told hcommand trivial
  · exact .told hcommand trivial
  · dsimp only
    split <;> exact .scanned hcommand (by trivial) ..

lemma effect_pulledReply (hcommand : command.IsPlain) :
    Effect session command session.pulledReply session := by
  rw [pulledReply]
  split <;> exact .told hcommand trivial

/-! ### Commands on cursors -/

lemma effect_openCursor (name : String) (source : QuerySource) (options : ExecOptions) :
    Effect session (.openCursor name source options) (session.openCursor name source options).1
      (session.openCursor name source options).2 := by
  rw [openCursor]
  dsimp only
  split
  · next hread => exact .unread hread
  · next query hread =>
    split
    · next hopening => exact .refused hread hopening
    · next cursor hopening =>
      have heffect : Effect session (.openCursor name source options) (.opened cursor) _ :=
        .opened hread hopening
      split
      · next older hname =>
        have hname : session.cursors.get? name = some older := hname
        rw [hname] at heffect
        exact heffect
      · next hname =>
        have hname : session.cursors.get? name = none := hname
        rw [hname] at heffect
        exact heffect

lemma effect_next (name : String) :
    Effect session (.next name) (session.next name).1 (session.next name).2 := by
  rw [next]
  split
  · next hname => exact .missing rfl hname
  · next hname => exact .asked hname

lemma effect_collect {name : String}
    (hcommand : command = .collect name ∨ command = .collectText name)
    {reply : List Document → Reply} (hreply : ∀ docs, (reply docs).IsPlain) :
    Effect session command (session.collect name reply).1 (session.collect name reply).2 := by
  rw [collect]
  split
  · next hname =>
    refine .missing ?_ hname
    rcases hcommand with rfl | rfl <;> rfl
  · next hname =>
    dsimp only
    split
    · exact .collected hcommand (hreply _) hname
    · exact .collected hcommand trivial hname

lemma effect_close (name : String) :
    Effect session (.close name) (session.close name).1 (session.close name).2 := by
  rw [close]
  split
  · next hname => exact .missing rfl hname
  · next hname => exact .closed hname

/-! ### All commands -/

/-- **Effects.**  Every command has an effect, unless it is a capture. -/
theorem effect_perform (session : Session) (hcommand : ∀ commands, command ≠ .capture commands) :
    Effect session command (session.perform command).1 (session.perform command).2 := by
  cases command with
  | insert raw => exact effect_withBody (by trivial) raw fun _ => effect_insert (by trivial)
  | put ref raw =>
    exact effect_onDocument (by trivial) ref fun id =>
      effect_withBody (by trivial) raw fun _ => effect_put (by trivial) id
  | delete ref => exact effect_onDocument (by trivial) ref (effect_delete (by trivial))
  | get ref => exact effect_onDocument (by trivial) ref (effect_get (by trivial))
  | size => exact effect_size (by trivial)
  | lookup ref => exact effect_onDocument (by trivial) ref (effect_lookup (by trivial))
  | openScan name => exact effect_openScan (by trivial) name
  | pullScan name => exact effect_pullScan (by trivial) name
  | pulled => exact effect_pulledReply (by trivial)
  | openCursor name source options => exact effect_openCursor name source options
  | next name => exact effect_next name
  | collect name => exact effect_collect (.inl rfl) fun _ => trivial
  | collectText name => exact effect_collect (.inr rfl) fun _ => trivial
  | close name => exact effect_close name
  | cancel token =>
    exact .scanned (by trivial) (by trivial) session.scans (some token) session.pulled
  | isCancelled token => exact .told trivial trivial
  | capture commands => exact absurd rfl (hcommand commands)

/-- A property of commands and one of lists of commands: they hold of effects, and are put together
as captures and lists are put together. -/
structure Composes (P : Session → Command → Reply → Session → Prop)
    (Q : Session → List Command → List Reply → Session → Prop) : Prop where
  effect : ∀ {session command reply later}, Effect session command reply later →
    P session command reply later
  capture : ∀ {session commands replies later},
    Q { session with telemetry := session.telemetry.openCapture } commands replies later →
      P session (.capture commands) (.captured replies later.telemetry.closeCapture.1)
        { later with telemetry := later.telemetry.closeCapture.2 }
  nil : ∀ session, Q session [] [] session
  cons : ∀ {session command reply next commands replies later}, P session command reply next →
    Q next commands replies later → Q session (command :: commands) (reply :: replies) later

variable {P : Session → Command → Reply → Session → Prop}
  {Q : Session → List Command → List Reply → Session → Prop}

mutual

theorem Composes.perform (h : Composes P Q) (session : Session) (command : Command) :
    P session command (session.perform command).1 (session.perform command).2 := by
  cases command with
  | capture commands =>
    exact h.capture (h.performAll { session with telemetry := session.telemetry.openCapture }
      commands)
  | _ => exact h.effect (effect_perform session nofun)

/-- **Main statement.**  What holds of effects, and is put together as captures and lists are, holds
of every list of commands. -/
theorem Composes.performAll (h : Composes P Q) (session : Session) (commands : List Command) :
    Q session commands (session.performAll commands).1 (session.performAll commands).2 := by
  cases commands with
  | nil => exact h.nil session
  | cons command rest => exact h.cons (h.perform session command) (h.performAll _ rest)

end

end Session

end DocQuery
