import DocQuery.Proofs.Isolation
import DocQuery.Proofs.Recording
import DocQuery.Proofs.SessionWrites

/-!
Cursors under the names of a session.  Whatever a session is told to do besides, to one of its
cursors this is a run of moves: calls for the next result, and cancellations, which come from
commands and from the items that other cursors and scans pull.

* `Command.Keeps`: a command leaves the cursor of a name open;
* `Session.resultsOf`: what the cursor of a name has answered in the course of a command;
* `Session.Moves` (**moves**): a session has taken the cursor of a name through a run;
* `Session.Effect.moves` and `Session.moves_performAll`: a command, and a list of commands with the
  captures in it, does nothing else to a cursor;
* `Session.results_performAll` (**undisturbed cursors**): as long as nothing that a cursor heeds is
  cancelled it answers with the results that were due;
* `Session.named_cursor_answers` (**main statement**): a cursor of a session over documents in
  memory gives the answer for the documents at its opening.
-/

namespace DocQuery

/-! ### Tokens that are cancelled in a row -/

/-- Cancels tokens, one after the other. -/
def Cancellations.cancelAll (cancelled : Cancellations) (tokens : List CancelToken) :
    Cancellations :=
  tokens.foldl cancel cancelled

namespace Cancellations

variable {cancelled : Cancellations}

lemma cancelAll_append (tokens later : List CancelToken) :
    cancelled.cancelAll (tokens ++ later) = (cancelled.cancelAll tokens).cancelAll later :=
  List.foldl_append

lemma cancelAny_eq_cancelAll (cancels : Option CancelToken) :
    cancelled.cancelAny cancels = cancelled.cancelAll cancels.toList := by
  cases cancels <;> rfl

lemma contains_cancelAll (tokens : List CancelToken) (token : CancelToken) :
    (cancelled.cancelAll tokens).contains token = true
      ↔ token ∈ tokens ∨ cancelled.contains token = true := by
  induction tokens generalizing cancelled with
  | nil => simp [cancelAll]
  | cons first rest ih =>
    refine Iff.trans ih ?_
    rw [contains_cancel, Bool.or_eq_true, beq_iff_eq, List.mem_cons, eq_comm (a := first)]
    tauto

end Cancellations

lemma Pull.Pulls.exists_cancelAll {options : ExecOptions} {cancelled later : Cancellations}
    {items rest : List ScanItem} (h : Pulls options cancelled items later rest) :
    ∃ tokens, later = cancelled.cancelAll tokens := by
  induction h with
  | nothing => exact ⟨[], rfl⟩
  | @more cancelled later item items rest _ _ ih =>
    obtain ⟨tokens, rfl⟩ := ih
    refine ⟨item.cancels.toList ++ tokens, ?_⟩
    rw [Cancellations.cancelAll_append, Cancellations.cancelAny_eq_cancelAll]

/-- Collecting a cursor only cancels tokens. -/
lemma Cursor.exists_cancelAll_collect (cursor : Cursor) (cancelled : Cancellations) :
    ∃ tokens, (cursor.collect cancelled).cancelled = cancelled.cancelAll tokens := by
  fun_induction collect cursor cancelled with
  | case1 cursor cancelled => exact (pulls_advance cursor cancelled).exists_cancelAll
  | case2 cursor cancelled => exact (pulls_advance cursor cancelled).exists_cancelAll
  | case3 cursor cancelled step doc hstep later ih =>
    obtain ⟨tokens, htokens⟩ := (pulls_advance cursor cancelled).exists_cancelAll
    obtain ⟨others, hothers⟩ := ih
    refine ⟨tokens ++ others, ?_⟩
    rw [Cancellations.cancelAll_append, ← htokens]
    exact hothers

namespace Reading

variable {reading : Reading}

/-- Cancellations alone ask for nothing. -/
lemma run_of_cancellations (reading : Reading) (tokens : List CancelToken) :
    reading.after (tokens.map .cancel) = ⟨reading.cursor, reading.cancelled.cancelAll tokens⟩
      ∧ reading.replies (tokens.map .cancel) = [] ∧ calls (tokens.map .cancel) = 0 := by
  induction tokens generalizing reading with
  | nil => exact ⟨rfl, rfl, rfl⟩
  | cons token rest ih =>
    obtain ⟨hafter, hreplies, hcalls⟩ := ih (reading.move (.cancel token))
    exact ⟨hafter, hreplies, by rw [List.map_cons, calls_cancel, hcalls]⟩

/-- A run takes no cancellation back. -/
lemma contains_after (reading : Reading) (moves : List Move) {token : CancelToken}
    (h : reading.cancelled.contains token = true) :
    (reading.after moves).cancelled.contains token = true := by
  refine after_induction (motive := fun now => now.cancelled.contains token = true) h
    (fun now m hnow => ?_) moves
  cases m with
  | next =>
    obtain ⟨tokens, htokens⟩ := (Cursor.pulls_advance now.cursor now.cancelled).exists_cancelAll
    rw [move, htokens]
    exact (Cancellations.contains_cancelAll tokens token).mpr (.inr hnow)
  | cancel other =>
    rw [move, Cancellations.contains_cancel, hnow, Bool.or_true]

/-- A token that a run has cancelled is cancelled at its end. -/
lemma contains_of_mem {moves : List Move} {token : CancelToken} (h : .cancel token ∈ moves) :
    (reading.after moves).cancelled.contains token = true := by
  obtain ⟨before, later, rfl⟩ := List.append_of_mem h
  rw [after_append, after_cons]
  refine contains_after _ later ?_
  rw [move, Cancellations.contains_cancel, beq_self_eq_true, Bool.true_or]

end Reading

/-! ### Commands that leave a cursor open -/

mutual

/-- A command, with those inside of a capture, neither gives the cursor of a name up nor opens
another one under the name. -/
def Command.Keeps (name : String) : Command → Prop
  | .openCursor other _ _ => other ≠ name
  | .collect other => other ≠ name
  | .collectText other => other ≠ name
  | .close other => other ≠ name
  | .capture commands => Command.AllKeep name commands
  | _ => True

/-- All commands of a list leave the cursor of a name open. -/
def Command.AllKeep (name : String) : List Command → Prop
  | [] => True
  | command :: rest => command.Keeps name ∧ Command.AllKeep name rest

end

mutual

/-- How often a command asks the cursor of a name for its next result. -/
def Command.asks (name : String) : Command → Nat
  | .next other => if other = name then 1 else 0
  | .capture commands => Command.allAsk name commands
  | _ => 0

/-- How often the commands of a list ask the cursor of a name for its next result. -/
def Command.allAsk (name : String) : List Command → Nat
  | [] => 0
  | command :: rest => command.asks name + Command.allAsk name rest

end

namespace Session

mutual

/-- What the cursor of a name has answered, read off the reply to a command. -/
def resultsOf (name : String) : Command → Reply → List StepResult
  | .next other, .advanced result _ => if other = name then [result] else []
  | .capture commands, .captured replies _ => resultsOfAll name commands replies
  | _, _ => []

/-- What the cursor of a name has answered in the course of some commands. -/
def resultsOfAll (name : String) : List Command → List Reply → List StepResult
  | command :: commands, reply :: replies =>
    resultsOf name command reply ++ resultsOfAll name commands replies
  | _, _ => []

end

/-! ### Moves -/

/-- The cursor of a name, with the tokens that are cancelled. -/
def reading? (session : Session) (name : String) : Option Reading :=
  (session.cursors.get? name).map fun cursor => ⟨cursor, session.cancelled⟩

/-- From one session to another the cursor of a name has gone through a run, in which it was asked
so many times and has given some results. -/
def Moves (name : String) (session later : Session) (asks : Nat) (results : List StepResult) :
    Prop :=
  ∀ reading, session.reading? name = some reading → ∃ moves,
    later.reading? name = some (reading.after moves) ∧ calls moves = asks
      ∧ reading.replies moves = results

variable {name : String} {session later : Session} {reading : Reading}

lemma reading?_eq_some_iff : session.reading? name = some reading
    ↔ session.cursors.get? name = some reading.cursor ∧ session.cancelled = reading.cancelled := by
  rw [reading?, Option.map_eq_some_iff]
  constructor
  · rintro ⟨cursor, hcursor, rfl⟩
    exact ⟨hcursor, rfl⟩
  · rintro ⟨hcursor, hcancelled⟩
    exact ⟨reading.cursor, hcursor, by rw [hcancelled]⟩

/-- Moves follow on one another. -/
lemma Moves.trans {last : Session} {asks more : Nat} {results others : List StepResult}
    (h : Moves name session later asks results) (h' : Moves name later last more others) :
    Moves name session last (asks + more) (results ++ others) := by
  intro reading hreading
  obtain ⟨moves, hlater, rfl, rfl⟩ := h reading hreading
  obtain ⟨moves', hlast, rfl, rfl⟩ := h' _ hlater
  refine ⟨moves ++ moves', ?_, List.count_append, Reading.replies_append reading moves moves'⟩
  rw [Reading.after_append]
  exact hlast

/-- A cursor is left where it is, whatever tokens are cancelled besides. -/
lemma moves_of_cancelAll (hcursor : later.cursors.get? name = session.cursors.get? name)
    (hcancelled : ∃ tokens, later.cancelled = session.cancelled.cancelAll tokens) :
    Moves name session later 0 [] := by
  intro reading hreading
  obtain ⟨hopen, hsame⟩ := reading?_eq_some_iff.mp hreading
  obtain ⟨tokens, htokens⟩ := hcancelled
  obtain ⟨hafter, hreplies, hcalls⟩ := reading.run_of_cancellations tokens
  refine ⟨tokens.map .cancel, ?_, hcalls, hreplies⟩
  rw [hafter, reading?_eq_some_iff, hcursor, htokens, hsame]
  exact ⟨hopen, rfl⟩

/-- A cursor is left where it is. -/
lemma moves_of_eq (hcursors : later.cursors = session.cursors)
    (hcancelled : later.cancelled = session.cancelled) : Moves name session later 0 [] :=
  moves_of_cancelAll (by rw [hcursors]) ⟨[], hcancelled⟩

/-! ### What commands do to a cursor -/

/-- A plain command asks no cursor. -/
lemma asks_of_isPlain {command : Command} (h : command.IsPlain) : command.asks name = 0 := by
  cases command <;> first | rfl | cases h

lemma asks_of_cursor?_ne {command : Command} {other : String} (h : command.cursor? = some other)
    (hne : other ≠ name) : command.asks name = 0 := by
  cases command with
  | next own =>
    obtain rfl : own = other := Option.some.inj h
    exact if_neg hne
  | capture commands => cases h
  | _ => rfl

/-- A plain reply is not the result of a cursor. -/
lemma resultsOf_of_isPlain {command : Command} {reply : Reply} (h : reply.IsPlain) :
    resultsOf name command reply = [] := by
  rw [resultsOf.eq_def]
  split
  · cases h
  · cases h
  · rfl

lemma get?_erase_of_ne (cursors : Fields Cursor) {other : String} (hne : other ≠ name) :
    (cursors.erase other).get? name = cursors.get? name := by
  induction cursors with
  | nil => rfl
  | cons member rest ih => grind [Fields.erase, Fields.get?]

/-- Asking a cursor is its own move. -/
lemma moves_next {cursor : Cursor} (hname : session.cursors.get? name = some cursor)
    (hcursor : later.cursors.get? name = some (cursor.advance session.cancelled).cursor)
    (hcancelled : later.cancelled = (cursor.advance session.cancelled).cancelled) :
    Moves name session later 1 [(cursor.advance session.cancelled).result] := by
  intro reading hreading
  obtain ⟨hopen, hsame⟩ := reading?_eq_some_iff.mp hreading
  obtain rfl : cursor = reading.cursor := Option.some.inj (hname.symm.trans hopen)
  rw [hsame] at hcursor hcancelled ⊢
  exact ⟨[.next], reading?_eq_some_iff.mpr ⟨hcursor, hcancelled⟩, rfl, rfl⟩

/-- **Effects.**  A command that leaves a cursor open does nothing to it but ask it, as often as the
command says, and cancel tokens. -/
lemma Effect.moves {command : Command} {reply : Reply} (h : Effect session command reply later)
    (hkeep : command.Keeps name) :
    Moves name session later (command.asks name) (resultsOf name command reply) := by
  cases h with
  | told hcommand hreply =>
    rw [asks_of_isPlain hcommand, resultsOf_of_isPlain hreply]
    exact moves_of_eq rfl rfl
  | written hcommand hreply =>
    rw [asks_of_isPlain hcommand, resultsOf_of_isPlain hreply]
    exact moves_of_eq rfl rfl
  | scanned hcommand hreply scans cancels =>
    rw [asks_of_isPlain hcommand, resultsOf_of_isPlain hreply]
    exact moves_of_cancelAll rfl ⟨cancels.toList, Cancellations.cancelAny_eq_cancelAll cancels⟩
  | @missing _ other hcommand hname =>
    intro reading hreading
    have hne : other ≠ name := by
      rintro rfl
      rw [(reading?_eq_some_iff.mp hreading).1] at hname
      cases hname
    have hreply : (Reply.missing .cursor).IsPlain := trivial
    rw [asks_of_cursor?_ne hcommand hne, resultsOf_of_isPlain hreply]
    exact moves_of_eq rfl rfl reading hreading
  | unread => exact moves_of_eq rfl rfl
  | refused => exact moves_of_eq rfl rfl
  | @opened other =>
    exact moves_of_cancelAll ((Fields.get?_insert _ other name _).trans (if_neg hkeep)) ⟨[], rfl⟩
  | @asked other cursor hname =>
    by_cases hother : other = name
    · subst hother
      rw [Command.asks, if_pos rfl, resultsOf, if_pos rfl]
      exact moves_next hname ((Fields.get?_insert _ other other _).trans (if_pos rfl)) rfl
    · rw [Command.asks, if_neg hother, resultsOf, if_neg hother]
      exact moves_of_cancelAll ((Fields.get?_insert _ other name _).trans (if_neg hother))
        (Cursor.pulls_advance cursor session.cancelled).exists_cancelAll
  | @collected _ _ other cursor hcommand hreply =>
    have hne : other ≠ name := by rcases hcommand with rfl | rfl <;> exact hkeep
    have hcursor : command.cursor? = some other := by rcases hcommand with rfl | rfl <;> rfl
    rw [asks_of_cursor?_ne hcursor hne, resultsOf_of_isPlain hreply]
    exact moves_of_cancelAll (get?_erase_of_ne session.cursors hne)
      (cursor.exists_cancelAll_collect session.cancelled)
  | closed => exact moves_of_cancelAll (get?_erase_of_ne session.cursors hkeep) ⟨[], rfl⟩

/-- **Commands.**  Commands that leave a cursor open, one after the other, take it through a run. -/
theorem moves_performAll (session : Session) (commands : List Command)
    (h : Command.AllKeep name commands) :
    Moves name session (session.performAll commands).2 (Command.allAsk name commands)
      (resultsOfAll name commands (session.performAll commands).1) :=
  Composes.performAll
    (P := fun session command reply later => command.Keeps name →
      Moves name session later (command.asks name) (resultsOf name command reply))
    (Q := fun session commands replies later => Command.AllKeep name commands →
      Moves name session later (Command.allAsk name commands) (resultsOfAll name commands replies))
    { effect := Effect.moves
      capture := id
      nil := fun _ _ => moves_of_eq rfl rfl
      cons := fun hfirst hlater hkeep => (hfirst hkeep.1).trans (hlater hkeep.2) }
    session commands h

/-! ### What is answered -/

/-- Where none of the tokens that an execution heeds is cancelled nothing stops it. -/
lemma refusal?_of_spared {options : ExecOptions} {cancelled : Cancellations}
    (h : ∀ token, options.Heeds token → cancelled.contains token = false) :
    options.refusal? cancelled = none := by
  have hany {own : Option CancelToken} (hown : ∀ token, own = some token → options.Heeds token) :
      own.any cancelled.contains = false := by
    cases own with
    | none => rfl
    | some token => exact h token (hown token rfl)
  rw [ExecOptions.refusal?, hany fun _ => .inl, hany fun _ => .inr]
  rfl

/-- **Undisturbed cursors.**  If at the end of some commands no token is cancelled that a cursor
heeds, then it has answered them with the results that were due, one with each call. -/
theorem results_performAll {cursor : Cursor} {commands : List Command}
    (hcursor : session.cursors.get? name = some cursor) (hkeep : Command.AllKeep name commands)
    (hspared : ∀ token, cursor.options.Heeds token →
      (session.performAll commands).2.cancelled.contains token = false)
    (hscan : ∀ item ∈ cursor.rest, ∀ token, item.cancels = some token →
      ¬ cursor.options.Heeds token) :
    resultsOfAll name commands (session.performAll commands).1
      = (List.range (Command.allAsk name commands)).map fun k => replyOf cursor.due[k]? := by
  obtain ⟨moves, hlater, hcalls, hreplies⟩ := moves_performAll session commands hkeep
    ⟨cursor, session.cancelled⟩ (reading?_eq_some_iff.mpr ⟨hcursor, rfl⟩)
  have hend := (reading?_eq_some_iff.mp hlater).2
  rw [hend] at hspared
  -- Whatever was cancelled at some time is cancelled at the end.
  have hquiet : (Reading.mk cursor session.cancelled).Undisturbed moves := by
    refine ⟨⟨refusal?_of_spared fun token hheeds => ?_, hscan⟩, fun token htoken hheeds => ?_⟩
    · refine Bool.eq_false_iff.mpr fun hcontains => ?_
      exact Bool.false_ne_true ((hspared token hheeds).symm.trans
        (Reading.contains_after ⟨cursor, session.cancelled⟩ moves hcontains))
    · exact Bool.false_ne_true ((hspared token hheeds).symm.trans
        (Reading.contains_of_mem htoken))
  rw [← hreplies, ← hcalls, Reading.replies_of_undisturbed hquiet]

/-- Opening a query that can be read under a name, when nothing stops it. -/
lemma perform_openCursor (name : String) {source : QuerySource} {query : Query}
    {options : ExecOptions} {cursor : Cursor} (hread : source.read.result = .ok query)
    (hexecute : (query.execute session.backing.toStore options session.cancelled).result
      = .ok cursor) :
    (session.perform (.openCursor name source options)).1 = .opened cursor
      ∧ (session.perform (.openCursor name source options)).2.reading? name
        = some ⟨cursor, session.cancelled⟩ := by
  have hopen : session.perform (.openCursor name source options)
      = session.openCursor name source options := rfl
  rw [hopen, openCursor]
  simp only [hread, observe, hexecute]
  refine ⟨trivial, reading?_eq_some_iff.mpr ⟨?_, rfl⟩⟩
  exact (Fields.get?_insert _ name name cursor).trans (if_pos rfl)

/-- **Cursors of a session.**  A session without documents at first has come, by whatever commands,
to some documents, which writes lead to.  A query that is not refused then is opened under a name.
As long as the commands after it do not give it up, and have cancelled nothing that it heeds, it
gives the answer for these documents: its `k`-th call the `k`-th document, whatever is written,
whichever other cursors and scans are opened, asked and collected, and however the commands are
captured. -/
theorem named_cursor_answers (cancelled : Cancellations) (before later : List Command)
    (name : String) {source : QuerySource} {query : Query} (options : ExecOptions)
    (hread : source.read.result = .ok query) (hkeep : Command.AllKeep name later) :
    let session := ((start (.memory .empty) cancelled).performAll before).2
    let opened := session.perform (.openCursor name source options)
    let performed := opened.2.performAll later
    options.refusal? session.cancelled = none →
      (∀ token, options.Heeds token → performed.2.cancelled.contains token = false) →
      ∃ writes : List Write, session.backing = .memory (MemoryStore.empty.afterWrites writes)
        ∧ (∃ cursor, opened.1 = .opened cursor)
        ∧ resultsOfAll name later performed.1
          = (List.range (Command.allAsk name later)).map fun k =>
            .ok (query.answer (MemoryStore.empty.afterWrites writes).documents)[k]? := by
  intro session opened performed hunrefused hspared
  obtain ⟨writes, -, hbacking⟩ := exists_writes cancelled before
  obtain ⟨cursor, hexecute, hoptions, hquiet, hdue⟩ :=
    query.exists_cursor_toStore (MemoryStore.keyed_afterWrites writes) hunrefused
  have hstore : session.backing.toStore = (MemoryStore.empty.afterWrites writes).toStore :=
    congrArg Backing.toStore hbacking
  rw [← hstore] at hexecute
  obtain ⟨hreply, hreading⟩ := perform_openCursor name hread hexecute
  refine ⟨writes, hbacking, ⟨cursor, hreply⟩, ?_⟩
  subst hoptions
  rw [results_performAll (reading?_eq_some_iff.mp hreading).1 hkeep hspared hquiet.spared, hdue]
  refine List.map_congr_left fun k _ => ?_
  rw [List.getElem?_map]
  cases (query.answer (MemoryStore.empty.afterWrites writes).documents)[k]? <;> rfl

end Session

end DocQuery
