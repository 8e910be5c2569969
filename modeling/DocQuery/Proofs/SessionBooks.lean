import DocQuery.Proofs.Accounting
import DocQuery.Proofs.FieldEdits
import DocQuery.Proofs.SessionSteps
import DocQuery.Proofs.ValueEquality

/-!
The commands of a session as acts on books.  A session knows the executions that run by the names of
their cursors, books know all executions by their numbers; otherwise the commands do what acts do.

* `Telemetry.Agrees`: the same counters and captures, whatever was logged;
* `Books.cursor?` and `Books.Becomes`: the cursor of an execution, and what a call on an execution
  changes;
* `Session.Entered` (**simulation**): the books that keep the executions of a session, with the name
  under which each was opened;
* `Session.Enters`: acts that enter what has led from one session to another, with the queries they
  execute and the captures they end;
* `Session.Effect.enters` and `Session.enters_performAll`: every effect of a command, and every list
  of commands with the captures in it, can be entered;
* `Session.finish_eq`: finishing a session closes the cursors that are open, in order of name;
* `Session.run_settled` (**main statement**): a whole session leaves settled books, which have its
  counters and the summaries that it hands back.
-/

namespace DocQuery

/-! ### Telemetry without its log -/

namespace Telemetry

/-- Two telemetries have the same counters and captures. -/
structure Agrees (telemetry other : Telemetry) : Prop where
  counters : telemetry.counters = other.counters
  captures : telemetry.captures = other.captures

variable {telemetry other : Telemetry}

/-- Events with the same summaries make no difference. -/
lemma Agrees.observeAll (h : telemetry.Agrees other) {events more : List Event}
    (hsummaries : summaries events = summaries more) :
    (telemetry.observeAll events).Agrees (other.observeAll more) where
  counters := by
    rw [counters_observeAll, counters_observeAll, h.counters, hsummaries]
  captures := by
    rw [captures_observeAll, captures_observeAll, h.captures, hsummaries]

/-- Events without summaries make no difference. -/
lemma Agrees.observeAll_right (h : telemetry.Agrees other) {events : List Event}
    (hsummaries : summaries events = []) : telemetry.Agrees (other.observeAll events) :=
  h.observeAll (show summaries [] = summaries events from hsummaries.symm)

lemma Agrees.openCapture (h : telemetry.Agrees other) :
    telemetry.openCapture.Agrees other.openCapture :=
  ⟨h.counters, congrArg ([] :: ·) h.captures⟩

lemma Agrees.closeCapture (h : telemetry.Agrees other) :
    telemetry.closeCapture.1 = other.closeCapture.1
      ∧ telemetry.closeCapture.2.Agrees other.closeCapture.2 :=
  ⟨congrArg (·.headD []) h.captures, h.counters, congrArg List.tail h.captures⟩

lemma length_captures_observeAll (telemetry : Telemetry) (events : List Event) :
    (telemetry.observeAll events).captures.length = telemetry.captures.length := by
  rw [captures_observeAll, List.length_modifyHead]

end Telemetry

/-! ### Books seen from outside -/

namespace Books

/-- The cursor of an execution, until it is given up. -/
def cursor? (books : Books) (n : Nat) : Option Cursor := books.executions[n]?.bind (·.cursor)

/-- Books go over into others: one execution has another cursor now, tokens were cancelled and
events were observed. -/
structure Becomes (books after : Books) (n : Nat) (cursor : Option Cursor)
    (cancelled : Cancellations) (events : List Event) : Prop where
  cursor? : ∀ m, after.cursor? m = if m = n then cursor else books.cursor? m
  cancelled : after.cancelled = cancelled
  telemetry : after.telemetry = books.telemetry.observeAll events
  inForce : after.inForce = books.inForce
  returned : after.returned = books.returned

variable {books : Books} {n : Nat} {cursor : Cursor}

/-- A call neither opens a capture nor ends one. -/
lemma Becomes.length_captures {after : Books} {new : Option Cursor} {cancelled : Cancellations}
    {events : List Event} (h : books.Becomes after n new cancelled events)
    (hlength : books.inForce.length = books.telemetry.captures.length) :
    after.inForce.length = after.telemetry.captures.length := by
  rw [h.inForce, h.telemetry, Telemetry.length_captures_observeAll]
  exact hlength

lemma lt_of_cursor? (h : books.cursor? n = some cursor) : n < books.executions.length := by
  obtain ⟨execution, hn, -⟩ := Option.bind_eq_some_iff.mp h
  exact (List.getElem?_eq_some_iff.mp hn).1

/-- A call on an execution changes its cursor only. -/
lemma becomes_ask (h : books.cursor? n = some cursor) (ask : Execution.Ask) :
    ∃ execution : Execution, execution.cursor = some cursor
      ∧ (books.perform (.ask n ask)).executions.length = books.executions.length
      ∧ books.Becomes (books.perform (.ask n ask)) n
        (execution.ask ask books.cancelled).execution.cursor
        (execution.ask ask books.cancelled).cancelled
        (execution.ask ask books.cancelled).events := by
  obtain ⟨execution, hn, hcursor⟩ := Option.bind_eq_some_iff.mp h
  have hlt := (List.getElem?_eq_some_iff.mp hn).1
  refine ⟨execution, hcursor, ?_⟩
  simp only [perform, hn]
  refine ⟨List.length_set, fun m => ?_, rfl, rfl, rfl, rfl⟩
  by_cases hm : m = n
  · subst hm
    rw [if_pos rfl, cursor?, enter, List.getElem?_set_self hlt]
    rfl
  · rw [if_neg hm, cursor?, enter, List.getElem?_set_ne (Ne.symm hm)]
    rfl

/-- An execution that is opened gets the next number. -/
lemma becomes_execute (books : Books) (query : Query) (store : Store) (options : ExecOptions) :
    (books.perform (.execute query store options)).executions.length = books.executions.length + 1
      ∧ books.Becomes (books.perform (.execute query store options)) books.executions.length
        (query.execute store options books.cancelled).result.toOption books.cancelled
        (query.execute store options books.cancelled).events := by
  have hcall : Execution.start query store options books.cancelled
      = ⟨(Execution.start query store options books.cancelled).execution, books.cancelled,
        (query.execute store options books.cancelled).events⟩ := by
    rw [Execution.start]
    split <;> rfl
  have hcursor : (Execution.start query store options books.cancelled).execution.cursor
      = (query.execute store options books.cancelled).result.toOption := by
    rw [Execution.start]
    cases (query.execute store options books.cancelled).result <;> rfl
  rw [perform, hcall]
  refine ⟨List.length_append, fun m => ?_, rfl, rfl, rfl, rfl⟩
  rw [cursor?, enter]
  by_cases hm : m = books.executions.length
  · rw [hm, if_pos rfl, List.getElem?_concat_length]
    exact hcursor
  · rw [if_neg hm, cursor?]
    rcases Nat.lt_or_gt_of_ne hm with hlt | hgt
    · rw [List.getElem?_append_left hlt]
    · rw [List.getElem?_eq_none (by simpa using Nat.succ_le_of_lt hgt),
        List.getElem?_eq_none (Nat.le_of_lt hgt)]

/-- The capture that is ended is the innermost one in force. -/
lemma perform_closeCapture {innermost : Nat} {outer : List Nat}
    (h : books.inForce = innermost :: outer) :
    books.perform .closeCapture
      = { books with
          telemetry := books.telemetry.closeCapture.2
          inForce := outer
          returned := books.returned ++ [(innermost, books.telemetry.closeCapture.1)] } := by
  simp only [perform, h]

end Books

/-! ### Queries and captures of commands -/

mutual

/-- The queries of a command, as far as they can be read. -/
def Command.queries : Command → List Query
  | .openCursor _ source _ => source.read.result.toOption.toList
  | .capture commands => Command.allQueries commands
  | _ => []

/-- The queries of some commands, in order. -/
def Command.allQueries : List Command → List Query
  | [] => []
  | command :: rest => command.queries ++ Command.allQueries rest

end

mutual

/-- What the captures of a command have handed back, the inner ones before the outer ones. -/
def Reply.collectedByCaptures : Reply → List (List Summary)
  | .captured replies summaries => Reply.allCollectedByCaptures replies ++ [summaries]
  | _ => []

/-- What the captures of some commands have handed back. -/
def Reply.allCollectedByCaptures : List Reply → List (List Summary)
  | [] => []
  | reply :: rest => reply.collectedByCaptures ++ Reply.allCollectedByCaptures rest

end

namespace Session

/-! ### Sessions and books -/

/-- The books keep the executions of a session.  Each was opened under a name, and the cursors that
are open are those of the executions that have one, of which no two have the same name. -/
structure Entered (names : List String) (session : Session) (books : Books) : Prop where
  distinct : session.cursors.Distinct
  length : names.length = books.executions.length
  held : ∀ name cursor, session.cursors.get? name = some cursor
    ↔ ∃ n : Nat, names[n]? = some name ∧ books.cursor? n = some cursor
  unique : ∀ n m : Nat, names[n]? = names[m]? → (books.cursor? n).isSome →
    (books.cursor? m).isSome → n = m
  cancelled : books.cancelled = session.cancelled
  telemetry : books.telemetry.Agrees session.telemetry
  inForce : books.inForce.length = books.telemetry.captures.length

/-- Acts enter what has led from one session to another.  They execute some queries, and the
captures that they open they also end, with some summaries. -/
def Enters (session later : Session) (queries : List Query) (ended : List (List Summary)) : Prop :=
  ∀ names books, Entered names session books → ∃ acts names',
    Entered names' later (books.after acts) ∧ (books.after acts).inForce = books.inForce
      ∧ (books.after acts).returned.map (·.2) = books.returned.map (·.2) ++ ended
      ∧ acts.filterMap Act.query? = queries

variable {names : List String} {session later : Session} {books after : Books} {name : String}
  {n : Nat} {cursor : Cursor} {cancelled : Cancellations} {events : List Event}

lemma Enters.trans {last : Session} {queries more : List Query} {ended others : List (List Summary)}
    (h : Enters session later queries ended) (h' : Enters later last more others) :
    Enters session last (queries ++ more) (ended ++ others) := by
  intro names books hentered
  obtain ⟨acts, names', hlater, hinForce, hreturned, rfl⟩ := h names books hentered
  obtain ⟨acts', last', hlast, hinForce', hreturned', rfl⟩ := h' names' _ hlater
  have hafter : books.after (acts ++ acts') = (books.after acts).after acts' := List.foldl_append
  refine ⟨acts ++ acts', last', ?_⟩
  rw [hafter, hreturned', hreturned, List.append_assoc, List.filterMap_append]
  exact ⟨hlast, hinForce'.trans hinForce, rfl, rfl⟩

/-- Nothing has to be entered where the cursors and the cancelled tokens stay the same and no
summary is recorded. -/
lemma enters_of_eq (hcursors : later.cursors = session.cursors)
    (hcancelled : later.cancelled = session.cancelled)
    (htelemetry : ∃ events, summaries events = []
      ∧ later.telemetry = session.telemetry.observeAll events) :
    Enters session later [] [] := by
  intro names books h
  obtain ⟨events, hsummaries, htelemetry⟩ := htelemetry
  refine ⟨[], names, ⟨?_, h.length, ?_, h.unique, ?_, ?_, h.inForce⟩, rfl, by simp [Books.after],
    rfl⟩
  · rw [hcursors]
    exact h.distinct
  · rw [hcursors]
    exact h.held
  · rw [hcancelled]
    exact h.cancelled
  · rw [htelemetry]
    exact h.telemetry.observeAll_right hsummaries

/-- A token that is cancelled is cancelled in the books. -/
lemma enters_cancelAny (hcursors : later.cursors = session.cursors) (cancels : Option CancelToken)
    (hcancelled : later.cancelled = session.cancelled.cancelAny cancels)
    (htelemetry : later.telemetry = session.telemetry) : Enters session later [] [] := by
  cases cancels with
  | none => exact enters_of_eq hcursors hcancelled ⟨[], rfl, htelemetry⟩
  | some token =>
    intro names books h
    refine ⟨[.cancel token], names, ⟨?_, h.length, ?_, h.unique, ?_, ?_, h.inForce⟩, rfl,
      (List.append_nil _).symm, rfl⟩
    · rw [hcursors]
      exact h.distinct
    · rw [hcursors]
      exact h.held
    · rw [hcancelled, ← h.cancelled]
      rfl
    · rw [htelemetry]
      exact h.telemetry

/-! ### Calls on a cursor -/

/-- A call on the execution behind a name puts another cursor under the name, or none. -/
lemma Entered.update (h : Entered names session books) {new : Option Cursor}
    (hname : names[n]? = some name) (hcursor : books.cursor? n = some cursor)
    (hlength : after.executions.length = books.executions.length)
    (hafter : books.Becomes after n new cancelled events)
    (hdistinct : later.cursors.Distinct)
    (hget : ∀ other, later.cursors.get? other
      = if name = other then new else session.cursors.get? other)
    (hcancelled : later.cancelled = cancelled)
    (htelemetry : later.telemetry = session.telemetry.observeAll events) :
    Entered names later after where
  distinct := hdistinct
  length := h.length.trans hlength.symm
  held other found := by
    rw [hget]
    constructor
    · intro hfound
      split_ifs at hfound with hother
      · refine ⟨n, by rw [hname, hother], ?_⟩
        rw [hafter.cursor?, if_pos rfl, hfound]
      · obtain ⟨m, hm, hopen⟩ := (h.held other found).mp hfound
        have hne : m ≠ n := by
          rintro rfl
          exact hother (Option.some.inj (hname.symm.trans hm))
        exact ⟨m, hm, by rw [hafter.cursor?, if_neg hne, hopen]⟩
    · rintro ⟨m, hm, hopen⟩
      rw [hafter.cursor?] at hopen
      split_ifs at hopen with hmn
      · subst hmn
        rw [if_pos (Option.some.inj (hname.symm.trans hm)), hopen]
      · rw [if_neg, (h.held other found).mpr ⟨m, hm, hopen⟩]
        rintro rfl
        exact hmn (h.unique m n (hm.trans hname.symm) (by rw [hopen]; rfl) (by rw [hcursor]; rfl))
  unique m m' hsame hm hm' := by
    have hopen (k : Nat) (hk : (after.cursor? k).isSome) : (books.cursor? k).isSome := by
      rw [hafter.cursor?] at hk
      split_ifs at hk with hkn
      · rw [hkn, hcursor]
        rfl
      · exact hk
    exact h.unique m m' hsame (hopen m hm) (hopen m' hm')
  cancelled := hafter.cancelled.trans hcancelled.symm
  telemetry := by
    rw [hafter.telemetry, htelemetry]
    exact h.telemetry.observeAll rfl
  inForce := hafter.length_captures h.inForce

/-- Asking something of a cursor is an act on its execution. -/
lemma enters_ask (ask : Execution.Ask) (new : Option Cursor) (events : List Event)
    (hopen : session.cursors.get? name = some cursor)
    (hcall : ∀ execution : Execution, execution.cursor = some cursor →
      (execution.ask ask session.cancelled).execution.cursor = new
        ∧ (execution.ask ask session.cancelled).cancelled = later.cancelled
        ∧ (execution.ask ask session.cancelled).events = events)
    (hdistinct : session.cursors.Distinct → later.cursors.Distinct)
    (hget : session.cursors.Distinct → ∀ other, later.cursors.get? other
      = if name = other then new else session.cursors.get? other)
    (htelemetry : later.telemetry = session.telemetry.observeAll events) :
    Enters session later [] [] := by
  intro names books h
  obtain ⟨n, hname, hcursor⟩ := (h.held name cursor).mp hopen
  obtain ⟨execution, hheld, hlength, hafter⟩ := Books.becomes_ask hcursor ask
  rw [h.cancelled] at hafter
  obtain ⟨hnew, hcancelled, hevents⟩ := hcall execution hheld
  rw [hnew, hcancelled, hevents] at hafter
  refine ⟨[.ask n ask], names, h.update hname hcursor hlength hafter (hdistinct h.distinct)
    (hget h.distinct) rfl htelemetry, hafter.inForce, ?_, rfl⟩
  rw [List.append_nil]
  exact congrArg _ hafter.returned

lemma enters_next (hopen : session.cursors.get? name = some cursor) :
    Enters session
      ({ session with
        cursors := session.cursors.insert name (cursor.advance session.cancelled).cursor }.moved
          cursor (cursor.advance session.cancelled).cursor
          (cursor.advance session.cancelled).cancelled
          (cursor.advance session.cancelled).events) [] [] := by
  refine enters_ask .next (some (cursor.advance session.cancelled).cursor) _ hopen
    (fun execution hheld => ?_) (fun h => Fields.distinct_insert h name _)
    (fun _ other => Fields.get?_insert _ name other _) rfl
  rw [Execution.ask, hheld]
  exact ⟨rfl, rfl, rfl⟩

lemma enters_collect (hopen : session.cursors.get? name = some cursor) :
    Enters session
      ({ session with cursors := session.cursors.erase name }.moved cursor
        (cursor.collect session.cancelled).cursor (cursor.collect session.cancelled).cancelled
        (cursor.collect session.cancelled).events) [] [] := by
  have hclose : (cursor.collect session.cancelled).cursor.close = [] :=
    if_pos (Cursor.finished_collect cursor session.cancelled)
  refine enters_ask .collect none _ hopen (fun execution hheld => ?_)
    (fun h => Fields.distinct_erase h name) (fun h other => Fields.get?_erase h name other) rfl
  rw [Execution.ask, hheld]
  refine ⟨rfl, rfl, ?_⟩
  simp only [Execution.collect, hclose, List.append_nil]

lemma enters_close (hopen : session.cursors.get? name = some cursor) :
    Enters session
      ({ session with cursors := session.cursors.erase name }.observe cursor.close) [] [] := by
  refine enters_ask .drop none cursor.close hopen
    (fun execution hheld => ?_) (fun h => Fields.distinct_erase h name)
    (fun h other => Fields.get?_erase h name other) rfl
  rw [Execution.ask, hheld]
  exact ⟨rfl, rfl, rfl⟩

/-! ### Opening a cursor -/

/-- No execution under a name has a cursor if no cursor is open under the name. -/
lemma Entered.cursor?_eq_none (h : Entered names session books)
    (hnone : session.cursors.get? name = none) (hname : names[n]? = some name) :
    books.cursor? n = none := by
  cases hcursor : books.cursor? n with
  | none => rfl
  | some cursor =>
    have hget := (h.held name cursor).mpr ⟨n, hname, hcursor⟩
    rw [hnone] at hget
    cases hget

/-- One more execution is opened under a name.  If it gets a cursor, then no other execution under
the name has one any more, and otherwise the cursors stay the same. -/
lemma Entered.extend (h : Entered names session books) (opened : Option Cursor)
    (hlength : after.executions.length = books.executions.length + 1)
    (hcursor? : ∀ m, after.cursor? m
      = if m = names.length then opened
        else if opened.isSome ∧ names[m]? = some name then none else books.cursor? m)
    (hdistinct : later.cursors.Distinct)
    (hget : ∀ other, later.cursors.get? other
      = if opened.isSome ∧ name = other then opened else session.cursors.get? other)
    (hcancelled : after.cancelled = later.cancelled)
    (htelemetry : after.telemetry.Agrees later.telemetry)
    (hinForce : after.inForce.length = after.telemetry.captures.length) :
    Entered (names ++ [name]) later after := by
  have hlast : (names ++ [name])[names.length]? = some name := List.getElem?_concat_length
  -- An execution with a cursor is the new one, or an older one that has kept its cursor.
  have hopen (m : Nat) (other : String) (found : Cursor)
      (hm : (names ++ [name])[m]? = some other) (hfound : after.cursor? m = some found) :
      (m = names.length ∧ other = name ∧ opened = some found)
        ∨ (names[m]? = some other ∧ books.cursor? m = some found
          ∧ ¬ (opened.isSome ∧ name = other)) := by
    rw [hcursor?] at hfound
    split_ifs at hfound with hnew hgiven
    · rw [hnew, hlast] at hm
      exact .inl ⟨hnew, (Option.some.inj hm).symm, hfound⟩
    · have hlt : m < names.length := h.length ▸ Books.lt_of_cursor? hfound
      rw [List.getElem?_append_left hlt] at hm
      refine .inr ⟨hm, hfound, fun hsame => hgiven ⟨hsame.1, ?_⟩⟩
      rw [hm, hsame.2]
  exact {
    distinct := hdistinct
    length := by rw [List.length_append, h.length, hlength]; rfl
    held := fun other found => by
      rw [hget]
      constructor
      · intro hfound
        split_ifs at hfound with hnew
        · exact ⟨names.length, by rw [hlast, hnew.2], by rw [hcursor?, if_pos rfl, hfound]⟩
        · obtain ⟨m, hm, hheld⟩ := (h.held other found).mp hfound
          have hlt : m < names.length := (List.getElem?_eq_some_iff.mp hm).1
          refine ⟨m, by rw [List.getElem?_append_left hlt, hm], ?_⟩
          rw [hcursor?, if_neg (Nat.ne_of_lt hlt), if_neg, hheld]
          exact fun hsame => hnew ⟨hsame.1, Option.some.inj (hsame.2.symm.trans hm)⟩
      · rintro ⟨m, hm, hfound⟩
        rcases hopen m other found hm hfound with ⟨-, rfl, rfl⟩ | ⟨hm, hheld, hold⟩
        · rw [if_pos ⟨rfl, rfl⟩]
        · rw [if_neg hold]
          exact (h.held other found).mpr ⟨m, hm, hheld⟩
    unique := fun m m' hsame hm hm' => by
      obtain ⟨found, hfound⟩ := Option.isSome_iff_exists.mp hm
      obtain ⟨found', hfound'⟩ := Option.isSome_iff_exists.mp hm'
      have hlt : m < (names ++ [name]).length := by
        rw [List.length_append, h.length]
        exact hlength ▸ Books.lt_of_cursor? hfound
      obtain ⟨other, hother⟩ : ∃ other, (names ++ [name])[m]? = some other :=
        ⟨_, List.getElem?_eq_getElem hlt⟩
      rcases hopen m other found hother hfound with ⟨hnew, hname, hopened⟩ | ⟨hold, hheld, hne⟩
        <;> rcases hopen m' other found' (hsame ▸ hother) hfound' with
          ⟨hnew', hname', hopened'⟩ | ⟨hold', hheld', hne'⟩
      · rw [hnew, hnew']
      · exact absurd ⟨by rw [hopened]; rfl, hname.symm⟩ hne'
      · exact absurd ⟨by rw [hopened']; rfl, hname'.symm⟩ hne
      · exact h.unique m m' (hold.trans hold'.symm) (by rw [hheld]; rfl) (by rw [hheld']; rfl)
    cancelled := hcancelled
    telemetry := htelemetry
    inForce := hinForce }

lemma summaries_read (source : QuerySource) : summaries source.read.events = [] := by
  cases source with
  | all => rfl
  | text config raw =>
    rw [QuerySource.read]
    split <;> rfl

/-- A cursor that is opened takes the place of an older one of the name, which is given up. -/
lemma Entered.exists_open (h : Entered names session books) (name : String) (later : Session)
    (hlength : after.executions.length = books.executions.length + 1)
    (hafter : books.Becomes after names.length (some cursor) session.cancelled events)
    (hdistinct : later.cursors.Distinct)
    (hget : ∀ other, later.cursors.get? other
      = if name = other then some cursor else session.cursors.get? other)
    (hcancelled : later.cancelled = session.cancelled)
    (htelemetry : (after.telemetry.observeAll
      ((session.cursors.get? name).elim [] Cursor.close)).Agrees later.telemetry) :
    ∃ acts, Entered (names ++ [name]) later (after.after acts)
      ∧ (after.after acts).inForce = books.inForce ∧ (after.after acts).returned = books.returned
      ∧ acts.filterMap Act.query? = [] := by
  have hget' (other : String) : later.cursors.get? other
      = if (some cursor).isSome ∧ name = other then some cursor
        else session.cursors.get? other := by
    rw [hget, Option.isSome_some]
    simp only [true_and]
  cases hold : session.cursors.get? name with
  | none =>
    rw [hold] at htelemetry
    refine ⟨[], h.extend (some cursor) hlength (fun m => ?_) hdistinct hget'
      (hafter.cancelled.trans hcancelled.symm) htelemetry (hafter.length_captures h.inForce),
      hafter.inForce, hafter.returned, rfl⟩
    refine (hafter.cursor? m).trans ?_
    split_ifs with hnew hsame
    · rfl
    · exact h.cursor?_eq_none hold hsame.2
    · rfl
  | some older =>
    rw [hold] at htelemetry
    obtain ⟨n, hname, hheld⟩ := (h.held name older).mp hold
    have hn : n ≠ names.length := Nat.ne_of_lt (h.length ▸ Books.lt_of_cursor? hheld)
    have hlive : after.cursor? n = some older := by rw [hafter.cursor?, if_neg hn, hheld]
    obtain ⟨execution, hcursor, hsize, hdropped⟩ := Books.becomes_ask hlive .drop
    have hcall : execution.ask .drop after.cancelled = execution.drop older after.cancelled := by
      rw [Execution.ask, hcursor]
    rw [hcall] at hdropped
    refine ⟨[.ask n .drop], h.extend (some cursor) (hsize.trans hlength) (fun m => ?_) hdistinct
      hget' ?_ ?_
      (hdropped.length_captures (hafter.length_captures h.inForce)),
      hdropped.inForce.trans hafter.inForce, hdropped.returned.trans hafter.returned, rfl⟩
    · refine (hdropped.cursor? m).trans ?_
      rw [hafter.cursor?]
      split_ifs with hmn hnew hsame hnew' hsame'
      · exact absurd (hmn.symm.trans hnew) hn
      · rfl
      · exact absurd ⟨rfl, hmn ▸ hname⟩ hsame
      · rfl
      · cases hkept : books.cursor? m with
        | none => rfl
        | some kept =>
          exact absurd (h.unique m n (hsame'.2.trans hname.symm) (by rw [hkept]; rfl)
            (by rw [hheld]; rfl)) hmn
      · rfl
    · exact hdropped.cancelled.trans (hafter.cancelled.trans hcancelled.symm)
    · exact hdropped.telemetry ▸ htelemetry

/-- A query is executed in the books as in the session. -/
lemma Entered.execute (h : Entered names session books) (source : QuerySource) (query : Query)
    (options : ExecOptions) :
    let opening := query.execute session.backing.toStore options session.cancelled
    let after := books.perform (.execute query session.backing.toStore options)
    after.executions.length = books.executions.length + 1
      ∧ books.Becomes after names.length opening.result.toOption session.cancelled opening.events
      ∧ after.telemetry.Agrees
        ((session.telemetry.observeAll source.read.events).observeAll opening.events) := by
  intro opening after
  obtain ⟨hlength, hbooks⟩ := books.becomes_execute query session.backing.toStore options
  have htelemetry := (h.telemetry.observeAll_right (summaries_read source)).observeAll
    (Eq.refl (summaries opening.events))
  rw [h.cancelled, ← h.length] at hbooks
  exact ⟨hlength, hbooks, hbooks.telemetry ▸ htelemetry⟩

/-- A query that is refused is an execution without a cursor. -/
lemma enters_refused (name : String) (source : QuerySource) {options : ExecOptions} {query : Query}
    {e : QueryError}
    (hopening : (query.execute session.backing.toStore options session.cancelled).result
      = .error e) :
    Enters session
      ((session.observe source.read.events).observe
        (query.execute session.backing.toStore options session.cancelled).events) [query] [] := by
  intro names books h
  obtain ⟨hlength, hbooks, htelemetry⟩ := h.execute source query options
  rw [hopening] at hbooks
  refine ⟨[.execute query session.backing.toStore options], names ++ [name],
    h.extend none hlength (fun m => (hbooks.cursor? m).trans ?_) h.distinct (fun other => ?_)
      hbooks.cancelled htelemetry (hbooks.length_captures h.inForce), hbooks.inForce, ?_, rfl⟩
  · simp [Except.toOption]
  · simp [observe]
  · exact (congrArg _ hbooks.returned).trans (List.append_nil _).symm

/-- Opening a cursor is an execution, after which an older cursor of the name is given up. -/
lemma enters_opened (source : QuerySource) {options : ExecOptions} {query : Query}
    (hopening : (query.execute session.backing.toStore options session.cancelled).result
      = .ok cursor)
    (hcursors : later.cursors = session.cursors.insert name cursor)
    (hcancelled : later.cancelled = session.cancelled)
    (htelemetry : later.telemetry = ((session.telemetry.observeAll source.read.events).observeAll
      (query.execute session.backing.toStore options session.cancelled).events).observeAll
        ((session.cursors.get? name).elim [] Cursor.close)) :
    Enters session later [query] [] := by
  intro names books h
  obtain ⟨hlength, hbooks, hagrees⟩ := h.execute source query options
  rw [hopening] at hbooks
  obtain ⟨acts, hentered, hinForce, hreturned, hqueries⟩ :=
    h.exists_open name later hlength hbooks
      (hcursors ▸ Fields.distinct_insert h.distinct name cursor)
      (fun other => hcursors ▸ Fields.get?_insert _ name other cursor) hcancelled
      (htelemetry ▸ hagrees.observeAll rfl)
  refine ⟨.execute query session.backing.toStore options :: acts, names ++ [name], hentered,
    hinForce, (congrArg _ hreturned).trans (List.append_nil _).symm, ?_⟩
  rw [List.filterMap_cons, hqueries]
  rfl

/-! ### All commands -/

lemma queries_of_isPlain {command : Command} (h : command.IsPlain) : command.queries = [] := by
  cases command <;> first | rfl | cases h

lemma queries_of_cursor? {command : Command} (h : command.cursor? = some name) :
    command.queries = [] := by
  cases command <;> first | rfl | cases h

lemma collectedByCaptures_of_isPlain {reply : Reply} (h : reply.IsPlain) :
    reply.collectedByCaptures = [] := by
  cases reply <;> first | rfl | cases h

/-- **Effects.**  Every effect of a command can be entered in the books, by executing its query or
asking an execution. -/
lemma Effect.enters {command : Command} {reply : Reply} (h : Effect session command reply later) :
    Enters session later command.queries reply.collectedByCaptures := by
  cases h with
  | told hcommand hreply =>
    rw [queries_of_isPlain hcommand, collectedByCaptures_of_isPlain hreply]
    exact enters_of_eq rfl rfl ⟨[], rfl, rfl⟩
  | written hcommand hreply _ _ _ hevents =>
    rw [queries_of_isPlain hcommand, collectedByCaptures_of_isPlain hreply]
    exact enters_of_eq rfl rfl ⟨_, hevents, rfl⟩
  | scanned hcommand hreply _ cancels =>
    rw [queries_of_isPlain hcommand, collectedByCaptures_of_isPlain hreply]
    exact enters_cancelAny rfl cancels rfl rfl
  | missing hcommand =>
    rw [queries_of_cursor? hcommand]
    exact enters_of_eq rfl rfl ⟨[], rfl, rfl⟩
  | @unread _ source _ _ hread =>
    rw [Command.queries, hread]
    exact enters_of_eq rfl rfl ⟨source.read.events, summaries_read source, rfl⟩
  | @refused name source _ _ _ hread hopening =>
    rw [Command.queries, hread]
    exact enters_refused name source hopening
  | @opened _ source _ _ _ hread hopening =>
    rw [Command.queries, hread]
    exact enters_opened source hopening rfl rfl rfl
  | asked hname => exact enters_next hname
  | collected hcommand hreply hname =>
    have hqueries : command.queries = [] := by rcases hcommand with rfl | rfl <;> rfl
    rw [hqueries, collectedByCaptures_of_isPlain hreply]
    exact enters_collect hname
  | closed hname => exact enters_close hname

/-- A capture inside of a session is a capture in the books. -/
lemma enters_capture {queries : List Query} {replies : List Reply}
    (h : Enters { session with telemetry := session.telemetry.openCapture } later queries
      (Reply.allCollectedByCaptures replies)) :
    Enters session { later with telemetry := later.telemetry.closeCapture.2 } queries
      (Reply.captured replies later.telemetry.closeCapture.1).collectedByCaptures := by
  intro names books hentered
  obtain ⟨acts, names', hlater, hinForce, hreturned, hqueries⟩ :=
    h names (books.perform .openCapture) {
      distinct := hentered.distinct
      length := hentered.length
      held := hentered.held
      unique := hentered.unique
      cancelled := hentered.cancelled
      telemetry := hentered.telemetry.openCapture
      inForce := congrArg (· + 1) hentered.inForce }
  obtain ⟨hcollected, htelemetry⟩ := hlater.telemetry.closeCapture
  have hafter : books.after (.openCapture :: acts ++ [.closeCapture])
      = ((books.perform .openCapture).after acts).perform .closeCapture := by
    rw [Books.after, List.foldl_append]
    rfl
  have hlength := hlater.inForce
  generalize (books.perform .openCapture).after acts = inner at *
  have hopen : inner.inForce = books.opened :: books.inForce := hinForce
  refine ⟨.openCapture :: acts ++ [.closeCapture], names', ?_⟩
  rw [hafter, Books.perform_closeCapture hopen]
  refine ⟨{
    distinct := hlater.distinct
    length := hlater.length
    held := hlater.held
    unique := hlater.unique
    cancelled := hlater.cancelled
    telemetry := htelemetry
    inForce := ?_ }, rfl, ?_, ?_⟩
  · rw [hopen] at hlength
    simp only [Telemetry.closeCapture, List.length_tail, ← hlength, List.length_cons,
      Nat.add_sub_cancel]
  · rw [List.map_append, hreturned, Reply.collectedByCaptures, hcollected, List.append_assoc]
    rfl
  · rw [List.filterMap_append, List.filterMap_cons, hqueries]
    exact List.append_nil _

/-- **Commands.**  Commands can be entered one after the other. -/
theorem enters_performAll (session : Session) (commands : List Command) :
    Enters session (session.performAll commands).2 (Command.allQueries commands)
      (Reply.allCollectedByCaptures (session.performAll commands).1) :=
  Composes.performAll
    (P := fun session command reply later =>
      Enters session later command.queries reply.collectedByCaptures)
    (Q := fun session commands replies later =>
      Enters session later (Command.allQueries commands) (Reply.allCollectedByCaptures replies))
    { effect := Effect.enters
      capture := enters_capture
      nil := fun _ => enters_of_eq rfl rfl ⟨[], rfl, rfl⟩
      cons := Enters.trans } session commands

/-! ### Whole sessions -/

/-- Closing some of the cursors that are open, one after the other. -/
lemma performAll_close {entries : Fields Cursor} (hentries : entries.Distinct)
    (hopen : ∀ entry ∈ entries, session.cursors.get? entry.1 = some entry.2)
    (h : session.cursors.Distinct) :
    (session.performAll (entries.map fun entry => .close entry.1)).2
      = { session with cursors := session.cursors.filter (·.1 ∉ entries.keys) }.observe
        (entries.flatMap fun (entry : String × Cursor) => entry.2.close) := by
  induction entries generalizing session with
  | nil =>
    have hall : session.cursors.filter (·.1 ∉ Fields.keys ([] : Fields Cursor))
        = session.cursors := List.filter_eq_self.mpr fun _ _ => by simp [Fields.keys]
    rw [hall]
    rfl
  | cons entry rest ih =>
    obtain ⟨hnew, hrest⟩ : entry.1 ∉ Fields.keys rest ∧ Fields.Distinct rest :=
      List.nodup_cons.mp hentries
    have hfirst : (session.perform (.close entry.1)).2
        = { session with cursors := session.cursors.erase entry.1 }.observe entry.2.close := by
      have hget := hopen entry List.mem_cons_self
      rw [perform, close, hget]
    have hothers : ∀ other ∈ rest,
        (session.cursors.erase entry.1).get? other.1 = some other.2 := by
      intro other hother
      have hne : entry.1 ≠ other.1 := by
        intro heq
        rw [heq] at hnew
        exact hnew (List.mem_map_of_mem hother)
      rw [Fields.get?_erase h, if_neg hne]
      exact hopen other (List.mem_cons_of_mem entry hother)
    have hkeys : (session.cursors.erase entry.1).filter (·.1 ∉ Fields.keys rest)
        = session.cursors.filter (·.1 ∉ Fields.keys (entry :: rest)) := by
      rw [Fields.erase_eq_filter h, List.filter_filter]
      refine List.filter_congr fun member _ => ?_
      rw [← Bool.decide_and]
      simp only [Fields.keys, List.map_cons, List.mem_cons, not_or, and_comm, ne_eq]
    have hlater := @ih (session.perform (.close entry.1)).2 hrest
      (by rw [hfirst]; exact hothers) (by rw [hfirst]; exact Fields.distinct_erase h entry.1)
    rw [List.map_cons, performAll]
    refine hlater.trans ?_
    rw [hfirst]
    simp only [observe, hkeys, List.flatMap_cons, Telemetry.observeAll, List.foldl_append]

/-- **Finishing.**  At its end a session closes the cursors that are open, in order of name. -/
theorem finish_eq (h : session.cursors.Distinct) :
    session.finish = (session.performAll
      ((Fields.sortByKey session.cursors).map fun entry => .close entry.1)).2 := by
  have hperm := Fields.perm_sortByKey session.cursors
  have hopen : ∀ entry ∈ Fields.sortByKey session.cursors,
      session.cursors.get? entry.1 = some entry.2 := fun entry hentry =>
    (Fields.get?_eq_some_iff h).mpr (hperm.mem_iff.mp hentry)
  have hnone : session.cursors.filter (·.1 ∉ (Fields.sortByKey session.cursors).keys) = [] := by
    refine List.filter_eq_nil_iff.mpr fun entry hentry => ?_
    rw [decide_eq_true_eq, not_not]
    exact List.mem_map_of_mem (hperm.mem_iff.mpr hentry)
  rw [performAll_close (Fields.distinct_sortByKey h) hopen h, hnone]
  rfl

lemma enters_closeAll (names : List String) :
    Enters session (session.performAll (names.map .close)).2 [] [] := by
  induction names generalizing session with
  | nil => exact enters_of_eq rfl rfl ⟨[], rfl, rfl⟩
  | cons name rest ih =>
    have hreply : (session.close name).1.collectedByCaptures = [] := by
      rw [close]
      split <;> rfl
    have hfirst : Enters session (session.close name).2 []
        (session.close name).1.collectedByCaptures := (effect_close name).enters
    rw [hreply] at hfirst
    exact hfirst.trans ih

lemma enters_finish : Enters session session.finish [] [] := by
  intro names books h
  rw [finish_eq h.distinct, show (fun entry : String × Cursor => Command.close entry.1)
    = Command.close ∘ Prod.fst from rfl, ← List.map_map]
  exact enters_closeAll _ names books h

/-- A session starts with books without executions. -/
lemma entered_start (backing : Backing) (cancelled : Cancellations) :
    Entered [] (start backing cancelled) (Books.start cancelled .zero) where
  distinct := List.nodup_nil
  length := rfl
  held := fun name cursor => by simp [start]
  unique := fun n m _ hn _ => by simp [Books.cursor?, Books.start] at hn
  cancelled := rfl
  telemetry := ⟨rfl, rfl⟩
  inForce := rfl

/-- Where no cursor is open every execution has given its own up. -/
lemma Entered.dropped (h : Entered names session books) (hcursors : session.cursors = []) :
    ∀ execution ∈ books.executions, execution.cursor = none := by
  intro execution hexecution
  obtain ⟨n, hlt, rfl⟩ := List.mem_iff_getElem.mp hexecution
  have hlt' : n < names.length := h.length ▸ hlt
  have hname : names[n]? = some names[n] := List.getElem?_eq_getElem hlt'
  have hnone := h.cursor?_eq_none (by rw [hcursors]; rfl) hname
  rwa [Books.cursor?, List.getElem?_eq_getElem hlt] at hnone

/-- **Sessions leave settled books.**  The commands of a session are acts that execute the queries
of the session as far as they can be read, and give up every cursor in the end, so that each
execution is accounted for once.  The counters of the session are those of the books, and the
summaries that its captures and the session itself hand back are those that the captures of the
books have collected. -/
theorem run_settled (backing : Backing) (cancelled : Cancellations) (commands : List Command) :
    let done := run backing cancelled commands
    ∃ acts, ∃ books : Books, books = (Books.start cancelled .zero).after acts
      ∧ acts.filterMap Act.query? = Command.allQueries commands
      ∧ books.Settled .zero acts
      ∧ done.2.2.counters = books.telemetry.counters
      ∧ done.2.2.counters.total = (Command.allQueries commands).length
      ∧ books.inForce = []
      ∧ books.returned.map (·.2) = Reply.allCollectedByCaptures done.1 ++ [done.2.1] := by
  intro done
  let opened := { start backing cancelled with telemetry := Telemetry.start.openCapture }
  let performed := opened.performAll commands
  have henters : Enters opened performed.2.finish (Command.allQueries commands)
      (Reply.allCollectedByCaptures performed.1) := by
    have hall := (enters_performAll opened commands).trans enters_finish
    rwa [List.append_nil, List.append_nil] at hall
  -- A whole session is a capture that nothing is outside of.
  obtain ⟨acts, names, hentered, hinForce, hreturned, hqueries⟩ :=
    enters_capture henters [] _ (entered_start backing cancelled)
  have hsettled := ((Books.sound_start cancelled .zero).after acts).settled
    (Books.queries_after (Books.start cancelled .zero) acts) (hentered.dropped rfl)
  refine ⟨acts, _, rfl, hqueries, hsettled, hentered.telemetry.counters.symm, ?_, hinForce,
    hreturned⟩
  refine (congrArg Counters.total hentered.telemetry.counters).symm.trans (hsettled.total.trans ?_)
  rw [hqueries]
  exact Nat.zero_add _

end Session

end DocQuery
