import DocQuery.Proofs.Runs
import DocQuery.Proofs.Sorting
import Mathlib.Data.List.Permutation

/-!
What an execution delivers, whichever way its results are asked for: by calls for the next one, all
at once, or as the text of a JSON array.

* `Reading.Delivers`: all ways of asking agree with one list of results;
* `Reading.delivers_due`: a cursor delivers what is due;
* `Query.Returns`: what all executions over scans of some documents deliver;
* `Query.cursor_yields_answer` (**full scans**): without failures an execution delivers the answer
  of its query, and its counters stay in balance;
* `Query.cursor_reports_failure` (**failures**): a failure of the scan is reported once, after the
  answer for the documents before it or in the place of sorted results.
-/

namespace DocQuery

/-! ### Asking for a text -/

/-- The reply of a session that collects a cursor into a text. -/
lemma Session.reply_collectText {session : Session} {name : String} {cursor : Cursor}
    (h : session.cursors.get? name = some cursor) :
    (session.perform (.collectText name)).1
      = match (cursor.collect session.cancelled).result with
        | .ok docs => .collectedText (Json.text (.array (docs.map Document.toJson)))
        | .error e => .failed e := by
  simp only [perform, collect, h]
  cases (cursor.collect session.cancelled).result <;> rfl

/-! ### Three ways of asking -/

/-- A reading delivers some results: call by call, all at once, and as a text. -/
structure Reading.Delivers (reading : Reading) (results : List (Except QueryError Document)) :
    Prop where
  replies : ∀ moves, reading.Undisturbed moves →
    reading.replies moves = (List.range (calls moves)).map fun k => replyOf results[k]?
  collected : (reading.cursor.collect reading.cancelled).result = gather results
  text : ∀ (session : Session) (name : String),
    session.cursors.get? name = some reading.cursor → session.cancelled = reading.cancelled →
      (session.perform (.collectText name)).1
        = match gather results with
          | .ok docs => .collectedText (Json.text (.array (docs.map Document.toJson)))
          | .error e => .failed e

/-- A cursor that nothing stops delivers what is due. -/
lemma Reading.delivers_due (reading : Reading)
    (h : reading.cursor.options.Undisturbed reading.cancelled reading.cursor.rest) :
    reading.Delivers reading.cursor.due where
  replies _ hmoves := replies_of_undisturbed hmoves
  collected := Cursor.result_collect h
  text session name hname hcancelled := by
    rw [Session.reply_collectText hname, hcancelled, Cursor.result_collect h]

namespace Query

variable {query : Query} {store : Store} {options : ExecOptions} {cancelled : Cancellations}
  {scan : ScanKind} {items : List ScanItem}

/-- A query that nothing stops is opened as a cursor over its scan. -/
lemma result_execute (hunrefused : options.refusal? cancelled = none)
    (hscan : query.openScan store = (scan, .ok items)) :
    (query.execute store options cancelled).result
      = .ok (.ofScan query options scan items) := by
  rw [execute, hunrefused]
  simp only [hscan]

/-! ### What all executions deliver -/

/-- Every execution of a query that nothing stops, over a scan of some documents without failures,
opens and delivers an answer, whichever way its results are asked for. -/
def Returns (query : Query) (docs answer : List Document) : Prop :=
  ∀ (store : Store) (options : ExecOptions) (cancelled : Cancellations) (scan : ScanKind)
    (items : List ScanItem), query.openScan store = (scan, .ok items) →
    items.map (·.content) = docs.map .ok → options.Undisturbed cancelled items →
    ∃ cursor, (query.execute store options cancelled).result = .ok cursor
      ∧ (Reading.mk cursor cancelled).Delivers (answer.map .ok)

lemma returns_answer (query : Query) (docs : List Document) :
    query.Returns docs (query.answer docs) := by
  intro store options cancelled scan items hscan hdocs hquiet
  obtain ⟨hdocuments, hfailure⟩ := ScanItem.documents_and_failure?_of_contents hdocs
  have hdelivers := Reading.delivers_due ⟨.ofScan query options scan items, cancelled⟩ hquiet
  rw [Cursor.due_ofScan, results_of_no_failure hfailure, hdocuments] at hdelivers
  exact ⟨.ofScan query options scan items, result_execute hquiet.unrefused hscan, hdelivers⟩

/-- **The answer of a full scan.**  Over a scan without failures, without a token and without a
deadline, an execution delivers exactly the answer of its query: the `k`-th call gives the `k`-th
document of the answer and every call behind the last one the end.  Collecting gives what the calls
so far have left, as documents and as a text.  The counters stay in balance all the while.  Under
sort keys the page of the answer is taken from the stable sort of the matches. -/
theorem cursor_yields_answer (query : Query) (store : Store) (options : ExecOptions)
    (cancelled : Cancellations) (items : List ScanItem) (docs : List Document)
    (htoken : options.token = none) (hdeadline : options.deadline = none)
    (hscan : query.openScan store = (.fullScan, .ok items))
    (hdocs : items.map (·.content) = docs.map .ok) :
    (query.sort ≠ [] → Document.StableSort query.sort (query.matching docs)
        (query.ordered (query.matching docs)))
      ∧ ∃ cursor, (query.execute store options cancelled).result = .ok cursor ∧ ∀ moves,
        let now := (Reading.mk cursor cancelled).after moves
        let left := (query.answer docs).drop (calls moves)
        (Reading.mk cursor cancelled).replies moves
            = (List.range (calls moves)).map (fun k => .ok (query.answer docs)[k]?)
          ∧ (now.cursor.collect now.cancelled).result = .ok left
          ∧ (∀ (session : Session) (name : String),
              session.cursors.get? name = some now.cursor →
                (session.perform (.collectText name)).1
                  = .collectedText (Json.text (.array (left.map Document.toJson))))
          ∧ now.cursor.Balanced now.cursor.waiting := by
  have hquiet : ∀ reading : Reading, reading.cursor.options = options → ∀ moves,
      reading.Undisturbed moves := fun reading hoptions =>
    Reading.undisturbed_of_token_none (by rw [hoptions, htoken]) (by rw [hoptions, hdeadline])
  have hstart := hquiet ⟨.ofScan query options .fullScan items, cancelled⟩ rfl
  obtain ⟨hdocuments, hfailure⟩ := ScanItem.documents_and_failure?_of_contents hdocs
  have hdue : (Cursor.ofScan query options .fullScan items).due = (query.answer docs).map .ok := by
    rw [Cursor.due_ofScan, results_of_no_failure hfailure, hdocuments]
  refine ⟨fun hsort => ?_, .ofScan query options .fullScan items,
    result_execute (hstart []).scan.unrefused hscan, fun moves => ?_⟩
  · rw [ordered_of_sort_ne_nil hsort]
    exact Document.stableSort_sortBy query.sort (query.matching docs)
  have hsame := (Reading.mk (.ofScan query options .fullScan items) cancelled).sameExecution_after
    moves
  have hleft := Reading.due_after (hstart moves)
  rw [hdue, ← List.map_drop] at hleft
  refine ⟨?_, ?_, ?_, ?_⟩
  · rw [Reading.replies_of_undisturbed (hstart moves), hdue]
    refine List.map_congr_left fun k _ => ?_
    rw [List.getElem?_map]
    cases (query.answer docs)[k]? <;> rfl
  · rw [Cursor.result_collect (hquiet _ hsame.options []).scan, hleft, gather_map_ok]
  · intro session name hname
    have hsession := hquiet ⟨_, session.cancelled⟩ hsame.options []
    rw [Session.reply_collectText hname, Cursor.result_collect hsession.scan, hleft,
      gather_map_ok]
  · refine Reading.balanced_after (hstart moves) (fun e he => ?_) (Cursor.balanced_ofScan _ _ _ _)
    rw [hdue] at he
    obtain ⟨doc, -, hdoc⟩ := List.mem_map.mp he
    cases hdoc

/-- Four documents, two of them under one identifier and one without the key `k`. -/
def roster : List Document :=
  [⟨"a", none, .object [("k", .string "x")]⟩, ⟨"b", none, .object []⟩,
    ⟨"a", none, .object [("k", .string "z")]⟩, ⟨"c", none, .object [("k", .string "y")]⟩]

/-- The second document with the key `k`, from the greatest value downwards. -/
def secondByKey : Query :=
  ⟨.field ⟨["k"]⟩ (.presence true), none, [⟨⟨["k"]⟩, .descending⟩], 1, some 1⟩

/-- The full scan of the roster gives the second document by key. -/
theorem secondByKey_yields_answer :
    ExecOptions.standard.token = none ∧ ExecOptions.standard.deadline = none
      ∧ secondByKey.openScan ⟨.ok (roster.map .ofDocument), fun _ => none⟩
        = (.fullScan, .ok (roster.map .ofDocument))
      ∧ (roster.map ScanItem.ofDocument).map (·.content) = roster.map .ok
      ∧ ∃ cursor,
        (secondByKey.execute ⟨.ok (roster.map .ofDocument), fun _ => none⟩ .standard
          .empty).result = .ok cursor
        ∧ (cursor.collect .empty).result = .ok [⟨"c", none, .object [("k", .string "y")]⟩] := by
  refine ⟨rfl, rfl, rfl, rfl, ?_⟩
  obtain ⟨-, cursor, hcursor, hruns⟩ := cursor_yields_answer secondByKey
    ⟨.ok (roster.map .ofDocument), fun _ => none⟩ .standard .empty (roster.map .ofDocument) roster
    rfl rfl rfl rfl
  have hanswer : secondByKey.answer roster = [⟨"c", none, .object [("k", .string "y")]⟩] := by cbv
  have hcollected := (hruns []).2.1
  rw [hanswer] at hcollected
  exact ⟨cursor, hcursor, hcollected⟩

/-! ### Failures -/

/-- With the limit zero nothing is ever pulled, and the end comes at once. -/
lemma after_ofScan_of_limit (hlimit : query.limit = some 0) (options : ExecOptions)
    (scan : ScanKind) (items : List ScanItem) (cancelled : Cancellations) (moves : List Move) :
    ((Reading.mk (.ofScan query options scan items) cancelled).after moves).cursor.rest = items
      ∧ (Reading.mk (.ofScan query options scan items) cancelled).replies moves
        = List.replicate (calls moves) (.ok none) := by
  induction moves generalizing cancelled with
  | nil => exact ⟨rfl, rfl⟩
  | cons m rest ih =>
    cases m with
    | cancel token =>
      rw [Reading.after_cons, Reading.replies, calls_cancel]
      exact ih _
    | next =>
      have hadvance : (Cursor.ofScan query options scan items).advance cancelled
          = Cursor.settle ⟨.ofScan query options scan items, cancelled, [], .ok none⟩ := by
        rw [Cursor.advance_of_unfinished rfl, Cursor.produce_of_limit hlimit]
      have hmove : (Reading.mk (.ofScan query options scan items) cancelled).move .next
          = ⟨{ Cursor.ofScan query options scan items with finished := true }, cancelled⟩ := by
        rw [Reading.move, hadvance]
        rfl
      have hfinished : ((Reading.mk (.ofScan query options scan items) cancelled).move
          .next).cursor.finished = true := by rw [hmove]
      constructor
      · rw [Reading.after_cons, Reading.after_of_finished hfinished, hmove]
        rfl
      · rw [Reading.replies, Reading.replies_of_finished hfinished, Reading.reply, hadvance,
          calls_next, List.replicate_succ]
        rfl

/-- **Failures are reported and never mixed into results.**  When nothing else stops an execution:

* under sort keys the first failure of the scan is the only result;
* without sort keys it follows the answer for the documents before it, unless these have already
  reached the limit;
* a scan without failures delivers the whole answer.

A run meets at most one error.  Behind an error or the end every call gives the end and pulls
nothing, and with the limit zero nothing is pulled at all. -/
theorem cursor_reports_failure (query : Query) (store : Store) (options : ExecOptions)
    (cancelled : Cancellations) (scan : ScanKind) (items : List ScanItem)
    (hscan : query.openScan store = (scan, .ok items))
    (hquiet : options.Undisturbed cancelled items) :
    ∃ cursor, (query.execute store options cancelled).result = .ok cursor
      ∧ let start : Reading := ⟨cursor, cancelled⟩
        let before := query.answer (ScanItem.documents items)
        (∀ cause, query.limit ≠ some 0 → ScanItem.failure? items = some cause →
            (query.sort ≠ [] → start.Delivers [.error (.storeFailure cause)])
            ∧ (query.sort = [] → start.Delivers (before.map .ok
                ++ if query.limit = some before.length then []
                  else [.error (.storeFailure cause)])))
          ∧ (ScanItem.failure? items = none → start.Delivers (before.map .ok))
          ∧ (∀ moves, (start.replies moves).countP (fun reply => !reply.isOk) ≤ 1)
          ∧ (∀ moves later, (∀ doc, (start.after moves).reply ≠ .ok (some doc)) →
              let ended := (start.after moves).move .next
              ended.replies later = List.replicate (calls later) (.ok none)
                ∧ (ended.after later).cursor.rest = ended.cursor.rest)
          ∧ (query.limit = some 0 → start.Delivers []
              ∧ (cursor.collect cancelled).cursor.rest = items
              ∧ ∀ moves, start.replies moves = List.replicate (calls moves) (.ok none)
                ∧ (start.after moves).cursor.rest = items) := by
  have hdelivers := Reading.delivers_due ⟨.ofScan query options scan items, cancelled⟩ hquiet
  rw [Cursor.due_ofScan] at hdelivers
  refine ⟨.ofScan query options scan items, result_execute hquiet.unrefused hscan,
    fun cause hlimit hfailure => ⟨fun hsort => ?_, fun hsort => ?_⟩, fun hfailure => ?_,
    Reading.errors_replies_le_one _, fun moves later hreply => ?_,
    fun hlimit => ⟨?_, ?_, fun moves => ?_⟩⟩
  · rw [results_of_sort_ne_nil hsort hlimit hfailure] at hdelivers
    exact hdelivers
  · rw [results_of_sort_nil hsort hfailure] at hdelivers
    exact hdelivers
  · rw [results_of_no_failure hfailure] at hdelivers
    exact hdelivers
  · have hfinished := Reading.finished_of_reply hreply
    exact ⟨Reading.replies_of_finished hfinished later,
      congrArg Cursor.rest (Reading.after_of_finished hfinished later)⟩
  · rw [results_eq_nil_of_limit hlimit] at hdelivers
    exact hdelivers
  · obtain ⟨hrest, hreply⟩ := after_ofScan_of_limit hlimit options scan items cancelled
      [.next]
    rw [Cursor.collect_of_end (List.cons.inj hreply).1]
    exact hrest
  · obtain ⟨hrest, hreplies⟩ := after_ofScan_of_limit hlimit options scan items cancelled moves
    exact ⟨hreplies, hrest⟩

/-- A scan that fails after its second item. -/
def tornScan : List ScanItem :=
  [.ofDocument ⟨"b", none, .object []⟩, .ofDocument ⟨"a", none, .object [("k", .string "x")]⟩,
    .ofFailure (.backend "torn page"), .ofDocument ⟨"c", none, .object [("k", .string "y")]⟩]

/-- Every document with the key `k`, as the scan yields them. -/
def withKey : Query := ⟨.field ⟨["k"]⟩ (.presence true), none, [], 0, none⟩

/-- The failure comes after the match before it, and then the end. -/
theorem withKey_reports_failure :
    withKey.openScan ⟨.ok tornScan, fun _ => none⟩ = (.fullScan, .ok tornScan)
      ∧ ExecOptions.standard.Undisturbed .empty tornScan
      ∧ ∃ cursor,
        (withKey.execute ⟨.ok tornScan, fun _ => none⟩ .standard .empty).result = .ok cursor
        ∧ (Reading.mk cursor .empty).replies [.next, .next, .next]
          = [.ok (some ⟨"a", none, .object [("k", .string "x")]⟩),
            .error (.storeFailure (.backend "torn page")), .ok none] := by
  have hquiet : ExecOptions.standard.Undisturbed .empty tornScan :=
    ExecOptions.undisturbed_of_token_none rfl rfl _ _
  refine ⟨rfl, hquiet, ?_⟩
  obtain ⟨cursor, hcursor, hfailure, -⟩ := cursor_reports_failure withKey
    ⟨.ok tornScan, fun _ => none⟩ .standard .empty .fullScan tornScan rfl hquiet
  have hoptions : cursor.options = .standard ∧ cursor.rest = tornScan := by
    cases hcursor
    exact ⟨rfl, rfl⟩
  have hdelivers := (hfailure (.backend "torn page") (by decide) rfl).2 rfl
  have hreplies := hdelivers.replies [.next, .next, .next]
    ⟨by rw [hoptions.1, hoptions.2]; exact hquiet, by simp⟩
  have hanswer : withKey.answer (ScanItem.documents tornScan)
      = [⟨"a", none, .object [("k", .string "x")]⟩] := by cbv
  rw [hanswer] at hreplies
  exact ⟨cursor, hcursor, hreplies⟩

end Query

end DocQuery
