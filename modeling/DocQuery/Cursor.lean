import DocQuery.Event
import DocQuery.Pull
import DocQuery.Query.Order
import DocQuery.Query.Projection

/-!
Cursors: the results of a query, one at a time.  Without sort keys a cursor pulls from the scan as
far as it must for the next result; with sort keys it drains the scan for the first one.  A cursor
is finished after its last result, after an error, and after it has reported the end.

* `Cursor.advance` (**stepping**): the next result, or the end, or an error;
* `Cursor.collect`: all results, by stepping to the end;
* `Cursor.close`: gives a cursor up;
* `Cursor.pending_advance_lt`: stepping comes to an end.
-/

namespace DocQuery

/-- The results of a query that are still to come. -/
structure Cursor where
  query : Query
  options : ExecOptions
  scan : ScanKind
  /-- The items of the scan that are not pulled yet. -/
  rest : List ScanItem
  /-- The sorted matches that are not returned yet, once the scan is drained. -/
  sorted : Option (List Document)
  /-- How many matches are still to be skipped. -/
  skipLeft : Nat
  /-- How many results may still be returned; any number without it. -/
  remaining : Option Nat
  scanned : Nat
  matched : Nat
  returned : Nat
  finished : Bool

/-- What a step of a cursor has done. -/
structure Advance where
  cursor : Cursor
  cancelled : Cancellations
  events : List Event
  /-- The next result, or none at the end. -/
  result : Except QueryError (Option Document)

namespace Cursor

/-- The cursor of a query over the items of a scan. -/
def ofScan (query : Query) (options : ExecOptions) (scan : ScanKind) (items : List ScanItem) :
    Cursor where
  query := query
  options := options
  scan := scan
  rest := items
  sorted := none
  skipLeft := query.skip
  remaining := query.limit
  scanned := 0
  matched := 0
  returned := 0
  finished := false

/-- The summary of an execution that ends here. -/
def summary (cursor : Cursor) (outcome : Outcome) : Summary where
  scan := cursor.scan
  scanned := cursor.scanned
  matched := cursor.matched
  returned := cursor.returned
  slow := Summary.isSlow cursor.options.slowQueryMs
  outcome := outcome

end Cursor

/-- The step with some events before its own. -/
def Advance.afterEvents (step : Advance) (events : List Event) : Advance :=
  { step with events := events ++ step.events }

/-- The step with which an execution ends. -/
def Advance.finish (step : Advance) (outcome : Outcome) : Advance :=
  { step with
    cursor := { step.cursor with finished := true }
    events := step.events ++ [.finished (step.cursor.summary outcome)] }

namespace Cursor

/-! ### Stepping -/

/-- A document as the query shows it. -/
def shown (cursor : Cursor) (doc : Document) : Document :=
  match cursor.query.projection with
  | some paths => doc.project paths
  | none => doc

/-- The cursor after items were pulled. -/
def afterPull {α : Type} (cursor : Cursor) (pull : Pull α) : Cursor :=
  { cursor with
    rest := pull.rest
    skipLeft := cursor.skipLeft - pull.skipped
    scanned := cursor.scanned + pull.scanned
    matched := cursor.matched + pull.matched }

/-- The cursor after a result was returned. -/
def afterReturn (cursor : Cursor) : Cursor :=
  { cursor with
    remaining := cursor.remaining.map (· - 1)
    returned := cursor.returned + 1 }

/-- The step that a search for the next match makes. -/
def afterNext (cursor : Cursor) (pull : Pull (Option Document)) : Advance :=
  match pull.result with
  | .error e =>
    ⟨cursor.afterPull pull, pull.cancelled, pull.rejected.map Event.rejected, .error e⟩
  | .ok none =>
    ⟨cursor.afterPull pull, pull.cancelled, pull.rejected.map Event.rejected, .ok none⟩
  | .ok (some doc) =>
    ⟨(cursor.afterPull pull).afterReturn, pull.cancelled, pull.rejected.map Event.rejected,
      .ok (some (cursor.shown doc))⟩

/-- The next result from the scan itself. -/
def stream (cursor : Cursor) (cancelled : Cancellations) : Advance :=
  cursor.afterNext
    (Pull.next cursor.options cursor.query.selector cursor.skipLeft cancelled cursor.rest)

/-- The next result from the sorted matches. -/
def takeSorted (cursor : Cursor) (docs : List Document) (cancelled : Cancellations) : Advance :=
  match cursor.options.refusal? cancelled with
  | some reason =>
    ⟨{ cursor with sorted := some docs }, cancelled, [], .error (.cancelled reason)⟩
  | none =>
    match docs.drop cursor.skipLeft with
    | [] =>
      ⟨{ cursor with sorted := some [], skipLeft := cursor.skipLeft - docs.length }, cancelled, [],
        .ok none⟩
    | doc :: rest =>
      ⟨{ cursor with sorted := some rest, skipLeft := 0 }.afterReturn, cancelled, [],
        .ok (some (cursor.shown doc))⟩

/-- The step that draining the scan makes: the first result in the order of some sort keys. -/
def afterDrain (cursor : Cursor) (keys : List SortKey) (pull : Pull (List Document)) : Advance :=
  match pull.result with
  | .error e =>
    ⟨cursor.afterPull pull, pull.cancelled, pull.rejected.map Event.rejected, .error e⟩
  | .ok docs =>
    ((cursor.afterPull pull).takeSorted (Document.sortBy keys docs) pull.cancelled).afterEvents
      (pull.rejected.map Event.rejected)

/-- The first result in the order of some sort keys, for which the scan is drained. -/
def drainSorted (cursor : Cursor) (keys : List SortKey) (cancelled : Cancellations) : Advance :=
  cursor.afterDrain keys
    (Pull.drain cursor.options cursor.query.selector cancelled cursor.rest)

/-- The next result of a cursor that is not finished. -/
def produce (cursor : Cursor) (cancelled : Cancellations) : Advance :=
  if cursor.remaining = some 0 then ⟨cursor, cancelled, [], .ok none⟩
  else
    match cursor.query.sort, cursor.sorted with
    | [], _ => cursor.stream cancelled
    | _ :: _, some docs => cursor.takeSorted docs cancelled
    | keys, none => cursor.drainSorted keys cancelled

/-- Ends the execution at its last result, at an error and at the end. -/
def settle (step : Advance) : Advance :=
  match step.result with
  | .error e => step.finish (.ofError e)
  | .ok none => step.finish .ok
  | .ok (some _) => if step.cursor.remaining = some 0 then step.finish .ok else step

/-- The next result. -/
def advance (cursor : Cursor) (cancelled : Cancellations) : Advance :=
  if cursor.finished then ⟨cursor, cancelled, [], .ok none⟩
  else settle (cursor.produce cancelled)

/-! ### Stepping comes to an end -/

/-- How many items and sorted matches a cursor has left. -/
def pending (cursor : Cursor) : Nat := cursor.rest.length + (cursor.sorted.getD []).length

theorem pending_afterNext_lt {cursor : Cursor} {pull : Pull (Option Document)} {doc : Document}
    (hrest : ∀ d, pull.result = .ok (some d) → pull.rest.length < cursor.rest.length)
    (h : (cursor.afterNext pull).result = .ok (some doc)) :
    (cursor.afterNext pull).cursor.pending < cursor.pending := by
  unfold afterNext at h ⊢
  split at h
  · cases h
  · cases h
  · rename_i d hpull
    have := hrest d hpull
    simpa [hpull, pending, afterReturn, afterPull] using this

theorem pending_takeSorted_lt {cursor : Cursor} {docs : List Document}
    {cancelled : Cancellations} {doc : Document}
    (h : (cursor.takeSorted docs cancelled).result = .ok (some doc)) :
    (cursor.takeSorted docs cancelled).cursor.pending < cursor.rest.length + docs.length := by
  unfold takeSorted at h ⊢
  split at h
  · cases h
  · split at h
    · cases h
    · rename_i hdrop
      have := congrArg List.length hdrop
      simp only [List.length_drop, List.length_cons] at this
      simp only [pending, afterReturn, Option.getD_some]
      omega

theorem pending_afterDrain_lt {cursor : Cursor} {keys : List SortKey}
    {pull : Pull (List Document)} {doc : Document}
    (hrest : ∀ docs, pull.result = .ok docs →
      docs.length + pull.rest.length ≤ cursor.rest.length)
    (h : (cursor.afterDrain keys pull).result = .ok (some doc)) :
    (cursor.afterDrain keys pull).cursor.pending < cursor.pending := by
  unfold afterDrain at h ⊢
  split at h
  · cases h
  · rename_i docs hpull
    have hlength := hrest docs hpull
    have := pending_takeSorted_lt (show (takeSorted ..).result = _ from h)
    simp only [Document.sortBy, List.length_mergeSort, afterPull] at this
    simp only [Advance.afterEvents, Document.sortBy, pending, afterPull] at this ⊢
    omega

theorem pending_produce_lt {cursor : Cursor} {cancelled : Cancellations} {doc : Document}
    (h : (cursor.produce cancelled).result = .ok (some doc)) :
    (cursor.produce cancelled).cursor.pending < cursor.pending := by
  by_cases hlimit : cursor.remaining = some 0
  · simp [produce, hlimit] at h
  · simp only [produce, hlimit, if_false] at h ⊢
    split at h
    · exact pending_afterNext_lt (fun _ => Pull.length_rest_lt_of_next) h
    · rename_i hsorted
      simpa [pending, hsorted] using pending_takeSorted_lt h
    · exact pending_afterDrain_lt (fun _ => Pull.length_add_length_rest_le_of_drain) h

@[simp]
theorem pending_finish (step : Advance) (outcome : Outcome) :
    (step.finish outcome).cursor.pending = step.cursor.pending := rfl

theorem pending_settle (step : Advance) : (settle step).cursor.pending = step.cursor.pending := by
  unfold settle
  split
  · rfl
  · rfl
  · split <;> rfl

theorem result_settle (step : Advance) : (settle step).result = step.result := by
  unfold settle
  split
  · rfl
  · rfl
  · split <;> rfl

theorem pending_advance_lt {cursor : Cursor} {cancelled : Cancellations} {doc : Document}
    (h : (cursor.advance cancelled).result = .ok (some doc)) :
    (cursor.advance cancelled).cursor.pending < cursor.pending := by
  by_cases hfinished : cursor.finished
  · simp [advance, hfinished] at h
  · simp only [advance, hfinished] at h ⊢
    rw [if_neg Bool.false_ne_true, result_settle] at h
    rw [if_neg Bool.false_ne_true, pending_settle]
    exact pending_produce_lt h

/-! ### Collecting and closing -/

end Cursor

/-- What collecting the results of a cursor has done. -/
structure Collected where
  cursor : Cursor
  cancelled : Cancellations
  events : List Event
  /-- All results, or the error in their place. -/
  result : Except QueryError (List Document)

namespace Cursor

/-- All results that are still to come. -/
def collect (cursor : Cursor) (cancelled : Cancellations) : Collected :=
  let step := cursor.advance cancelled
  match _h : step.result with
  | .error e => ⟨step.cursor, step.cancelled, step.events, .error e⟩
  | .ok none => ⟨step.cursor, step.cancelled, step.events, .ok []⟩
  | .ok (some doc) =>
    let later := collect step.cursor step.cancelled
    ⟨later.cursor, later.cancelled, step.events ++ later.events,
      later.result.map (doc :: ·)⟩
termination_by cursor.pending
decreasing_by exact pending_advance_lt _h

/-- Gives a cursor up; an execution that has not ended yet ends here. -/
def close (cursor : Cursor) : List Event :=
  if cursor.finished then [] else [.finished (cursor.summary .abandoned)]

/-- A cursor as diagnostics show it. -/
def diagnostic (cursor : Cursor) : String :=
  let scan :=
    match cursor.scan with
    | .fullScan => "FullScan"
    | .idLookup id => "IdLookup(DocumentId(" ++ Diagnostic.quote id ++ "))"
  s!"Cursor \x7b scan: {scan}, scanned: {cursor.scanned}, returned: {cursor.returned}, " ++
    s!"finished: {cursor.finished}, .. \x7d"

end Cursor

end DocQuery
