import DocQuery.Proofs.Due
import DocQuery.Execution

/-!
What is recorded about an execution: a single summary, with which it ends.

* `Event.summary?` and `summaries`: the summaries among events;
* `Cursor.Counted` (**counting**): the counters of a cursor agree with what left the scan, and what
  was returned was matched and what was matched was scanned;
* `Cursor.counted_advance` and `Cursor.counted_collect`: steps keep the counters right, whether or
  not they fail;
* `Cursor.summaries_advance` and `Cursor.summaries_collect`: the step that finishes a cursor records
  its summary and no other step records any.
-/

namespace DocQuery

/-! ### Summaries among events -/

/-- The summary that an event is about. -/
def Event.summary? : Event → Option Summary
  | .finished summary => some summary
  | _ => none

/-- The summaries among events, in order. -/
def summaries (events : List Event) : List Summary := events.filterMap Event.summary?

@[simp]
lemma summaries_nil : summaries [] = [] := rfl

@[simp]
lemma summaries_append (events later : List Event) :
    summaries (events ++ later) = summaries events ++ summaries later :=
  List.filterMap_append

@[simp]
lemma summaries_finished (summary : Summary) : summaries [.finished summary] = [summary] := rfl

@[simp]
lemma summaries_rejected (ids : List DocumentId) : summaries (ids.map Event.rejected) = [] := by
  induction ids with
  | nil => rfl
  | cons id rest ih => exact ih

/-- What a step gives: a document, the end or an error. -/
abbrev StepResult := Except QueryError (Option Document)

/-- The documents among results. -/
def documents (results : List StepResult) : List Document :=
  results.filterMap fun
    | .ok found => found
    | .error _ => none

/-- Some documents as results. -/
def yields (docs : List Document) : List StepResult := docs.map fun doc => .ok (some doc)

@[simp]
lemma documents_append (results later : List StepResult) :
    documents (results ++ later) = documents results ++ documents later :=
  List.filterMap_append

@[simp]
lemma documents_yields (docs : List Document) : documents (yields docs) = docs := by
  induction docs with
  | nil => rfl
  | cons doc rest ih => exact congrArg (doc :: ·) ih

@[simp]
lemma documents_ends (ends : Nat) : documents (List.replicate ends (.ok none)) = [] := by
  induction ends with
  | zero => rfl
  | succ ends ih => exact ih

lemma yields_append (docs later : List Document) :
    yields (docs ++ later) = yields docs ++ yields later :=
  List.map_append

@[simp]
lemma error_notMem_yields (e : QueryError) (docs : List Document) : .error e ∉ yields docs := by
  simp [yields]

@[simp]
lemma none_notMem_yields (docs : List Document) : .ok none ∉ yields docs := by
  simp [yields]

/-- The outcome of an execution that ends with a result. -/
def Outcome.ofResult {α : Type} : Except QueryError α → Outcome
  | .error e => .ofError e
  | .ok _ => .ok

/-! ### Counting -/

/-- How many of some items are documents. -/
def ScanItem.count (items : List ScanItem) : Nat := items.countP (·.content.isOk)

lemma ScanItem.count_append (items later : List ScanItem) :
    ScanItem.count (items ++ later) = ScanItem.count items + ScanItem.count later :=
  List.countP_append

namespace Pull

variable {α : Type} {options : ExecOptions} {selector : Selector} {cancelled : Cancellations}
  {items : List ScanItem}

/-- A pull has taken some items from the front of a scan, has counted the documents among them and
has matched no more than it counted. -/
structure Counts (pull : Pull α) (items : List ScanItem) : Prop where
  scanned : ∃ taken, items = taken ++ pull.rest ∧ pull.scanned = ScanItem.count taken
  matched : pull.matched ≤ pull.scanned

lemma counts_stop (items : List ScanItem) (cancelled : Cancellations)
    (result : Except QueryError α) : (stop items cancelled result).Counts items :=
  ⟨⟨[], rfl, rfl⟩, Nat.le_refl 0⟩

lemma counts_failed {item : ScanItem} {cause : StoreError} (h : item.content = .error cause)
    (rest : List ScanItem) (cancelled : Cancellations) (result : Except QueryError α) :
    (stop rest cancelled result).Counts (item :: rest) :=
  ⟨⟨[item], rfl, by simp [stop, ScanItem.count, h, Except.isOk, Except.toBool]⟩, Nat.le_refl 0⟩

/-- One more document in front is one more counted; whether it is a match does not matter. -/
lemma Counts.cons {pull after : Pull α} {item : ScanItem} {doc : Document} (h : pull.Counts items)
    (hitem : item.content = .ok doc) (hrest : after.rest = pull.rest)
    (hscanned : after.scanned = pull.scanned + 1) (hmatched : after.matched ≤ pull.matched + 1) :
    after.Counts (item :: items) := by
  obtain ⟨⟨taken, rfl, hcount⟩, hle⟩ := h
  refine ⟨⟨item :: taken, by rw [hrest]; rfl, ?_⟩, by omega⟩
  rw [hscanned, hcount, ScanItem.count, ScanItem.count, List.countP_cons, hitem]
  rfl

lemma counts_found {item : ScanItem} {doc : Document} (hitem : item.content = .ok doc)
    (rest : List ScanItem) (cancelled : Cancellations) :
    (found rest cancelled doc).Counts (item :: rest) :=
  (counts_stop rest cancelled (.ok none)).cons hitem rfl rfl (Nat.le_refl 1)

lemma counts_next (options : ExecOptions) (selector : Selector) (skip : Nat)
    (cancelled : Cancellations) (items : List ScanItem) :
    (next options selector skip cancelled items).Counts items := by
  fun_induction next options selector skip cancelled items with
  | case1 => exact counts_stop _ _ _
  | case2 => exact counts_stop _ _ _
  | case3 => exact counts_stop _ _ _
  | case4 =>
    rename_i hitem
    exact counts_failed hitem _ _ _
  | case5 =>
    rename_i hitem _
    exact counts_found hitem _ _
  | case6 =>
    rename_i hitem _ _ ih
    exact ih.cons hitem rfl rfl (Nat.le_refl _)
  | case7 =>
    rename_i hitem _ ih
    exact ih.cons hitem rfl rfl (Nat.le_succ _)

lemma counts_drain (options : ExecOptions) (selector : Selector) (cancelled : Cancellations)
    (items : List ScanItem) : (drain options selector cancelled items).Counts items := by
  fun_induction drain options selector cancelled items with
  | case1 => exact counts_stop _ _ _
  | case2 => exact counts_stop _ _ _
  | case3 => exact counts_stop _ _ _
  | case4 =>
    rename_i hitem
    exact counts_failed hitem _ _ _
  | case5 =>
    rename_i hitem _ ih
    exact ih.cons hitem rfl rfl (Nat.le_refl _)
  | case6 =>
    rename_i hitem _ ih
    exact ih.cons hitem rfl rfl (Nat.le_succ _)

end Pull

namespace Cursor

variable {scan : List ScanItem} {cursor : Cursor} {cancelled : Cancellations}

/-- The counters of a cursor over a scan: what was scanned are the documents that have left the
scan, all that was returned or is waiting was matched, all that was matched was scanned, and what
was returned is taken off the limit. -/
structure Counted (scan : List ScanItem) (cursor : Cursor) : Prop where
  scanned : ∃ pulled, scan = pulled ++ cursor.rest ∧ cursor.scanned = ScanItem.count pulled
  returned_le : cursor.returned + (cursor.sorted.getD []).length ≤ cursor.matched
  matched_le : cursor.matched ≤ cursor.scanned
  limit : cursor.remaining.map (· + cursor.returned) = cursor.query.limit

lemma counted_ofScan (query : Query) (options : ExecOptions) (kind : ScanKind)
    (items : List ScanItem) : (ofScan query options kind items).Counted items where
  scanned := ⟨[], rfl, rfl⟩
  returned_le := Nat.le_refl 0
  matched_le := Nat.le_refl 0
  limit := (balanced_ofScan query options kind items).limit

/-- After a pull the counters are right again, whatever of the matches was set aside to be returned
or to wait. -/
lemma Counted.afterPull {α : Type} {pull : Pull α} (h : cursor.Counted scan)
    (hpull : pull.Counts cursor.rest) : (cursor.afterPull pull).Counted scan := by
  obtain ⟨pulled, hscan, hscanned⟩ := h.scanned
  obtain ⟨⟨taken, hrest, hcount⟩, hle⟩ := hpull
  refine ⟨⟨pulled ++ taken, ?_, ?_⟩, ?_, ?_, h.limit⟩
  · rw [hscan, hrest, List.append_assoc]
    rfl
  · rw [ScanItem.count_append, ← hscanned, ← hcount]
    rfl
  · exact Nat.le_trans h.returned_le (Nat.le_add_right _ _)
  · exact Nat.add_le_add h.matched_le hle

lemma counted_takeSorted {docs : List Document} (hlimit : cursor.remaining ≠ some 0)
    (h : Counted scan { cursor with sorted := some docs }) :
    (cursor.takeSorted docs cancelled).cursor.Counted scan := by
  have hreturned : cursor.returned + docs.length ≤ cursor.matched := h.returned_le
  cases hrefusal : cursor.options.refusal? cancelled with
  | some reason =>
    rw [takeSorted_of_refused hrefusal]
    exact h
  | none =>
    cases hdrop : docs.drop cursor.skipLeft with
    | nil =>
      rw [takeSorted_of_drop_nil hrefusal hdrop]
      exact ⟨h.scanned, Nat.le_trans (Nat.le_add_right _ _) hreturned, h.matched_le, h.limit⟩
    | cons doc later =>
      rw [takeSorted_of_drop_cons hrefusal hdrop]
      have hlength := congrArg List.length hdrop
      rw [List.length_drop, List.length_cons] at hlength
      refine ⟨h.scanned, ?_, h.matched_le, ?_⟩
      · simp only [afterReturn, Option.getD_some]
        omega
      · exact (limit_afterReturn { cursor with sorted := some later, skipLeft := 0 }
          hlimit).trans h.limit

lemma counted_stream (hlimit : cursor.remaining ≠ some 0) (h : cursor.Counted scan)
    (cancelled : Cancellations) : (cursor.stream cancelled).cursor.Counted scan := by
  have hcounts := Pull.counts_next cursor.options cursor.query.selector cursor.skipLeft cancelled
    cursor.rest
  have hmatched := Pull.matched_next cursor.options cursor.query.selector cursor.skipLeft cancelled
    cursor.rest
  have hpulled := h.afterPull hcounts
  rw [stream]
  cases hpull : (Pull.next cursor.options cursor.query.selector cursor.skipLeft cancelled
      cursor.rest).result with
  | error e =>
    rw [afterNext_of_error hpull]
    exact hpulled
  | ok found =>
    cases found with
    | none =>
      rw [afterNext_of_none hpull]
      exact hpulled
    | some doc =>
      rw [afterNext_of_some hpull]
      simp only [hpull] at hmatched
      refine ⟨hpulled.scanned, ?_, hpulled.matched_le, ?_⟩
      · have hreturned := h.returned_le
        simp only [afterReturn, afterPull]
        omega
      · exact (limit_afterReturn (cursor.afterPull _) hlimit).trans hpulled.limit

lemma counted_drainSorted (hlimit : cursor.remaining ≠ some 0) (hsorted : cursor.sorted = none)
    (h : cursor.Counted scan) (keys : List SortKey) (cancelled : Cancellations) :
    (cursor.drainSorted keys cancelled).cursor.Counted scan := by
  have hpulled := h.afterPull
    (Pull.counts_drain cursor.options cursor.query.selector cancelled cursor.rest)
  rw [drainSorted]
  cases hpull : (Pull.drain cursor.options cursor.query.selector cancelled cursor.rest).result with
  | error e =>
    rw [afterDrain_of_error hpull]
    exact hpulled
  | ok docs =>
    rw [afterDrain_of_ok hpull]
    have hlimit' : (cursor.afterPull (Pull.drain cursor.options cursor.query.selector cancelled
        cursor.rest)).remaining ≠ some 0 := hlimit
    refine counted_takeSorted hlimit' ⟨hpulled.scanned, ?_, hpulled.matched_le, hpulled.limit⟩
    have hreturned := h.returned_le
    have hmatched := (Pull.matched_drain hpull).1
    rw [hsorted, Option.getD_none, List.length_nil] at hreturned
    rw [Option.getD_some, Document.sortBy, List.length_mergeSort]
    simp only [afterPull]
    omega

/-- A step keeps the counters right, whether it ends in a result, at the end or in an error. -/
theorem counted_advance (h : cursor.Counted scan) (cancelled : Cancellations) :
    (cursor.advance cancelled).cursor.Counted scan := by
  refine advance_induction cursor cancelled h (fun _ => ?_) fun _ _ hafter =>
    ⟨hafter.scanned, hafter.returned_le, hafter.matched_le, hafter.limit⟩
  refine produce_cases cursor cancelled (fun _ => h)
    (fun hlimit _ => counted_stream hlimit h cancelled) (fun docs hlimit _ hsorted => ?_)
    (fun hlimit _ hsorted => counted_drainSorted hlimit hsorted h _ cancelled)
  refine counted_takeSorted hlimit ⟨h.scanned, ?_, h.matched_le, h.limit⟩
  have hreturned := h.returned_le
  rwa [hsorted] at hreturned

/-! ### What a step returns and records -/

/-- What a way of a step has done before the step is settled: it has counted a document that it
returns, has recorded nothing and has left open whether the cursor is finished. -/
structure Unsettled (cursor : Cursor) (step : Advance) : Prop where
  returned : step.cursor.returned = cursor.returned + (documents [step.result]).length
  summaries : summaries step.events = []
  finished : step.cursor.finished = cursor.finished

lemma unsettled_afterNext (pull : Pull (Option Document)) :
    cursor.Unsettled (cursor.afterNext pull) := by
  unfold afterNext
  split <;> exact ⟨rfl, summaries_rejected _, rfl⟩

lemma unsettled_takeSorted (cursor : Cursor) (docs : List Document) (cancelled : Cancellations) :
    cursor.Unsettled (cursor.takeSorted docs cancelled) := by
  unfold takeSorted
  split
  · exact ⟨rfl, rfl, rfl⟩
  · split <;> exact ⟨rfl, rfl, rfl⟩

lemma unsettled_afterDrain (keys : List SortKey) (pull : Pull (List Document)) :
    cursor.Unsettled (cursor.afterDrain keys pull) := by
  unfold afterDrain
  split
  · exact ⟨rfl, summaries_rejected _, rfl⟩
  · obtain ⟨hreturned, hsummaries, hfinished⟩ :=
      unsettled_takeSorted (cursor.afterPull pull) (Document.sortBy keys _) pull.cancelled
    refine ⟨hreturned, ?_, hfinished⟩
    rw [Advance.afterEvents, summaries_append, summaries_rejected, hsummaries, List.append_nil]

lemma unsettled_produce (cursor : Cursor) (cancelled : Cancellations) :
    cursor.Unsettled (cursor.produce cancelled) :=
  produce_cases cursor cancelled (fun _ => ⟨rfl, rfl, rfl⟩) (fun _ _ => unsettled_afterNext _)
    (fun docs _ _ _ => unsettled_takeSorted cursor docs cancelled)
    (fun _ _ _ => unsettled_afterDrain _ _)

/-- A step returns a document or none, and counts it. -/
lemma returned_advance (h : cursor.finished = false) (cancelled : Cancellations) :
    (cursor.advance cancelled).cursor.returned
      = cursor.returned + (documents [(cursor.advance cancelled).result]).length := by
  rw [advance_of_unfinished h, result_settle, ← (unsettled_produce cursor cancelled).returned]
  obtain ⟨finished, hsettle⟩ := exists_finished_settle (cursor.produce cancelled)
  rw [hsettle]

/-- A step that finishes a cursor records its summary, with the outcome that the result of the step
stands for; no other step records anything. -/
theorem summaries_advance (h : cursor.finished = false) (cancelled : Cancellations) :
    summaries (cursor.advance cancelled).events
      = if (cursor.advance cancelled).cursor.finished then
          [(cursor.advance cancelled).cursor.summary
            (.ofResult (cursor.advance cancelled).result)]
        else [] := by
  obtain ⟨_, hsummaries, hfinished⟩ := unsettled_produce cursor cancelled
  rw [h] at hfinished
  rw [advance_of_unfinished h, result_settle]
  unfold settle
  split
  case h_1 e hresult =>
    rw [Advance.finish, summaries_append, hsummaries, hresult]
    rfl
  case h_2 hresult =>
    rw [Advance.finish, summaries_append, hsummaries, hresult]
    rfl
  case h_3 doc hresult =>
    split
    · rw [Advance.finish, summaries_append, hsummaries, hresult]
      rfl
    · rw [hsummaries, hfinished]
      rfl

/-- A step finishes a cursor when it gives no document or reaches the limit. -/
lemma finished_advance_iff (h : cursor.finished = false) (cancelled : Cancellations) :
    (cursor.advance cancelled).cursor.finished = true
      ↔ (∀ doc, (cursor.advance cancelled).result ≠ .ok (some doc))
        ∨ (cursor.advance cancelled).cursor.remaining = some 0 := by
  have hfinished := (unsettled_produce cursor cancelled).finished
  rw [advance_of_unfinished h, result_settle]
  unfold settle
  split
  case h_1 e hresult => simp [Advance.finish, hresult]
  case h_2 hresult => simp [Advance.finish, hresult]
  case h_3 doc hresult =>
    split
    case isTrue hlimit => simp [Advance.finish, hlimit]
    case isFalse hlimit => simp [hresult, hlimit, hfinished, h]

lemma finished_of_error {e : QueryError} (h : (cursor.advance cancelled).result = .error e) :
    (cursor.advance cancelled).cursor.finished = true :=
  finished_advance fun doc hdoc => by cases h.symm.trans hdoc

lemma finished_of_end (h : (cursor.advance cancelled).result = .ok none) :
    (cursor.advance cancelled).cursor.finished = true :=
  finished_advance fun doc hdoc => by cases h.symm.trans hdoc

/-! ### Collecting -/

lemma collect_of_finished (h : cursor.finished = true) (cancelled : Cancellations) :
    cursor.collect cancelled = ⟨cursor, cancelled, [], .ok []⟩ := by
  have hadvance := advance_of_finished h cancelled
  rw [collect_of_end (by rw [hadvance]), hadvance]

lemma counted_collect (h : cursor.Counted scan) (cancelled : Cancellations) :
    (cursor.collect cancelled).cursor.Counted scan := by
  fun_induction collect cursor cancelled with
  | case1 cursor cancelled => exact counted_advance h cancelled
  | case2 cursor cancelled => exact counted_advance h cancelled
  | case3 cursor cancelled step doc hstep later ih => exact ih (counted_advance h cancelled)

/-- Collecting finishes a cursor. -/
lemma finished_collect (cursor : Cursor) (cancelled : Cancellations) :
    (cursor.collect cancelled).cursor.finished = true := by
  fun_induction collect cursor cancelled with
  | case1 cursor cancelled step e hstep => exact finished_of_error hstep
  | case2 cursor cancelled step hstep => exact finished_of_end hstep
  | case3 cursor cancelled step doc hstep later ih => exact ih

/-- Collecting records a single summary, with the outcome that its result stands for. -/
theorem summaries_collect (h : cursor.finished = false) (cancelled : Cancellations) :
    summaries (cursor.collect cancelled).events
      = [(cursor.collect cancelled).cursor.summary
          (.ofResult (cursor.collect cancelled).result)] := by
  fun_induction collect cursor cancelled with
  | case1 cursor cancelled step e hstep =>
    rw [summaries_advance h, if_pos (finished_of_error hstep), hstep]
    rfl
  | case2 cursor cancelled step hstep =>
    rw [summaries_advance h, if_pos (finished_of_end hstep), hstep]
    rfl
  | case3 cursor cancelled step doc hstep later ih =>
    have hresult : Outcome.ofResult (later.result.map (doc :: ·)) = .ofResult later.result := by
      cases later.result <;> rfl
    dsimp only
    rw [summaries_append, hresult, summaries_advance h]
    cases hfinished : step.cursor.finished with
    | true =>
      -- The step has reached the limit, and what follows on it finds the cursor finished.
      have hlater : later = ⟨step.cursor, step.cancelled, [], .ok []⟩ :=
        collect_of_finished hfinished _
      rw [hlater, if_pos rfl, hstep]
      rfl
    | false =>
      rw [ih hfinished, if_neg Bool.false_ne_true]
      rfl

end Cursor

end DocQuery
