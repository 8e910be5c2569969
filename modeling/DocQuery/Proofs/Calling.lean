import DocQuery.Proofs.Recording

/-!
One execution of a query, from the call that opens it to the call that gives it up.

* `Execution`: an execution with all that it has produced, and the calls on it;
* `Execution.Accounted` (**account**): a summary counts what has left the scan, and its outcome is
  the one that the results of the execution stand for;
* `Execution.Standing`: an execution that still runs has no summary, one that has ended has a single
  one that accounts for it;
* `Execution.standing_start` and `Execution.standing_ask`: every call keeps this.
-/

namespace DocQuery

/-- What a cursor has given when it was collected: its documents and the end, or an error. -/
def Collected.replies (collected : Collected) : List StepResult :=
  match collected.result with
  | .ok docs => yields docs ++ [.ok none]
  | .error e => [.error e]

/-- An execution of a query with what it has produced. -/
structure Execution where
  query : Query
  /-- The items of its scan; none if no scan was opened. -/
  scan : List ScanItem
  /-- The items that were not pulled. -/
  rest : List ScanItem
  /-- Its cursor, until that is given up. -/
  cursor : Option Cursor
  /-- The documents that it has yielded, the ends that it has reported and its errors, in order. -/
  results : List StepResult

/-- What a call on an execution has done. -/
structure Call where
  execution : Execution
  cancelled : Cancellations
  events : List Event

namespace Execution

/-! ### Calls -/

/-- Opens a cursor for a query, or fails. -/
def start (query : Query) (store : Store) (options : ExecOptions) (cancelled : Cancellations) :
    Call :=
  let opened := query.execute store options cancelled
  match opened.result with
  | .error e => ⟨⟨query, [], [], none, [.error e]⟩, cancelled, opened.events⟩
  | .ok cursor => ⟨⟨query, cursor.rest, cursor.rest, some cursor, []⟩, cancelled, opened.events⟩

section

variable (execution : Execution) (cursor : Cursor) (cancelled : Cancellations)

/-- Asks the cursor of an execution for its next result. -/
def next : Call :=
  let step := cursor.advance cancelled
  ⟨{ execution with
      rest := step.cursor.rest
      cursor := some step.cursor
      results := execution.results ++ [step.result] }, step.cancelled, step.events⟩

/-- Collects all results, as documents or as text, and gives the cursor up. -/
def collect : Call :=
  let collected := cursor.collect cancelled
  ⟨{ execution with
      rest := collected.cursor.rest
      cursor := none
      results := execution.results ++ collected.replies }, collected.cancelled,
    collected.events ++ collected.cursor.close⟩

/-- Gives the cursor up. -/
def drop : Call := ⟨{ execution with cursor := none }, cancelled, cursor.close⟩

/-- Lets the deadline of the cursor pass, which shows only when the cursor is asked again. -/
def expire : Call := ⟨execution, cancelled.cancelAny cursor.options.deadline, []⟩

end

/-- What can be asked of an execution. -/
inductive Ask where
  | next
  | collect
  | drop
  | expire
deriving DecidableEq

/-- Asks something of an execution; nothing happens once its cursor is given up. -/
def ask (execution : Execution) (ask : Ask) (cancelled : Cancellations) : Call :=
  match execution.cursor with
  | none => ⟨execution, cancelled, []⟩
  | some cursor =>
    match ask with
    | .next => execution.next cursor cancelled
    | .collect => execution.collect cursor cancelled
    | .drop => execution.drop cursor cancelled
    | .expire => execution.expire cursor cancelled

@[simp]
lemma query_start (query : Query) (store : Store) (options : ExecOptions)
    (cancelled : Cancellations) :
    (start query store options cancelled).execution.query = query := by
  simp only [start]
  split <;> rfl

@[simp]
lemma query_ask (execution : Execution) (ask : Ask) (cancelled : Cancellations) :
    (execution.ask ask cancelled).execution.query = execution.query := by
  unfold Execution.ask
  cases execution.cursor with
  | none => rfl
  | some cursor => cases ask <;> rfl

/-! ### Accounts -/

/-- The items that have left the scan. -/
def pulled (execution : Execution) : List ScanItem :=
  execution.scan.take (execution.scan.length - execution.rest.length)

/-- The last document that the limit allows was yielded. -/
def YieldedLast (execution : Execution) : Prop :=
  documents execution.results ≠ []
    ∧ execution.query.limit = some (documents execution.results).length

/-- A summary counts the documents that have left a scan, of which the rest is left, and no more
matches than documents and no more returns than matches. -/
structure Tallied (scan rest : List ScanItem) (summary : Summary) : Prop where
  returned_le : summary.returned ≤ summary.matched
  matched_le : summary.matched ≤ summary.scanned
  scanned : ∃ pulled, scan = pulled ++ rest ∧ summary.scanned = ScanItem.count pulled

/-- A summary counts what has left the scan, and tells how the execution has ended.  A cursor that
says after an error that nothing follows does not thereby report the end of its results. -/
structure Accounted (execution : Execution) (summary : Summary) : Prop
    extends Tallied execution.scan execution.rest summary where
  failed : summary.outcome = .failed
    ↔ ∃ e, .error e ∈ execution.results ∧ Outcome.ofError e = .failed
  cancelled : summary.outcome = .cancelled
    ↔ ∃ e, .error e ∈ execution.results ∧ Outcome.ofError e = .cancelled
  ok : summary.outcome = .ok
    ↔ (∀ e, .error e ∉ execution.results) ∧ (.ok none ∈ execution.results ∨ execution.YieldedLast)
  abandoned : summary.outcome = .abandoned
    ↔ (∀ e, .error e ∉ execution.results) ∧ .ok none ∉ execution.results ∧ ¬ execution.YieldedLast

/-- The results of an execution up to its end, with the outcome that they stand for: some documents
and then an error or the end or, when the limit is reached, nothing of either. -/
inductive Ending (limit : Option Nat) : List StepResult → Outcome → Prop
  | error (docs : List Document) (e : QueryError) (ends : Nat) :
    Ending limit (yields docs ++ .error e :: List.replicate ends (.ok none)) (.ofError e)
  | exhausted (docs : List Document) (ends : Nat) :
    Ending limit (yields docs ++ List.replicate (ends + 1) (.ok none)) .ok
  | limit (docs : List Document) (ends : Nat) (hdocs : docs ≠ [])
      (hlimit : limit = some docs.length) :
    Ending limit (yields docs ++ List.replicate ends (.ok none)) .ok
  | abandoned (docs : List Document) (h : docs ≠ [] → limit ≠ some docs.length) :
    Ending limit (yields docs) .abandoned

variable {execution : Execution} {summary : Summary} {limit : Option Nat} {outcome : Outcome}
  {results : List StepResult} {cancelled : Cancellations}

/-- A cursor that has ended says only that nothing follows, which does not change its outcome. -/
lemma Ending.append_none (h : Ending limit results outcome) (houtcome : outcome ≠ .abandoned) :
    Ending limit (results ++ [.ok none]) outcome := by
  cases h with
  | error docs e ends =>
    rw [List.append_assoc, List.cons_append, ← List.replicate_succ']
    exact .error docs e (ends + 1)
  | exhausted docs ends =>
    rw [List.append_assoc, ← List.replicate_succ']
    exact .exhausted docs (ends + 1)
  | limit docs ends hdocs hlimit =>
    rw [List.append_assoc, ← List.replicate_succ']
    exact .limit docs (ends + 1) hdocs hlimit
  | abandoned => exact absurd rfl houtcome

/-- After some documents a result ends an execution with the outcome that it stands for, if it is no
document or the last one that the limit allows. -/
lemma Ending.of_result {docs : List Document} (result : StepResult)
    (hlimit : ∀ doc, result = .ok (some doc) → limit = some (docs.length + 1)) :
    Ending limit (yields docs ++ [result]) (.ofResult result) := by
  match result with
  | .error e => exact .error docs e 0
  | .ok none => exact .exhausted docs 0
  | .ok (some doc) =>
    have hlast : yields docs ++ [.ok (some doc)]
        = yields (docs ++ [doc]) ++ List.replicate 0 (.ok none) := by
      rw [yields_append, List.replicate_zero, List.append_nil]
      rfl
    rw [hlast]
    refine .limit _ 0 (by simp) ?_
    rw [hlimit doc rfl, List.length_append]
    rfl

lemma ofError_ne_ok (e : QueryError) : Outcome.ofError e ≠ .ok := by
  cases e <;> nofun

lemma ofError_ne_abandoned (e : QueryError) : Outcome.ofError e ≠ .abandoned := by
  cases e <;> nofun

lemma ofResult_ne_abandoned {α : Type} (result : Except QueryError α) :
    Outcome.ofResult result ≠ .abandoned := by
  cases result with
  | error e => exact ofError_ne_abandoned e
  | ok _ => nofun

/-- What an accounted execution has scanned are the documents that have left its scan. -/
lemma Accounted.scanned_eq (h : execution.Accounted summary) :
    summary.scanned = ScanItem.count execution.pulled := by
  obtain ⟨pulled, hscan, hscanned⟩ := h.scanned
  rw [hscanned, Execution.pulled, hscan, List.length_append, Nat.add_sub_cancel,
    List.take_left]

lemma accounted_of_ending (htallied : Tallied execution.scan execution.rest summary)
    (h : Ending execution.query.limit execution.results summary.outcome) :
    execution.Accounted summary := by
  obtain ⟨query, scan, rest, cursor, results⟩ := execution
  obtain ⟨kind, scanned, matched, returned, slow, outcome⟩ := summary
  dsimp only at h
  cases h with
  | error docs e ends =>
    have herror (e' : QueryError) :
        (.error e' : StepResult) ∈ yields docs ++ .error e :: List.replicate ends (.ok none)
          ↔ e' = e := by
      simp [List.mem_replicate]
    exact {
      toTallied := htallied
      failed := by simp [herror]
      cancelled := by simp [herror]
      ok := by simp [herror, ofError_ne_ok]
      abandoned := by simp [herror, ofError_ne_abandoned] }
  | exhausted docs ends =>
    exact {
      toTallied := htallied
      failed := by simp [List.mem_replicate]
      cancelled := by simp [List.mem_replicate]
      ok := by simp [List.mem_replicate]
      abandoned := by simp [List.mem_replicate] }
  | limit docs ends hdocs hlimit =>
    exact {
      toTallied := htallied
      failed := by simp [List.mem_replicate]
      cancelled := by simp [List.mem_replicate]
      ok := by simp [List.mem_replicate, YieldedLast, hdocs, hlimit]
      abandoned := by simp [List.mem_replicate, YieldedLast, hdocs, hlimit] }
  | abandoned docs hlimit =>
    exact {
      toTallied := htallied
      failed := by simp
      cancelled := by simp
      ok := by simpa [YieldedLast] using hlimit
      abandoned := by simpa [YieldedLast] using hlimit }

/-! ### What every call keeps -/

/-- An execution whose cursor still runs has yielded documents only, and not yet the last one that
the limit allows. -/
structure Running (execution : Execution) (cursor : Cursor) : Prop where
  held : execution.cursor = some cursor
  unfinished : cursor.finished = false
  query : cursor.query = execution.query
  rest : execution.rest = cursor.rest
  counted : cursor.Counted execution.scan
  results : execution.results = yields (documents execution.results)
  returned : cursor.returned = (documents execution.results).length
  remaining : cursor.returned ≠ 0 → cursor.remaining ≠ some 0

/-- An execution that has ended, whose cursor may still be open but is finished, is accounted for
by a summary. -/
structure Ended (execution : Execution) (summary : Summary) : Prop where
  tallied : Tallied execution.scan execution.rest summary
  ending : Ending execution.query.limit execution.results summary.outcome
  finished : ∀ cursor, execution.cursor = some cursor →
    cursor.finished = true ∧ execution.rest = cursor.rest ∧ summary.outcome ≠ .abandoned

/-- An execution has recorded no summary while it runs, and a single one, which accounts for it,
once it has ended. -/
inductive Standing (execution : Execution) : List Summary → Prop
  | running (cursor : Cursor) (h : execution.Running cursor) : Standing execution []
  | ended (summary : Summary) (h : execution.Ended summary) : Standing execution [summary]

/-- An execution whose cursor was given up has ended. -/
lemma standing_of_closed (hcursor : execution.cursor = none)
    (htallied : Tallied execution.scan execution.rest summary)
    (hending : Ending execution.query.limit execution.results summary.outcome) :
    execution.Standing [summary] :=
  .ended summary {
    tallied := htallied
    ending := hending
    finished := fun cursor h => absurd (h.symm.trans hcursor) (Option.some_ne_none cursor) }

lemma tallied_of_counted {scan : List ScanItem} {cursor : Cursor} (h : cursor.Counted scan)
    (outcome : Outcome) : Tallied scan cursor.rest (cursor.summary outcome) where
  returned_le := Nat.le_trans (Nat.le_add_right _ _) h.returned_le
  matched_le := h.matched_le
  scanned := h.scanned

/-- Opening an execution either fails, which is recorded, or gives a cursor over a scan. -/
lemma execute_cases (query : Query) (store : Store) (options : ExecOptions)
    (cancelled : Cancellations) :
    (∃ e kind, (query.execute store options cancelled).result = .error e
        ∧ summaries (query.execute store options cancelled).events
          = [Query.failure options kind e])
      ∨ ∃ kind items, (query.execute store options cancelled).result
          = .ok (.ofScan query options kind items)
        ∧ summaries (query.execute store options cancelled).events = [] := by
  unfold Query.execute
  cases options.refusal? cancelled with
  | some reason => exact .inl ⟨_, _, rfl, rfl⟩
  | none =>
    obtain ⟨kind, scan⟩ := query.openScan store
    cases scan with
    | ok items =>
      refine .inr ⟨kind, items, rfl, ?_⟩
      dsimp only
      split <;> rfl
    | error cause =>
      refine .inl ⟨_, kind, rfl, ?_⟩
      dsimp only
      split <;> rfl

theorem standing_start (query : Query) (store : Store) (options : ExecOptions)
    (cancelled : Cancellations) :
    (start query store options cancelled).execution.Standing
      (summaries (start query store options cancelled).events) := by
  rcases execute_cases query store options cancelled with
    ⟨e, kind, hresult, hsummaries⟩ | ⟨kind, items, hresult, hsummaries⟩
  · simp only [start, hresult, hsummaries]
    exact standing_of_closed rfl ⟨Nat.le_refl 0, Nat.le_refl 0, [], rfl, rfl⟩ (.error [] e 0)
  · simp only [start, hresult, hsummaries]
    exact .running _ {
      held := rfl
      unfinished := rfl
      query := rfl
      rest := rfl
      counted := Cursor.counted_ofScan query options kind items
      results := rfl
      returned := rfl
      remaining := fun h => absurd rfl h }

/-- A cursor at its limit has returned as many documents as the limit allows. -/
lemma limit_of_remaining {scan : List ScanItem} {cursor : Cursor} (h : cursor.Counted scan)
    (hremaining : cursor.remaining = some 0) : cursor.query.limit = some cursor.returned := by
  rw [← h.limit, hremaining, Option.map_some, Nat.zero_add]

section

variable {cursor : Cursor} {recorded : List Summary}

theorem standing_next (h : execution.Standing recorded) (hcursor : execution.cursor = some cursor)
    (cancelled : Cancellations) :
    (execution.next cursor cancelled).execution.Standing
      (recorded ++ summaries (execution.next cursor cancelled).events) := by
  cases h with
  | running held h =>
    obtain rfl := Option.some.inj (hcursor.symm.trans h.held)
    have hcounted := Cursor.counted_advance h.counted cancelled
    have hquery := (Cursor.sameExecution_advance cursor cancelled).query.trans h.query
    have hreturned := Cursor.returned_advance h.unfinished cancelled
    have hiff := Cursor.finished_advance_iff h.unfinished cancelled
    rw [h.returned, ← List.length_append, ← documents_append] at hreturned
    rw [next, Cursor.summaries_advance h.unfinished, List.nil_append]
    cases hfinished : (cursor.advance cancelled).cursor.finished with
    | false =>
      rw [hfinished] at hiff
      obtain ⟨hdoc, hremaining⟩ :=
        not_or.mp fun hend => absurd (hiff.mpr hend) Bool.false_ne_true
      obtain ⟨doc, hdoc⟩ := not_forall_not.mp hdoc
      refine .running _ {
        held := rfl
        unfinished := hfinished
        query := hquery
        rest := rfl
        counted := hcounted
        results := ?_
        returned := hreturned
        remaining := fun _ => hremaining }
      rw [hdoc, documents_append, yields_append, ← h.results]
      rfl
    | true =>
      refine .ended _ {
        tallied := tallied_of_counted hcounted _
        ending := ?_
        finished := ?_ }
      · rw [h.results]
        refine .of_result _ fun doc hdoc => ?_
        have hremaining := (hiff.mp hfinished).resolve_left fun hnone => hnone doc hdoc
        rw [hdoc] at hreturned
        rw [← hquery, limit_of_remaining hcounted hremaining, hreturned, documents_append,
          List.length_append]
        rfl
      · rintro _ ⟨rfl⟩
        exact ⟨hfinished, rfl, ofResult_ne_abandoned _⟩
  | ended summary h =>
    obtain ⟨hfinished, hrest, houtcome⟩ := h.finished cursor hcursor
    rw [next, Cursor.advance_of_finished hfinished]
    refine .ended summary {
      tallied := ⟨h.tallied.returned_le, h.tallied.matched_le, hrest ▸ h.tallied.scanned⟩
      ending := h.ending.append_none houtcome
      finished := ?_ }
    rintro _ ⟨rfl⟩
    exact ⟨hfinished, rfl, houtcome⟩

theorem standing_collect (h : execution.Standing recorded)
    (hcursor : execution.cursor = some cursor) (cancelled : Cancellations) :
    (execution.collect cursor cancelled).execution.Standing
      (recorded ++ summaries (execution.collect cursor cancelled).events) := by
  cases h with
  | running held h =>
    obtain rfl := Option.some.inj (hcursor.symm.trans h.held)
    have hcounted := Cursor.counted_collect h.counted cancelled
    have hclose : (cursor.collect cancelled).cursor.close = [] :=
      if_pos (Cursor.finished_collect cursor cancelled)
    rw [collect, hclose, List.append_nil, Cursor.summaries_collect h.unfinished, List.nil_append]
    refine standing_of_closed rfl (tallied_of_counted hcounted _) ?_
    rw [h.results, Collected.replies]
    cases (cursor.collect cancelled).result with
    | error e => exact .error _ e 0
    | ok docs =>
      dsimp only
      rw [← List.append_assoc, ← yields_append]
      exact .exhausted _ 0
  | ended summary h =>
    obtain ⟨hfinished, hrest, houtcome⟩ := h.finished cursor hcursor
    have hclose : cursor.close = [] := if_pos hfinished
    rw [collect, Cursor.collect_of_finished hfinished, hclose]
    exact standing_of_closed rfl
      ⟨h.tallied.returned_le, h.tallied.matched_le, hrest ▸ h.tallied.scanned⟩
      (h.ending.append_none houtcome)

theorem standing_drop (h : execution.Standing recorded) (hcursor : execution.cursor = some cursor)
    (cancelled : Cancellations) :
    (execution.drop cursor cancelled).execution.Standing
      (recorded ++ summaries (execution.drop cursor cancelled).events) := by
  cases h with
  | running held h =>
    obtain rfl := Option.some.inj (hcursor.symm.trans h.held)
    have hclose : cursor.close = [.finished (cursor.summary .abandoned)] := by
      rw [Cursor.close, h.unfinished, if_neg Bool.false_ne_true]
    rw [drop, hclose, summaries_finished, List.nil_append]
    refine standing_of_closed rfl (h.rest ▸ tallied_of_counted h.counted .abandoned) ?_
    rw [h.results]
    refine .abandoned _ fun hdocs hlimit => ?_
    have hreturned : cursor.returned ≠ 0 := by
      rw [h.returned]
      exact fun hlength => hdocs (List.length_eq_zero_iff.mp hlength)
    have hcounted := h.counted.limit
    rw [h.query, hlimit, ← h.returned, Option.map_eq_some_iff] at hcounted
    obtain ⟨n, hremaining, hn⟩ := hcounted
    refine h.remaining hreturned (hremaining.trans ?_)
    rw [Option.some.injEq]
    omega
  | ended summary h =>
    have hclose : cursor.close = [] := if_pos (h.finished cursor hcursor).1
    rw [drop, hclose]
    exact standing_of_closed rfl h.tallied h.ending

/-- Whatever is asked of an execution, its summaries stay right. -/
theorem standing_ask (h : execution.Standing recorded) (ask : Ask) (cancelled : Cancellations) :
    (execution.ask ask cancelled).execution.Standing
      (recorded ++ summaries (execution.ask ask cancelled).events) := by
  unfold Execution.ask
  cases hcursor : execution.cursor with
  | none => rwa [summaries_nil, List.append_nil]
  | some cursor =>
    cases ask with
    | next => exact standing_next h hcursor cancelled
    | collect => exact standing_collect h hcursor cancelled
    | drop => exact standing_drop h hcursor cancelled
    | expire =>
      simp only [expire, summaries_nil, List.append_nil]
      exact h

end

/-- An execution whose cursor is given up has a single summary, which accounts for it. -/
theorem Standing.exists_accounted {recorded : List Summary} (h : execution.Standing recorded)
    (hcursor : execution.cursor = none) :
    ∃ summary, recorded = [summary] ∧ execution.Accounted summary := by
  cases h with
  | running cursor h => exact absurd (h.held.symm.trans hcursor) (Option.some_ne_none cursor)
  | ended summary h => exact ⟨summary, rfl, accounted_of_ending h.tallied h.ending⟩

end Execution

end DocQuery
