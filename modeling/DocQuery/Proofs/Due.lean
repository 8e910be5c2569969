import DocQuery.Proofs.Stepping

/-!
What a cursor owes.  Whatever has been pulled, skipped and returned so far, the results that are
still to come are those of what is left of the query over what is left of the scan.

* `Cursor.due` (**what is due**): the results that an undisturbed cursor has still to give;
* `Cursor.gives_advance` (**stepping**): an undisturbed step gives the first of them and owes the
  others;
* `Cursor.result_collect`: collecting an undisturbed cursor gives all of them, or the error among
  them.
-/

namespace DocQuery

/-- The reply of a step, by the result that is due if there is one: the end comes when nothing is
due. -/
def replyOf : Option (Except QueryError Document) → Except QueryError (Option Document)
  | none => .ok none
  | some result => result.map some

lemma eq_nil_of_replyOf {due : List (Except QueryError Document)}
    (h : replyOf due.head? = .ok none) : due = [] := by
  match due with
  | [] => rfl
  | .ok doc :: later => cases h
  | .error e :: later => cases h

lemma eq_cons_of_replyOf {due : List (Except QueryError Document)} {doc : Document}
    (h : replyOf due.head? = .ok (some doc)) : due = .ok doc :: due.tail := by
  match due with
  | [] => cases h
  | .ok first :: later =>
    cases h
    rfl
  | .error e :: later => cases h

lemma eq_cons_of_replyOf_error {due : List (Except QueryError Document)} {e : QueryError}
    (h : replyOf due.head? = .error e) : due = .error e :: due.tail := by
  match due with
  | [] => cases h
  | .ok first :: later => cases h
  | .error first :: later =>
    cases h
    rfl

namespace Cursor

variable {cursor : Cursor} {cancelled : Cancellations}

/-- The query for what is left of the page of a cursor. -/
def onward (cursor : Cursor) : Query :=
  { cursor.query with skip := cursor.skipLeft, limit := cursor.remaining }

/-- Sorted matches as the results that are left of the page of a cursor. -/
def dueOf (cursor : Cursor) (docs : List Document) : List (Except QueryError Document) :=
  ((page cursor.skipLeft cursor.remaining docs).map cursor.query.shown).map .ok

/-- The results that an undisturbed cursor has still to give. -/
def due (cursor : Cursor) : List (Except QueryError Document) :=
  if cursor.finished then []
  else
    match cursor.query.sort, cursor.sorted with
    | _ :: _, some docs => cursor.dueOf docs
    | _, _ => cursor.onward.results cursor.rest

lemma due_of_finished (h : cursor.finished = true) : cursor.due = [] := by
  rw [due, if_pos h]

lemma due_of_sorted (cursor : Cursor) {docs : List Document} (h : cursor.finished = false)
    (hsort : cursor.query.sort ≠ []) (hsorted : cursor.sorted = some docs) :
    cursor.due = cursor.dueOf docs := by
  obtain ⟨key, keys, hkeys⟩ := List.exists_cons_of_ne_nil hsort
  rw [due, h, if_neg Bool.false_ne_true, hkeys, hsorted]

lemma due_of_sort_nil (cursor : Cursor) (h : cursor.finished = false)
    (hsort : cursor.query.sort = []) :
    cursor.due = cursor.onward.results cursor.rest := by
  rw [due, h, if_neg Bool.false_ne_true, hsort]

lemma due_of_unsorted (h : cursor.finished = false) (hsorted : cursor.sorted = none) :
    cursor.due = cursor.onward.results cursor.rest := by
  rw [due, h, if_neg Bool.false_ne_true, hsorted]
  split
  · rename_i heq
    cases heq
  · rfl

/-- Nothing is due once the limit is reached. -/
lemma due_of_limit (h : cursor.remaining = some 0) : cursor.due = [] := by
  unfold due
  split
  · rfl
  · split
    · rw [dueOf, h, page_eq_nil_of_limit, List.map_nil, List.map_nil]
    · exact Query.results_eq_nil_of_limit h cursor.rest

/-- At its start a cursor owes the results of its query. -/
lemma due_ofScan (query : Query) (options : ExecOptions) (scan : ScanKind)
    (items : List ScanItem) : (ofScan query options scan items).due = query.results items :=
  due_of_unsorted rfl rfl

/-! ### One step -/

end Cursor

/-- A step gives the first result that was due; its cursor owes the others. -/
structure Advance.Gives (step : Advance) (due : List (Except QueryError Document)) : Prop where
  result : step.result = replyOf due.head?
  due : step.cursor.due = due.tail

/-- The same for a step that is not settled yet: without a document nothing else was due. -/
structure Advance.Produces (step : Advance) (due : List (Except QueryError Document)) : Prop where
  result : step.result = replyOf due.head?
  document : ∀ doc, step.result = .ok (some doc) → step.cursor.due = due.tail
  nothing : (∀ doc, step.result ≠ .ok (some doc)) → due.tail = []

namespace Cursor

variable {cursor : Cursor} {cancelled : Cancellations}

/-- A step that ends with nothing due. -/
lemma produces_nil {step : Advance} (h : step.result = .ok none) : step.Produces [] where
  result := h
  document doc hdoc := by
    rw [h] at hdoc
    cases hdoc
  nothing _ := rfl

/-- A step that ends with an error as the last result. -/
lemma produces_error {step : Advance} {e : QueryError} (h : step.result = .error e) :
    step.Produces [.error e] where
  result := h
  document doc hdoc := by
    rw [h] at hdoc
    cases hdoc
  nothing _ := rfl

/-- A step that gives a document. -/
lemma produces_cons {step : Advance} {doc : Document} {later : List (Except QueryError Document)}
    (h : step.result = .ok (some doc)) (hlater : step.cursor.due = later) :
    step.Produces (.ok doc :: later) where
  result := h
  document _ _ := hlater
  nothing hnone := absurd h (hnone doc)

/-- Settling a step makes good that nothing is due after the last result. -/
lemma gives_settle {step : Advance} {due : List (Except QueryError Document)}
    (h : step.Produces due) : (settle step).Gives due := by
  refine ⟨(result_settle step).trans h.result, ?_⟩
  -- Only a document leaves something due, and not if it was the last one up to the limit.
  by_cases hdoc : ∃ doc, step.result = .ok (some doc)
  · obtain ⟨doc, hdoc⟩ := hdoc
    rw [← h.document doc hdoc]
    unfold settle
    rw [hdoc]
    by_cases hlimit : step.cursor.remaining = some 0
    · simp only [if_pos hlimit]
      rw [due_of_limit hlimit, due_of_finished rfl]
    · simp only [if_neg hlimit]
  · have hnone : ∀ doc, step.result ≠ .ok (some doc) := fun doc h' => hdoc ⟨doc, h'⟩
    rw [due_of_finished (finished_settle hnone), h.nothing hnone]

/-- Without sort keys the scan is searched for what is due. -/
lemma produces_stream (hfinished : cursor.finished = false) (hlimit : cursor.remaining ≠ some 0)
    (hsort : cursor.query.sort = [])
    (hquiet : cursor.options.Undisturbed cancelled cursor.rest) :
    (cursor.stream cancelled).Produces (cursor.onward.results cursor.rest) := by
  have hkeys : cursor.onward.sort = [] := hsort
  have hpage : cursor.onward.limit ≠ some 0 := hlimit
  rw [stream]
  cases hdrop : (cursor.onward.matching (ScanItem.documents cursor.rest)).drop cursor.skipLeft with
  | nil =>
    have hresult := Pull.next_of_drop_nil cursor.query.selector hquiet hdrop
    rw [Query.results_of_drop_nil hkeys hpage hdrop]
    cases hfailure : ScanItem.failure? cursor.rest with
    | none =>
      rw [hfailure] at hresult
      rw [afterNext_of_none hresult]
      exact produces_nil rfl
    | some cause =>
      rw [hfailure] at hresult
      rw [afterNext_of_error hresult]
      exact produces_error rfl
  | cons doc later =>
    have hfinds := Pull.next_of_drop_cons cursor.query.selector hquiet hdrop
    rw [Query.results_of_drop_cons hkeys hpage hdrop hfinds.later hfinds.failure,
      afterNext_of_some hfinds.result]
    refine produces_cons rfl ?_
    refine (due_of_sort_nil (cursor.afterPull _).afterReturn hfinished hsort).trans ?_
    simp only [onward, afterReturn, afterPull, hfinds.skipped, Nat.sub_self, Query.afterFirst]

/-- Sorted matches are taken in their order. -/
lemma produces_takeSorted (cursor : Cursor) (hfinished : cursor.finished = false)
    (hlimit : cursor.remaining ≠ some 0) (hsort : cursor.query.sort ≠ [])
    (hunrefused : cursor.options.refusal? cancelled = none) (docs : List Document) :
    (cursor.takeSorted docs cancelled).Produces (cursor.dueOf docs) := by
  cases hdrop : docs.drop cursor.skipLeft with
  | nil =>
    rw [takeSorted_of_drop_nil hunrefused hdrop, dueOf, page_eq_nil_of_drop cursor.remaining hdrop,
      List.map_nil, List.map_nil]
    exact produces_nil rfl
  | cons doc later =>
    rw [takeSorted_of_drop_cons hunrefused hdrop, dueOf, page_eq_cons_of_drop hlimit hdrop,
      List.map_cons, List.map_cons]
    refine produces_cons rfl ?_
    exact due_of_sorted { cursor with sorted := some later, skipLeft := 0 }.afterReturn hfinished
      hsort rfl

/-- The matches are sorted once the whole scan is drained; a failure of the scan prevents that. -/
lemma produces_drainSorted (hfinished : cursor.finished = false)
    (hlimit : cursor.remaining ≠ some 0) (hsort : cursor.query.sort ≠ [])
    (hquiet : cursor.options.Undisturbed cancelled cursor.rest) :
    (cursor.drainSorted cursor.query.sort cancelled).Produces
      (cursor.onward.results cursor.rest) := by
  have hkeys : cursor.onward.sort ≠ [] := hsort
  have hpage : cursor.onward.limit ≠ some 0 := hlimit
  have hresult := Pull.drain_of_undisturbed cursor.query.selector hquiet
  have hlater := (Pull.pulls_drain cursor.options cursor.query.selector cancelled
    cursor.rest).undisturbed hquiet
  rw [drainSorted]
  cases hfailure : ScanItem.failure? cursor.rest with
  | some cause =>
    rw [hfailure] at hresult
    rw [Query.results_of_sort_ne_nil hkeys hpage hfailure, afterDrain_of_error hresult]
    exact produces_error rfl
  | none =>
    rw [hfailure] at hresult
    -- Draining skips nothing: the matches to skip are taken off the sorted ones.
    obtain ⟨-, hskipped⟩ := Pull.matched_drain hresult
    have htake := produces_takeSorted (cursor.afterPull
        (Pull.drain cursor.options cursor.query.selector cancelled cursor.rest))
      hfinished hlimit hsort hlater.unrefused
      (Document.sortBy cursor.query.sort
        ((ScanItem.documents cursor.rest).filter cursor.query.selector.isMatch))
    rw [Query.results_of_no_failure hfailure, Query.answer, Query.ordered_of_sort_ne_nil hkeys,
      afterDrain_of_ok hresult]
    simp only [dueOf, afterPull, hskipped, Nat.sub_zero] at htake ⊢
    exact ⟨htake.result, htake.document, htake.nothing⟩

/-- An undisturbed step gives the first result that is due and owes the others. -/
lemma gives_advance (hquiet : cursor.options.Undisturbed cancelled cursor.rest) :
    (cursor.advance cancelled).Gives cursor.due := by
  cases hfinished : cursor.finished with
  | true =>
    rw [advance_of_finished hfinished, due_of_finished hfinished]
    exact ⟨rfl, due_of_finished hfinished⟩
  | false =>
    rw [advance_of_unfinished hfinished]
    refine gives_settle ?_
    refine produce_cases cursor cancelled (fun hlimit => ?_) (fun hlimit hsort => ?_)
      (fun docs hlimit hsort hsorted => ?_) (fun hlimit hsort hsorted => ?_)
    · rw [due_of_limit hlimit]
      exact produces_nil rfl
    · rw [due_of_sort_nil cursor hfinished hsort]
      exact produces_stream hfinished hlimit hsort hquiet
    · rw [due_of_sorted cursor hfinished hsort hsorted]
      exact produces_takeSorted cursor hfinished hlimit hsort hquiet.unrefused docs
    · rw [due_of_unsorted hfinished hsorted]
      exact produces_drainSorted hfinished hlimit hsort hquiet

/-- What does not disturb a cursor before a step does not disturb it afterwards. -/
lemma undisturbed_advance (hquiet : cursor.options.Undisturbed cancelled cursor.rest) :
    (cursor.advance cancelled).cursor.options.Undisturbed (cursor.advance cancelled).cancelled
      (cursor.advance cancelled).cursor.rest := by
  rw [(sameExecution_advance cursor cancelled).options]
  exact (pulls_advance cursor cancelled).undisturbed hquiet

/-! ### All steps -/

lemma collect_of_error {e : QueryError} (h : (cursor.advance cancelled).result = .error e) :
    cursor.collect cancelled
      = ⟨(cursor.advance cancelled).cursor, (cursor.advance cancelled).cancelled,
          (cursor.advance cancelled).events, .error e⟩ := by
  rw [collect]
  split
  · rename_i other hother
    rw [h, Except.error.injEq] at hother
    rw [hother]
  · rename_i hnone
    rw [h] at hnone
    cases hnone
  · rename_i doc hdoc
    rw [h] at hdoc
    cases hdoc

lemma collect_of_end (h : (cursor.advance cancelled).result = .ok none) :
    cursor.collect cancelled
      = ⟨(cursor.advance cancelled).cursor, (cursor.advance cancelled).cancelled,
          (cursor.advance cancelled).events, .ok []⟩ := by
  rw [collect]
  split
  · rename_i e he
    rw [h] at he
    cases he
  · rfl
  · rename_i doc hdoc
    rw [h] at hdoc
    cases hdoc

/-- Collecting an undisturbed cursor gives everything that is due, or the error among it. -/
lemma result_collect (hquiet : cursor.options.Undisturbed cancelled cursor.rest) :
    (cursor.collect cancelled).result = gather cursor.due := by
  fun_induction collect cursor cancelled with
  | case1 cursor cancelled step e hstep =>
    have hgives := gives_advance hquiet
    rw [eq_cons_of_replyOf_error (hgives.result.symm.trans hstep), gather]
  | case2 cursor cancelled step hstep =>
    have hgives := gives_advance hquiet
    rw [eq_nil_of_replyOf (hgives.result.symm.trans hstep), gather]
  | case3 cursor cancelled step doc hstep later ih =>
    have hgives := gives_advance hquiet
    rw [eq_cons_of_replyOf (hgives.result.symm.trans hstep), gather, ← hgives.due,
      ← ih (undisturbed_advance hquiet)]

end Cursor

end DocQuery
