import DocQuery.Proofs.Scanning

/-!
One step of a cursor: what it never changes, what it takes from the scan, how its counters move, and
when it is the last.

* `Cursor.SameExecution`: a step keeps the query, the options and the kind of scan;
* `Cursor.pulls_advance`: a step does nothing to the scan but pull from it;
* `Cursor.Balanced` (**balance**): matches are skipped, returned or waiting, and returns are taken
  off the limit, so no counter is ever cut off at zero;
* `Cursor.finished_advance`: a cursor is finished after an error and after the end;
* `Cursor.advance_of_finished`: a finished cursor does nothing.
-/

namespace DocQuery

namespace Cursor

variable {cursor : Cursor} {cancelled : Cancellations}

/-! ### The four ways of a step -/

lemma advance_of_finished (h : cursor.finished = true) (cancelled : Cancellations) :
    cursor.advance cancelled = ⟨cursor, cancelled, [], .ok none⟩ := by
  rw [advance, if_pos h]

lemma advance_of_unfinished (h : cursor.finished = false) (cancelled : Cancellations) :
    cursor.advance cancelled = settle (cursor.produce cancelled) := by
  rw [advance, h, if_neg Bool.false_ne_true]

lemma produce_of_limit (h : cursor.remaining = some 0) (cancelled : Cancellations) :
    cursor.produce cancelled = ⟨cursor, cancelled, [], .ok none⟩ := by
  rw [produce, if_pos h]

lemma produce_of_sort_nil (h : cursor.remaining ≠ some 0) (hsort : cursor.query.sort = [])
    (cancelled : Cancellations) : cursor.produce cancelled = cursor.stream cancelled := by
  rw [produce, if_neg h, hsort]

lemma produce_of_sorted {docs : List Document} (h : cursor.remaining ≠ some 0)
    (hsort : cursor.query.sort ≠ []) (hsorted : cursor.sorted = some docs)
    (cancelled : Cancellations) : cursor.produce cancelled = cursor.takeSorted docs cancelled := by
  obtain ⟨key, keys, hkeys⟩ := List.exists_cons_of_ne_nil hsort
  rw [produce, if_neg h, hkeys, hsorted]

lemma produce_of_unsorted (h : cursor.remaining ≠ some 0) (hsort : cursor.query.sort ≠ [])
    (hsorted : cursor.sorted = none) (cancelled : Cancellations) :
    cursor.produce cancelled = cursor.drainSorted cursor.query.sort cancelled := by
  obtain ⟨key, keys, hkeys⟩ := List.exists_cons_of_ne_nil hsort
  rw [produce, if_neg h, hkeys, hsorted]

/-- What holds of each way of a step holds of every step. -/
@[elab_as_elim]
lemma produce_cases {motive : Advance → Prop} (cursor : Cursor) (cancelled : Cancellations)
    (limit : cursor.remaining = some 0 → motive ⟨cursor, cancelled, [], .ok none⟩)
    (stream : cursor.remaining ≠ some 0 → cursor.query.sort = [] →
      motive (cursor.stream cancelled))
    (sorted : ∀ docs, cursor.remaining ≠ some 0 → cursor.query.sort ≠ [] →
      cursor.sorted = some docs → motive (cursor.takeSorted docs cancelled))
    (drain : cursor.remaining ≠ some 0 → cursor.query.sort ≠ [] → cursor.sorted = none →
      motive (cursor.drainSorted cursor.query.sort cancelled)) :
    motive (cursor.produce cancelled) := by
  by_cases hlimit : cursor.remaining = some 0
  · rw [produce_of_limit hlimit]
    exact limit hlimit
  · by_cases hsort : cursor.query.sort = []
    · rw [produce_of_sort_nil hlimit hsort]
      exact stream hlimit hsort
    · cases hsorted : cursor.sorted with
      | none =>
        rw [produce_of_unsorted hlimit hsort hsorted]
        exact drain hlimit hsort hsorted
      | some docs =>
        rw [produce_of_sorted hlimit hsort hsorted]
        exact sorted docs hlimit hsort hsorted

lemma afterNext_of_error {pull : Pull (Option Document)} {e : QueryError}
    (h : pull.result = .error e) :
    cursor.afterNext pull
      = ⟨cursor.afterPull pull, pull.cancelled, pull.rejected.map Event.rejected, .error e⟩ := by
  rw [afterNext, h]

lemma afterNext_of_none {pull : Pull (Option Document)} (h : pull.result = .ok none) :
    cursor.afterNext pull
      = ⟨cursor.afterPull pull, pull.cancelled, pull.rejected.map Event.rejected, .ok none⟩ := by
  rw [afterNext, h]

lemma afterNext_of_some {pull : Pull (Option Document)} {doc : Document}
    (h : pull.result = .ok (some doc)) :
    cursor.afterNext pull
      = ⟨(cursor.afterPull pull).afterReturn, pull.cancelled, pull.rejected.map Event.rejected,
          .ok (some (cursor.shown doc))⟩ := by
  rw [afterNext, h]

lemma takeSorted_of_refused {reason : CancelReason}
    (h : cursor.options.refusal? cancelled = some reason) (docs : List Document) :
    cursor.takeSorted docs cancelled
      = ⟨{ cursor with sorted := some docs }, cancelled, [], .error (.cancelled reason)⟩ := by
  rw [takeSorted, h]

lemma takeSorted_of_drop_nil {docs : List Document}
    (h : cursor.options.refusal? cancelled = none) (hdrop : docs.drop cursor.skipLeft = []) :
    cursor.takeSorted docs cancelled
      = ⟨{ cursor with sorted := some [], skipLeft := cursor.skipLeft - docs.length }, cancelled,
          [], .ok none⟩ := by
  rw [takeSorted, h, hdrop]

lemma takeSorted_of_drop_cons {docs later : List Document} {doc : Document}
    (h : cursor.options.refusal? cancelled = none)
    (hdrop : docs.drop cursor.skipLeft = doc :: later) :
    cursor.takeSorted docs cancelled
      = ⟨{ cursor with sorted := some later, skipLeft := 0 }.afterReturn, cancelled, [],
          .ok (some (cursor.shown doc))⟩ := by
  rw [takeSorted, h, hdrop]

lemma afterDrain_of_error {keys : List SortKey} {pull : Pull (List Document)} {e : QueryError}
    (h : pull.result = .error e) :
    cursor.afterDrain keys pull
      = ⟨cursor.afterPull pull, pull.cancelled, pull.rejected.map Event.rejected, .error e⟩ := by
  rw [afterDrain, h]

lemma afterDrain_of_ok {keys : List SortKey} {pull : Pull (List Document)} {docs : List Document}
    (h : pull.result = .ok docs) :
    cursor.afterDrain keys pull
      = ((cursor.afterPull pull).takeSorted (Document.sortBy keys docs)
          pull.cancelled).afterEvents (pull.rejected.map Event.rejected) := by
  rw [afterDrain, h]

/-! ### Ending a step -/

/-- Settling a step changes nothing in its cursor but whether it is finished. -/
lemma exists_finished_settle (step : Advance) :
    ∃ finished, (settle step).cursor = { step.cursor with finished := finished } := by
  unfold settle
  split
  · exact ⟨true, rfl⟩
  · exact ⟨true, rfl⟩
  · split
    · exact ⟨true, rfl⟩
    · exact ⟨step.cursor.finished, rfl⟩

/-- What each way of a step keeps is kept by the step, if it does not see whether the cursor is
finished. -/
@[elab_as_elim]
lemma advance_induction {motive : Cursor → Prop} (cursor : Cursor) (cancelled : Cancellations)
    (start : motive cursor)
    (produce : cursor.finished = false → motive (cursor.produce cancelled).cursor)
    (finish : ∀ after finished, motive after → motive { after with finished := finished }) :
    motive (cursor.advance cancelled).cursor := by
  cases hfinished : cursor.finished with
  | true => rwa [advance_of_finished hfinished]
  | false =>
    obtain ⟨finished, hsettle⟩ := exists_finished_settle (cursor.produce cancelled)
    rw [advance_of_unfinished hfinished, hsettle]
    exact finish _ finished (produce hfinished)

lemma cancelled_settle (step : Advance) : (settle step).cancelled = step.cancelled := by
  unfold settle
  split
  · rfl
  · rfl
  · split <;> rfl

/-- A step without a result is the last of its cursor. -/
lemma finished_settle {step : Advance} (h : ∀ doc, step.result ≠ .ok (some doc)) :
    (settle step).cursor.finished = true := by
  unfold settle
  split
  · rfl
  · rfl
  · rename_i doc hdoc
    exact absurd hdoc (h doc)

/-- The step that reaches the limit is the last of its cursor. -/
lemma finished_settle_of_limit {step : Advance} (h : step.cursor.remaining = some 0) :
    (settle step).cursor.finished = true := by
  unfold settle
  split
  · rfl
  · rfl
  · rw [if_pos h]
    rfl

/-- A cursor is finished after an error and after the end. -/
lemma finished_advance (h : ∀ doc, (cursor.advance cancelled).result ≠ .ok (some doc)) :
    (cursor.advance cancelled).cursor.finished = true := by
  cases hfinished : cursor.finished with
  | true =>
    rw [advance_of_finished hfinished]
    exact hfinished
  | false =>
    rw [advance_of_unfinished hfinished] at h ⊢
    rw [result_settle] at h
    exact finished_settle h

/-! ### What a step keeps -/

/-- Two states of one execution: the same query under the same options over the same kind of
scan. -/
structure SameExecution (before after : Cursor) : Prop where
  query : after.query = before.query
  options : after.options = before.options
  scan : after.scan = before.scan

lemma SameExecution.refl (cursor : Cursor) : cursor.SameExecution cursor := ⟨rfl, rfl, rfl⟩

lemma SameExecution.trans {a b c : Cursor} (h : a.SameExecution b) (h' : b.SameExecution c) :
    a.SameExecution c :=
  ⟨h'.query.trans h.query, h'.options.trans h.options, h'.scan.trans h.scan⟩

lemma sameExecution_afterNext (pull : Pull (Option Document)) :
    cursor.SameExecution (cursor.afterNext pull).cursor := by
  unfold afterNext
  split <;> exact ⟨rfl, rfl, rfl⟩

lemma sameExecution_takeSorted (cursor : Cursor) (docs : List Document)
    (cancelled : Cancellations) :
    cursor.SameExecution (cursor.takeSorted docs cancelled).cursor := by
  unfold takeSorted
  split
  · exact ⟨rfl, rfl, rfl⟩
  · split <;> exact ⟨rfl, rfl, rfl⟩

lemma sameExecution_afterDrain (keys : List SortKey) (pull : Pull (List Document)) :
    cursor.SameExecution (cursor.afterDrain keys pull).cursor := by
  unfold afterDrain
  split
  · exact ⟨rfl, rfl, rfl⟩
  · obtain ⟨hquery, hoptions, hscan⟩ :=
      sameExecution_takeSorted (cursor.afterPull pull) (Document.sortBy keys _) pull.cancelled
    exact ⟨hquery, hoptions, hscan⟩

/-- A step stays within its execution. -/
lemma sameExecution_advance (cursor : Cursor) (cancelled : Cancellations) :
    cursor.SameExecution (cursor.advance cancelled).cursor := by
  refine advance_induction cursor cancelled (.refl cursor) (fun _ => ?_) fun _ _ h =>
    ⟨h.query, h.options, h.scan⟩
  exact produce_cases cursor cancelled (fun _ => .refl cursor)
    (fun _ _ => sameExecution_afterNext _) (fun docs _ _ _ => sameExecution_takeSorted _ docs _)
    (fun _ _ _ => sameExecution_afterDrain _ _)

/-! ### What a step takes from the scan -/

lemma scan_afterNext (cursor : Cursor) (pull : Pull (Option Document)) :
    (cursor.afterNext pull).cancelled = pull.cancelled
      ∧ (cursor.afterNext pull).cursor.rest = pull.rest := by
  unfold afterNext
  split <;> exact ⟨rfl, rfl⟩

lemma scan_takeSorted (cursor : Cursor) (docs : List Document) (cancelled : Cancellations) :
    (cursor.takeSorted docs cancelled).cancelled = cancelled
      ∧ (cursor.takeSorted docs cancelled).cursor.rest = cursor.rest := by
  unfold takeSorted
  split
  · exact ⟨rfl, rfl⟩
  · split <;> exact ⟨rfl, rfl⟩

lemma scan_afterDrain (cursor : Cursor) (keys : List SortKey) (pull : Pull (List Document)) :
    (cursor.afterDrain keys pull).cancelled = pull.cancelled
      ∧ (cursor.afterDrain keys pull).cursor.rest = pull.rest := by
  unfold afterDrain
  split
  · exact ⟨rfl, rfl⟩
  · exact scan_takeSorted (cursor.afterPull pull) (Document.sortBy keys _) pull.cancelled

/-- A step does nothing to the scan but pull from it. -/
lemma pulls_advance (cursor : Cursor) (cancelled : Cancellations) :
    Pull.Pulls cursor.options cancelled cursor.rest (cursor.advance cancelled).cancelled
      (cursor.advance cancelled).cursor.rest := by
  cases hfinished : cursor.finished with
  | true =>
    rw [advance_of_finished hfinished]
    exact .nothing _ _
  | false =>
    rw [advance_of_unfinished hfinished]
    obtain ⟨finished, hsettle⟩ := exists_finished_settle (cursor.produce cancelled)
    rw [hsettle, cancelled_settle]
    refine produce_cases cursor cancelled (fun _ => .nothing _ _) (fun _ _ => ?_)
      (fun docs _ _ _ => ?_) (fun _ _ _ => ?_)
    · obtain ⟨hcancelled, hrest⟩ := scan_afterNext cursor
        (Pull.next cursor.options cursor.query.selector cursor.skipLeft cancelled cursor.rest)
      rw [stream, hcancelled, hrest]
      exact Pull.pulls_next _ _ _ _ _
    · obtain ⟨hcancelled, hrest⟩ := scan_takeSorted cursor docs cancelled
      rw [hcancelled, hrest]
      exact .nothing _ _
    · obtain ⟨hcancelled, hrest⟩ := scan_afterDrain cursor cursor.query.sort
        (Pull.drain cursor.options cursor.query.selector cancelled cursor.rest)
      rw [drainSorted, hcancelled, hrest]
      exact Pull.pulls_drain _ _ _ _

/-! ### The balance of the counters -/

/-- The counters of a cursor balance, with so many sorted matches waiting.  Every match was skipped,
was returned or is waiting, and what was returned is taken off the limit.  A subtraction that were
cut off at zero would upset the balance. -/
structure Balanced (cursor : Cursor) (waiting : Nat) : Prop where
  skipLeft_le : cursor.skipLeft ≤ cursor.query.skip
  matched : cursor.matched = (cursor.query.skip - cursor.skipLeft) + cursor.returned + waiting
  limit : cursor.remaining.map (· + cursor.returned) = cursor.query.limit

/-- How many sorted matches are waiting to be returned. -/
def waiting (cursor : Cursor) : Nat := (cursor.sorted.getD []).length

lemma balanced_ofScan (query : Query) (options : ExecOptions) (scan : ScanKind)
    (items : List ScanItem) :
    (ofScan query options scan items).Balanced (ofScan query options scan items).waiting where
  skipLeft_le := Nat.le_refl query.skip
  matched := (Nat.sub_self query.skip).symm
  limit := by
    change query.limit.map (· + 0) = query.limit
    cases query.limit <;> rfl

/-- A return takes one off what remains of the limit, and never one more than remains. -/
lemma limit_afterReturn (cursor : Cursor) (hlimit : cursor.remaining ≠ some 0) :
    cursor.afterReturn.remaining.map (· + cursor.afterReturn.returned)
      = cursor.remaining.map (· + cursor.returned) := by
  change (cursor.remaining.map (· - 1)).map (· + (cursor.returned + 1)) = _
  cases hremaining : cursor.remaining with
  | none => rfl
  | some n =>
    have hn : n ≠ 0 := fun h0 => hlimit (by rw [hremaining, h0])
    simp only [Option.map_some, Option.some.injEq]
    omega

lemma balanced_stream (hlimit : cursor.remaining ≠ some 0) (h : cursor.Balanced cursor.waiting)
    (hresult : ∀ e, (cursor.stream cancelled).result ≠ .error e) :
    (cursor.stream cancelled).cursor.Balanced (cursor.stream cancelled).cursor.waiting := by
  have hle := h.skipLeft_le
  have hmatched := h.matched
  have hskipped := Pull.skipped_next_le cursor.options cursor.query.selector cursor.skipLeft
    cancelled cursor.rest
  have hcount := Pull.matched_next cursor.options cursor.query.selector cursor.skipLeft
    cancelled cursor.rest
  rw [stream] at hresult ⊢
  cases hpull : (Pull.next cursor.options cursor.query.selector cursor.skipLeft cancelled
      cursor.rest).result with
  | error e =>
    rw [afterNext_of_error hpull] at hresult
    exact absurd rfl (hresult e)
  | ok found =>
    cases found with
    | none =>
      rw [afterNext_of_none hpull]
      simp only [hpull] at hcount
      refine ⟨?_, ?_, h.limit⟩
      · simp only [afterPull]
        omega
      · simp only [afterPull, waiting] at hmatched ⊢
        omega
    | some doc =>
      rw [afterNext_of_some hpull]
      simp only [hpull] at hcount
      refine ⟨?_, ?_, ?_⟩
      · simp only [afterPull, afterReturn]
        omega
      · simp only [afterPull, afterReturn, waiting] at hmatched ⊢
        omega
      · exact (limit_afterReturn (cursor.afterPull _) hlimit).trans h.limit

lemma balanced_takeSorted (cursor : Cursor) {docs : List Document}
    (hlimit : cursor.remaining ≠ some 0) (h : cursor.Balanced docs.length) :
    (cursor.takeSorted docs cancelled).cursor.Balanced
      (cursor.takeSorted docs cancelled).cursor.waiting := by
  have hle := h.skipLeft_le
  have hmatched := h.matched
  cases hrefusal : cursor.options.refusal? cancelled with
  | some reason =>
    rw [takeSorted_of_refused hrefusal]
    exact ⟨hle, hmatched, h.limit⟩
  | none =>
    cases hdrop : docs.drop cursor.skipLeft with
    | nil =>
      rw [takeSorted_of_drop_nil hrefusal hdrop]
      have hlength := List.drop_eq_nil_iff.mp hdrop
      refine ⟨?_, ?_, h.limit⟩
      · change cursor.skipLeft - docs.length ≤ cursor.query.skip
        omega
      · simp only [waiting, Option.getD_some, List.length_nil]
        omega
    | cons doc later =>
      rw [takeSorted_of_drop_cons hrefusal hdrop]
      have hlength := congrArg List.length hdrop
      rw [List.length_drop, List.length_cons] at hlength
      refine ⟨Nat.zero_le _, ?_, ?_⟩
      · simp only [waiting, afterReturn, Option.getD_some]
        omega
      · exact (limit_afterReturn { cursor with sorted := some later, skipLeft := 0 }
          hlimit).trans h.limit

lemma balanced_drainSorted (hlimit : cursor.remaining ≠ some 0) (hsorted : cursor.sorted = none)
    (h : cursor.Balanced cursor.waiting) (keys : List SortKey)
    (hresult : ∀ e, (cursor.drainSorted keys cancelled).result ≠ .error e) :
    (cursor.drainSorted keys cancelled).cursor.Balanced
      (cursor.drainSorted keys cancelled).cursor.waiting := by
  have hmatched := h.matched
  rw [waiting, hsorted, Option.getD_none, List.length_nil] at hmatched
  rw [drainSorted] at hresult ⊢
  cases hpull : (Pull.drain cursor.options cursor.query.selector cancelled cursor.rest).result with
  | error e =>
    rw [afterDrain_of_error hpull] at hresult
    exact absurd rfl (hresult e)
  | ok docs =>
    obtain ⟨hcount, hskipped⟩ := Pull.matched_drain hpull
    rw [afterDrain_of_ok hpull]
    refine balanced_takeSorted (cursor.afterPull _) hlimit ⟨?_, ?_, h.limit⟩
    · exact Nat.le_trans (Nat.sub_le _ _) h.skipLeft_le
    · rw [Document.sortBy, List.length_mergeSort]
      simp only [afterPull, hcount, hskipped]
      omega

/-- A step that ends in no error keeps the balance. -/
lemma balanced_advance (h : cursor.Balanced cursor.waiting)
    (hresult : ∀ e, (cursor.advance cancelled).result ≠ .error e) :
    (cursor.advance cancelled).cursor.Balanced (cursor.advance cancelled).cursor.waiting := by
  cases hfinished : cursor.finished with
  | true =>
    rw [advance_of_finished hfinished]
    exact h
  | false =>
    rw [advance_of_unfinished hfinished] at hresult ⊢
    rw [result_settle] at hresult
    have hproduce : (cursor.produce cancelled).cursor.Balanced
        (cursor.produce cancelled).cursor.waiting := by
      -- The result has to be an instance of each way of the step, so it goes into the motive.
      revert hresult
      refine produce_cases cursor cancelled (fun _ _ => h) (fun hlimit _ => ?_)
        (fun docs hlimit _ hsorted _ => ?_) (fun hlimit _ hsorted => ?_)
      · exact balanced_stream hlimit h
      · rw [waiting, hsorted, Option.getD_some] at h
        exact balanced_takeSorted cursor hlimit h
      · exact balanced_drainSorted hlimit hsorted h cursor.query.sort
    obtain ⟨finished, hsettle⟩ := exists_finished_settle (cursor.produce cancelled)
    rw [hsettle]
    exact ⟨hproduce.skipLeft_le, hproduce.matched, hproduce.limit⟩

end Cursor

end DocQuery
