import DocQuery.Proofs.Accounting

/-!
What the counters of a cursor count, in every state that calls on an execution can lead to.

* `Pull.matched_next_add` and `Pull.matched_drain_add`: a match that leaves the scan is counted;
* `Cursor.allMatches_advance`: so a step keeps the number of matches, counted or to come;
* `Cursor.Streams` (**streaming**): without sort keys every match is skipped or returned, and
  nothing is returned before all that is to be skipped;
* `Cursor.exists_match_of_advance`: a step without sort keys that gives a document takes nothing
  from the scan behind its match;
* `Execution.Tells` and `Books.exists_tells`: the counters of an open cursor tell what was done.
-/

namespace DocQuery

/-! ### Matches among items -/

namespace ScanItem

/-- An item that is a document which fulfils a selector. -/
def isMatch (selector : Selector) (item : ScanItem) : Bool :=
  match item.content with
  | .ok doc => selector.isMatch doc
  | .error _ => false

variable {selector : Selector} {item : ScanItem}

lemma isMatch_of_ok {doc : Document} (h : item.content = .ok doc) :
    item.isMatch selector = selector.isMatch doc := by
  rw [isMatch, h]

lemma isMatch_of_error {cause : StoreError} (h : item.content = .error cause) :
    item.isMatch selector = false := by
  rw [isMatch, h]

/-- How many of some items match. -/
def countMatches (selector : Selector) (items : List ScanItem) : Nat :=
  items.countP (·.isMatch selector)

lemma countMatches_cons (selector : Selector) (item : ScanItem) (rest : List ScanItem) :
    countMatches selector (item :: rest)
      = countMatches selector rest + if item.isMatch selector then 1 else 0 :=
  List.countP_cons

lemma countMatches_append (selector : Selector) (items later : List ScanItem) :
    countMatches selector (items ++ later)
      = countMatches selector items + countMatches selector later :=
  List.countP_append

end ScanItem

namespace Pull

variable {options : ExecOptions} {selector : Selector} {skip : Nat} {cancelled : Cancellations}
  {items : List ScanItem}

/-- A match that a search takes from the scan is counted, and nothing else is. -/
lemma matched_next_add (options : ExecOptions) (selector : Selector) (skip : Nat)
    (cancelled : Cancellations) (items : List ScanItem) :
    (next options selector skip cancelled items).matched
        + ScanItem.countMatches selector (next options selector skip cancelled items).rest
      = ScanItem.countMatches selector items := by
  fun_induction next options selector skip cancelled items with
  | case1 => exact Nat.zero_add _
  | case2 => exact Nat.zero_add _
  | case3 => exact Nat.zero_add _
  | case4 =>
    rename_i hitem
    rw [ScanItem.countMatches_cons, ScanItem.isMatch_of_error hitem]
    exact Nat.zero_add _
  | case5 =>
    rename_i hitem hmatch
    rw [ScanItem.countMatches_cons, ScanItem.isMatch_of_ok hitem, if_pos hmatch]
    exact Nat.add_comm _ _
  | case6 =>
    rename_i hitem hmatch _ ih
    rw [ScanItem.countMatches_cons, ScanItem.isMatch_of_ok hitem, if_pos hmatch, ← ih]
    exact Nat.add_right_comm _ _ _
  | case7 =>
    rename_i hitem hmatch ih
    rw [ScanItem.countMatches_cons, ScanItem.isMatch_of_ok hitem, if_neg hmatch, ← ih]
    rfl

/-- The same for draining. -/
lemma matched_drain_add (options : ExecOptions) (selector : Selector) (cancelled : Cancellations)
    (items : List ScanItem) :
    (drain options selector cancelled items).matched
        + ScanItem.countMatches selector (drain options selector cancelled items).rest
      = ScanItem.countMatches selector items := by
  fun_induction drain options selector cancelled items with
  | case1 => exact Nat.zero_add _
  | case2 => exact Nat.zero_add _
  | case3 => exact Nat.zero_add _
  | case4 =>
    rename_i hitem
    rw [ScanItem.countMatches_cons, ScanItem.isMatch_of_error hitem]
    exact Nat.zero_add _
  | case5 =>
    rename_i hitem hmatch ih
    rw [ScanItem.countMatches_cons, ScanItem.isMatch_of_ok hitem, if_pos hmatch, ← ih]
    exact Nat.add_right_comm _ _ _
  | case6 =>
    rename_i hitem hmatch ih
    rw [ScanItem.countMatches_cons, ScanItem.isMatch_of_ok hitem, if_neg hmatch, ← ih]
    rfl

/-- A search that finds a document has skipped as many matches as it was asked to, and stops right
behind the match. -/
lemma exists_match_of_next {doc : Document}
    (h : (next options selector skip cancelled items).result = .ok (some doc)) :
    (next options selector skip cancelled items).skipped = skip
      ∧ ∃ before item, item.isMatch selector = true
        ∧ items = before ++ item :: (next options selector skip cancelled items).rest := by
  fun_induction next options selector skip cancelled items with
  | case1 => cases h
  | case2 => cases h
  | case3 => cases h
  | case4 => cases h
  | case5 =>
    rename_i hitem hmatch
    exact ⟨rfl, [], _, (ScanItem.isMatch_of_ok hitem).trans hmatch, rfl⟩
  | case6 =>
    rename_i ih
    obtain ⟨hskipped, before, item, hitem, hitems⟩ := ih h
    exact ⟨congrArg (· + 1) hskipped, _ :: before, item, hitem, congrArg (List.cons _) hitems⟩
  | case7 =>
    rename_i ih
    obtain ⟨hskipped, before, item, hitem, hitems⟩ := ih h
    exact ⟨hskipped, _ :: before, item, hitem, congrArg (List.cons _) hitems⟩

/-- A search that reports the end has taken everything. -/
lemma rest_next_of_end (h : (next options selector skip cancelled items).result = .ok none) :
    (next options selector skip cancelled items).rest = [] := by
  fun_induction next options selector skip cancelled items with
  | case1 => rfl
  | case2 => rfl
  | case3 => cases h
  | case4 => cases h
  | case5 => cases h
  | case6 _ _ _ _ _ _ _ _ _ ih => exact ih h
  | case7 _ _ _ _ _ _ _ _ _ ih => exact ih h

/-- Draining that ends in no error has taken everything. -/
lemma rest_drain_of_ok {docs : List Document}
    (h : (drain options selector cancelled items).result = .ok docs) :
    (drain options selector cancelled items).rest = [] := by
  fun_induction drain options selector cancelled items generalizing docs with
  | case1 => rfl
  | case2 => rfl
  | case3 => cases h
  | case4 => cases h
  | case5 =>
    rename_i ih
    obtain ⟨later, hlater, -⟩ := result_afterMatch_eq_ok.1 h
    exact ih hlater
  | case6 =>
    rename_i ih
    exact ih h

end Pull

namespace Cursor

variable {cursor : Cursor} {cancelled : Cancellations}

/-! ### Matches are counted -/

/-- The matches that were counted and those that are still to come. -/
def allMatches (cursor : Cursor) : Nat :=
  cursor.matched + ScanItem.countMatches cursor.query.selector cursor.rest

lemma allMatches_afterPull {α : Type} (cursor : Cursor) {pull : Pull α}
    (h : pull.matched + ScanItem.countMatches cursor.query.selector pull.rest
      = ScanItem.countMatches cursor.query.selector cursor.rest) :
    (cursor.afterPull pull).allMatches = cursor.allMatches := by
  rw [allMatches, allMatches, ← h, ← Nat.add_assoc]
  rfl

lemma allMatches_takeSorted (cursor : Cursor) (docs : List Document) (cancelled : Cancellations) :
    (cursor.takeSorted docs cancelled).cursor.allMatches = cursor.allMatches := by
  unfold takeSorted
  split
  · rfl
  · split <;> rfl

/-- A step keeps the number of matches, whatever it ends in. -/
theorem allMatches_advance (cursor : Cursor) (cancelled : Cancellations) :
    (cursor.advance cancelled).cursor.allMatches = cursor.allMatches := by
  refine advance_induction (motive := fun after => after.allMatches = cursor.allMatches) cursor
    cancelled rfl (fun _ => ?_) fun _ _ h => h
  refine produce_cases cursor cancelled (fun _ => rfl) (fun _ _ => ?_)
    (fun docs _ _ _ => allMatches_takeSorted cursor docs cancelled) (fun _ _ _ => ?_)
  · have hpull := allMatches_afterPull cursor (Pull.matched_next_add cursor.options
      cursor.query.selector cursor.skipLeft cancelled cursor.rest)
    rw [stream, afterNext]
    split <;> exact hpull
  · have hpull := allMatches_afterPull cursor (Pull.matched_drain_add cursor.options
      cursor.query.selector cancelled cursor.rest)
    rw [drainSorted, afterDrain]
    split
    · exact hpull
    · exact (allMatches_takeSorted _ _ _).trans hpull

/-! ### Streaming -/

/-- The counters of a cursor without sort keys: every match was skipped or returned, and something
was returned only after all that is to be skipped. -/
structure Streams (cursor : Cursor) : Prop where
  skipLeft_le : cursor.skipLeft ≤ cursor.query.skip
  matched : cursor.matched = (cursor.query.skip - cursor.skipLeft) + cursor.returned
  returned : cursor.returned ≠ 0 → cursor.skipLeft = 0

lemma streams_ofScan (query : Query) (options : ExecOptions) (scan : ScanKind)
    (items : List ScanItem) : (ofScan query options scan items).Streams where
  skipLeft_le := Nat.le_refl _
  matched := (Nat.sub_self query.skip).symm
  returned h := absurd rfl h

lemma Streams.stream (h : cursor.Streams) (cancelled : Cancellations) :
    (cursor.stream cancelled).cursor.Streams := by
  obtain ⟨hle, hmatched, hreturned⟩ := h
  have hskipped := Pull.skipped_next_le cursor.options cursor.query.selector cursor.skipLeft
    cancelled cursor.rest
  have hcount := Pull.matched_next cursor.options cursor.query.selector cursor.skipLeft cancelled
    cursor.rest
  -- Without a find every match was skipped; with one nothing is left to be skipped.
  have hnothing (hfound : ∀ doc, (Pull.next cursor.options cursor.query.selector cursor.skipLeft
      cancelled cursor.rest).result ≠ .ok (some doc)) :
      (cursor.afterPull (Pull.next cursor.options cursor.query.selector cursor.skipLeft cancelled
        cursor.rest)).Streams := by
    split at hcount
    case h_1 doc hdoc => exact absurd hdoc (hfound doc)
    case h_2 =>
      refine ⟨?_, ?_, fun hne => ?_⟩
      · exact Nat.le_trans (Nat.sub_le _ _) hle
      · simp only [afterPull]
        omega
      · have := hreturned hne
        simp only [afterPull]
        omega
  rw [Cursor.stream, afterNext]
  split
  case h_1 e hpull => exact hnothing fun doc hdoc => by cases hpull.symm.trans hdoc
  case h_2 hpull => exact hnothing fun doc hdoc => by cases hpull.symm.trans hdoc
  case h_3 doc hpull =>
    have hall := (Pull.exists_match_of_next hpull).1
    simp only [hpull] at hcount
    refine ⟨Nat.le_trans (Nat.sub_le _ _) hle, ?_, fun _ => ?_⟩
    · simp only [afterPull, afterReturn]
      omega
    · simp only [afterPull, afterReturn]
      omega

/-- A step without sort keys keeps this, whatever it ends in. -/
lemma Streams.advance (hsort : cursor.query.sort = []) (h : cursor.Streams)
    (cancelled : Cancellations) : (cursor.advance cancelled).cursor.Streams := by
  refine advance_induction cursor cancelled h (fun _ => ?_) fun _ _ hafter =>
    ⟨hafter.skipLeft_le, hafter.matched, hafter.returned⟩
  exact produce_cases cursor cancelled (fun _ => h) (fun _ _ => h.stream cancelled)
    (fun _ _ hne => absurd hsort hne) (fun _ hne => absurd hsort hne)

/-- A step without sort keys is a search for the next match. -/
lemma advance_of_sort_nil (hfinished : cursor.finished = false) (hlimit : cursor.remaining ≠ some 0)
    (hsort : cursor.query.sort = []) (cancelled : Cancellations) :
    let pull := Pull.next cursor.options cursor.query.selector cursor.skipLeft cancelled cursor.rest
    (cursor.advance cancelled).cursor.rest = pull.rest
      ∧ (cursor.advance cancelled).result = pull.result.map (·.map cursor.shown) := by
  obtain ⟨finished, hsettle⟩ := exists_finished_settle (cursor.produce cancelled)
  rw [advance_of_unfinished hfinished, result_settle, hsettle, produce_of_sort_nil hlimit hsort,
    stream]
  refine ⟨(scan_afterNext cursor _).2, ?_⟩
  rw [afterNext]
  split
  case h_1 hpull => rw [hpull]; rfl
  case h_2 hpull => rw [hpull]; rfl
  case h_3 hpull => rw [hpull]; rfl

/-- A step that gives a document was made by a cursor that was neither finished nor at its limit. -/
lemma open_of_advance {doc : Document} (h : (cursor.advance cancelled).result = .ok (some doc)) :
    cursor.finished = false ∧ cursor.remaining ≠ some 0 := by
  cases hfinished : cursor.finished with
  | true =>
    rw [advance_of_finished hfinished] at h
    cases h
  | false =>
    refine ⟨rfl, fun hlimit => ?_⟩
    rw [advance_of_unfinished hfinished, result_settle, produce_of_limit hlimit] at h
    cases h

/-- A step without sort keys that gives a document stops right behind a match. -/
lemma exists_match_of_advance {doc : Document} (hsort : cursor.query.sort = [])
    (h : (cursor.advance cancelled).result = .ok (some doc)) :
    ∃ before item, item.isMatch cursor.query.selector = true
      ∧ cursor.rest = before ++ item :: (cursor.advance cancelled).cursor.rest := by
  obtain ⟨hfinished, hlimit⟩ := open_of_advance h
  obtain ⟨hrest, hresult⟩ := advance_of_sort_nil hfinished hlimit hsort cancelled
  rw [hresult] at h
  rw [hrest]
  rcases hpull : (Pull.next cursor.options cursor.query.selector cursor.skipLeft cancelled
      cursor.rest).result with e | _ | found
  · rw [hpull] at h
    cases h
  · rw [hpull] at h
    cases h
  · exact (Pull.exists_match_of_next hpull).2

/-- A step counts the document that it returns, if any. -/
lemma returned_advance_eq (cursor : Cursor) (cancelled : Cancellations) :
    (cursor.advance cancelled).cursor.returned
      = cursor.returned + (documents [(cursor.advance cancelled).result]).length := by
  cases hfinished : cursor.finished with
  | true =>
    rw [advance_of_finished hfinished]
    rfl
  | false => exact returned_advance hfinished cancelled

end Cursor

/-! ### Executions -/

namespace Execution

variable {execution : Execution} {cursor : Cursor}

/-- What the counters of a cursor follow while calls are made on its execution. -/
structure Tracks (execution : Execution) (cursor : Cursor) : Prop where
  query : cursor.query = execution.query
  counted : cursor.Counted execution.scan
  matched : cursor.allMatches = ScanItem.countMatches execution.query.selector execution.scan
  returned : cursor.returned = (documents execution.results).length
  streams : execution.query.sort = [] → cursor.Streams

/-- The counters of a cursor tell which documents have left the scan, how many of these match and
how many were yielded.  Without sort keys the matches that were not yielded are those to skip. -/
structure Tells (execution : Execution) (cursor : Cursor) (pulled : List ScanItem) : Prop where
  scan : execution.scan = pulled ++ cursor.rest
  scanned : cursor.scanned = ScanItem.count pulled
  matched : cursor.matched = ScanItem.countMatches execution.query.selector pulled
  returned : cursor.returned = (documents execution.results).length
  skipped : execution.query.sort = [] →
    cursor.matched = cursor.returned + (execution.query.skip - cursor.skipLeft)
      ∧ execution.query.skip - cursor.skipLeft = min execution.query.skip cursor.matched

lemma Tracks.exists_tells (h : execution.Tracks cursor) :
    ∃ pulled, execution.Tells cursor pulled := by
  obtain ⟨pulled, hscan, hscanned⟩ := h.counted.scanned
  have hmatched := h.matched
  rw [Cursor.allMatches, h.query, hscan, ScanItem.countMatches_append, Nat.add_right_cancel_iff]
    at hmatched
  refine ⟨pulled, hscan, hscanned, hmatched, h.returned, fun hsort => ?_⟩
  obtain ⟨hle, hsum, hreturned⟩ := h.streams hsort
  rw [h.query] at hle hsum
  constructor
  · omega
  · by_cases hnone : cursor.returned = 0
    · omega
    · have := hreturned hnone
      omega

/-- The cursor of an execution, if it is still open, has the right counters. -/
def Tracked (execution : Execution) : Prop :=
  ∀ cursor, execution.cursor = some cursor → execution.Tracks cursor

lemma tracked_start (query : Query) (store : Store) (options : ExecOptions)
    (cancelled : Cancellations) : (start query store options cancelled).execution.Tracked := by
  intro cursor hcursor
  rcases execute_cases query store options cancelled with
    ⟨e, kind, hresult, -⟩ | ⟨kind, items, hresult, -⟩
  · simp only [start, hresult] at hcursor
    cases hcursor
  · simp only [start, hresult] at hcursor ⊢
    cases hcursor
    exact {
      query := rfl
      counted := Cursor.counted_ofScan query options kind items
      matched := Nat.zero_add _
      returned := rfl
      streams := fun _ => Cursor.streams_ofScan query options kind items }

lemma Tracks.next (h : execution.Tracks cursor) (cancelled : Cancellations) :
    (execution.next cursor cancelled).execution.Tracks (cursor.advance cancelled).cursor where
  query := (Cursor.sameExecution_advance cursor cancelled).query.trans h.query
  counted := Cursor.counted_advance h.counted cancelled
  matched := (Cursor.allMatches_advance cursor cancelled).trans h.matched
  returned := by
    refine (Cursor.returned_advance_eq cursor cancelled).trans ?_
    rw [h.returned, Execution.next, documents_append, List.length_append]
  streams hsort := (h.streams hsort).advance (by rwa [h.query]) cancelled

/-- Asking for the next result and letting the deadline pass keep the counters right; the other
calls give the cursor up. -/
lemma tracked_ask (h : execution.Tracked) (ask : Ask) (cancelled : Cancellations) :
    (execution.ask ask cancelled).execution.Tracked := by
  unfold Execution.ask
  cases hcursor : execution.cursor with
  | none => exact h
  | some cursor =>
    rintro after hafter
    cases ask with
    | next =>
      cases hafter
      exact (h cursor hcursor).next cancelled
    | collect => cases hafter
    | drop => cases hafter
    | expire => exact h after hafter

end Execution

namespace Books

lemma tracked_perform {books : Books} (h : ∀ execution ∈ books.executions, execution.Tracked)
    (act : Act) : ∀ execution ∈ (books.perform act).executions, execution.Tracked := by
  cases act with
  | execute query store options =>
    intro execution hexecution
    rcases List.mem_append.mp hexecution with hold | hnew
    · exact h execution hold
    · rw [List.mem_singleton.mp hnew]
      exact Execution.tracked_start query store options books.cancelled
  | ask n ask =>
    rw [perform]
    cases hn : books.executions[n]? with
    | none => exact h
    | some asked =>
      intro execution hexecution
      rcases List.mem_or_eq_of_mem_set hexecution with hold | rfl
      · exact h execution hold
      · exact Execution.tracked_ask (h asked (List.mem_of_getElem? hn)) ask books.cancelled
  | closeCapture =>
    rw [perform]
    split <;> exact h
  | _ => exact h

lemma tracked_after {books : Books} (h : ∀ execution ∈ books.executions, execution.Tracked)
    (acts : List Act) : ∀ execution ∈ (books.after acts).executions, execution.Tracked := by
  induction acts generalizing books with
  | nil => exact h
  | cons act rest ih => exact ih (tracked_perform h act)

/-- **After every run the counters of every open cursor tell what was done.** -/
theorem exists_tells (cancelled : Cancellations) (counters : Counters) (acts : List Act)
    {execution : Execution} {cursor : Cursor}
    (hexecution : execution ∈ ((start cancelled counters).after acts).executions)
    (hcursor : execution.cursor = some cursor) : ∃ pulled, execution.Tells cursor pulled := by
  have hstart : ∀ execution ∈ (start cancelled counters).executions, execution.Tracked :=
    fun _ h => absurd h List.not_mem_nil
  exact (tracked_after hstart acts execution hexecution cursor hcursor).exists_tells

end Books

end DocQuery
