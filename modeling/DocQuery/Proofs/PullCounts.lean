import DocQuery.Proofs.Delivery
import DocQuery.Proofs.MatchCounts

/-!
How far a cursor pulls from its scan.

* `Reading.pullCount` and `Query.itemsFor?`: how many items a run takes from the scan, and how many
  have to leave it for so many documents to be yielded;
* `Reading.itemsFor?_of_yielded`: without sort keys a run whose calls have all given documents has
  taken just as many;
* `Reading.rest_after_of_limit`: nothing is taken once the limit is reached;
* `Reading.of_finished`: a cursor is finished after an error, at its limit or with nothing left;
* `Reading.PullsAsNeeded` and `Query.pulls_and_counts` (**main statement**): so a cursor pulls as
  far as it must and not further, and its counters tell what it has pulled and yielded.
-/

namespace DocQuery

/-! ### Positions of matches -/

/-- How many items have to leave a scan for so many documents to be yielded without sort keys: all
up to the last of as many matches behind those to skip. -/
def Query.itemsFor? (query : Query) (items : List ScanItem) : Nat → Option Nat
  | 0 => some 0
  | k + 1 => (items.findIdxs (·.isMatch query.selector))[query.skip + k]?.map (· + 1)

/-- The index of an item with a property comes behind those of the items before it. -/
lemma getElem?_findIdxs_append {α : Type} {p : α → Bool} {item : α} (h : p item = true)
    (before rest : List α) :
    ((before ++ item :: rest).findIdxs p)[before.countP p]? = some before.length := by
  have hbehind : (before.findIdxs p).length ≤ before.countP p := Nat.le_of_eq List.length_findIdxs
  rw [List.findIdxs_append, List.getElem?_append_right hbehind, List.length_findIdxs, Nat.sub_self,
    List.findIdxs_cons, if_pos h, List.getElem?_cons_zero, Nat.zero_add]

lemma Query.itemsFor?_of_match {query : Query} {before rest : List ScanItem} {item : ScanItem}
    {k : Nat} (hitem : item.isMatch query.selector = true)
    (hbefore : ScanItem.countMatches query.selector before = query.skip + k) :
    query.itemsFor? (before ++ item :: rest) (k + 1) = some (before.length + 1) := by
  rw [itemsFor?, ← hbefore, ScanItem.countMatches, getElem?_findIdxs_append hitem]
  rfl

/-! ### What runs take from a scan -/

lemma calls_append (moves later : List Move) : calls (moves ++ later) = calls moves + calls later :=
  List.count_append

lemma Pull.Pulls.suffix {options : ExecOptions} {cancelled later : Cancellations}
    {items rest : List ScanItem} (h : Pulls options cancelled items later rest) :
    rest <:+ items := by
  induction h with
  | nothing => exact List.suffix_refl _
  | more _ _ ih => exact ih.trans (List.suffix_cons _ _)

namespace Cursor

variable {cursor : Cursor} {cancelled : Cancellations}

/-- At its limit a cursor takes nothing more. -/
lemma advance_of_limit (h : cursor.remaining = some 0) (cancelled : Cancellations) :
    (cursor.advance cancelled).cursor.rest = cursor.rest
      ∧ (cursor.advance cancelled).cursor.remaining = some 0 := by
  cases hfinished : cursor.finished with
  | true =>
    rw [advance_of_finished hfinished]
    exact ⟨rfl, h⟩
  | false =>
    rw [advance_of_unfinished hfinished, produce_of_limit h]
    exact ⟨rfl, h⟩

/-- A step that reports the end below the limit has taken all that was left. -/
lemma rest_advance_of_end (hfinished : cursor.finished = false) (hlimit : cursor.remaining ≠ some 0)
    (hsort : cursor.query.sort = []) (h : (cursor.advance cancelled).result = .ok none) :
    (cursor.advance cancelled).cursor.rest = [] := by
  obtain ⟨hrest, hresult⟩ := advance_of_sort_nil hfinished hlimit hsort cancelled
  rw [hresult] at h
  rw [hrest]
  rcases hpull : (Pull.next cursor.options cursor.query.selector cursor.skipLeft cancelled
      cursor.rest).result with e | _ | found
  · rw [hpull] at h
    cases h
  · exact Pull.rest_next_of_end hpull
  · rw [hpull] at h
    cases h

/-- The first step under sort keys drains an undisturbed scan without failures. -/
lemma rest_advance_of_sort (hfinished : cursor.finished = false)
    (hlimit : cursor.remaining ≠ some 0) (hsort : cursor.query.sort ≠ [])
    (hsorted : cursor.sorted = none) (hfailure : ScanItem.failure? cursor.rest = none)
    (hquiet : cursor.options.Undisturbed cancelled cursor.rest) :
    (cursor.advance cancelled).cursor.rest = [] := by
  have hdrain := Pull.drain_of_undisturbed cursor.query.selector hquiet
  rw [hfailure] at hdrain
  obtain ⟨finished, hsettle⟩ := exists_finished_settle (cursor.produce cancelled)
  rw [advance_of_unfinished hfinished, hsettle, produce_of_unsorted hlimit hsort hsorted,
    drainSorted, (scan_afterDrain cursor _ _).2]
  exact Pull.rest_drain_of_ok hdrain

end Cursor

namespace Reading

variable {reading : Reading} {moves : List Move} {query : Query} {options : ExecOptions}
  {scan : ScanKind} {items : List ScanItem}

/-- How many items a run takes from the scan. -/
def pullCount (reading : Reading) (moves : List Move) : Nat :=
  reading.cursor.rest.length - (reading.after moves).cursor.rest.length

lemma suffix_after (reading : Reading) (moves : List Move) :
    (reading.after moves).cursor.rest <:+ reading.cursor.rest := by
  refine after_induction (motive := fun now => now.cursor.rest <:+ reading.cursor.rest)
    (List.suffix_refl _) (fun now m h => ?_) moves
  cases m with
  | next => exact (Cursor.pulls_advance now.cursor now.cancelled).suffix.trans h
  | cancel token => exact h

lemma length_replies (reading : Reading) (moves : List Move) :
    (reading.replies moves).length = calls moves := by
  induction moves generalizing reading with
  | nil => rfl
  | cons m rest ih =>
    cases m with
    | next => rw [replies, List.length_cons, ih, calls_next]
    | cancel token => rw [replies, ih, calls_cancel]

/-- A run of calls on a cursor, as an execution of its query. -/
def execution (reading : Reading) (query : Query) (items : List ScanItem) (moves : List Move) :
    Execution where
  query := query
  scan := items
  rest := (reading.after moves).cursor.rest
  cursor := some (reading.after moves).cursor
  results := reading.replies moves

/-- The counters are right after every run. -/
lemma tracks_after (hstart : reading.cursor = .ofScan query options scan items)
    (moves : List Move) :
    (reading.execution query items moves).Tracks (reading.after moves).cursor := by
  induction moves using List.reverseRecOn with
  | nil =>
    rw [show (reading.after []).cursor = .ofScan query options scan items from hstart]
    exact {
      query := rfl
      counted := Cursor.counted_ofScan query options scan items
      matched := Nat.zero_add _
      returned := rfl
      streams := fun _ => Cursor.streams_ofScan query options scan items }
  | append_singleton moves m ih =>
    cases m with
    | next =>
      obtain ⟨hquery, hcounted, hmatched, hreturned, hstreams⟩ :=
        ih.next (reading.after moves).cancelled
      rw [after_append]
      refine ⟨hquery, hcounted, hmatched, ?_, hstreams⟩
      rw [execution, replies_append]
      exact hreturned
    | cancel token =>
      rw [after_append]
      refine ⟨ih.query, ih.counted, ih.matched, ?_, ih.streams⟩
      rw [execution, replies_append, replies, replies, List.append_nil]
      exact ih.returned

/-- A run does not change the query. -/
lemma query_after (hstart : reading.cursor = .ofScan query options scan items)
    (moves : List Move) : (reading.after moves).cursor.query = query :=
  (tracks_after hstart moves).query

/-! ### Yielding -/

/-- Without a call nothing is done. -/
lemma cursor_after_of_calls (h : calls moves = 0) :
    (reading.after moves).cursor = reading.cursor := by
  induction moves generalizing reading with
  | nil => rfl
  | cons m rest ih =>
    cases m with
    | next =>
      rw [calls_next] at h
      cases h
    | cancel token =>
      rw [calls_cancel] at h
      exact ih h

/-- A run that has given a document with each call has stopped right behind a match. -/
lemma exists_match_of_yielded (hsort : reading.cursor.query.sort = []) (hcalls : calls moves ≠ 0)
    (h : (documents (reading.replies moves)).length = calls moves) :
    ∃ before item, item.isMatch reading.cursor.query.selector = true
      ∧ reading.cursor.rest = before ++ item :: (reading.after moves).cursor.rest := by
  induction moves using List.reverseRecOn with
  | nil => exact absurd rfl hcalls
  | append_singleton moves m ih =>
    rw [calls_append] at h hcalls
    rw [replies_append, documents_append, List.length_append] at h
    rw [after_append]
    cases m with
    | cancel token => exact ih hcalls h
    | next =>
      have h : (documents (reading.replies moves)).length
          + (documents [(reading.after moves).reply]).length = calls moves + 1 := h
      have hearlier : (documents (reading.replies moves)).length ≤ calls moves := by
        rw [← length_replies reading moves]
        exact List.length_filterMap_le _ _
      obtain ⟨doc, hreply⟩ : ∃ doc, (reading.after moves).reply = .ok (some doc) := by
        rcases hreply : (reading.after moves).reply with e | _ | doc
        · rw [hreply, show documents [.error e] = [] from rfl, List.length_nil] at h
          omega
        · rw [hreply, show documents [.ok none] = [] from rfl, List.length_nil] at h
          omega
        · exact ⟨doc, rfl⟩
      have hquery := (sameExecution_after reading moves).query
      obtain ⟨between, item, hitem, hrest⟩ :=
        Cursor.exists_match_of_advance (hquery ▸ hsort) hreply
      obtain ⟨before, hbefore⟩ := suffix_after reading moves
      refine ⟨before ++ between, item, hquery ▸ hitem, ?_⟩
      rw [List.append_assoc, ← hbefore, hrest]
      rfl

/-- **A run without sort keys whose calls have all given documents has taken just the items that
these documents need.** -/
lemma itemsFor?_of_yielded (hstart : reading.cursor = .ofScan query options scan items)
    (hsort : query.sort = [])
    (h : (documents (reading.replies moves)).length = calls moves) :
    query.itemsFor? items (calls moves) = some (reading.pullCount moves) := by
  cases hcalls : calls moves with
  | zero =>
    rw [pullCount, cursor_after_of_calls hcalls, Nat.sub_self]
    rfl
  | succ k =>
    have htracks := tracks_after hstart moves
    have hrest : reading.cursor.rest = items := by rw [hstart]; rfl
    have hquery : reading.cursor.query = query := by rw [hstart]; rfl
    obtain ⟨before, item, hitem, hitems⟩ :=
      exists_match_of_yielded (hquery ▸ hsort) (hcalls ▸ Nat.succ_ne_zero k) h
    rw [hrest] at hitems
    rw [hquery] at hitem
    -- All matches before the last one were skipped or yielded.
    have hbefore : ScanItem.countMatches query.selector before = query.skip + k := by
      obtain ⟨-, hmatched, hskipped⟩ := htracks.streams hsort
      have hreturned : (reading.after moves).cursor.returned = k + 1 :=
        htracks.returned.trans (h.trans hcalls)
      have hall : (reading.after moves).cursor.allMatches
          = ScanItem.countMatches query.selector items := htracks.matched
      rw [Cursor.allMatches, query_after hstart, hitems, ScanItem.countMatches_append,
        ScanItem.countMatches_cons, if_pos hitem] at hall
      rw [query_after hstart, hskipped (by omega)] at hmatched
      omega
    rw [pullCount, hrest, hitems, Query.itemsFor?_of_match hitem hbefore]
    simp only [List.length_append, List.length_cons, Option.some.injEq]
    omega

/-! ### The limit and the end -/

/-- At its limit a cursor takes nothing more, whatever happens. -/
lemma rest_after_of_limit (h : reading.cursor.remaining = some 0) (moves : List Move) :
    (reading.after moves).cursor.rest = reading.cursor.rest := by
  have hboth : (reading.after moves).cursor.rest = reading.cursor.rest
      ∧ (reading.after moves).cursor.remaining = some 0 := by
    refine after_induction (motive := fun now => now.cursor.rest = reading.cursor.rest
      ∧ now.cursor.remaining = some 0) ⟨rfl, h⟩ (fun now m hnow => ?_) moves
    cases m with
    | next =>
      obtain ⟨hrest, hremaining⟩ := Cursor.advance_of_limit hnow.2 now.cancelled
      exact ⟨hrest.trans hnow.1, hremaining⟩
    | cancel token => exact hnow
  exact hboth.1

/-- Nothing remains of the limit when so many documents were yielded, and only then. -/
lemma remaining_after_iff (hstart : reading.cursor = .ofScan query options scan items)
    (moves : List Move) :
    (reading.after moves).cursor.remaining = some 0
      ↔ query.limit = some (documents (reading.replies moves)).length := by
  have htracks := tracks_after hstart moves
  have hlimit := htracks.counted.limit
  rw [query_after hstart, htracks.returned] at hlimit
  rw [← hlimit]
  cases (reading.after moves).cursor.remaining with
  | none => simp
  | some n => simp [execution]

/-- Without sort keys a cursor is finished after an error, at its limit or with nothing left. -/
lemma of_finished (hstart : reading.cursor = .ofScan query options scan items)
    (hsort : query.sort = []) (h : (reading.after moves).cursor.finished = true) :
    (∃ e, .error e ∈ reading.replies moves) ∨ (reading.after moves).cursor.remaining = some 0
      ∨ (reading.after moves).cursor.rest = [] := by
  induction moves using List.reverseRecOn with
  | nil =>
    rw [show (reading.after []).cursor = .ofScan query options scan items from hstart] at h
    cases h
  | append_singleton moves m ih =>
    rw [after_append] at h ⊢
    rw [replies_append]
    cases m with
    | cancel token =>
      rw [replies, replies, List.append_nil]
      exact ih h
    | next =>
      have hquery : (reading.after moves).cursor.query.sort = [] := by
        rw [query_after hstart]
        exact hsort
      cases hfinished : (reading.after moves).cursor.finished with
      | true =>
        -- The cursor was finished before and stays as it is.
        rw [after_of_finished hfinished]
        rcases ih hfinished with ⟨e, he⟩ | hlast
        · exact .inl ⟨e, List.mem_append_left _ he⟩
        · exact .inr hlast
      | false =>
        rcases (Cursor.finished_advance_iff hfinished _).mp h with hlast | hlimit
        · rcases hreply : (reading.after moves).reply with e | _ | doc
          · exact .inl ⟨e, List.mem_append_right _ (hreply ▸ List.mem_cons_self)⟩
          · by_cases hremaining : (reading.after moves).cursor.remaining = some 0
            · exact .inr (.inl (Cursor.advance_of_limit hremaining _).2)
            · exact .inr (.inr (Cursor.rest_advance_of_end hfinished hremaining hquery hreply))
          · exact absurd hreply (hlast doc)
        · exact .inr (.inl hlimit)

/-- Nothing fails in an undisturbed run over a scan without failures. -/
lemma error_notMem_replies (hstart : reading.cursor = .ofScan query options scan items)
    (hfailure : ScanItem.failure? items = none) (hquiet : reading.Undisturbed moves)
    (e : QueryError) : .error e ∉ reading.replies moves := by
  rw [replies_of_undisturbed hquiet, hstart, Cursor.due_ofScan,
    Query.results_of_no_failure hfailure]
  intro he
  obtain ⟨k, -, hk⟩ := List.mem_map.mp he
  rw [List.getElem?_map] at hk
  cases hdoc : (query.answer (ScanItem.documents items))[k]? with
  | none =>
    rw [hdoc] at hk
    cases hk
  | some doc =>
    rw [hdoc] at hk
    cases hk

/-- Under sort keys the first call takes everything, if nothing fails and nothing stops it. -/
lemma rest_after_of_sort (hstart : reading.cursor = .ofScan query options scan items)
    (hsort : query.sort ≠ []) (hlimit : query.limit ≠ some 0)
    (hfailure : ScanItem.failure? items = none) (hquiet : reading.Undisturbed moves)
    (hcalls : calls moves ≠ 0) : (reading.after moves).cursor.rest = [] := by
  induction moves generalizing reading with
  | nil => exact absurd rfl hcalls
  | cons m rest ih =>
    cases m with
    | cancel token =>
      rw [calls_cancel] at hcalls
      exact ih hstart hquiet.move hcalls
    | next =>
      have hscan := hquiet.scan
      have hfirst : (reading.move .next).cursor.rest = [] := by
        rw [hstart] at hscan
        rw [move, hstart]
        exact Cursor.rest_advance_of_sort rfl hlimit hsort rfl hfailure hscan
      have hlater := suffix_after (reading.move .next) rest
      rw [hfirst] at hlater
      exact List.suffix_nil.mp hlater

/-! ### All of it -/

/-- What a cursor that was just opened takes from a scan without failures.

* Without sort keys, as long as all calls have given documents, it has taken just the items that
  these need.
* Once the limit is reached it takes nothing more.
* Without sort keys a call that reports the end below the limit has taken everything.
* Under sort keys the first call takes everything, unless the limit is zero. -/
structure PullsAsNeeded (reading : Reading) (query : Query) (items : List ScanItem) : Prop where
  yielded : query.sort = [] → ∀ moves,
    (documents (reading.replies moves)).length = calls moves →
    query.itemsFor? items (calls moves) = some (reading.pullCount moves)
  limit : ∀ moves later, query.limit = some (documents (reading.replies moves)).length →
    reading.pullCount (moves ++ later) = reading.pullCount moves
  ended : query.sort = [] → ∀ moves, reading.Undisturbed (moves ++ [.next]) →
    (reading.after moves).reply = .ok none →
    (∀ n, query.limit = some n → (documents (reading.replies moves)).length < n) →
    reading.pullCount (moves ++ [.next]) = items.length
  sorted : query.sort ≠ [] → query.limit ≠ some 0 → ∀ moves, reading.Undisturbed moves →
    reading.pullCount moves = if calls moves = 0 then 0 else items.length

/-- An opened cursor takes as much as it must, and not more. -/
lemma pullsAsNeeded (hstart : reading.cursor = .ofScan query options scan items)
    (hfailure : ScanItem.failure? items = none) : reading.PullsAsNeeded query items where
  yielded hsort _ hmoves := itemsFor?_of_yielded hstart hsort hmoves
  limit moves later hlimit := by
    rw [pullCount, pullCount, after_append,
      rest_after_of_limit ((remaining_after_iff hstart moves).mpr hlimit)]
  ended hsort moves hquiet hreply hlimit := by
    have hreplies : reading.replies (moves ++ [.next]) = reading.replies moves ++ [.ok none] := by
      rw [replies_append, replies, replies, hreply]
    have hfinished : (reading.after (moves ++ [.next])).cursor.finished = true := by
      rw [after_append]
      exact finished_of_reply fun doc hdoc => by cases hreply.symm.trans hdoc
    have hrest : (reading.after (moves ++ [.next])).cursor.rest = [] := by
      rcases of_finished hstart hsort hfinished with ⟨e, he⟩ | hremaining | hrest
      · exact absurd he (error_notMem_replies hstart hfailure hquiet e)
      · rw [remaining_after_iff hstart, hreplies, documents_append,
          show documents [.ok none] = [] from rfl, List.append_nil] at hremaining
        exact absurd (hlimit _ hremaining) (Nat.lt_irrefl _)
      · exact hrest
    rw [pullCount, hrest, hstart, List.length_nil, Nat.sub_zero]
    rfl
  sorted hsort hlimit moves hquiet := by
    split_ifs with hcalls
    · rw [pullCount, cursor_after_of_calls hcalls, Nat.sub_self]
    · rw [pullCount, rest_after_of_sort hstart hsort hlimit hfailure hquiet hcalls, hstart,
        List.length_nil, Nat.sub_zero]
      rfl

end Reading

namespace Query

/-- **A cursor pulls exactly as much as it must and counts it right.**  Over a scan without failures
that nothing stops it takes as many items as its results need.  Over every scan, after whatever was
called, cancelled or expired, the counters of an open cursor tell how many documents have left the
scan, how many of these match, and how many were yielded; without sort keys the other matches are
those that were skipped. -/
theorem pulls_and_counts :
    (∀ (query : Query) (store : Store) (options : ExecOptions) (cancelled : Cancellations)
        (scan : ScanKind) (items : List ScanItem),
      query.openScan store = (scan, .ok items) → ScanItem.failure? items = none →
      options.Undisturbed cancelled items →
      ∃ cursor, (query.execute store options cancelled).result = .ok cursor
        ∧ (Reading.mk cursor cancelled).PullsAsNeeded query items)
    ∧ ∀ (cancelled : Cancellations) (counters : Counters) (acts : List Act),
      ∀ execution ∈ ((Books.start cancelled counters).after acts).executions,
      ∀ cursor, execution.cursor = some cursor → ∃ pulled, execution.Tells cursor pulled := by
  constructor
  · intro query store options cancelled scan items hscan hfailure hquiet
    exact ⟨_, result_execute hquiet.unrefused hscan, Reading.pullsAsNeeded rfl hfailure⟩
  · intro cancelled counters acts execution hexecution cursor hcursor
    exact Books.exists_tells cancelled counters acts hexecution hcursor

/-- The second and the third document with the key `k`. -/
def laterWithKey : Query := ⟨.field ⟨["k"]⟩ (.presence true), none, [], 1, some 2⟩

/-- A scan in which every other document has the key `k`, and the last one too. -/
def stripedScan : List ScanItem :=
  [.ofDocument ⟨"a", none, .object []⟩, .ofDocument ⟨"b", none, .object [("k", .null)]⟩,
    .ofDocument ⟨"c", none, .object []⟩, .ofDocument ⟨"d", none, .object [("k", .null)]⟩,
    .ofDocument ⟨"e", none, .object []⟩, .ofDocument ⟨"f", none, .object [("k", .null)]⟩,
    .ofDocument ⟨"g", none, .object [("k", .null)]⟩]

/-- Two calls on an execution whose scan fails behind its first match. -/
def tornCalls : List Act :=
  [.execute withKey ⟨.ok tornScan, fun _ => none⟩ .standard, .ask 0 .next, .ask 0 .next]

/-- The first result takes four items and the second one two more; then the limit is reached and the
last match stays where it is.  A scan that fails behind its first match has given two documents. -/
theorem laterWithKey_pulls :
    laterWithKey.openScan ⟨.ok stripedScan, fun _ => none⟩ = (.fullScan, .ok stripedScan)
      ∧ ScanItem.failure? stripedScan = none
      ∧ ExecOptions.standard.Undisturbed .empty stripedScan
      ∧ (∃ cursor, (laterWithKey.execute ⟨.ok stripedScan, fun _ => none⟩ .standard .empty).result
          = .ok cursor
        ∧ (Reading.mk cursor .empty).pullCount [.next] = 4
        ∧ (Reading.mk cursor .empty).pullCount ([.next, .next] ++ [.next]) = 6)
      ∧ ∃ execution ∈ ((Books.start .empty .zero).after tornCalls).executions,
        ∃ cursor, execution.cursor = some cursor ∧ cursor.finished = true ∧ cursor.scanned = 2
          ∧ ∃ pulled, execution.Tells cursor pulled := by
  have hquiet : ExecOptions.standard.Undisturbed .empty stripedScan :=
    ExecOptions.undisturbed_of_token_none rfl rfl _ _
  obtain ⟨cursor, hcursor, hpulls⟩ := pulls_and_counts.1 laterWithKey
    ⟨.ok stripedScan, fun _ => none⟩ .standard .empty .fullScan stripedScan rfl rfl hquiet
  cases (show _ = Except.ok cursor from hcursor)
  refine ⟨rfl, rfl, hquiet, ⟨_, rfl, ?_, ?_⟩, ?_⟩
  · exact (Option.some.inj (hpulls.yielded rfl [.next] rfl)).symm
  · rw [hpulls.limit [.next, .next] [.next] rfl]
    exact (Option.some.inj (hpulls.yielded rfl [.next, .next] rfl)).symm
  · refine ⟨_, List.mem_singleton_self _, _, rfl, rfl, rfl, ?_⟩
    exact pulls_and_counts.2 .empty .zero tornCalls _ (List.mem_singleton_self _) _ rfl

end Query

end DocQuery
