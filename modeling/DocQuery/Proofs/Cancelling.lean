import DocQuery.Proofs.Delivery

/-!
Cancelling an execution: between two calls, or by an item while it is pulled.

* `Pull.Pulls.exists_append`: the item that cancels the token is the last one pulled;
* `Pull.drain_of_cancelled_midway`: a cancellation while a scan is drained is the end of it;
* `Cursor.result_advance_of_refused`: a call that starts too late is refused;
* `Reading.Stopped.rest_after` and `Reading.Stopped.fails`: once its token is cancelled a cursor
  pulls nothing more, and its next call is the last;
* `Reading.unsorted_after`: no document is given before the scan is drained;
* `Query.cancellation_stops_cursor` (**cancellation**): all of this for every run of an execution.
-/

namespace DocQuery

/-! ### Cancelled while a scan is pulled -/

namespace Pull

variable {options : ExecOptions} {selector : Selector} {token : CancelToken}
  {cancelled later : Cancellations} {items rest : List ScanItem} {item : ScanItem}

/-- Pulled items are taken from the front of a scan.  The token is cancelled afterwards if it was
before or if one of them cancels it, which only the last can do, and nothing is pulled behind a
cancellation. -/
lemma Pulls.exists_append (htoken : options.token = some token)
    (h : Pulls options cancelled items later rest) :
    ∃ pulled, items = pulled ++ rest
      ∧ (later.contains token = true
        ↔ cancelled.contains token = true ∨ ∃ item ∈ pulled, item.cancels = some token)
      ∧ (∀ item ∈ pulled.dropLast, item.cancels ≠ some token)
      ∧ (cancelled.contains token = true → pulled = []) := by
  induction h with
  | nothing => exact ⟨[], rfl, by simp, by simp, fun _ => rfl⟩
  | @more cancelled later item items rest hunrefused _ ih =>
    obtain ⟨pulled, rfl, hlater, hdropLast, hnothing⟩ := ih
    have hbefore := ExecOptions.not_contains_of_unrefused htoken hunrefused
    rw [Cancellations.contains_cancelAny, hbefore, Bool.or_false, beq_iff_eq] at hlater hnothing
    refine ⟨item :: pulled, rfl, ?_, ?_, fun hcontains => ?_⟩
    · rw [hlater, hbefore]
      simp
    · cases pulled with
      | nil => simp
      | cons next pulled =>
        rw [List.dropLast_cons_of_ne_nil (List.cons_ne_nil next pulled), List.forall_mem_cons]
        exact ⟨fun hitem => List.cons_ne_nil next pulled (hnothing hitem), hdropLast⟩
    · rw [hbefore] at hcontains
      cases hcontains

/-- Draining on after a document only counts it and adds it to what is collected. -/
lemma drain_cons_document (selector : Selector) {doc : Document}
    (h : options.refusal? cancelled = none) (hitem : item.content = .ok doc)
    (rest : List ScanItem) :
    (drain options selector cancelled (item :: rest)).rest
        = (drain options selector (cancelled.cancelAny item.cancels) rest).rest
      ∧ (drain options selector cancelled (item :: rest)).cancelled
        = (drain options selector (cancelled.cancelAny item.cancels) rest).cancelled
      ∧ ∀ e, (drain options selector (cancelled.cancelAny item.cancels) rest).result = .error e →
        (drain options selector cancelled (item :: rest)).result = .error e := by
  cases hmatch : selector.isMatch doc with
  | false =>
    rw [drain_cons_rejected h hitem hmatch]
    exact ⟨rfl, rfl, fun e he => he⟩
  | true =>
    rw [drain_cons_match h hitem hmatch]
    refine ⟨rfl, rfl, fun e he => ?_⟩
    rw [afterMatch, he]
    rfl

/-- The error that an item is the occasion of when the token is cancelled while it is pulled: its
own failure, which is met first, or else the cancellation. -/
def stopError (item : ScanItem) : QueryError :=
  match item.content with
  | .ok _ => .cancelled .cancelled
  | .error cause => .storeFailure cause

/-- A cancellation while a scan is drained is the end of it: the item that cancels the token is the
last one pulled, and nothing is collected. -/
lemma drain_of_cancelled_midway (htoken : options.token = some token)
    (hbefore : cancelled.contains token = false)
    (hafter : (drain options selector cancelled items).cancelled.contains token = true) :
    ∃ before item, items = before ++ item :: (drain options selector cancelled items).rest
      ∧ item.cancels = some token
      ∧ (drain options selector cancelled items).result = .error (stopError item) := by
  induction items generalizing cancelled with
  | nil =>
    cases h : options.refusal? cancelled with
    | none =>
      rw [drain_nil h, stop, hbefore] at hafter
      cases hafter
    | some reason =>
      rw [drain_of_refused h, stop, hbefore] at hafter
      cases hafter
  | cons item rest ih =>
    cases h : options.refusal? cancelled with
    | some reason =>
      rw [drain_of_refused h, stop, hbefore] at hafter
      cases hafter
    | none =>
      cases hitem : item.content with
      | error cause =>
        rw [drain_cons_error h hitem] at hafter ⊢
        rw [stop, Cancellations.contains_cancelAny, hbefore, Bool.or_false, beq_iff_eq] at hafter
        exact ⟨[], item, rfl, hafter, by rw [stopError, hitem]; rfl⟩
      | ok doc =>
        obtain ⟨hrest, hcancelled, hresult⟩ := drain_cons_document selector h hitem rest
        rw [hcancelled] at hafter
        rw [hrest]
        by_cases hcancels : item.cancels = some token
        · -- Behind this item the draining is refused.
          have hcontains : (cancelled.cancelAny item.cancels).contains token = true := by
            rw [Cancellations.contains_cancelAny, hcancels, beq_self_eq_true, Bool.true_or]
          have hrefused := ExecOptions.refusal?_of_contains htoken hcontains
          rw [drain_of_refused hrefused] at hresult ⊢
          refine ⟨[], item, rfl, hcancels, ?_⟩
          rw [hresult _ rfl, stopError, hitem]
        · have hcontains : (cancelled.cancelAny item.cancels).contains token = false := by
            rw [Cancellations.contains_cancelAny, hbefore, Bool.or_false, beq_eq_false_iff_ne]
            exact hcancels
          obtain ⟨before, last, hsplit, hlast, herror⟩ := ih hcontains hafter
          refine ⟨item :: before, last, ?_, hlast, hresult _ herror⟩
          rw [List.cons_append, ← hsplit]

end Pull

/-! ### Cancelled before and during a step -/

namespace Cursor

variable {cursor : Cursor} {cancelled : Cancellations} {token : CancelToken}

/-- A step that is refused from its start gives the reason, unless nothing is left of the limit. -/
lemma result_advance_of_refused {reason : CancelReason} (hfinished : cursor.finished = false)
    (hlimit : cursor.remaining ≠ some 0)
    (hrefused : cursor.options.refusal? cancelled = some reason) :
    (cursor.advance cancelled).result = .error (.cancelled reason) := by
  rw [advance_of_unfinished hfinished, result_settle]
  refine produce_cases cursor cancelled (fun h => absurd h hlimit) (fun _ _ => ?_)
    (fun docs _ _ _ => ?_) (fun _ _ _ => ?_)
  · rw [stream, Pull.next_of_refused hrefused, afterNext_of_error rfl]
  · rw [takeSorted_of_refused hrefused]
  · rw [drainSorted, Pull.drain_of_refused hrefused, afterDrain_of_error rfl]

/-- A cursor that is not finished has something left of its limit. -/
def Open (cursor : Cursor) : Prop := cursor.finished = false → cursor.remaining ≠ some 0

lemma open_advance (h : cursor.Open) : (cursor.advance cancelled).cursor.Open := by
  cases hfinished : cursor.finished with
  | true =>
    rw [advance_of_finished hfinished]
    exact h
  | false =>
    rw [advance_of_unfinished hfinished]
    intro hunfinished hlimit
    obtain ⟨finished, hsettle⟩ := exists_finished_settle (cursor.produce cancelled)
    rw [hsettle] at hlimit
    rw [finished_settle_of_limit hlimit] at hunfinished
    cases hunfinished

/-- Sorted matches are kept as long as the cursor. -/
lemma exists_sorted_takeSorted (cursor : Cursor) (docs : List Document)
    (cancelled : Cancellations) :
    ∃ left, (cursor.takeSorted docs cancelled).cursor.sorted = some left := by
  unfold takeSorted
  split
  · exact ⟨docs, rfl⟩
  · split
    · exact ⟨[], rfl⟩
    · rename_i later _
      exact ⟨later, rfl⟩

lemma exists_sorted_afterDrain {pull : Pull (List Document)} {docs : List Document}
    (cursor : Cursor) (keys : List SortKey) (h : pull.result = .ok docs) :
    ∃ left, (cursor.afterDrain keys pull).cursor.sorted = some left := by
  rw [afterDrain_of_ok h]
  exact exists_sorted_takeSorted _ _ _

/-- Under sort keys no document is given as long as there are no sorted matches. -/
lemma unsorted_produce (hsort : cursor.query.sort ≠ []) :
    (cursor.produce cancelled).cursor.sorted = none →
      cursor.sorted = none ∧ ∀ doc, (cursor.produce cancelled).result ≠ .ok (some doc) := by
  refine produce_cases cursor cancelled (fun _ h => ?_) (fun _ hnil => absurd hnil hsort)
    (fun docs _ _ _ h => ?_) (fun _ _ hsorted h => ⟨hsorted, fun doc hdoc => ?_⟩)
  · exact ⟨h, fun doc hdoc => by cases hdoc⟩
  · obtain ⟨left, hleft⟩ := exists_sorted_takeSorted cursor docs cancelled
    rw [hleft] at h
    cases h
  · rw [drainSorted] at h hdoc
    cases hpull : (Pull.drain cursor.options cursor.query.selector cancelled
        cursor.rest).result with
    | error e =>
      rw [afterDrain_of_error hpull] at hdoc
      cases hdoc
    | ok docs =>
      obtain ⟨left, hleft⟩ := exists_sorted_afterDrain cursor cursor.query.sort hpull
      rw [hleft] at h
      cases h

lemma unsorted_advance (hsort : cursor.query.sort ≠ [])
    (h : (cursor.advance cancelled).cursor.sorted = none) :
    cursor.sorted = none ∧ ∀ doc, (cursor.advance cancelled).result ≠ .ok (some doc) := by
  cases hfinished : cursor.finished with
  | true =>
    rw [advance_of_finished hfinished] at h ⊢
    exact ⟨h, fun doc hdoc => by cases hdoc⟩
  | false =>
    rw [advance_of_unfinished hfinished] at h ⊢
    obtain ⟨finished, hsettle⟩ := exists_finished_settle (cursor.produce cancelled)
    rw [hsettle] at h
    rw [result_settle]
    exact unsorted_produce hsort h

/-- Under sort keys a step during which the token is cancelled was draining the scan.  It ends with
the item that cancels the token, and there are no sorted matches. -/
lemma advance_of_cancelled_midway (htoken : cursor.options.token = some token)
    (hsort : cursor.query.sort ≠ []) (hbefore : cancelled.contains token = false)
    (hafter : (cursor.advance cancelled).cancelled.contains token = true) :
    cursor.sorted = none
      ∧ ∃ before item, cursor.rest = before ++ item :: (cursor.advance cancelled).cursor.rest
        ∧ item.cancels = some token
        ∧ (cursor.advance cancelled).result = .error (Pull.stopError item) := by
  cases hfinished : cursor.finished with
  | true =>
    rw [advance_of_finished hfinished, hbefore] at hafter
    cases hafter
  | false =>
    rw [advance_of_unfinished hfinished] at hafter ⊢
    obtain ⟨finished, hsettle⟩ := exists_finished_settle (cursor.produce cancelled)
    rw [cancelled_settle] at hafter
    rw [hsettle, result_settle]
    revert hafter
    refine produce_cases cursor cancelled (fun _ hafter => ?_) (fun _ hnil => absurd hnil hsort)
      (fun docs _ _ _ hafter => ?_) (fun _ _ hsorted hafter => ?_)
    · change cancelled.contains token = true at hafter
      rw [hbefore] at hafter
      cases hafter
    · rw [(scan_takeSorted cursor docs cancelled).1, hbefore] at hafter
      cases hafter
    · rw [drainSorted, (scan_afterDrain cursor _ _).1] at hafter
      obtain ⟨before, item, hsplit, hcancels, hresult⟩ :=
        Pull.drain_of_cancelled_midway htoken hbefore hafter
      rw [drainSorted, afterDrain_of_error hresult]
      exact ⟨hsorted, before, item, hsplit, hcancels, rfl⟩

end Cursor

/-! ### Runs of a cursor whose token is cancelled -/

namespace Reading

variable {reading : Reading} {token : CancelToken}

/-- The token of a cursor is cancelled. -/
structure Stopped (reading : Reading) (token : CancelToken) : Prop where
  options : reading.cursor.options.token = some token
  cancelled : reading.cancelled.contains token = true

/-- Whatever happens next, the token stays cancelled and nothing is pulled. -/
lemma Stopped.move (h : reading.Stopped token) (m : Move) :
    (reading.move m).Stopped token ∧ (reading.move m).cursor.rest = reading.cursor.rest := by
  cases m with
  | next =>
    obtain ⟨hcancelled, hrest⟩ := (Cursor.pulls_advance reading.cursor
      reading.cancelled).eq_of_refused (ExecOptions.refusal?_of_contains h.options h.cancelled)
    have hsame := Cursor.sameExecution_advance reading.cursor reading.cancelled
    refine ⟨⟨?_, ?_⟩, hrest⟩
    · rw [Reading.move, hsame.options]
      exact h.options
    · rw [Reading.move, hcancelled]
      exact h.cancelled
  | cancel other =>
    refine ⟨⟨h.options, ?_⟩, rfl⟩
    rw [Reading.move, Cancellations.contains_cancel, h.cancelled, Bool.or_true]

/-- Once its token is cancelled a cursor pulls nothing more. -/
lemma Stopped.rest_after (h : reading.Stopped token) (moves : List Move) :
    (reading.after moves).cursor.rest = reading.cursor.rest := by
  refine (after_induction
    (motive := fun now => now.Stopped token ∧ now.cursor.rest = reading.cursor.rest)
    ⟨h, rfl⟩ (fun now m hnow => ?_) moves).2
  obtain ⟨hstopped, hrest⟩ := hnow.1.move m
  exact ⟨hstopped, hrest.trans hnow.2⟩

/-- The next call gives an error, which is the last result. -/
structure Fails (reading : Reading) (e : QueryError) : Prop where
  reply : reading.reply = .error e
  collected : (reading.cursor.collect reading.cancelled).result = .error e
  later : ∀ moves, (reading.move .next).replies moves = List.replicate (calls moves) (.ok none)

lemma fails_of_reply {e : QueryError} (h : reading.reply = .error e) : reading.Fails e where
  reply := h
  collected := by rw [Cursor.collect_of_error h]
  later moves := by
    refine replies_of_finished (finished_of_reply fun doc hdoc => ?_) moves
    rw [h] at hdoc
    cases hdoc

/-- A call that comes after the cancellation gives it as the last result, unless the cursor is
finished or nothing is left of its limit. -/
lemma Stopped.fails (h : reading.Stopped token) (hfinished : reading.cursor.finished = false)
    (hopen : reading.cursor.Open) : reading.Fails (.cancelled .cancelled) :=
  fails_of_reply (Cursor.result_advance_of_refused hfinished (hopen hfinished)
    (ExecOptions.refusal?_of_contains h.options h.cancelled))

lemma open_after (h : reading.cursor.Open) (moves : List Move) :
    (reading.after moves).cursor.Open := by
  refine after_induction (motive := fun now => now.cursor.Open) h (fun now m hnow => ?_) moves
  cases m with
  | next => exact Cursor.open_advance hnow
  | cancel other => exact hnow

/-- Under sort keys a run gives no document as long as there are no sorted matches. -/
lemma unsorted_after {moves : List Move} (hsort : reading.cursor.query.sort ≠ [])
    (h : (reading.after moves).cursor.sorted = none) :
    reading.cursor.sorted = none ∧ ∀ doc, .ok (some doc) ∉ reading.replies moves := by
  induction moves generalizing reading with
  | nil => exact ⟨h, fun doc hdoc => List.not_mem_nil hdoc⟩
  | cons m rest ih =>
    cases m with
    | cancel other =>
      have hlater : (reading.move (.cancel other)).cursor.query.sort ≠ [] := hsort
      exact ih hlater h
    | next =>
      have hsame := Cursor.sameExecution_advance reading.cursor reading.cancelled
      have hlater : (reading.move .next).cursor.query.sort ≠ [] := by
        rw [Reading.move, hsame.query]
        exact hsort
      obtain ⟨hunsorted, hreplies⟩ := ih hlater h
      obtain ⟨hsorted, hreply⟩ := Cursor.unsorted_advance hsort hunsorted
      refine ⟨hsorted, fun doc hdoc => ?_⟩
      rw [replies, List.mem_cons] at hdoc
      cases hdoc with
      | inl hfirst => exact hreply doc hfirst.symm
      | inr hrest => exact hreplies doc hrest

end Reading

namespace Query

variable {query : Query} {store : Store} {options : ExecOptions} {cancelled : Cancellations}

/-- An execution opens as a cursor over some scan. -/
lemma exists_scan_of_execute {cursor : Cursor}
    (h : (query.execute store options cancelled).result = .ok cursor) :
    ∃ scan items, cursor = .ofScan query options scan items := by
  cases hrefusal : options.refusal? cancelled with
  | some reason =>
    rw [execute, hrefusal] at h
    cases h
  | none =>
    cases hitems : (query.openScan store).2 with
    | error cause =>
      rw [execute, hrefusal] at h
      simp only [hitems] at h
      cases h
    | ok items =>
      rw [result_execute hrefusal (Prod.ext rfl hitems), Except.ok.injEq] at h
      exact ⟨_, items, h.symm⟩

/-- **Cancellation stops an execution at once.**  An execution whose token is cancelled already is
refused, whatever the store.  In every run of another one, and for every call in it:

* the items that the call pulls are the next ones of the scan, and the item that cancels the token
  is the last of them;
* once the token is cancelled nothing is pulled any more, and the next call of a cursor that is not
  finished gives the cancellation as the last result;
* a cancellation while a scan is drained for sorting is the end of the draining: the same call gives
  it as the last result, or the failure of the very item that cancels the token, and the run gives
  no document at all. -/
theorem cancellation_stops_cursor (query : Query) (options : ExecOptions) (token : CancelToken)
    (cancelled : Cancellations) (htoken : options.token = some token) :
    (cancelled.contains token = true → ∀ store other : Store,
        (query.execute store options cancelled).result = .error (.cancelled .cancelled)
          ∧ query.execute store options cancelled = query.execute other options cancelled)
      ∧ ∀ (store : Store) (cursor : Cursor),
        (query.execute store options cancelled).result = .ok cursor →
        ∀ moves,
          let start : Reading := ⟨cursor, cancelled⟩
          let now := start.after moves
          let next := now.move .next
          (∃ pulled, now.cursor.rest = pulled ++ next.cursor.rest
              ∧ (next.cancelled.contains token = true
                ↔ now.cancelled.contains token = true ∨ ∃ item ∈ pulled, item.cancels = some token)
              ∧ (∀ item ∈ pulled.dropLast, item.cancels ≠ some token)
              ∧ (now.cancelled.contains token = true → pulled = []))
            ∧ (now.cancelled.contains token = true →
              (∀ later, (now.after later).cursor.rest = now.cursor.rest)
                ∧ (now.cursor.finished = false → query.limit ≠ some 0 →
                  now.Fails (.cancelled .cancelled)))
            ∧ (query.sort ≠ [] → now.cancelled.contains token = false →
              next.cancelled.contains token = true →
              ∃ before item, now.cursor.rest = before ++ item :: next.cursor.rest
                ∧ item.cancels = some token
                ∧ now.Fails (Pull.stopError item)
                ∧ ∀ later doc, .ok (some doc) ∉ start.replies (moves ++ .next :: later)) := by
  refine ⟨fun hcontains store other => ?_, fun store cursor hexecute moves => ?_⟩
  · have hrefused := ExecOptions.refusal?_of_contains htoken hcontains
    constructor
    · rw [execute, hrefused]
    · rw [execute, execute, hrefused]
  intro start now next
  obtain ⟨scan, items, rfl⟩ := exists_scan_of_execute hexecute
  have hsame : start.cursor.SameExecution now.cursor := start.sameExecution_after moves
  have hnow : now.cursor.options.token = some token := by
    rw [hsame.options]
    exact htoken
  refine ⟨?_, fun hcontains => ?_, fun hsort hbefore hafter => ?_⟩
  · exact (Cursor.pulls_advance now.cursor now.cancelled).exists_append hnow
  · have hstopped : now.Stopped token := ⟨hnow, hcontains⟩
    refine ⟨hstopped.rest_after, fun hfinished hlimit => hstopped.fails hfinished ?_⟩
    have hopen : start.cursor.Open := fun _ => hlimit
    exact Reading.open_after hopen moves
  · have hkeys : now.cursor.query.sort ≠ [] := by
      rw [hsame.query]
      exact hsort
    obtain ⟨hsorted, before, item, hsplit, hcancels, hresult⟩ :=
      Cursor.advance_of_cancelled_midway hnow hkeys hbefore hafter
    have hfails : now.Fails (Pull.stopError item) := Reading.fails_of_reply hresult
    refine ⟨before, item, hsplit, hcancels, hfails, fun later doc hdoc => ?_⟩
    obtain ⟨-, hreplies⟩ := Reading.unsorted_after hsort hsorted
    rw [Reading.replies_append, Reading.replies, hfails.reply, hfails.later] at hdoc
    simp only [List.mem_append, List.mem_cons, List.mem_replicate] at hdoc
    rcases hdoc with hearlier | hnever | ⟨-, hnever⟩
    · exact hreplies doc hearlier
    · cases hnever
    · cases hnever

/-- All documents in the order of the key `k`. -/
def byKey : Query := ⟨.always, none, [⟨⟨["k"]⟩, .ascending⟩], 0, none⟩

/-- An execution that the token `stop` cancels. -/
def stoppable : ExecOptions := ⟨some "stop", none, 100⟩

/-- The pull of the second of these documents cancels the token `stop`. -/
def tripwire : List ScanItem :=
  [.ofDocument ⟨"a", none, .object [("k", .string "y")]⟩,
    ⟨.ok ⟨"b", none, .object [("k", .string "x")]⟩, some "stop"⟩,
    .ofDocument ⟨"c", none, .object [("k", .string "z")]⟩]

/-- The query is refused once the token is cancelled, stops when it is cancelled before the first
call, and stops at the second document when nothing else cancels it. -/
theorem byKey_stops_at_tripwire :
    stoppable.token = some "stop"
      ∧ (Cancellations.empty.cancel "stop").contains "stop" = true
      ∧ (byKey.execute ⟨.ok tripwire, fun _ => none⟩ stoppable (Cancellations.empty.cancel "stop")
        ).result = .error (.cancelled .cancelled)
      ∧ ∃ cursor,
        (byKey.execute ⟨.ok tripwire, fun _ => none⟩ stoppable .empty).result = .ok cursor
        ∧ ((Reading.mk cursor .empty).after [.cancel "stop"]).Fails (.cancelled .cancelled)
        ∧ ∃ before item, cursor.rest
              = before ++ item :: ((Reading.mk cursor .empty).move .next).cursor.rest
            ∧ item.cancels = some "stop"
            ∧ (Reading.mk cursor .empty).Fails (Pull.stopError item)
            ∧ ∀ later doc,
              .ok (some doc) ∉ (Reading.mk cursor .empty).replies (.next :: later) := by
  obtain ⟨hopening, -⟩ := cancellation_stops_cursor byKey stoppable "stop"
    (Cancellations.empty.cancel "stop") rfl
  obtain ⟨-, hruns⟩ := cancellation_stops_cursor byKey stoppable "stop" .empty rfl
  have hcalls := hruns ⟨.ok tripwire, fun _ => none⟩ _ rfl
  obtain ⟨-, hcancelled, -⟩ := hcalls [.cancel "stop"]
  obtain ⟨-, -, hdraining⟩ := hcalls []
  refine ⟨rfl, rfl, (hopening rfl _ ⟨.ok [], fun _ => none⟩).1, _, rfl, ?_, ?_⟩
  · exact (hcancelled rfl).2 rfl (by decide)
  · exact hdraining (List.cons_ne_nil _ _) rfl rfl

/-- A failing item that cancels the token hides the cancellation: under sort keys the call that
pulls it gives the failure. -/
theorem failure_hides_cancellation :
    ¬ ∀ (query : Query) (options : ExecOptions) (token : CancelToken) (cancelled : Cancellations)
      (store : Store) (cursor : Cursor), options.token = some token → query.limit ≠ some 0 →
      query.sort ≠ [] → (query.execute store options cancelled).result = .ok cursor →
      ∀ moves,
        let now := (Reading.mk cursor cancelled).after moves
        now.cancelled.contains token = false → (now.move .next).cancelled.contains token = true →
          now.reply = .error (.cancelled .cancelled) := by
  intro h
  have hreply := h byKey stoppable "stop" .empty
    ⟨.ok [⟨.error (.backend "disk gone"), some "stop"⟩], fun _ => none⟩ _ rfl (by decide)
    (List.cons_ne_nil _ _) rfl [] rfl rfl
  cases hreply

end Query

end DocQuery
