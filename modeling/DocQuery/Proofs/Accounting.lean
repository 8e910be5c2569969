import DocQuery.Proofs.Calling
import DocQuery.Telemetry
import Mathlib.Algebra.BigOperators.Group.List.Basic
import Mathlib.Algebra.GroupWithZero.Nat
import Mathlib.Data.List.Induction

/-!
Every execution is accounted for exactly once, in any run of calls on any number of executions.

* `Act` and `Books`: what a caller can do, and what is known after some of it;
* `Books.perform` and `Books.after` (**runs**): what an act and a run lead to;
* `Books.Sound`: what every act keeps;
* `Books.Settled` (**accounts**): one record for each execution, counters that agree with the
  records, and captures that have collected what was recorded while they were innermost;
* `Books.settled_after` (**main statement**): a run that has given up every cursor is settled.
-/

namespace DocQuery

/-! ### Counters and captures -/

lemma Counters.foldl_count (recorded : List Summary) (before : Counters) :
    (recorded.foldl count before).total = before.total + recorded.length
      ∧ (recorded.foldl count before).failed
        = before.failed + recorded.countP (·.outcome = .failed)
      ∧ (recorded.foldl count before).cancelled
        = before.cancelled + recorded.countP (·.outcome = .cancelled)
      ∧ (recorded.foldl count before).scanned
        = before.scanned + (recorded.map (·.scanned)).sum := by
  induction recorded generalizing before with
  | nil => exact ⟨rfl, rfl, rfl, rfl⟩
  | cons summary rest ih =>
    obtain ⟨htotal, hfailed, hcancelled, hscanned⟩ := ih (before.count summary)
    rw [List.foldl_cons, htotal, hfailed, hcancelled, hscanned, List.countP_cons, List.countP_cons,
      List.length_cons, List.map_cons, List.sum_cons]
    simp only [count, decide_eq_true_eq]
    omega

namespace Telemetry

lemma counters_observeAll (telemetry : Telemetry) (events : List Event) :
    (telemetry.observeAll events).counters
      = (summaries events).foldl Counters.count telemetry.counters := by
  induction events generalizing telemetry with
  | nil => rfl
  | cons event rest ih => cases event <;> exact ih _

/-- Summaries go to the innermost capture, in order. -/
lemma captures_observeAll (telemetry : Telemetry) (events : List Event) :
    (telemetry.observeAll events).captures
      = telemetry.captures.modifyHead (· ++ summaries events) := by
  induction events generalizing telemetry with
  | nil =>
    rw [summaries_nil, observeAll, List.foldl_nil]
    cases telemetry.captures with
    | nil => rfl
    | cons innermost outer => rw [List.modifyHead_cons, List.append_nil]
  | cons event rest ih =>
    cases event
    case finished summary =>
      refine (ih _).trans ?_
      cases hcaptures : telemetry.captures with
      | nil => simp only [observe, record, hcaptures, deliver, List.modifyHead_nil]
      | cons innermost outer =>
        simp only [observe, record, hcaptures, deliver, List.modifyHead_cons, List.append_assoc]
        rfl
    all_goals exact ih _

end Telemetry

/-! ### Runs -/

/-- What a caller can do.  Executions are known by their number, in the order of opening. -/
inductive Act where
  | execute (query : Query) (store : Store) (options : ExecOptions)
  | ask (execution : Nat) (ask : Execution.Ask)
  | cancel (token : CancelToken)
  | openCapture
  /-- Ends the innermost capture. -/
  | closeCapture

/-- The query that an act executes. -/
def Act.query? : Act → Option Query
  | .execute query _ _ => some query
  | _ => none

/-- A summary that was recorded, with the number of its execution and of the capture that was the
innermost one in force. -/
structure Record where
  execution : Nat
  capture : Option Nat
  summary : Summary

/-- What is known after some acts. -/
structure Books where
  executions : List Execution
  cancelled : Cancellations
  telemetry : Telemetry
  /-- All that was recorded, in order. -/
  records : List Record
  /-- The numbers of the captures in force, the innermost first. -/
  inForce : List Nat
  /-- How many captures were opened. -/
  opened : Nat
  /-- What the captures that are not in force any more have returned. -/
  returned : List (Nat × List Summary)

namespace Books

/-- Nothing was done yet; some tokens may be cancelled and some executions counted. -/
def start (cancelled : Cancellations) (counters : Counters) : Books :=
  ⟨[], cancelled, ⟨counters, [], []⟩, [], [], 0, []⟩

/-- Enters what a call on an execution has done. -/
def enter (books : Books) (n : Nat) (executions : List Execution) (call : Call) : Books :=
  { books with
    executions := executions
    cancelled := call.cancelled
    telemetry := books.telemetry.observeAll call.events
    records :=
      books.records
        ++ (summaries call.events).map fun summary => ⟨n, books.inForce.head?, summary⟩ }

/-- What an act leads to.  An execution that was not opened cannot be asked, and a capture that is
not in force cannot be ended. -/
def perform (books : Books) : Act → Books
  | .execute query store options =>
    let call := Execution.start query store options books.cancelled
    books.enter books.executions.length (books.executions ++ [call.execution]) call
  | .ask n ask =>
    match books.executions[n]? with
    | none => books
    | some execution =>
      let call := execution.ask ask books.cancelled
      books.enter n (books.executions.set n call.execution) call
  | .cancel token => { books with cancelled := books.cancelled.cancel token }
  | .openCapture =>
    { books with
      telemetry := books.telemetry.openCapture
      inForce := books.opened :: books.inForce
      opened := books.opened + 1 }
  | .closeCapture =>
    match books.inForce with
    | [] => books
    | innermost :: outer =>
      let closed := books.telemetry.closeCapture
      { books with
        telemetry := closed.2
        inForce := outer
        returned := books.returned ++ [(innermost, closed.1)] }

/-- What a run leads to. -/
def after (books : Books) (acts : List Act) : Books := acts.foldl perform books

/-! ### What every act keeps -/

/-- All summaries that were recorded, in order. -/
def recorded (books : Books) : List Summary := books.records.map (·.summary)

/-- What was recorded about an execution. -/
def recordedOf (books : Books) (n : Nat) : List Summary :=
  (books.records.filter (·.execution = n)).map (·.summary)

/-- What was recorded while a capture was the innermost one. -/
def collectedBy (books : Books) (capture : Nat) : List Summary :=
  (books.records.filter (·.capture = some capture)).map (·.summary)

/-- The books agree with each other: the records with the executions, and the telemetry and the
captures with the records. -/
structure Sound (before : Counters) (books : Books) : Prop where
  standing : ∀ n (execution : Execution), books.executions[n]? = some execution →
    execution.Standing (books.recordedOf n)
  known : ∀ record ∈ books.records, record.execution < books.executions.length
  counters : books.telemetry.counters = books.recorded.foldl Counters.count before
  captures : books.telemetry.captures = books.inForce.map books.collectedBy
  opened : (books.returned.map (·.1) ++ books.inForce).Perm (List.range books.opened)
  fresh : ∀ record ∈ books.records, ∀ capture, record.capture = some capture →
    capture < books.opened
  returned : ∀ entry ∈ books.returned, entry.2 = books.collectedBy entry.1

variable {before : Counters} {books : Books}

lemma sound_start (cancelled : Cancellations) (counters : Counters) :
    (start cancelled counters).Sound counters where
  standing _ _ hn := absurd hn (by simp [start])
  known _ hrecord := absurd hrecord List.not_mem_nil
  counters := rfl
  captures := rfl
  opened := .nil
  fresh _ hrecord := absurd hrecord List.not_mem_nil
  returned _ hentry := absurd hentry List.not_mem_nil

lemma recordedOf_enter (n : Nat) (executions : List Execution) (call : Call) (m : Nat) :
    (books.enter n executions call).recordedOf m
      = books.recordedOf m ++ if n = m then summaries call.events else [] := by
  rw [recordedOf, enter, List.filter_append, List.map_append, List.filter_map, List.map_map]
  by_cases h : n = m <;> simp [recordedOf, Function.comp_def, h]

lemma collectedBy_enter (n : Nat) (executions : List Execution) (call : Call) (capture : Nat) :
    (books.enter n executions call).collectedBy capture
      = books.collectedBy capture
        ++ if books.inForce.head? = some capture then summaries call.events else [] := by
  rw [collectedBy, enter, List.filter_append, List.map_append, List.filter_map, List.map_map]
  by_cases h : books.inForce.head? = some capture <;> simp [collectedBy, Function.comp_def, h]

/-- Captures that were not opened yet have collected nothing. -/
lemma Sound.collectedBy_eq_nil (h : books.Sound before) {capture : Nat}
    (hcapture : books.opened ≤ capture) : books.collectedBy capture = [] := by
  rw [collectedBy, List.map_eq_nil_iff, List.filter_eq_nil_iff]
  intro record hrecord hof
  exact Nat.not_lt.mpr hcapture (h.fresh record hrecord capture (of_decide_eq_true hof))

/-- Executions that were not opened yet have recorded nothing. -/
lemma Sound.recordedOf_eq_nil (h : books.Sound before) {n : Nat}
    (hn : books.executions.length ≤ n) : books.recordedOf n = [] := by
  rw [recordedOf, List.map_eq_nil_iff, List.filter_eq_nil_iff]
  intro record hrecord hof
  exact Nat.not_lt.mpr hn (of_decide_eq_true hof ▸ h.known record hrecord)

/-- No capture is opened twice or ended twice. -/
lemma Sound.nodup (h : books.Sound before) :
    (books.returned.map (·.1) ++ books.inForce).Nodup :=
  h.opened.nodup_iff.mpr List.nodup_range

lemma Sound.lt_opened (h : books.Sound before) {capture : Nat}
    (hcapture : capture ∈ books.inForce) : capture < books.opened :=
  List.mem_range.mp (h.opened.mem_iff.mp (List.mem_append_right _ hcapture))

/-- Entering a call keeps the books sound, if the execution stands by all that it has recorded. -/
lemma Sound.enter (h : books.Sound before) {n : Nat} {executions : List Execution} {call : Call}
    (hn : executions[n]? = some call.execution)
    (hothers : ∀ m ≠ n, executions[m]? = books.executions[m]?)
    (hlength : books.executions.length ≤ executions.length)
    (hstanding : call.execution.Standing (books.recordedOf n ++ summaries call.events)) :
    (books.enter n executions call).Sound before where
  standing m execution hm := by
    rw [recordedOf_enter]
    by_cases hmn : n = m
    · subst hmn
      obtain rfl : call.execution = execution := Option.some.inj (hn.symm.trans hm)
      rwa [if_pos rfl]
    · rw [if_neg hmn, List.append_nil]
      exact h.standing m execution ((hothers m (Ne.symm hmn)).symm.trans hm)
  known record hrecord := by
    rcases List.mem_append.mp hrecord with hold | hnew
    · exact Nat.lt_of_lt_of_le (h.known record hold) hlength
    · obtain ⟨summary, -, rfl⟩ := List.mem_map.mp hnew
      exact (List.getElem?_eq_some_iff.mp hn).1
  counters := by
    rw [Books.enter, Telemetry.counters_observeAll, h.counters, recorded, recorded, List.map_append,
      List.foldl_append, List.map_map]
    simp only [Function.comp_def, List.map_id']
  captures := by
    have hnodup := (List.nodup_append.mp h.nodup).2.1
    have hcollected := books.collectedBy_enter n executions call
    refine (Telemetry.captures_observeAll _ _).trans ?_
    rw [h.captures, show (books.enter n executions call).inForce = books.inForce from rfl]
    cases hinForce : books.inForce with
    | nil => rfl
    | cons innermost outer =>
      rw [hinForce] at hcollected hnodup
      have hinner : (books.enter n executions call).collectedBy innermost
          = books.collectedBy innermost ++ summaries call.events := by
        rw [hcollected, List.head?_cons, if_pos rfl]
      have houter : ∀ capture ∈ outer,
          (books.enter n executions call).collectedBy capture = books.collectedBy capture := by
        intro capture hcapture
        have hne : some innermost ≠ some capture := fun heq =>
          (List.nodup_cons.mp hnodup).1 (Option.some.inj heq ▸ hcapture)
        rw [hcollected, List.head?_cons, if_neg hne, List.append_nil]
      rw [List.map_cons, List.map_cons, List.modifyHead_cons, hinner, List.map_congr_left houter]
  opened := h.opened
  fresh record hrecord capture hcapture := by
    rcases List.mem_append.mp hrecord with hold | hnew
    · exact h.fresh record hold capture hcapture
    · obtain ⟨summary, -, rfl⟩ := List.mem_map.mp hnew
      exact h.lt_opened (List.mem_of_head? hcapture)
  returned entry hentry := by
    have hnew : books.inForce.head? ≠ some entry.1 := fun hhead =>
      (List.nodup_append.mp h.nodup).2.2 _ (List.mem_map_of_mem hentry) _ (List.mem_of_head? hhead)
        rfl
    rw [collectedBy_enter, if_neg hnew, List.append_nil]
    exact h.returned entry hentry

lemma Sound.openCapture (h : books.Sound before) : (books.perform .openCapture).Sound before where
  standing := h.standing
  known := h.known
  counters := h.counters
  captures := congrArg₂ List.cons (h.collectedBy_eq_nil (Nat.le_refl _)).symm h.captures
  opened := by
    refine List.perm_middle.trans ?_
    simp only [perform, List.range_succ]
    exact ((List.perm_cons _).mpr h.opened).trans (List.perm_append_singleton _ _).symm
  fresh record hrecord capture hcapture :=
    Nat.lt_succ_of_lt (h.fresh record hrecord capture hcapture)
  returned := h.returned

lemma Sound.closeCapture (h : books.Sound before) :
    (books.perform .closeCapture).Sound before := by
  cases hinForce : books.inForce with
  | nil =>
    simp only [perform, hinForce]
    exact h
  | cons innermost outer =>
    have hcaptures := h.captures
    have hopened := h.opened
    rw [hinForce] at hcaptures hopened
    simp only [perform, hinForce, Telemetry.closeCapture, hcaptures, List.map_cons, List.headD_cons,
      List.tail_cons]
    exact {
      standing := h.standing
      known := h.known
      counters := h.counters
      captures := rfl
      opened := by rwa [List.map_append, List.append_assoc]
      fresh := h.fresh
      returned := fun entry hentry => by
        rcases List.mem_append.mp hentry with hold | hnew
        · exact h.returned entry hold
        · rw [List.mem_singleton.mp hnew]
          rfl }

/-- An act keeps the books sound. -/
theorem Sound.perform (h : books.Sound before) (act : Act) : (books.perform act).Sound before := by
  cases act with
  | execute query store options =>
    refine h.enter List.getElem?_concat_length (fun m hm => ?_) (by simp) ?_
    · rcases Nat.lt_or_gt_of_ne hm with hlt | hgt
      · exact List.getElem?_append_left hlt
      · rw [List.getElem?_eq_none (by simpa using Nat.succ_le_of_lt hgt),
          List.getElem?_eq_none (Nat.le_of_lt hgt)]
    · rw [h.recordedOf_eq_nil (Nat.le_refl _), List.nil_append]
      exact Execution.standing_start query store options books.cancelled
  | ask n ask =>
    cases hn : books.executions[n]? with
    | none =>
      simp only [Books.perform, hn]
      exact h
    | some execution =>
      have hlt := (List.getElem?_eq_some_iff.mp hn).1
      simp only [Books.perform, hn]
      refine h.enter (List.getElem?_set_self hlt) (fun m hm => List.getElem?_set_ne (Ne.symm hm))
        (by simp) ?_
      exact Execution.standing_ask (h.standing n execution hn) ask books.cancelled
  | cancel token =>
    exact ⟨h.standing, h.known, h.counters, h.captures, h.opened, h.fresh, h.returned⟩
  | openCapture => exact h.openCapture
  | closeCapture => exact h.closeCapture

/-- A run keeps the books sound. -/
theorem Sound.after (h : books.Sound before) (acts : List Act) :
    (books.after acts).Sound before := by
  induction acts generalizing books with
  | nil => exact h
  | cons act rest ih => exact ih (h.perform act)

/-! ### What was executed -/

/-- An act adds the query that it executes, if any. -/
lemma queries_perform (books : Books) (act : Act) :
    (books.perform act).executions.map (·.query)
      = books.executions.map (·.query) ++ act.query?.toList := by
  cases act with
  | execute query store options => simp [perform, enter, Act.query?]
  | ask n ask =>
    cases hn : books.executions[n]? with
    | none => simp [perform, hn, Act.query?]
    | some execution =>
      obtain ⟨hlt, rfl⟩ := List.getElem?_eq_some_iff.mp hn
      have hset : (books.executions.map (·.query)).set n books.executions[n].query
          = books.executions.map (·.query) := by
        exact List.map_set.symm.trans (congrArg _ (List.set_getElem_self hlt))
      simp [perform, hn, enter, Act.query?, List.map_set, hset]
  | cancel token => simp [perform, Act.query?]
  | openCapture => simp [perform, Act.query?]
  | closeCapture => cases hinForce : books.inForce <;> simp [perform, hinForce, Act.query?]

lemma queries_after (books : Books) (acts : List Act) :
    (books.after acts).executions.map (·.query)
      = books.executions.map (·.query) ++ acts.filterMap Act.query? := by
  induction acts generalizing books with
  | nil => exact (List.append_nil _).symm
  | cons act rest ih =>
    refine (ih (books.perform act)).trans ?_
    rw [queries_perform, List.append_assoc]
    cases hquery : act.query? <;> simp [hquery]

/-! ### Accounts -/

/-- The books of a run that has given up every cursor.

The executions are those that were asked for, and each has a single summary, which accounts for it.
The counters have grown by the executions, by the summaries that failed or were cancelled, and by
the documents that have left the scans.  Every capture was opened once and is either in force or has
returned, and it has collected what was recorded while it was the innermost one, in order. -/
structure Settled (before : Counters) (acts : List Act) (books : Books) : Prop where
  executions : books.executions.map (·.query) = acts.filterMap Act.query?
  accounted : ∀ n (execution : Execution), books.executions[n]? = some execution →
    ∃ summary, books.recordedOf n = [summary] ∧ execution.Accounted summary
  known : ∀ record ∈ books.records, record.execution < books.executions.length
  total : books.telemetry.counters.total = before.total + (acts.filterMap Act.query?).length
  failed : books.telemetry.counters.failed
    = before.failed + books.recorded.countP (·.outcome = .failed)
  cancelled : books.telemetry.counters.cancelled
    = before.cancelled + books.recorded.countP (·.outcome = .cancelled)
  scanned : books.telemetry.counters.scanned
    = before.scanned + (books.recorded.map (·.scanned)).sum
  pulled : (books.recorded.map (·.scanned)).sum
    = (books.executions.map fun execution => ScanItem.count execution.pulled).sum
  opened : (books.returned.map (·.1) ++ books.inForce).Perm (List.range books.opened)
  returned : ∀ entry ∈ books.returned, entry.2 = books.collectedBy entry.1
  inForce : books.telemetry.captures = books.inForce.map books.collectedBy

/-- If there is a single record for each execution, then sums over the records are sums over the
executions. -/
lemma sum_records {records : List Record} {executions : List Execution} (f : Summary → Nat)
    (g : Execution → Nat) (hknown : ∀ record ∈ records, record.execution < executions.length)
    (hsingle : ∀ n (execution : Execution), executions[n]? = some execution →
      ∃ summary, (records.filter (·.execution = n)).map (·.summary) = [summary]
        ∧ f summary = g execution) :
    ((records.map (·.summary)).map f).sum = (executions.map g).sum := by
  induction executions using List.reverseRecOn generalizing records with
  | nil =>
    have hnil : records = [] :=
      List.eq_nil_iff_forall_not_mem.mpr fun record hrecord => Nat.not_lt_zero _ (hknown _ hrecord)
    rw [hnil]
    rfl
  | append_singleton executions execution ih =>
    -- The records of the last execution are a single one; the others are about those before it.
    have hperm := List.filter_append_perm (·.execution = executions.length) records
    have hothers : (((records.filter fun record => !(record.execution = executions.length)).map
        (·.summary)).map f).sum = (executions.map g).sum := by
      refine ih (fun record hrecord => ?_) (fun n earlier hn => ?_)
      · obtain ⟨hrecord, hne⟩ := List.mem_filter.mp hrecord
        have hlt := hknown record hrecord
        rw [List.length_append, List.length_singleton] at hlt
        simp only [Bool.not_eq_true', decide_eq_false_iff_not] at hne
        omega
      · have hlt := (List.getElem?_eq_some_iff.mp hn).1
        rw [List.filter_filter, List.filter_congr (q := (·.execution = n)) fun record _ => ?_]
        · exact hsingle n earlier (by rw [List.getElem?_append_left hlt, hn])
        · by_cases h : record.execution = n <;> simp [h]
          omega
    obtain ⟨summary, hlast, heq⟩ := hsingle _ execution List.getElem?_concat_length
    have hsum := ((hperm.map (·.summary)).map f).sum_eq
    rw [List.map_append, List.map_append, List.sum_append, hothers, hlast, List.map_singleton,
      List.sum_singleton, heq] at hsum
    calc
      ((records.map (·.summary)).map f).sum = g execution + (executions.map g).sum := hsum.symm
      _ = (executions.map g).sum + g execution := Nat.add_comm _ _
      _ = ((executions ++ [execution]).map g).sum := by
        rw [List.map_append, List.sum_append, List.map_singleton, List.sum_singleton]

/-- Sound books that have given up every cursor are settled. -/
lemma Sound.settled {acts : List Act} (h : books.Sound before)
    (hqueries : books.executions.map (·.query) = acts.filterMap Act.query?)
    (hdropped : ∀ execution ∈ books.executions, execution.cursor = none) :
    books.Settled before acts := by
  have haccounted (n : Nat) (execution : Execution) (hn : books.executions[n]? = some execution) :
      ∃ summary, books.recordedOf n = [summary] ∧ execution.Accounted summary :=
    (h.standing n execution hn).exists_accounted (hdropped _ (List.mem_of_getElem? hn))
  obtain ⟨htotal, hfailed, hcancelled, hscanned⟩ := Counters.foldl_count books.recorded before
  rw [← h.counters] at htotal hfailed hcancelled hscanned
  have hlength : books.recorded.length = books.executions.length := by
    have hsum := sum_records (fun _ => 1) (fun _ => 1) h.known
      fun n execution hn => (haccounted n execution hn).imp fun _ h => ⟨h.1, rfl⟩
    rwa [List.map_const', List.map_const', List.sum_replicate_nat, List.sum_replicate_nat,
      Nat.mul_one, Nat.mul_one] at hsum
  exact {
    executions := hqueries
    accounted := haccounted
    known := h.known
    total := by rw [htotal, ← hqueries, hlength, List.length_map]
    failed := hfailed
    cancelled := hcancelled
    scanned := hscanned
    pulled := sum_records _ _ h.known
      fun n execution hn => (haccounted n execution hn).imp fun _ h => ⟨h.1, h.2.scanned_eq⟩
    opened := h.opened
    returned := h.returned
    inForce := h.captures }

end Books

end DocQuery
