import DocQuery.Proofs.Due
import DocQuery.Session

/-!
Runs of a cursor: calls for its next result, with cancellations between them in any order.

* `Reading` and `Move`: a cursor with the tokens that are cancelled, and what can happen to it;
* `Reading.replies` and `Reading.after` (**runs**): the replies to the calls of a run, and what the
  run leads to;
* `Reading.after_of_finished` and `Reading.replies_of_finished`: a finished cursor stays as it is;
* `Reading.errors_replies_le_one`: a run meets at most one error;
* `Reading.replies_of_undisturbed`: an undisturbed run gives what was due at its start.
-/

namespace DocQuery

/-- What can happen to a cursor that is open. -/
inductive Move where
  /-- It is asked for its next result. -/
  | next
  /-- A token is cancelled. -/
  | cancel (token : CancelToken)
deriving DecidableEq

/-- A cursor with the tokens that are cancelled. -/
structure Reading where
  cursor : Cursor
  cancelled : Cancellations

/-- How often a run asks for a result. -/
def calls (moves : List Move) : Nat := moves.count .next

@[simp]
lemma calls_next (moves : List Move) : calls (.next :: moves) = calls moves + 1 :=
  List.count_cons_self

@[simp]
lemma calls_cancel (token : CancelToken) (moves : List Move) :
    calls (.cancel token :: moves) = calls moves := by
  rw [calls, List.count_cons_of_ne (by simp)]
  rfl

namespace Reading

/-- The reply to a call for the next result. -/
def reply (reading : Reading) : Except QueryError (Option Document) :=
  (reading.cursor.advance reading.cancelled).result

/-- What a move leads to. -/
def move (reading : Reading) : Move → Reading
  | .next =>
    ⟨(reading.cursor.advance reading.cancelled).cursor,
      (reading.cursor.advance reading.cancelled).cancelled⟩
  | .cancel token => ⟨reading.cursor, reading.cancelled.cancel token⟩

/-- What a run leads to. -/
def after (reading : Reading) (moves : List Move) : Reading := moves.foldl move reading

/-- The replies to the calls of a run. -/
def replies (reading : Reading) : List Move → List (Except QueryError (Option Document))
  | [] => []
  | .next :: rest => reading.reply :: (reading.move .next).replies rest
  | .cancel token :: rest => (reading.move (.cancel token)).replies rest

variable {reading : Reading}

lemma after_cons (reading : Reading) (m : Move) (moves : List Move) :
    reading.after (m :: moves) = (reading.move m).after moves := rfl

lemma after_append (reading : Reading) (moves later : List Move) :
    reading.after (moves ++ later) = (reading.after moves).after later :=
  List.foldl_append

lemma replies_append (reading : Reading) (moves later : List Move) :
    reading.replies (moves ++ later)
      = reading.replies moves ++ (reading.after moves).replies later := by
  induction moves generalizing reading with
  | nil => rfl
  | cons m rest ih =>
    cases m with
    | next => exact congrArg (reading.reply :: ·) (ih (reading.move .next))
    | cancel token => exact ih (reading.move (.cancel token))

/-! ### What every run keeps -/

/-- What every move keeps is kept by every run. -/
lemma after_induction {motive : Reading → Prop} (hstart : motive reading)
    (hmove : ∀ now m, motive now → motive (now.move m)) (moves : List Move) :
    motive (reading.after moves) := by
  induction moves generalizing reading with
  | nil => exact hstart
  | cons m rest ih => exact ih (hmove reading m hstart)

/-- A run stays within its execution. -/
lemma sameExecution_after (reading : Reading) (moves : List Move) :
    reading.cursor.SameExecution (reading.after moves).cursor := by
  refine after_induction (motive := fun now => reading.cursor.SameExecution now.cursor)
    (.refl _) (fun now m h => ?_) moves
  cases m with
  | next => exact h.trans (Cursor.sameExecution_advance now.cursor now.cancelled)
  | cancel token => exact h

/-! ### Finished cursors -/

/-- A finished cursor stays as it is: in particular it pulls nothing. -/
lemma after_of_finished (h : reading.cursor.finished = true) (moves : List Move) :
    (reading.after moves).cursor = reading.cursor := by
  refine after_induction (motive := fun now => now.cursor = reading.cursor) rfl
    (fun now m hnow => ?_) moves
  cases m with
  | next =>
    rw [move, Cursor.advance_of_finished (by rw [hnow]; exact h)]
    exact hnow
  | cancel token => exact hnow

lemma reply_of_finished (h : reading.cursor.finished = true) : reading.reply = .ok none := by
  rw [reply, Cursor.advance_of_finished h]

/-- A finished cursor replies that the end has come. -/
lemma replies_of_finished (h : reading.cursor.finished = true) (moves : List Move) :
    reading.replies moves = List.replicate (calls moves) (.ok none) := by
  induction moves generalizing reading with
  | nil => rfl
  | cons m rest ih =>
    have hmove : (reading.move m).cursor.finished = true := by
      rw [← after_of_finished h [m]] at h
      exact h
    cases m with
    | next =>
      rw [replies, reply_of_finished h, ih hmove, calls_next, List.replicate_succ]
    | cancel token => rw [replies, ih hmove, calls_cancel]

/-- After a reply without a document the cursor is finished. -/
lemma finished_of_reply (h : ∀ doc, reading.reply ≠ .ok (some doc)) :
    (reading.move .next).cursor.finished = true :=
  Cursor.finished_advance h

/-- A run meets at most one error. -/
lemma errors_replies_le_one (reading : Reading) (moves : List Move) :
    (reading.replies moves).countP (fun reply => !reply.isOk) ≤ 1 := by
  induction moves generalizing reading with
  | nil => exact Nat.zero_le 1
  | cons m rest ih =>
    cases m with
    | cancel token => exact ih (reading.move (.cancel token))
    | next =>
      rw [replies]
      cases hreply : reading.reply with
      | ok result =>
        rw [List.countP_cons_of_neg (by simp [Except.isOk, Except.toBool])]
        exact ih (reading.move .next)
      | error e =>
        have hfinished : (reading.move .next).cursor.finished = true :=
          finished_of_reply fun doc hdoc => by rw [hreply] at hdoc; cases hdoc
        -- Behind the error there are only ends.
        rw [replies_of_finished hfinished, List.countP_cons, List.countP_replicate]
        simp [Except.isOk, Except.toBool]

/-! ### Undisturbed runs -/

/-- No move of a run cancels a token that its cursor heeds, and nothing else stops the cursor. -/
structure Undisturbed (reading : Reading) (moves : List Move) : Prop where
  scan : reading.cursor.options.Undisturbed reading.cancelled reading.cursor.rest
  spared : ∀ token, .cancel token ∈ moves → ¬ reading.cursor.options.Heeds token

/-- Without a token and without a deadline nothing disturbs a run. -/
lemma undisturbed_of_token_none (htoken : reading.cursor.options.token = none)
    (hdeadline : reading.cursor.options.deadline = none) (moves : List Move) :
    reading.Undisturbed moves where
  scan := ExecOptions.undisturbed_of_token_none htoken hdeadline _ _
  spared := fun token _ => ExecOptions.not_heeds_of_token_none htoken hdeadline token

lemma Undisturbed.move {m : Move} {rest : List Move} (h : reading.Undisturbed (m :: rest)) :
    (reading.move m).Undisturbed rest := by
  cases m with
  | next =>
    refine ⟨Cursor.undisturbed_advance h.scan, fun token htoken => ?_⟩
    rw [Reading.move, (Cursor.sameExecution_advance reading.cursor reading.cancelled).options]
    exact h.spared token (List.mem_cons_of_mem _ htoken)
  | cancel token =>
    exact ⟨h.scan.cancel (h.spared token List.mem_cons_self),
      fun other hother => h.spared other (List.mem_cons_of_mem _ hother)⟩

lemma Undisturbed.after {moves later : List Move} (h : reading.Undisturbed (moves ++ later)) :
    (reading.after moves).Undisturbed later := by
  induction moves generalizing reading with
  | nil => exact h
  | cons m rest ih => exact ih h.move

/-- An undisturbed run gives what was due, one result with each call. -/
lemma replies_of_undisturbed {moves : List Move} (h : reading.Undisturbed moves) :
    reading.replies moves
      = (List.range (calls moves)).map fun k => replyOf reading.cursor.due[k]? := by
  induction moves generalizing reading with
  | nil => rfl
  | cons m rest ih =>
    cases m with
    | cancel token => rw [replies, calls_cancel, ih h.move]; rfl
    | next =>
      have hgives := Cursor.gives_advance h.scan
      have hfirst : reading.reply = replyOf reading.cursor.due[0]? := by
        rw [reply, hgives.result, List.head?_eq_getElem?]
      have hlater : (reading.move .next).cursor.due = reading.cursor.due.tail := hgives.due
      rw [replies, calls_next, List.range_succ_eq_map, List.map_cons, List.map_map, ih h.move,
        hfirst, hlater]
      simp only [List.getElem?_tail, Function.comp_def, Nat.succ_eq_add_one]

/-- After an undisturbed run the results are due that its calls have not asked for. -/
lemma due_after {moves : List Move} (h : reading.Undisturbed moves) :
    (reading.after moves).cursor.due = reading.cursor.due.drop (calls moves) := by
  induction moves generalizing reading with
  | nil => rfl
  | cons m rest ih =>
    rw [after_cons, ih h.move]
    cases m with
    | cancel token => rw [calls_cancel]; rfl
    | next =>
      have hlater : (reading.move .next).cursor.due = reading.cursor.due.tail :=
        (Cursor.gives_advance h.scan).due
      rw [hlater, calls_next, List.drop_tail]

/-- As long as no error is due the counters stay in balance. -/
lemma balanced_after {moves : List Move} (h : reading.Undisturbed moves)
    (hdue : ∀ e, .error e ∉ reading.cursor.due)
    (hbalanced : reading.cursor.Balanced reading.cursor.waiting) :
    (reading.after moves).cursor.Balanced (reading.after moves).cursor.waiting := by
  induction moves generalizing reading with
  | nil => exact hbalanced
  | cons m rest ih =>
    cases m with
    | cancel token => exact ih h.move hdue hbalanced
    | next =>
      have hgives := Cursor.gives_advance h.scan
      refine ih h.move (fun e he => ?_) (Cursor.balanced_advance hbalanced fun e he => ?_)
      · rw [show (reading.move .next).cursor.due = reading.cursor.due.tail from hgives.due] at he
        exact hdue e (List.mem_of_mem_tail he)
      · have hfirst := eq_cons_of_replyOf_error (hgives.result.symm.trans he)
        refine hdue e ?_
        rw [hfirst]
        exact List.mem_cons_self

end Reading

end DocQuery
