import DocQuery.Proofs.IdLookup

/-!
A store in memory that writers and cursors share.  A cursor works on the documents that were there
when it was opened, so writes and other cursors cannot be told from its replies.

* `SharedStore` and `Access`: the store with the cursors opened on it, and what can be done to it;
* `SharedStore.after` and `SharedStore.replies`: a sequence of accesses, and what one cursor replies
  in the course of it;
* `SharedStore.memory_after`: the documents are those of the writes alone;
* `SharedStore.reading_after` and `SharedStore.replies_eq`: a cursor behaves as if it were alone;
* `SharedStore.cursors_isolated` (**isolation**): each cursor gives the answer for the documents at
  its opening.
-/

namespace DocQuery

/-! ### Accesses -/

/-- Documents in memory with the cursors opened on them. -/
structure SharedStore where
  memory : MemoryStore
  /-- The cursors, in the order in which they were opened. -/
  cursors : List Cursor
  cancelled : Cancellations

/-- What can be done to a shared store. -/
inductive Access where
  | write (w : Write)
  | openCursor (query : Query) (options : ExecOptions)
  /-- The cursor with this number, counted from zero, is asked for its next result. -/
  | next (n : Nat)
  | cancel (token : CancelToken)

/-- The writes among some accesses. -/
def writesOf (accesses : List Access) : List Write :=
  accesses.filterMap fun
    | .write w => some w
    | _ => none

/-- The accesses that the cursor with the number `n` notices, as its moves. -/
def movesOf (n : Nat) (accesses : List Access) : List Move :=
  accesses.filterMap fun
    | .next m => if m = n then some .next else none
    | .cancel token => some (.cancel token)
    | _ => none

lemma movesOf_cons (n : Nat) (a : Access) (rest : List Access) :
    movesOf n (a :: rest) = movesOf n [a] ++ movesOf n rest :=
  List.filterMap_append (l := [a])

lemma movesOf_own (n : Nat) : movesOf n [.next n] = [.next] := by
  simp [movesOf]

lemma movesOf_other {n m : Nat} (h : m ≠ n) : movesOf n [.next m] = [] := by
  simp [movesOf, h]

/-- Every cancellation among the moves of a cursor is one of the accesses. -/
lemma cancel_mem_of_movesOf {n : Nat} {token : CancelToken} {accesses : List Access}
    (h : .cancel token ∈ movesOf n accesses) : .cancel token ∈ accesses := by
  obtain ⟨a, hmem, ha⟩ := List.mem_filterMap.mp h
  cases a with
  | cancel other =>
    cases ha
    exact hmem
  | next m =>
    by_cases hm : m = n
    · simp [hm] at ha
    · simp [hm] at ha
  | write w => cases ha
  | openCursor query options => cases ha

namespace SharedStore

/-- No documents and no cursors. -/
def start : SharedStore := ⟨.empty, [], .empty⟩

/-- What an access leads to.  A query that is refused opens no cursor, and asking a cursor that was
never opened does nothing. -/
def access (shared : SharedStore) : Access → SharedStore
  | .write w => { shared with memory := shared.memory.write w }
  | .openCursor query options =>
    match (query.execute shared.memory.toStore options shared.cancelled).result with
    | .ok cursor => { shared with cursors := shared.cursors ++ [cursor] }
    | .error _ => shared
  | .next n =>
    match shared.cursors[n]? with
    | some cursor =>
      let step := cursor.advance shared.cancelled
      { shared with cursors := shared.cursors.set n step.cursor, cancelled := step.cancelled }
    | none => shared
  | .cancel token => { shared with cancelled := shared.cancelled.cancel token }

/-- What some accesses lead to, one after the other. -/
def after (shared : SharedStore) (accesses : List Access) : SharedStore :=
  accesses.foldl access shared

/-- The cursor with the number `n`, if it is open, with the tokens that are cancelled. -/
def reading? (shared : SharedStore) (n : Nat) : Option Reading :=
  shared.cursors[n]?.map fun cursor => ⟨cursor, shared.cancelled⟩

/-- What the cursor with the number `n` replies to an access, if it is the one that is asked. -/
def reply? (shared : SharedStore) (n : Nat) : Access → Option (Except QueryError (Option Document))
  | .next m => if m = n then (shared.reading? n).map Reading.reply else none
  | _ => none

/-- The replies of the cursor with the number `n` in the course of some accesses. -/
def replies (shared : SharedStore) (n : Nat) :
    List Access → List (Except QueryError (Option Document))
  | [] => []
  | a :: rest => (shared.reply? n a).toList ++ (shared.access a).replies n rest

lemma after_cons (shared : SharedStore) (a : Access) (rest : List Access) :
    shared.after (a :: rest) = (shared.access a).after rest := rfl

/-! ### The documents -/

/-- Opening a cursor leaves the documents as they are. -/
lemma memory_openCursor (shared : SharedStore) (query : Query) (options : ExecOptions) :
    (shared.access (.openCursor query options)).memory = shared.memory := by
  rw [access]
  split <;> rfl

/-- Asking a cursor leaves the documents as they are. -/
lemma memory_next (shared : SharedStore) (n : Nat) :
    (shared.access (.next n)).memory = shared.memory := by
  rw [access]
  split <;> rfl

/-- The documents are those of the writes, whatever the cursors do in between. -/
lemma memory_after (shared : SharedStore) (accesses : List Access) :
    (shared.after accesses).memory = shared.memory.afterWrites (writesOf accesses) := by
  induction accesses generalizing shared with
  | nil => rfl
  | cons a rest ih =>
    rw [after_cons, ih]
    cases a with
    | write w => rfl
    | openCursor query options =>
      rw [memory_openCursor]
      rfl
    | next n =>
      rw [memory_next]
      rfl
    | cancel token => rfl

/-! ### Cursors that cancel nothing -/

/-- No item that a cursor has left cancels anything. -/
def Quiet (shared : SharedStore) : Prop :=
  ∀ cursor ∈ shared.cursors, ∀ item ∈ cursor.rest, item.cancels = none

end SharedStore

/-- Items that cancel nothing leave the scan without a trace. -/
lemma Pull.Pulls.quiet {options : ExecOptions} {cancelled later : Cancellations}
    {items rest : List ScanItem} (h : Pulls options cancelled items later rest)
    (hquiet : ∀ item ∈ items, item.cancels = none) :
    later = cancelled ∧ ∀ item ∈ rest, item.cancels = none := by
  induction h with
  | nothing => exact ⟨rfl, hquiet⟩
  | @more cancelled later item items rest _ _ ih =>
    obtain ⟨hlater, hrest⟩ := ih fun other hother => hquiet other (List.mem_cons_of_mem item hother)
    rw [hquiet item List.mem_cons_self] at hlater
    exact ⟨hlater, hrest⟩

/-- A query runs over documents of the memory: those of a lookup, or all. -/
lemma Query.exists_openScan_toStore (query : Query) (memory : MemoryStore) :
    ∃ scan, ∃ docs : List Document,
      query.openScan memory.toStore = (scan, .ok (docs.map .ofDocument)) := by
  rw [openScan]
  cases query.scanKind with
  | fullScan => exact ⟨_, memory.documents, rfl⟩
  | idLookup id => exact ⟨_, (memory.get? id).toList, rfl⟩

/-- A query that is not refused is opened over documents in memory, and what is due from it is the
answer for these documents. -/
lemma Query.exists_cursor_toStore (query : Query) {memory : MemoryStore} {options : ExecOptions}
    {cancelled : Cancellations} (hkeyed : memory.toStore.Keyed memory.documents)
    (hunrefused : options.refusal? cancelled = none) :
    ∃ cursor, (query.execute memory.toStore options cancelled).result = .ok cursor
      ∧ cursor.options = options
      ∧ options.Undisturbed cancelled cursor.rest
      ∧ cursor.due = (query.answer memory.documents).map .ok := by
  obtain ⟨scan, found, hscan, hmatching⟩ := query.exists_scans hkeyed
  obtain ⟨hdocuments, hfailure⟩ :=
    ScanItem.documents_and_failure?_of_contents (Query.contents_ofDocument found)
  refine ⟨_, Query.result_execute hunrefused hscan, rfl,
    Query.undisturbed_ofDocument hunrefused found, ?_⟩
  rw [Cursor.due_ofScan, Query.results_of_no_failure hfailure, hdocuments,
    Query.answer_congr hmatching]

namespace SharedStore

variable {shared : SharedStore}

/-- A query that is not refused is opened as the next cursor. -/
lemma access_openCursor {query : Query} {options : ExecOptions} {cursor : Cursor}
    (h : (query.execute shared.memory.toStore options shared.cancelled).result = .ok cursor) :
    shared.access (.openCursor query options)
      = { shared with cursors := shared.cursors ++ [cursor] } := by
  rw [access, h]

/-- Asking an open cursor is a step of it. -/
lemma access_next {n : Nat} {cursor : Cursor} (h : shared.cursors[n]? = some cursor) :
    shared.access (.next n)
      = { shared with
          cursors := shared.cursors.set n (cursor.advance shared.cancelled).cursor
          cancelled := (cursor.advance shared.cancelled).cancelled } := by
  rw [access, h]

lemma access_next_of_none {n : Nat} (h : shared.cursors[n]? = none) :
    shared.access (.next n) = shared := by
  rw [access, h]

/-- Opening a cursor leaves the others where they are. -/
lemma exists_append_openCursor (shared : SharedStore) (query : Query) (options : ExecOptions) :
    ∃ opened, shared.access (.openCursor query options)
        = { shared with cursors := shared.cursors ++ opened }
      ∧ ∀ cursor ∈ opened, ∀ item ∈ cursor.rest, item.cancels = none := by
  cases hrefusal : options.refusal? shared.cancelled with
  | some reason =>
    have hexecute : (query.execute shared.memory.toStore options shared.cancelled).result
        = .error (.cancelled reason) := by
      rw [Query.execute, hrefusal]
    refine ⟨[], ?_, fun cursor hcursor => absurd hcursor List.not_mem_nil⟩
    rw [access, hexecute, List.append_nil]
  | none =>
    obtain ⟨scan, docs, hscan⟩ := query.exists_openScan_toStore shared.memory
    refine ⟨[_], access_openCursor (Query.result_execute hrefusal hscan), ?_⟩
    intro cursor hcursor item hitem
    rw [List.mem_singleton.mp hcursor] at hitem
    obtain ⟨doc, -, rfl⟩ := List.mem_map.mp hitem
    rfl

/-- Every access leaves cursors that cancel nothing. -/
lemma Quiet.access (h : shared.Quiet) (a : Access) : (shared.access a).Quiet := by
  cases a with
  | write w => exact h
  | cancel token => exact h
  | openCursor query options =>
    obtain ⟨opened, hopened, hquiet⟩ := exists_append_openCursor shared query options
    rw [hopened]
    intro cursor hcursor
    cases List.mem_append.mp hcursor with
    | inl hold => exact h cursor hold
    | inr hnew => exact hquiet cursor hnew
  | next n =>
    cases hcursor : shared.cursors[n]? with
    | none =>
      rw [access_next_of_none hcursor]
      exact h
    | some cursor =>
      have hpulls := Cursor.pulls_advance cursor shared.cancelled
      obtain ⟨-, hrest⟩ := hpulls.quiet (h cursor (List.mem_of_getElem? hcursor))
      rw [access_next hcursor]
      intro other hother
      cases List.mem_or_eq_of_mem_set hother with
      | inl hold => exact h other hold
      | inr hnew =>
        rw [hnew]
        exact hrest

lemma Quiet.after (h : shared.Quiet) (accesses : List Access) : (shared.after accesses).Quiet := by
  induction accesses generalizing shared with
  | nil => exact h
  | cons a rest ih => exact ih (h.access a)

lemma quiet_start : start.Quiet := fun _ hcursor => absurd hcursor List.not_mem_nil

/-! ### Cursors as if they were alone -/

variable {n : Nat} {reading : Reading}

lemma reading?_eq_some_iff : shared.reading? n = some reading
    ↔ shared.cursors[n]? = some reading.cursor ∧ shared.cancelled = reading.cancelled := by
  rw [reading?, Option.map_eq_some_iff]
  constructor
  · rintro ⟨cursor, hcursor, rfl⟩
    exact ⟨hcursor, rfl⟩
  · rintro ⟨hcursor, hcancelled⟩
    exact ⟨reading.cursor, hcursor, by rw [hcancelled]⟩

/-- An access does to a cursor what its own moves do: writes, openings and the steps of other
cursors go unnoticed. -/
lemma reading_access (hquiet : shared.Quiet) (h : shared.reading? n = some reading) (a : Access) :
    (shared.access a).reading? n = some (reading.after (movesOf n [a])) := by
  obtain ⟨hcursor, hcancelled⟩ := reading?_eq_some_iff.mp h
  rw [reading?_eq_some_iff]
  cases a with
  | write w => exact ⟨hcursor, hcancelled⟩
  | cancel token => exact ⟨hcursor, by rw [access, hcancelled]; rfl⟩
  | openCursor query options =>
    obtain ⟨opened, hopened, -⟩ := exists_append_openCursor shared query options
    have hn : n < shared.cursors.length := (List.getElem?_eq_some_iff.mp hcursor).1
    rw [hopened]
    exact ⟨(List.getElem?_append_left hn).trans hcursor, hcancelled⟩
  | next m =>
    by_cases hm : m = n
    · have hn : n < shared.cursors.length := (List.getElem?_eq_some_iff.mp hcursor).1
      rw [hm, access_next hcursor, movesOf_own, hcancelled]
      exact ⟨List.getElem?_set_self hn, rfl⟩
    · rw [movesOf_other hm]
      cases hother : shared.cursors[m]? with
      | none =>
        rw [access_next_of_none hother]
        exact ⟨hcursor, hcancelled⟩
      | some other =>
        have hpulls := Cursor.pulls_advance other shared.cancelled
        obtain ⟨hsame, -⟩ := hpulls.quiet (hquiet other (List.mem_of_getElem? hother))
        rw [access_next hother]
        exact ⟨(List.getElem?_set_ne hm).trans hcursor, hsame.trans hcancelled⟩

/-- An access gets from a cursor what its own moves get. -/
lemma reply_access (h : shared.reading? n = some reading) (a : Access) :
    (shared.reply? n a).toList = reading.replies (movesOf n [a]) := by
  cases a with
  | write w => rfl
  | cancel token => rfl
  | openCursor query options => rfl
  | next m =>
    by_cases hm : m = n
    · rw [hm, movesOf_own, reply?, if_pos rfl, h]
      rfl
    · rw [movesOf_other hm, reply?, if_neg hm]
      rfl

/-- Among others, a cursor gets where its own moves take it. -/
lemma reading_after (hquiet : shared.Quiet) (h : shared.reading? n = some reading)
    (accesses : List Access) :
    (shared.after accesses).reading? n = some (reading.after (movesOf n accesses)) := by
  induction accesses generalizing shared reading with
  | nil => exact h
  | cons a rest ih =>
    have hmoves : reading.after (movesOf n (a :: rest))
        = (reading.after (movesOf n [a])).after (movesOf n rest) := by
      rw [movesOf_cons]
      exact List.foldl_append
    rw [after_cons, ih (hquiet.access a) (reading_access hquiet h a), hmoves]

/-- Among others, a cursor replies what it replies to its own moves. -/
lemma replies_eq (hquiet : shared.Quiet) (h : shared.reading? n = some reading)
    (accesses : List Access) :
    shared.replies n accesses = reading.replies (movesOf n accesses) := by
  induction accesses generalizing shared reading with
  | nil => rfl
  | cons a rest ih =>
    rw [replies, ih (hquiet.access a) (reading_access hquiet h a), reply_access h a,
      movesOf_cons n a rest, Reading.replies_append]

/-! ### Isolation -/

/-- A query that is not refused is opened as the next cursor, and what is due from it is the answer
for the documents at its opening. -/
lemma exists_cursor_openCursor (query : Query) {options : ExecOptions}
    (hkeyed : shared.memory.toStore.Keyed shared.memory.documents)
    (hunrefused : options.refusal? shared.cancelled = none) :
    ∃ cursor, shared.access (.openCursor query options)
        = { shared with cursors := shared.cursors ++ [cursor] }
      ∧ cursor.options = options
      ∧ options.Undisturbed shared.cancelled cursor.rest
      ∧ cursor.due = (query.answer shared.memory.documents).map .ok := by
  obtain ⟨cursor, hexecute, hcursor⟩ := query.exists_cursor_toStore hkeyed hunrefused
  exact ⟨cursor, access_openCursor hexecute, hcursor⟩

/-- **Isolation.**  Whatever was done to a shared store before, a query that is not refused is
opened as the next cursor.  From then on, whatever is written, whichever other cursors are opened
and asked, and however these accesses mix with the calls of the cursor itself, it gives the answer
for the documents at its opening: its `k`-th call the `k`-th document, every call behind the last
one the end, and collecting it at any moment what is left.  Only the writes change the documents:
asking any cursor leaves them as they are. -/
theorem cursors_isolated (before later : List Access) (query : Query) (options : ExecOptions)
    (hunrefused : options.refusal? (start.after before).cancelled = none)
    (hspared : ∀ token, .cancel token ∈ later → ¬ options.Heeds token) :
    let now := start.after before
    let opened := now.access (.openCursor query options)
    let n := now.cursors.length
    let answer := query.answer now.memory.documents
    now.memory = MemoryStore.empty.afterWrites (writesOf before)
      ∧ (∃ cursor, opened = { now with cursors := now.cursors ++ [cursor] })
      ∧ opened.replies n later
        = (List.range (calls (movesOf n later))).map (fun k => .ok answer[k]?)
      ∧ (∃ left, (opened.after later).reading? n = some left
        ∧ (left.cursor.collect left.cancelled).result
          = .ok (answer.drop (calls (movesOf n later))))
      ∧ (opened.after later).memory = now.memory.afterWrites (writesOf later)
      ∧ ∀ m, ((opened.after later).access (.next m)).memory = (opened.after later).memory := by
  intro now opened n answer
  have hmemory : now.memory = MemoryStore.empty.afterWrites (writesOf before) :=
    memory_after start before
  have hkeyed : now.memory.toStore.Keyed now.memory.documents := by
    rw [hmemory]
    exact MemoryStore.keyed_afterWrites (writesOf before)
  have hquiet : opened.Quiet := (quiet_start.after before).access _
  obtain ⟨cursor, hopened, hoptions, hundisturbed, hdue⟩ :=
    exists_cursor_openCursor query hkeyed hunrefused
  have hreading : opened.reading? n = some ⟨cursor, now.cancelled⟩ := by
    rw [reading?_eq_some_iff, show opened = _ from hopened]
    exact ⟨List.getElem?_concat_length, rfl⟩
  have hmoves : (Reading.mk cursor now.cancelled).Undisturbed (movesOf n later) := by
    constructor
    · rw [hoptions]
      exact hundisturbed
    · intro token htoken
      rw [hoptions]
      exact hspared token (cancel_mem_of_movesOf htoken)
  refine ⟨hmemory, ⟨cursor, hopened⟩, ?_, ⟨_, reading_after hquiet hreading later, ?_⟩, ?_,
    fun m => memory_next _ m⟩
  · rw [replies_eq hquiet hreading, Reading.replies_of_undisturbed hmoves, hdue]
    refine List.map_congr_left fun k _ => ?_
    rw [List.getElem?_map]
    cases answer[k]? <;> rfl
  · have hleft : ((Reading.mk cursor now.cancelled).after (movesOf n later)).Undisturbed [] :=
      Reading.Undisturbed.after (by rw [List.append_nil]; exact hmoves)
    rw [Cursor.result_collect hleft.scan, Reading.due_after hmoves, hdue, ← List.map_drop,
      gather_map_ok]
  · rw [memory_after, show opened.memory = now.memory from memory_openCursor now query options]

/-- The documents with the key `n`, from the greatest value downwards. -/
def downwards : Query := ⟨.always, none, [⟨⟨["n"]⟩, .descending⟩], 0, none⟩

/-- The document `a`. -/
def onlyA : Query := ⟨.field ⟨["_id"]⟩ (.compare .eq (.string "a")), none, [], 0, none⟩

/-- Two documents are written. -/
def twoWrites : List Access :=
  [.write (.put "a" (.object [("n", .string "x")])),
    .write (.put "b" (.object [("n", .string "y")]))]

/-- Both documents are written again or deleted before two cursors come to them. -/
def overwriting : List Access :=
  [.write (.put "a" (.object [("n", .string "z")])), .write (.delete "b"), .next 0,
    .write (.delete "a"), .next 1, .next 0, .next 1]

/-- A sorting cursor and a lookup opened after it give what was there when they were opened,
although nothing of it is left when they come to it. -/
theorem overwriting_unnoticed :
    let sorting := (start.after twoWrites).access (.openCursor downwards .standard)
    let both := sorting.access (.openCursor onlyA .standard)
    let a : Document := ⟨"a", some (revisionText 1 0), .object [("n", .string "x")]⟩
    let b : Document := ⟨"b", some (revisionText 1 1), .object [("n", .string "y")]⟩
    ExecOptions.standard.refusal? (start.after twoWrites).cancelled = none
      ∧ (∀ token, .cancel token ∈ overwriting → ¬ ExecOptions.standard.Heeds token)
      ∧ (both.after overwriting).memory.documents = []
      ∧ sorting.replies 0 (.openCursor onlyA .standard :: overwriting)
        = [.ok (some b), .ok (some a)]
      ∧ both.replies 1 overwriting = [.ok (some a), .ok none] := by
  intro sorting both a b
  have hspared : ∀ token, .cancel token ∈ overwriting → ¬ ExecOptions.standard.Heeds token :=
    fun token _ => ExecOptions.not_heeds_of_token_none rfl rfl token
  obtain ⟨-, -, hsorted, -⟩ := cursors_isolated twoWrites
    (.openCursor onlyA .standard :: overwriting) downwards .standard rfl
    fun token _ => ExecOptions.not_heeds_of_token_none rfl rfl token
  obtain ⟨-, -, hlookup, -, hmemory, -⟩ := cursors_isolated
    (twoWrites ++ [.openCursor downwards .standard]) overwriting onlyA .standard rfl hspared
  refine ⟨rfl, hspared, ?_, hsorted.trans ?_, hlookup.trans ?_⟩
  · exact congrArg MemoryStore.documents hmemory
  · cbv
  · cbv

end SharedStore

end DocQuery
