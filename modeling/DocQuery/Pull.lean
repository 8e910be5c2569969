import DocQuery.Selector
import DocQuery.Store

/-!
Pulling from a scan.  Before every pull the execution may be refused; a failing item ends it.

* `Pull.next`: pulls up to the next match, after skipping some;
* `Pull.drain`: pulls everything and collects the matches;
* `Pull.length_rest_lt_of_next` and `Pull.length_add_length_rest_le_of_drain`: pulled items leave
  the scan, so a scan comes to its end.
-/

namespace DocQuery

/-- What pulling from a scan has done. -/
structure Pull (α : Type) where
  /-- The items that were not pulled. -/
  rest : List ScanItem
  cancelled : Cancellations
  /-- How many documents were pulled. -/
  scanned : Nat
  /-- How many of them fulfil the selector. -/
  matched : Nat
  /-- How many of those were skipped. -/
  skipped : Nat
  /-- The documents that do not fulfil the selector, in order. -/
  rejected : List DocumentId
  result : Except QueryError α

namespace Pull

variable {α : Type}

/-- Nothing more is pulled. -/
def stop (rest : List ScanItem) (cancelled : Cancellations) (result : Except QueryError α) :
    Pull α :=
  ⟨rest, cancelled, 0, 0, 0, [], result⟩

/-- Before all else, a document was pulled that does not fulfil the selector. -/
def afterRejected (id : DocumentId) (pull : Pull α) : Pull α :=
  { pull with scanned := pull.scanned + 1, rejected := id :: pull.rejected }

/-- Before all else, a match was pulled and skipped. -/
def afterSkipped (pull : Pull α) : Pull α :=
  { pull with
    scanned := pull.scanned + 1
    matched := pull.matched + 1
    skipped := pull.skipped + 1 }

/-- Before all else, a match was pulled. -/
def afterMatch (doc : Document) (pull : Pull (List Document)) : Pull (List Document) :=
  { pull with
    scanned := pull.scanned + 1
    matched := pull.matched + 1
    result := pull.result.map (doc :: ·) }

/-- The pull that ends with a match. -/
def found (rest : List ScanItem) (cancelled : Cancellations) (doc : Document) :
    Pull (Option Document) :=
  ⟨rest, cancelled, 1, 1, 0, [], .ok (some doc)⟩

/-- Pulls up to the match after the first `skip` ones; there is none at the end of the scan. -/
def next (options : ExecOptions) (selector : Selector) (skip : Nat) (cancelled : Cancellations) :
    List ScanItem → Pull (Option Document)
  | [] =>
    match options.refusal? cancelled with
    | some reason => stop [] cancelled (.error (.cancelled reason))
    | none => stop [] cancelled (.ok none)
  | item :: rest =>
    match options.refusal? cancelled with
    | some reason => stop (item :: rest) cancelled (.error (.cancelled reason))
    | none =>
      let cancelled := cancelled.cancelAny item.cancels
      match item.content with
      | .error cause => stop rest cancelled (.error (.storeFailure cause))
      | .ok doc =>
        if selector.isMatch doc then
          match skip with
          | 0 => found rest cancelled doc
          | skip + 1 => (next options selector skip cancelled rest).afterSkipped
        else (next options selector skip cancelled rest).afterRejected doc.id

/-- Pulls everything and collects the matches in order. -/
def drain (options : ExecOptions) (selector : Selector) (cancelled : Cancellations) :
    List ScanItem → Pull (List Document)
  | [] =>
    match options.refusal? cancelled with
    | some reason => stop [] cancelled (.error (.cancelled reason))
    | none => stop [] cancelled (.ok [])
  | item :: rest =>
    match options.refusal? cancelled with
    | some reason => stop (item :: rest) cancelled (.error (.cancelled reason))
    | none =>
      let cancelled := cancelled.cancelAny item.cancels
      match item.content with
      | .error cause => stop rest cancelled (.error (.storeFailure cause))
      | .ok doc =>
        if selector.isMatch doc then (drain options selector cancelled rest).afterMatch doc
        else (drain options selector cancelled rest).afterRejected doc.id

/-! ### Pulled items leave the scan -/

@[simp]
theorem rest_afterRejected (id : DocumentId) (pull : Pull α) :
    (pull.afterRejected id).rest = pull.rest := rfl

@[simp]
theorem rest_afterSkipped (pull : Pull α) : pull.afterSkipped.rest = pull.rest := rfl

@[simp]
theorem result_afterRejected (id : DocumentId) (pull : Pull α) :
    (pull.afterRejected id).result = pull.result := rfl

@[simp]
theorem result_afterSkipped (pull : Pull α) : pull.afterSkipped.result = pull.result := rfl

@[simp]
theorem rest_afterMatch (doc : Document) (pull : Pull (List Document)) :
    (pull.afterMatch doc).rest = pull.rest := rfl

theorem result_afterMatch_eq_ok {doc : Document} {pull : Pull (List Document)}
    {docs : List Document} :
    (pull.afterMatch doc).result = .ok docs
      ↔ ∃ later, pull.result = .ok later ∧ doc :: later = docs := by
  cases h : pull.result <;> simp [afterMatch, Except.map, h]

theorem length_rest_lt_of_next {options : ExecOptions} {selector : Selector} {skip : Nat}
    {cancelled : Cancellations} {items : List ScanItem} {doc : Document}
    (h : (next options selector skip cancelled items).result = .ok (some doc)) :
    (next options selector skip cancelled items).rest.length < items.length := by
  fun_induction next options selector skip cancelled items with
  | case1 => simp [stop] at h
  | case2 => simp [stop] at h
  | case3 => simp [stop] at h
  | case4 => simp [stop] at h
  | case5 => simp [found]
  | case6 _ _ _ _ _ _ _ _ _ ih => exact Nat.lt_succ_of_lt (ih h)
  | case7 _ _ _ _ _ _ _ _ _ ih => exact Nat.lt_succ_of_lt (ih h)

theorem length_add_length_rest_le_of_drain {options : ExecOptions} {selector : Selector}
    {cancelled : Cancellations} {items : List ScanItem} {docs : List Document}
    (h : (drain options selector cancelled items).result = .ok docs) :
    docs.length + (drain options selector cancelled items).rest.length ≤ items.length := by
  fun_induction drain options selector cancelled items generalizing docs with
  | case1 => simp [stop] at h
  | case2 => simp_all [stop]
  | case3 => simp [stop] at h
  | case4 => simp [stop] at h
  | case5 =>
    rename_i ih
    obtain ⟨later, hlater, rfl⟩ := result_afterMatch_eq_ok.1 h
    have := ih hlater
    simp only [rest_afterMatch, List.length_cons]
    omega
  | case6 =>
    rename_i ih
    exact Nat.le_succ_of_le (ih h)

end Pull

end DocQuery
