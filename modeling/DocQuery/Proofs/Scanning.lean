import DocQuery.Proofs.Answer

/-!
Pulling from a scan, seen from outside: what the search for the next match and the draining of a
scan give back, what they count, and what they take from the scan.

* `ExecOptions.Undisturbed`: neither the deadline nor a token stops an execution, whatever is
  pulled from a scan;
* `Pull.next_of_drop_cons`, `Pull.next_of_drop_nil` and `Pull.drain_of_undisturbed`: the outcome of
  an undisturbed search, read off the documents of the scan;
* `Pull.Pulls` (**pulling**): items leave a scan one by one, each while nothing stops the execution;
* `Pull.pulls_next` and `Pull.pulls_drain`: searching and draining do nothing else to a scan.
-/

namespace DocQuery

/-! ### Cancelled tokens -/

namespace Cancellations

lemma contains_cancel (cancelled : Cancellations) (token other : CancelToken) :
    (cancelled.cancel token).contains other = (token == other || cancelled.contains other) := by
  by_cases h : cancelled.contains token
  · rw [cancel, if_pos h]
    by_cases heq : token = other
    · rw [← heq, h, Bool.or_true]
    · rw [beq_false_of_ne heq, Bool.false_or]
  · rw [cancel, if_neg h, contains, contains]
    simp only [List.mem_cons, Bool.decide_or, eq_comm (a := other), Bool.beq_eq_decide_eq]

lemma contains_cancelAny (cancelled : Cancellations) (cancels : Option CancelToken)
    (token : CancelToken) :
    (cancelled.cancelAny cancels).contains token
      = (cancels == some token || cancelled.contains token) := by
  cases cancels with
  | none => rfl
  | some other => exact contains_cancel cancelled other token

end Cancellations

namespace ExecOptions

variable {options : ExecOptions} {cancelled : Cancellations}

/-- A cancelled token stops an execution, whether or not its deadline has passed. -/
lemma refusal?_of_contains {token : CancelToken} (htoken : options.token = some token)
    (h : cancelled.contains token = true) : options.refusal? cancelled = some .cancelled := by
  rw [refusal?, htoken]
  exact if_pos h

lemma not_contains_of_unrefused {token : CancelToken} (htoken : options.token = some token)
    (h : options.refusal? cancelled = none) : cancelled.contains token = false := by
  cases hcontains : cancelled.contains token with
  | false => rfl
  | true =>
    rw [refusal?_of_contains htoken hcontains] at h
    cases h

/-- A token is the one of an execution or the one of its deadline. -/
def Heeds (options : ExecOptions) (token : CancelToken) : Prop :=
  options.token = some token ∨ options.deadline = some token

/-- The cancellation of a token that an execution does not heed does not stop it. -/
lemma refusal?_cancel {token : CancelToken} (h : ¬ options.Heeds token) :
    options.refusal? (cancelled.cancel token) = options.refusal? cancelled := by
  have hany {own : Option CancelToken} (hown : own ≠ some token) :
      own.any (cancelled.cancel token).contains = own.any cancelled.contains := by
    cases own with
    | none => rfl
    | some other =>
      have hne : token ≠ other := fun heq => hown (congrArg some heq.symm)
      rw [Option.any_some, Option.any_some, Cancellations.contains_cancel, beq_false_of_ne hne,
        Bool.false_or]
  obtain ⟨htoken, hdeadline⟩ := not_or.mp h
  rw [refusal?, refusal?, hany htoken, hany hdeadline]

lemma refusal?_cancelAny {cancels : Option CancelToken}
    (h : ∀ token, cancels = some token → ¬ options.Heeds token) :
    options.refusal? (cancelled.cancelAny cancels) = options.refusal? cancelled := by
  cases cancels with
  | none => rfl
  | some token => exact refusal?_cancel (h token rfl)

/-- Nothing stops an execution, now or when items of a scan are pulled. -/
structure Undisturbed (options : ExecOptions) (cancelled : Cancellations)
    (items : List ScanItem) : Prop where
  unrefused : options.refusal? cancelled = none
  spared : ∀ item ∈ items, ∀ token, item.cancels = some token → ¬ options.Heeds token

lemma not_heeds_of_token_none (htoken : options.token = none) (hdeadline : options.deadline = none)
    (token : CancelToken) : ¬ options.Heeds token := by
  rw [Heeds, htoken, hdeadline]
  rintro (h | h) <;> cases h

/-- Without a token and without a deadline nothing stops an execution. -/
lemma undisturbed_of_token_none (htoken : options.token = none)
    (hdeadline : options.deadline = none) (cancelled : Cancellations) (items : List ScanItem) :
    options.Undisturbed cancelled items where
  unrefused := by
    rw [refusal?, htoken, hdeadline]
    rfl
  spared := fun _ _ token _ => not_heeds_of_token_none htoken hdeadline token

lemma Undisturbed.tail {item : ScanItem} {rest : List ScanItem}
    (h : options.Undisturbed cancelled (item :: rest)) :
    options.Undisturbed (cancelled.cancelAny item.cancels) rest where
  unrefused := by
    rw [refusal?_cancelAny (h.spared item List.mem_cons_self)]
    exact h.unrefused
  spared := fun other hother => h.spared other (List.mem_cons_of_mem item hother)

/-- The cancellation of another token disturbs nothing. -/
lemma Undisturbed.cancel {items : List ScanItem} {token : CancelToken}
    (h : options.Undisturbed cancelled items) (hother : ¬ options.Heeds token) :
    options.Undisturbed (cancelled.cancel token) items :=
  ⟨(refusal?_cancel hother).trans h.unrefused, h.spared⟩

end ExecOptions

namespace Pull

variable {options : ExecOptions} {selector : Selector} {cancelled : Cancellations}
  {items rest : List ScanItem} {item : ScanItem}

/-! ### One item at a time -/

lemma next_of_refused {reason : CancelReason} (h : options.refusal? cancelled = some reason)
    (skip : Nat) (items : List ScanItem) :
    next options selector skip cancelled items
      = stop items cancelled (.error (.cancelled reason)) := by
  cases items <;> rw [next, h]

lemma drain_of_refused {reason : CancelReason} (h : options.refusal? cancelled = some reason)
    (items : List ScanItem) :
    drain options selector cancelled items
      = stop items cancelled (.error (.cancelled reason)) := by
  cases items <;> rw [drain, h]

lemma next_nil (h : options.refusal? cancelled = none) (skip : Nat) :
    next options selector skip cancelled [] = stop [] cancelled (.ok none) := by
  rw [next, h]

lemma next_cons_error {cause : StoreError} (h : options.refusal? cancelled = none)
    (hitem : item.content = .error cause) (skip : Nat) :
    next options selector skip cancelled (item :: rest)
      = stop rest (cancelled.cancelAny item.cancels) (.error (.storeFailure cause)) := by
  rw [next, h]
  simp only [hitem]

lemma next_cons_rejected {doc : Document} (h : options.refusal? cancelled = none)
    (hitem : item.content = .ok doc) (hmatch : selector.isMatch doc = false) (skip : Nat) :
    next options selector skip cancelled (item :: rest)
      = (next options selector skip (cancelled.cancelAny item.cancels) rest).afterRejected
          doc.id := by
  rw [next, h]
  simp [hitem, hmatch]

lemma next_cons_skipped {doc : Document} (h : options.refusal? cancelled = none)
    (hitem : item.content = .ok doc) (hmatch : selector.isMatch doc = true) (skip : Nat) :
    next options selector (skip + 1) cancelled (item :: rest)
      = (next options selector skip (cancelled.cancelAny item.cancels) rest).afterSkipped := by
  rw [next, h]
  simp [hitem, hmatch]

lemma next_cons_found {doc : Document} (h : options.refusal? cancelled = none)
    (hitem : item.content = .ok doc) (hmatch : selector.isMatch doc = true) :
    next options selector 0 cancelled (item :: rest)
      = found rest (cancelled.cancelAny item.cancels) doc := by
  rw [next, h]
  simp [hitem, hmatch]

lemma drain_nil (h : options.refusal? cancelled = none) :
    drain options selector cancelled [] = stop [] cancelled (.ok []) := by
  rw [drain, h]

lemma drain_cons_error {cause : StoreError} (h : options.refusal? cancelled = none)
    (hitem : item.content = .error cause) :
    drain options selector cancelled (item :: rest)
      = stop rest (cancelled.cancelAny item.cancels) (.error (.storeFailure cause)) := by
  rw [drain, h]
  simp only [hitem]

lemma drain_cons_rejected {doc : Document} (h : options.refusal? cancelled = none)
    (hitem : item.content = .ok doc) (hmatch : selector.isMatch doc = false) :
    drain options selector cancelled (item :: rest)
      = (drain options selector (cancelled.cancelAny item.cancels) rest).afterRejected doc.id := by
  rw [drain, h]
  simp [hitem, hmatch]

lemma drain_cons_match {doc : Document} (h : options.refusal? cancelled = none)
    (hitem : item.content = .ok doc) (hmatch : selector.isMatch doc = true) :
    drain options selector cancelled (item :: rest)
      = (drain options selector (cancelled.cancelAny item.cancels) rest).afterMatch doc := by
  rw [drain, h]
  simp [hitem, hmatch]

/-! ### What is pulled -/

/-- Items leave a scan from the front, and each may cancel a token.  Before each of them nothing has
stopped the execution. -/
inductive Pulls (options : ExecOptions) :
    Cancellations → List ScanItem → Cancellations → List ScanItem → Prop
  | nothing (cancelled : Cancellations) (items : List ScanItem) :
    Pulls options cancelled items cancelled items
  | more {cancelled later : Cancellations} {item : ScanItem} {items rest : List ScanItem}
      (h : options.refusal? cancelled = none)
      (hlater : Pulls options (cancelled.cancelAny item.cancels) items later rest) :
    Pulls options cancelled (item :: items) later rest

lemma Pulls.one (h : options.refusal? cancelled = none) :
    Pulls options cancelled (item :: rest) (cancelled.cancelAny item.cancels) rest :=
  .more h (.nothing _ _)

/-- The search for the next match does nothing to a scan but pull from it. -/
lemma pulls_next (options : ExecOptions) (selector : Selector) (skip : Nat)
    (cancelled : Cancellations) (items : List ScanItem) :
    Pulls options cancelled items (next options selector skip cancelled items).cancelled
      (next options selector skip cancelled items).rest := by
  induction items generalizing skip cancelled with
  | nil =>
    cases h : options.refusal? cancelled with
    | none => rw [next_nil h]; exact .nothing _ _
    | some reason => rw [next_of_refused h]; exact .nothing _ _
  | cons item rest ih =>
    cases h : options.refusal? cancelled with
    | some reason => rw [next_of_refused h]; exact .nothing _ _
    | none =>
      cases hitem : item.content with
      | error cause => rw [next_cons_error h hitem]; exact .one h
      | ok doc =>
        cases hmatch : selector.isMatch doc with
        | false => rw [next_cons_rejected h hitem hmatch]; exact .more h (ih _ _)
        | true =>
          cases skip with
          | zero => rw [next_cons_found h hitem hmatch]; exact .one h
          | succ skip => rw [next_cons_skipped h hitem hmatch]; exact .more h (ih _ _)

/-- Draining a scan does nothing to it but pull from it. -/
lemma pulls_drain (options : ExecOptions) (selector : Selector) (cancelled : Cancellations)
    (items : List ScanItem) :
    Pulls options cancelled items (drain options selector cancelled items).cancelled
      (drain options selector cancelled items).rest := by
  induction items generalizing cancelled with
  | nil =>
    cases h : options.refusal? cancelled with
    | none => rw [drain_nil h]; exact .nothing _ _
    | some reason => rw [drain_of_refused h]; exact .nothing _ _
  | cons item rest ih =>
    cases h : options.refusal? cancelled with
    | some reason => rw [drain_of_refused h]; exact .nothing _ _
    | none =>
      cases hitem : item.content with
      | error cause => rw [drain_cons_error h hitem]; exact .one h
      | ok doc =>
        cases hmatch : selector.isMatch doc with
        | false => rw [drain_cons_rejected h hitem hmatch]; exact .more h (ih _)
        | true => rw [drain_cons_match h hitem hmatch]; exact .more h (ih _)

namespace Pulls

variable {later : Cancellations}

/-- What does not disturb an execution while a scan is pulled does not disturb it afterwards. -/
lemma undisturbed (h : Pulls options cancelled items later rest)
    (hquiet : options.Undisturbed cancelled items) : options.Undisturbed later rest := by
  induction h with
  | nothing => exact hquiet
  | more _ _ ih => exact ih hquiet.tail

/-- Nothing is pulled once the execution is stopped. -/
lemma eq_of_refused {reason : CancelReason} (h : Pulls options cancelled items later rest)
    (hrefused : options.refusal? cancelled = some reason) : later = cancelled ∧ rest = items := by
  cases h with
  | nothing => exact ⟨rfl, rfl⟩
  | more hunrefused =>
    rw [hrefused] at hunrefused
    cases hunrefused

end Pulls

/-! ### Undisturbed scans -/

/-- A search has skipped as many matches as it was asked to and has found a document; the scan is
left with its later matches and its failure. -/
structure Finds (pull : Pull (Option Document)) (selector : Selector) (skip : Nat) (doc : Document)
    (later : List Document) (failure : Option StoreError) : Prop where
  result : pull.result = .ok (some doc)
  skipped : pull.skipped = skip
  later : (ScanItem.documents pull.rest).filter selector.isMatch = later
  failure : ScanItem.failure? pull.rest = failure

/-- An undisturbed search finds the first match after those to skip. -/
lemma next_of_drop_cons (selector : Selector) {skip : Nat} {doc : Document}
    {later : List Document} (hquiet : options.Undisturbed cancelled items)
    (hdrop : ((ScanItem.documents items).filter selector.isMatch).drop skip = doc :: later) :
    (next options selector skip cancelled items).Finds selector skip doc later
      (ScanItem.failure? items) := by
  -- Along the scan: a match that is skipped is one that `drop` takes off the matches.
  induction items generalizing skip cancelled with
  | nil =>
    rw [ScanItem.documents, List.filter_nil, List.drop_nil] at hdrop
    cases hdrop
  | cons item rest ih =>
    have h := hquiet.unrefused
    cases hitem : item.content with
    | error cause =>
      rw [ScanItem.documents_cons_error hitem, List.filter_nil, List.drop_nil] at hdrop
      cases hdrop
    | ok first =>
      rw [ScanItem.documents_cons_ok hitem] at hdrop
      rw [ScanItem.failure?_cons_ok hitem]
      cases hmatch : selector.isMatch first with
      | false =>
        rw [List.filter_cons_of_neg (by rw [hmatch]; exact Bool.false_ne_true)] at hdrop
        have hrest := ih hquiet.tail hdrop
        rw [next_cons_rejected h hitem hmatch]
        exact ⟨hrest.result, hrest.skipped, hrest.later, hrest.failure⟩
      | true =>
        rw [List.filter_cons_of_pos hmatch] at hdrop
        cases skip with
        | zero =>
          obtain ⟨rfl, rfl⟩ := List.cons.inj hdrop
          rw [next_cons_found h hitem hmatch]
          exact ⟨rfl, rfl, rfl, rfl⟩
        | succ skip =>
          rw [List.drop_succ_cons] at hdrop
          have hrest := ih hquiet.tail hdrop
          rw [next_cons_skipped h hitem hmatch]
          exact ⟨hrest.result, congrArg (· + 1) hrest.skipped, hrest.later, hrest.failure⟩

/-- An undisturbed search that finds nothing ends with the failure of the scan or at its end. -/
lemma next_of_drop_nil (selector : Selector) {skip : Nat}
    (hquiet : options.Undisturbed cancelled items)
    (hdrop : ((ScanItem.documents items).filter selector.isMatch).drop skip = []) :
    (next options selector skip cancelled items).result
      = match ScanItem.failure? items with
        | some cause => .error (.storeFailure cause)
        | none => .ok none := by
  induction items generalizing skip cancelled with
  | nil => rw [next_nil hquiet.unrefused]; rfl
  | cons item rest ih =>
    have h := hquiet.unrefused
    cases hitem : item.content with
    | error cause =>
      rw [next_cons_error h hitem, ScanItem.failure?_cons_error hitem]
      rfl
    | ok first =>
      rw [ScanItem.documents_cons_ok hitem] at hdrop
      rw [ScanItem.failure?_cons_ok hitem]
      cases hmatch : selector.isMatch first with
      | false =>
        rw [List.filter_cons_of_neg (by rw [hmatch]; exact Bool.false_ne_true)] at hdrop
        rw [next_cons_rejected h hitem hmatch]
        exact ih hquiet.tail hdrop
      | true =>
        rw [List.filter_cons_of_pos hmatch] at hdrop
        cases skip with
        | zero => cases hdrop
        | succ skip =>
          rw [next_cons_skipped h hitem hmatch]
          exact ih hquiet.tail hdrop

/-- Draining an undisturbed scan gives all its matches, or its failure. -/
lemma drain_of_undisturbed (selector : Selector)
    (hquiet : options.Undisturbed cancelled items) :
    (drain options selector cancelled items).result
      = match ScanItem.failure? items with
        | some cause => .error (.storeFailure cause)
        | none => .ok ((ScanItem.documents items).filter selector.isMatch) := by
  induction items generalizing cancelled with
  | nil => rw [drain_nil hquiet.unrefused]; rfl
  | cons item rest ih =>
    have h := hquiet.unrefused
    cases hitem : item.content with
    | error cause =>
      rw [drain_cons_error h hitem, ScanItem.failure?_cons_error hitem]
      rfl
    | ok first =>
      have hrest := ih hquiet.tail
      rw [ScanItem.documents_cons_ok hitem, ScanItem.failure?_cons_ok hitem]
      cases hmatch : selector.isMatch first with
      | false =>
        rw [List.filter_cons_of_neg (by rw [hmatch]; exact Bool.false_ne_true),
          drain_cons_rejected h hitem hmatch]
        exact hrest
      | true =>
        rw [List.filter_cons_of_pos hmatch, drain_cons_match h hitem hmatch, afterMatch, hrest]
        cases ScanItem.failure? rest <;> rfl

/-! ### What is counted -/

/-- A search skips no more matches than it was asked to, whatever stops it. -/
lemma skipped_next_le (options : ExecOptions) (selector : Selector) (skip : Nat)
    (cancelled : Cancellations) (items : List ScanItem) :
    (next options selector skip cancelled items).skipped ≤ skip := by
  fun_induction next options selector skip cancelled items with
  | case1 => exact Nat.zero_le _
  | case2 => exact Nat.zero_le _
  | case3 => exact Nat.zero_le _
  | case4 => exact Nat.zero_le _
  | case5 => exact Nat.le_refl 0
  | case6 _ _ _ _ _ _ _ _ _ ih => exact Nat.succ_le_succ ih
  | case7 _ _ _ _ _ _ _ _ _ ih => exact ih

/-- A search counts the matches that it skips and the one that it finds. -/
lemma matched_next (options : ExecOptions) (selector : Selector) (skip : Nat)
    (cancelled : Cancellations) (items : List ScanItem) :
    (next options selector skip cancelled items).matched
      = (next options selector skip cancelled items).skipped
        + match (next options selector skip cancelled items).result with
          | .ok (some _) => 1
          | _ => 0 := by
  fun_induction next options selector skip cancelled items with
  | case1 => rfl
  | case2 => rfl
  | case3 => rfl
  | case4 => rfl
  | case5 => rfl
  | case6 _ _ _ _ _ _ _ _ _ ih =>
    rw [result_afterSkipped, afterSkipped, ih]
    exact Nat.add_right_comm _ _ _
  | case7 _ _ _ _ _ _ _ _ _ ih => exact ih

/-- Draining a scan counts the matches that it collects, and skips none. -/
lemma matched_drain {docs : List Document}
    (h : (drain options selector cancelled items).result = .ok docs) :
    (drain options selector cancelled items).matched = docs.length
      ∧ (drain options selector cancelled items).skipped = 0 := by
  fun_induction drain options selector cancelled items generalizing docs with
  | case1 => cases h
  | case2 =>
    cases h
    exact ⟨rfl, rfl⟩
  | case3 => cases h
  | case4 => cases h
  | case5 =>
    rename_i ih
    obtain ⟨later, hlater, rfl⟩ := result_afterMatch_eq_ok.1 h
    obtain ⟨hmatched, hskipped⟩ := ih hlater
    exact ⟨congrArg (· + 1) hmatched, hskipped⟩
  | case6 =>
    rename_i ih
    exact ih h

end Pull

end DocQuery
