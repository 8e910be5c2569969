import DocQuery.Execution
import Mathlib.Logic.Basic

/-!
What a query comes to on a list of documents, and on a scan that may fail.  A cursor does this work
piece by piece; here it is said of the whole list at once.

* `page`: what is left of a list after a number of items, up to a limit;
* `Query.answer` (**the answer**): the matches among some documents in the order of the query, one
  page of them, as the query shows them;
* `ScanItem.documents` and `ScanItem.failure?`: a scan up to its first failure, and that failure;
* `Query.results` (**the results**): the answer for a scan, with the failure that breaks it off;
* `Query.results_of_drop_cons`: the results one after the other, as a scan is used up;
* `gather`: all of some results, or the first error among them.
-/

namespace DocQuery

/-! ### Pages -/

/-- What is left of a list after `skip` items, up to a limit. -/
def page {α : Type} (skip : Nat) (limit : Option Nat) (items : List α) : List α :=
  match limit with
  | some n => (items.drop skip).take n
  | none => items.drop skip

lemma page_eq_nil_of_limit {α : Type} (skip : Nat) (items : List α) :
    page skip (some 0) items = [] := by
  rw [page, List.take_zero]

lemma page_eq_nil_of_drop {α : Type} {skip : Nat} {items : List α} (limit : Option Nat)
    (h : items.drop skip = []) : page skip limit items = [] := by
  cases limit with
  | none => rw [page, h]
  | some n => rw [page, h, List.take_nil]

/-- The first item of a page leaves a page without anything to skip. -/
lemma page_eq_cons_of_drop {α : Type} {skip : Nat} {limit : Option Nat} {items later : List α}
    {item : α} (hlimit : limit ≠ some 0) (h : items.drop skip = item :: later) :
    page skip limit items = item :: page 0 (limit.map (· - 1)) later := by
  cases limit with
  | none => rw [page, h, Option.map_none, page, List.drop_zero]
  | some n =>
    obtain ⟨m, rfl⟩ : ∃ m, n = m + 1 := by
      refine ⟨n - 1, ?_⟩
      have hn : n ≠ 0 := fun h0 => hlimit (by rw [h0])
      omega
    rw [page, h, Option.map_some, page, List.drop_zero, List.take_succ_cons, Nat.add_sub_cancel]

/-! ### The answer for a list of documents -/

namespace Query

/-- The documents that fulfil the selector of a query. -/
def matching (query : Query) (docs : List Document) : List Document :=
  docs.filter query.selector.isMatch

/-- Documents in the order of the sort keys; they stay as they are if there is none. -/
def ordered (query : Query) (docs : List Document) : List Document :=
  match query.sort with
  | [] => docs
  | _ :: _ => Document.sortBy query.sort docs

/-- A document as a query shows it. -/
def shown (query : Query) (doc : Document) : Document :=
  match query.projection with
  | some paths => doc.project paths
  | none => doc

/-- The answer of a query: the matches in order, one page of them, as the query shows them. -/
def answer (query : Query) (docs : List Document) : List Document :=
  (page query.skip query.limit (query.ordered (query.matching docs))).map query.shown

lemma ordered_of_sort_nil {query : Query} (h : query.sort = []) (docs : List Document) :
    query.ordered docs = docs := by
  rw [ordered, h]

lemma ordered_of_sort_ne_nil {query : Query} (h : query.sort ≠ []) (docs : List Document) :
    query.ordered docs = Document.sortBy query.sort docs := by
  unfold ordered
  split
  · exact absurd ‹_› h
  · rfl

lemma answer_eq_nil_of_limit {query : Query} (h : query.limit = some 0) (docs : List Document) :
    query.answer docs = [] := by
  rw [answer, h, page_eq_nil_of_limit, List.map_nil]

/-- The first document after those to skip starts an answer, and the rest of the page follows. -/
lemma answer_of_drop_cons {query : Query} {docs later : List Document} {doc : Document}
    (hlimit : query.limit ≠ some 0)
    (hdrop : (query.ordered (query.matching docs)).drop query.skip = doc :: later) :
    query.answer docs
      = query.shown doc :: (page 0 (query.limit.map (· - 1)) later).map query.shown := by
  rw [answer, page_eq_cons_of_drop hlimit hdrop, List.map_cons]

lemma answer_of_drop_nil {query : Query} {docs : List Document}
    (hdrop : (query.ordered (query.matching docs)).drop query.skip = []) :
    query.answer docs = [] := by
  rw [answer, page_eq_nil_of_drop query.limit hdrop, List.map_nil]

end Query

/-! ### The results for a scan -/

namespace ScanItem

/-- The documents of a scan before its first failure. -/
def documents : List ScanItem → List Document
  | [] => []
  | item :: rest =>
    match item.content with
    | .ok doc => doc :: documents rest
    | .error _ => []

/-- The first failure of a scan. -/
def failure? : List ScanItem → Option StoreError
  | [] => none
  | item :: rest =>
    match item.content with
    | .ok _ => failure? rest
    | .error cause => some cause

variable {item : ScanItem} {rest : List ScanItem} {doc : Document} {cause : StoreError}

lemma documents_cons_ok (h : item.content = .ok doc) :
    documents (item :: rest) = doc :: documents rest := by
  rw [documents, h]

lemma documents_cons_error (h : item.content = .error cause) : documents (item :: rest) = [] := by
  rw [documents, h]

lemma failure?_cons_ok (h : item.content = .ok doc) : failure? (item :: rest) = failure? rest := by
  rw [failure?, h]

lemma failure?_cons_error (h : item.content = .error cause) :
    failure? (item :: rest) = some cause := by
  rw [failure?, h]

/-- A scan whose items are some documents yields these and does not fail. -/
lemma documents_and_failure?_of_contents {items : List ScanItem} {docs : List Document}
    (h : items.map (·.content) = docs.map .ok) :
    documents items = docs ∧ failure? items = none := by
  induction items generalizing docs with
  | nil =>
    rw [List.map_nil, eq_comm, List.map_eq_nil_iff] at h
    exact ⟨h.symm, rfl⟩
  | cons item rest ih =>
    obtain ⟨doc, later, rfl, hitem, hrest⟩ := List.map_eq_cons_iff.mp h.symm
    obtain ⟨hdocuments, hfailure⟩ := ih hrest.symm
    rw [documents_cons_ok hitem.symm, failure?_cons_ok hitem.symm, hdocuments]
    exact ⟨rfl, hfailure⟩

end ScanItem

namespace Query

/-- The results of a query over a scan, one after the other.  A failure of the scan comes after the
answer for the documents before it, unless these have reached the limit; under sort keys nothing
comes before it, as the order of the results is only known at the end of the scan. -/
def results (query : Query) (items : List ScanItem) : List (Except QueryError Document) :=
  let before := query.answer (ScanItem.documents items)
  match ScanItem.failure? items, query.sort with
  | none, _ => before.map .ok
  | some cause, [] =>
    before.map .ok
      ++ if query.limit = some before.length then [] else [.error (.storeFailure cause)]
  | some cause, _ :: _ => if query.limit = some 0 then [] else [.error (.storeFailure cause)]

lemma results_of_no_failure {query : Query} {items : List ScanItem}
    (h : ScanItem.failure? items = none) :
    query.results items = (query.answer (ScanItem.documents items)).map .ok := by
  rw [results, h]

/-- Without sort keys a failure follows the answer for the documents before it. -/
lemma results_of_sort_nil {query : Query} {items : List ScanItem} {cause : StoreError}
    (hsort : query.sort = []) (h : ScanItem.failure? items = some cause) :
    query.results items = (query.answer (ScanItem.documents items)).map .ok
      ++ if query.limit = some (query.answer (ScanItem.documents items)).length then []
        else [.error (.storeFailure cause)] := by
  rw [results, h, hsort]

/-- Under sort keys a failure is the only result. -/
lemma results_of_sort_ne_nil {query : Query} {items : List ScanItem} {cause : StoreError}
    (hsort : query.sort ≠ []) (hlimit : query.limit ≠ some 0)
    (h : ScanItem.failure? items = some cause) :
    query.results items = [.error (.storeFailure cause)] := by
  obtain ⟨key, keys, hkeys⟩ := List.exists_cons_of_ne_nil hsort
  rw [results, h, hkeys]
  exact if_neg hlimit

lemma results_eq_nil_of_limit {query : Query} (h : query.limit = some 0) (items : List ScanItem) :
    query.results items = [] := by
  unfold results
  simp only [answer_eq_nil_of_limit h, List.map_nil, List.nil_append, List.length_nil, if_pos h]
  split <;> rfl

/-! ### One result after the other -/

/-- The query for what is left of a page after its first document. -/
def afterFirst (query : Query) : Query :=
  { query with skip := 0, limit := query.limit.map (· - 1) }

lemma afterFirst_answer {query : Query} (hsort : query.sort = []) (docs : List Document) :
    query.afterFirst.answer docs
      = (page 0 (query.limit.map (· - 1)) (query.matching docs)).map query.shown := by
  have hafter : query.afterFirst.sort = [] := hsort
  rw [answer, ordered_of_sort_nil hafter]
  rfl

lemma limit_eq_succ_iff {limit : Option Nat} (h : limit ≠ some 0) (n : Nat) :
    limit = some (n + 1) ↔ limit.map (· - 1) = some n := by
  cases limit with
  | none => simp
  | some m =>
    have hm : m ≠ 0 := fun h0 => h (by rw [h0])
    simp only [Option.some.injEq, Option.map_some]
    omega

/-- Without sort keys the first match after those to skip is the first result.  The other results
are those for any scan that is left with the later matches and the same failure. -/
lemma results_of_drop_cons {query : Query} {items rest : List ScanItem} {doc : Document}
    {later : List Document} (hsort : query.sort = []) (hlimit : query.limit ≠ some 0)
    (hdrop : (query.matching (ScanItem.documents items)).drop query.skip = doc :: later)
    (hlater : query.matching (ScanItem.documents rest) = later)
    (hfailure : ScanItem.failure? rest = ScanItem.failure? items) :
    query.results items = .ok (query.shown doc) :: query.afterFirst.results rest := by
  have hanswer : query.answer (ScanItem.documents items)
      = query.shown doc :: query.afterFirst.answer (ScanItem.documents rest) := by
    rw [afterFirst_answer hsort, hlater]
    refine answer_of_drop_cons hlimit ?_
    rw [ordered_of_sort_nil hsort]
    exact hdrop
  cases hcause : ScanItem.failure? items with
  | none =>
    rw [results_of_no_failure hcause, results_of_no_failure (hfailure.trans hcause), hanswer,
      List.map_cons]
  | some cause =>
    have hafter : query.afterFirst.sort = [] := hsort
    rw [results_of_sort_nil hsort hcause, results_of_sort_nil hafter (hfailure.trans hcause),
      hanswer, List.map_cons, List.cons_append, List.length_cons]
    congr 2
    exact if_congr (limit_eq_succ_iff hlimit _) rfl rfl

/-- Without sort keys and without a match after those to skip, only the failure of the scan is a
result. -/
lemma results_of_drop_nil {query : Query} {items : List ScanItem} (hsort : query.sort = [])
    (hlimit : query.limit ≠ some 0)
    (hdrop : (query.matching (ScanItem.documents items)).drop query.skip = []) :
    query.results items
      = match ScanItem.failure? items with
        | some cause => [.error (.storeFailure cause)]
        | none => [] := by
  have hanswer : query.answer (ScanItem.documents items) = [] := by
    refine answer_of_drop_nil ?_
    rw [ordered_of_sort_nil hsort]
    exact hdrop
  cases hcause : ScanItem.failure? items with
  | none => rw [results_of_no_failure hcause, hanswer, List.map_nil]
  | some cause =>
    rw [results_of_sort_nil hsort hcause, hanswer, List.map_nil, List.nil_append, List.length_nil,
      if_neg hlimit]

end Query

/-! ### All results at once -/

/-- All of some results, or the first error among them. -/
def gather {ε α : Type} : List (Except ε α) → Except ε (List α)
  | [] => .ok []
  | .error e :: _ => .error e
  | .ok a :: rest => (gather rest).map (a :: ·)

lemma gather_map_ok_append {ε α : Type} (values : List α) (results : List (Except ε α)) :
    gather (values.map .ok ++ results) = (gather results).map (values ++ ·) := by
  induction values with
  | nil => cases h : gather results <;> simp [h, Except.map]
  | cons value rest ih =>
    rw [List.map_cons, List.cons_append, gather, ih]
    cases gather results <;> rfl

lemma gather_map_ok {ε α : Type} (values : List α) :
    gather (values.map (.ok : α → Except ε α)) = .ok values := by
  have h := gather_map_ok_append values ([] : List (Except ε α))
  rw [List.append_nil] at h
  rw [h, gather, Except.map, List.append_nil]

end DocQuery
