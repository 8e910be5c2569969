import DocQuery.Proofs.IdLookup

/-!
The natural order of a store, in which a scan yields its documents, is no part of a sorted answer.
Documents with distinct identifiers never compare as equal, so only one sequence of them is sorted.

* `Document.id_eq_of_order`: documents that compare as equal have the same identifier;
* `Document.sortBy_eq_of_perm`: any sorted sequence of some documents is the one that sorting finds;
* `Query.sorted_answer_of_perm` (**natural orders**): under sort keys scans of the same documents
  give the same answer, and a sorted answer is left as it is when it is sorted again.
-/

namespace DocQuery

open Std

namespace Document

variable {keys : List SortKey} {docs docs' : List Document}

/-! ### Only one sorted sequence -/

/-- Documents that compare as equal have the same identifier, which is compared last. -/
lemma id_eq_of_order {a b : Document} (h : order keys a b = .eq) : a.id = b.id := by
  induction keys with
  | nil =>
    rw [order] at h
    exact LawfulEqCmp.eq_of_compare h
  | cons key rest ih =>
    rw [order, Ordering.then_eq_eq] at h
    exact ih h.2

/-- A sorted sequence of documents with distinct identifiers is the one that sorting finds. -/
lemma sortBy_eq_of_perm {sorted : List Document} (hids : (docs.map (·.id)).Nodup)
    (hperm : sorted.Perm docs) (hsorted : sorted.Pairwise fun a b => (order keys a b).isLE) :
    sortBy keys docs = sorted := by
  obtain ⟨hsort, hpairwise, -⟩ := stableSort_sortBy keys docs
  refine List.Perm.eq_of_pairwise (fun a b ha hb hab hba => ?_) hpairwise hsorted
    (hsort.trans hperm.symm)
  -- Two documents that are in order both ways compare as equal, so they are the same one.
  have heq : order keys a b = .eq := OrientedCmp.isLE_antisymm hab hba
  exact List.inj_on_of_nodup_map hids (hsort.mem_iff.mp ha) (hperm.mem_iff.mp hb)
    (id_eq_of_order heq)

/-- The order in which documents come does not matter for sorting. -/
lemma sortBy_congr (hids : (docs.map (·.id)).Nodup) (hperm : docs.Perm docs') :
    sortBy keys docs = sortBy keys docs' := by
  obtain ⟨hsort, hpairwise, -⟩ := stableSort_sortBy keys docs'
  exact sortBy_eq_of_perm hids (hsort.trans hperm.symm) hpairwise

/-- Sorting leaves sorted documents as they are. -/
lemma sortBy_sortBy (hids : (docs.map (·.id)).Nodup) :
    sortBy keys (sortBy keys docs) = sortBy keys docs := by
  obtain ⟨hsort, hpairwise, -⟩ := stableSort_sortBy keys docs
  exact sortBy_eq_of_perm ((hsort.map _).nodup_iff.mpr hids) (.refl _) hpairwise

end Document

namespace Query

variable {query : Query} {docs docs' : List Document}

/-! ### Answers under sort keys -/

lemma nodup_ids_matching (query : Query) (hids : (docs.map (·.id)).Nodup) :
    ((query.matching docs).map (·.id)).Nodup :=
  hids.sublist (List.filter_sublist.map _)

/-- Under sort keys the answer does not depend on the order in which documents come. -/
lemma answer_of_perm (hsort : query.sort ≠ []) (hids : (docs.map (·.id)).Nodup)
    (hperm : docs.Perm docs') : query.answer docs = query.answer docs' := by
  have hmatching : (query.matching docs).Perm (query.matching docs') := hperm.filter _
  rw [answer, answer, ordered_of_sort_ne_nil hsort, ordered_of_sort_ne_nil hsort,
    Document.sortBy_congr (nodup_ids_matching query hids) hmatching]

/-- The query for all matches as they are, in the same order. -/
def whole (query : Query) : Query := { query with projection := none, skip := 0, limit := none }

lemma answer_whole (hsort : query.sort ≠ []) (docs : List Document) :
    query.whole.answer docs = Document.sortBy query.sort (query.matching docs) := by
  have hwhole : query.whole.sort ≠ [] := hsort
  rw [answer, ordered_of_sort_ne_nil hwhole]
  exact (List.map_congr_left fun doc _ => rfl).trans (List.map_id _)

/-- All matches in order are their own answer, to the same query and to any other with the same
sort keys that keeps them all. -/
lemma answer_answer_whole {selector : Selector} (hsort : query.sort ≠ [])
    (hids : (docs.map (·.id)).Nodup)
    (hkeep : ∀ doc ∈ query.matching docs, selector.isMatch doc = true) :
    { query.whole with selector := selector }.answer (query.whole.answer docs)
      = query.whole.answer docs := by
  have hperm := (Document.stableSort_sortBy query.sort (query.matching docs)).perm
  have hmatching : { query with selector := selector }.matching
      (Document.sortBy query.sort (query.matching docs))
      = Document.sortBy query.sort (query.matching docs) :=
    List.filter_eq_self.mpr fun doc hdoc => hkeep doc (hperm.mem_iff.mp hdoc)
  have hagain : { query with selector := selector }.sort ≠ [] := hsort
  rw [answer_whole hsort]
  refine (answer_whole hagain _).trans ?_
  rw [hmatching]
  exact Document.sortBy_sortBy (nodup_ids_matching query hids)

/-! ### Executions -/

/-- **The natural order of a store does not matter under sort keys.**  Executions over scans of the
same documents, in whatever order the scans yield them, return the same list, if no two of the
documents share an identifier.  All matches, sorted and otherwise as they are, are returned
unchanged when they are scanned again under the same sort keys, with the same selector or with
none. -/
theorem sorted_answer_of_perm (query : Query) (docs docs' : List Document)
    (hsort : query.sort ≠ []) (hids : (docs.map (·.id)).Nodup) (hperm : docs.Perm docs') :
    (query.Returns docs (query.answer docs) ∧ query.Returns docs' (query.answer docs))
      ∧ query.whole.Returns docs (query.whole.answer docs)
      ∧ ∀ selector, selector = query.selector ∨ selector = .always →
        { query.whole with selector := selector }.Returns (query.whole.answer docs)
          (query.whole.answer docs) := by
  refine ⟨⟨returns_answer query docs, ?_⟩, returns_answer query.whole docs,
    fun selector hselector => ?_⟩
  · rw [answer_of_perm hsort hids hperm]
    exact returns_answer query docs'
  · have hkeep : ∀ doc ∈ query.matching docs, selector.isMatch doc = true := by
      intro doc hdoc
      rcases hselector with rfl | rfl
      · exact (List.mem_filter.mp hdoc).2
      · rfl
    have hagain := returns_answer { query.whole with selector := selector }
      (query.whole.answer docs)
    rw [answer_answer_whole hsort hids hkeep] at hagain
    exact hagain

/-- Three documents: two agree on the key `k`, and the third lacks it. -/
def trio : List Document :=
  [⟨"b", none, .object [("k", .bool true)]⟩, ⟨"c", none, .object []⟩,
    ⟨"a", none, .object [("k", .bool true)]⟩]

/-- The first two documents downwards by the key `k`. -/
def topByKey : Query := ⟨.always, some [], [⟨⟨["k"]⟩, .descending⟩], 0, some 2⟩

/-- Whichever way the three documents come, the two with the key are returned, by identifier; sorted
once, all three stay as they are. -/
theorem topByKey_of_reversed_trio :
    topByKey.sort ≠ [] ∧ (trio.map (·.id)).Nodup ∧ trio.Perm trio.reverse
      ∧ (∃ cursor,
        (topByKey.execute ⟨.ok (trio.reverse.map .ofDocument), fun _ => none⟩ .standard
          .empty).result = .ok cursor
        ∧ (cursor.collect .empty).result
          = .ok [⟨"a", none, .object []⟩, ⟨"b", none, .object []⟩])
      ∧ topByKey.whole.Returns
        [⟨"a", none, .object [("k", .bool true)]⟩, ⟨"b", none, .object [("k", .bool true)]⟩,
          ⟨"c", none, .object []⟩]
        [⟨"a", none, .object [("k", .bool true)]⟩, ⟨"b", none, .object [("k", .bool true)]⟩,
          ⟨"c", none, .object []⟩] := by
  have hsort : topByKey.sort ≠ [] := List.cons_ne_nil _ _
  have hids : (trio.map (·.id)).Nodup := by decide
  have hperm : trio.Perm trio.reverse := (List.reverse_perm trio).symm
  obtain ⟨⟨-, hreturns⟩, -, hagain⟩ :=
    sorted_answer_of_perm topByKey trio trio.reverse hsort hids hperm
  have hanswer : topByKey.answer trio = [⟨"a", none, .object []⟩, ⟨"b", none, .object []⟩] := by
    cbv
  have hwhole : topByKey.whole.answer trio
      = [⟨"a", none, .object [("k", .bool true)]⟩, ⟨"b", none, .object [("k", .bool true)]⟩,
        ⟨"c", none, .object []⟩] := by cbv
  refine ⟨hsort, hids, hperm, ?_, ?_⟩
  · obtain ⟨cursor, hcursor, hdelivers⟩ := hreturns
      ⟨.ok (trio.reverse.map .ofDocument), fun _ => none⟩ .standard .empty .fullScan _ rfl rfl
      (undisturbed_ofDocument rfl _)
    have hcollected := hdelivers.collected
    rw [gather_map_ok, hanswer] at hcollected
    exact ⟨cursor, hcursor, hcollected⟩
  · have hsame := hagain topByKey.selector (.inl rfl)
    rw [hwhole] at hsame
    exact hsame

end Query

end DocQuery
