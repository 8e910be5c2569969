import DocQuery.Proofs.Delivery
import DocQuery.Proofs.KeyedStore
import DocQuery.Proofs.SelectorEntries

/-!
Looking a document up instead of scanning the store.  A query that demands an identifier tests only
the document that has it; every other document would fail the test anyway.

* `Selector.id_of_isMatch`: only the document with the demanded identifier can fulfil a selector;
* `Store.Keyed.filter_id`: a lookup finds what a filter by identifier leaves of a scan;
* `Query.exists_scans`: with and without the lookup a query runs over scans with the same matches;
* `Query.lookup_keeps_answer` (**lookups**): the lookup never changes what a query delivers.
-/

namespace DocQuery

/-! ### The demanded identifier -/

namespace Selector

/-- A comparison of `_id` reads the identifier of the document, whatever its body holds. -/
lemma fieldAt_of_segments {path : FieldPath} (h : path.segments = [Document.idField])
    (doc : Document) : doc.fieldAt path = some (.string doc.id) := by
  rw [Document.fieldAt, h]
  exact if_pos rfl

lemma id_of_comparedId? {selector : Selector} {id : DocumentId} {doc : Document}
    (h : selector.comparedId? = some id) (hmatch : selector.holds doc.fieldAt = true) :
    doc.id = id := by
  unfold comparedId? at h
  split at h
  · rename_i path operand
    by_cases hpath : path.segments = [Document.idField]
    · rw [if_pos hpath, Option.some.injEq] at h
      rw [holds, FieldTest.holds, FieldTest.comparesAs, fieldAt_of_segments hpath] at hmatch
      have hequal : (doc.id == operand) = true := hmatch
      rw [← h]
      exact eq_of_beq hequal
    · rw [if_neg hpath] at h
      cases h
  · cases h

/-- Only the document with the demanded identifier can fulfil a selector: the comparison that
demands it is the selector itself or one of its conjuncts. -/
lemma id_of_isMatch {selector : Selector} {id : DocumentId} {doc : Document}
    (h : selector.demandedId? = some id) (hmatch : selector.isMatch doc = true) : doc.id = id := by
  unfold demandedId? at h
  split at h
  · rename_i children
    obtain ⟨child, hmem, hchild⟩ := List.exists_of_findSome?_eq_some h
    rw [isMatch, holds, allHold_eq_true_iff] at hmatch
    exact id_of_comparedId? hchild (hmatch child hmem)
  · exact id_of_comparedId? h hmatch

end Selector

/-! ### Scans with the same matches -/

/-- The store without its lookup. -/
def Store.scanOnly (store : Store) : Store := { store with lookup := fun _ => none }

/-- A lookup finds what a filter by identifier leaves of the documents. -/
lemma Store.Keyed.filter_id {store : Store} {docs : List Document} {id : DocumentId}
    {found : Option Document} (h : store.Keyed docs)
    (hfound : ∀ doc, found = some doc ↔ doc ∈ docs ∧ doc.id = id) :
    docs.filter (fun doc => doc.id = id) = found.toList := by
  cases found with
  | none =>
    rw [Option.toList_none, List.filter_eq_nil_iff]
    intro doc hmem hid
    rw [decide_eq_true_eq] at hid
    exact absurd ((hfound doc).mpr ⟨hmem, hid⟩) (by simp)
  | some doc =>
    obtain ⟨hmem, hid⟩ := (hfound doc).mp rfl
    have hdistinct := h.distinct
    obtain ⟨before, behind, rfl⟩ := List.append_of_mem hmem
    rw [List.map_append, List.map_cons, List.nodup_middle, List.nodup_cons, ← List.map_append]
      at hdistinct
    have hothers : ∀ other ∈ before ++ behind, ¬ decide (other.id = id) = true := by
      intro other hother heq
      rw [decide_eq_true_eq] at heq
      refine hdistinct.1 ?_
      rw [hid, ← heq]
      exact List.mem_map_of_mem hother
    rw [List.filter_append,
      List.filter_cons_of_pos (p := fun doc : Document => doc.id = id) (decide_eq_true hid),
      List.filter_eq_nil_iff.mpr fun other hother =>
        hothers other (List.mem_append_left behind hother),
      List.filter_eq_nil_iff.mpr fun other hother =>
        hothers other (List.mem_append_right before hother)]
    rfl

namespace Query

variable {query : Query} {store : Store} {docs : List Document}

/-- Documents with the same matches give the same answer. -/
lemma answer_congr {docs' : List Document} (h : query.matching docs = query.matching docs') :
    query.answer docs = query.answer docs' := by
  rw [answer, answer, h]

lemma openScan_scanOnly (query : Query) (store : Store) :
    query.openScan store.scanOnly = (.fullScan, store.enumerate) := by
  unfold openScan
  split <;> rfl

/-- With its lookup a store is scanned for documents among which the matches are the same. -/
lemma exists_scans (query : Query) (h : store.Keyed docs) :
    ∃ scan found, query.openScan store = (scan, .ok (found.map .ofDocument))
      ∧ query.matching found = query.matching docs := by
  cases hid : query.selector.demandedId? with
  | none =>
    refine ⟨.fullScan, docs, ?_, rfl⟩
    rw [openScan, scanKind, hid, ← h.enumerate]
  | some id =>
    obtain ⟨found, hlookup, hfound⟩ := h.lookup id
    refine ⟨.idLookup id, found.toList, ?_, ?_⟩
    · rw [openScan, scanKind, hid]
      simp only [hlookup]
    · rw [matching, matching, ← h.filter_id hfound, List.filter_filter]
      refine List.filter_congr fun doc _ => ?_
      cases hmatch : query.selector.isMatch doc with
      | false => rfl
      | true => rw [decide_eq_true (Selector.id_of_isMatch hid hmatch), Bool.and_true]

/-! ### The same results -/

lemma contents_ofDocument (docs : List Document) :
    (docs.map ScanItem.ofDocument).map (·.content) = docs.map .ok := by
  rw [List.map_map]
  rfl

/-- Documents cancel nothing while they are pulled. -/
lemma undisturbed_ofDocument {options : ExecOptions} {cancelled : Cancellations}
    (h : options.refusal? cancelled = none) (docs : List Document) :
    options.Undisturbed cancelled (docs.map .ofDocument) := by
  refine ⟨h, fun item hitem token htoken => ?_⟩
  obtain ⟨doc, -, rfl⟩ := List.mem_map.mp hitem
  cases htoken

/-- A query that nothing stops delivers the answer for the documents of its scan. -/
lemma exists_cursor_of_documents {options : ExecOptions} {cancelled : Cancellations}
    {scan : ScanKind} (h : options.refusal? cancelled = none)
    (hscan : query.openScan store = (scan, .ok (docs.map .ofDocument))) :
    ∃ cursor, (query.execute store options cancelled).result = .ok cursor
      ∧ (Reading.mk cursor cancelled).Delivers ((query.answer docs).map .ok) :=
  returns_answer query docs store options cancelled scan _ hscan (contents_ofDocument docs)
    (undisturbed_ofDocument h docs)

/-- A query that nothing stops delivers the answer for the documents of a store, whether or not it
looks one of them up. -/
lemma exists_delivering (query : Query) (h : store.Keyed docs) {options : ExecOptions}
    {cancelled : Cancellations} (hunrefused : options.refusal? cancelled = none) :
    ∃ cursor, (query.execute store options cancelled).result = .ok cursor
      ∧ (Reading.mk cursor cancelled).Delivers ((query.answer docs).map .ok) := by
  obtain ⟨scan, found, hscan, hmatching⟩ := query.exists_scans h
  rw [← answer_congr hmatching]
  exact exists_cursor_of_documents hunrefused hscan

/-- What collecting everything at once comes to. -/
lemma result_run_of_documents {scan : ScanKind}
    (hscan : query.openScan store = (scan, .ok (docs.map .ofDocument))) (options : ExecOptions) :
    (query.run store options).result
      = match options.refusal? .empty with
        | some reason => .error (.cancelled reason)
        | none => .ok (query.answer docs) := by
  cases h : options.refusal? .empty with
  | some reason =>
    have hexecute : (query.execute store options .empty).result = .error (.cancelled reason) := by
      rw [execute, h]
    rw [run]
    simp only [hexecute]
  | none =>
    obtain ⟨cursor, hexecute, hdelivers⟩ := exists_cursor_of_documents h hscan
    have hcollected := hdelivers.collected
    rw [gather_map_ok] at hcollected
    rw [run]
    simp only [hexecute, hcollected]

/-- **The lookup never changes what a query delivers.**  Over a store that keeps each document
under an identifier of its own, a query comes to the same result with the lookup as without it.
Unless it is stopped, both executions open and deliver the answer for the documents of the store.
Every history of a memory store leads to such a store, with and without an import at its start. -/
theorem lookup_keeps_answer (query : Query) (options : ExecOptions) :
    (∀ (store : Store) (docs : List Document), store.Keyed docs →
        (query.run store options).result = (query.run store.scanOnly options).result
          ∧ ∀ cancelled, options.refusal? cancelled = none →
            ∃ found scanned,
              (query.execute store options cancelled).result = .ok found
                ∧ (query.execute store.scanOnly options cancelled).result = .ok scanned
                ∧ scanned.scan = .fullScan
                ∧ (Reading.mk found cancelled).Delivers ((query.answer docs).map .ok)
                ∧ (Reading.mk scanned cancelled).Delivers ((query.answer docs).map .ok))
      ∧ (∀ writes, (MemoryStore.empty.afterWrites writes).toStore.Keyed
          (MemoryStore.empty.afterWrites writes).documents)
      ∧ ∀ (imports : List Json) (memory : MemoryStore),
        MemoryStore.ofJsonDocs imports = .ok memory →
          ∀ writes, (memory.afterWrites writes).toStore.Keyed
            (memory.afterWrites writes).documents := by
  refine ⟨fun store docs h => ?_, MemoryStore.keyed_afterWrites, fun imports memory himports => ?_⟩
  · obtain ⟨scan, found, hfound, hmatching⟩ := exists_scans query h
    have hanswer : query.answer found = query.answer docs := answer_congr hmatching
    have hscanned : query.openScan store.scanOnly = (.fullScan, .ok (docs.map .ofDocument)) := by
      rw [openScan_scanOnly, h.enumerate]
    refine ⟨?_, fun cancelled hunrefused => ?_⟩
    · rw [result_run_of_documents hfound, result_run_of_documents hscanned, hanswer]
    · obtain ⟨looking, hlooking, hdelivers⟩ := exists_cursor_of_documents hunrefused hfound
      obtain ⟨scanning, hscanning, hdelivers'⟩ := exists_cursor_of_documents hunrefused hscanned
      rw [hanswer] at hdelivers
      refine ⟨looking, scanning, hlooking, hscanning, ?_, hdelivers, hdelivers'⟩
      rw [result_execute hunrefused hscanned, Except.ok.injEq] at hscanning
      rw [← hscanning]
      rfl
  · obtain ⟨earlier, rfl⟩ := MemoryStore.exists_writes_of_ofJsonDocs himports
    intro writes
    rw [← MemoryStore.afterWrites_append]
    exact MemoryStore.keyed_afterWrites (earlier ++ writes)

/-- Two documents with the key `n`.  The body written under `b` claims to be `a`. -/
def memos : List Write :=
  [.insert (.object [("_id", .string "a"), ("n", .string "x")]),
    .put "b" (.object [("_id", .string "a"), ("n", .string "y")])]

/-- The document `b` if it has the key `n`. -/
def memoWithKey : Query :=
  ⟨.and [.field ⟨["n"]⟩ (.presence true), .field ⟨["_id"]⟩ (.compare .eq (.string "b"))], none, [],
    0, none⟩

/-- The memos are kept under identifiers of their own, and the second is found by its own. -/
theorem memoWithKey_keeps_answer :
    let memory := MemoryStore.empty.afterWrites memos
    memory.toStore.Keyed memory.documents
      ∧ (memoWithKey.run memory.toStore .standard).result
        = (memoWithKey.run memory.toStore.scanOnly .standard).result
      ∧ ExecOptions.standard.refusal? .empty = none
      ∧ (∃ cursor, (memoWithKey.execute memory.toStore .standard .empty).result = .ok cursor
        ∧ ∃ doc, doc.id = "b" ∧ (cursor.collect .empty).result = .ok [doc])
      ∧ ∃ imported, MemoryStore.ofJsonDocs [.object [("_id", .string "c")]] = .ok imported
        ∧ (imported.afterWrites memos).toStore.Keyed (imported.afterWrites memos).documents := by
  intro memory
  obtain ⟨hsame, hkeyed, himported⟩ := lookup_keeps_answer memoWithKey .standard
  obtain ⟨hresult, hcursors⟩ := hsame memory.toStore memory.documents (hkeyed memos)
  obtain ⟨cursor, -, hcursor, -, -, hdelivers, -⟩ := hcursors .empty rfl
  have hanswer : ∃ doc, doc.id = "b" ∧ memoWithKey.answer memory.documents = [doc] :=
    ⟨⟨"b", _, _⟩, rfl, by cbv⟩
  obtain ⟨doc, hid, hdoc⟩ := hanswer
  have hcollected := hdelivers.collected
  rw [hdoc] at hcollected
  exact ⟨hkeyed memos, hresult, rfl, ⟨cursor, hcursor, doc, hid, hcollected⟩, _, rfl,
    himported [.object [("_id", .string "c")]] _ rfl memos⟩

end Query

end DocQuery
