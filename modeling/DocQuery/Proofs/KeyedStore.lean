import DocQuery.Store.Memory
import Mathlib.Data.List.Nodup

/-!
Stores that keep each document under an identifier of its own.

* `Store.Keyed`: a scan yields documents with distinct identifiers, and a lookup finds the one with
  an identifier, or none;
* `Write` and `MemoryStore.afterWrites`: the histories of documents kept in memory;
* `MemoryStore.ids_put`: what writing does to the identifiers;
* `MemoryStore.keyed_afterWrites` (**keys**): every history leads to a store of this kind, imports
  included (`MemoryStore.exists_writes_of_ofJsonDocs`).
-/

namespace DocQuery

/-- A scan yields some documents with distinct identifiers, and a lookup finds the one with an
identifier if there is one. -/
structure Store.Keyed (store : Store) (docs : List Document) : Prop where
  enumerate : store.enumerate = .ok (docs.map .ofDocument)
  distinct : (docs.map (·.id)).Nodup
  lookup : ∀ id, ∃ found, store.lookup id = some (.ok found)
    ∧ ∀ doc, found = some doc ↔ doc ∈ docs ∧ doc.id = id

/-! ### Histories of writes -/

/-- A change of the documents in memory. -/
inductive Write where
  | insert (body : Value)
  | put (id : DocumentId) (body : Value)
  | delete (id : DocumentId)

namespace MemoryStore

/-- The store after a write. -/
def write (store : MemoryStore) : Write → MemoryStore
  | .insert body => (store.insert body).2
  | .put id body => store.put id body
  | .delete id => (store.delete id).2

/-- The store after some writes, one after the other. -/
def afterWrites (store : MemoryStore) (writes : List Write) : MemoryStore :=
  writes.foldl write store

lemma afterWrites_append (store : MemoryStore) (writes later : List Write) :
    store.afterWrites (writes ++ later) = (store.afterWrites writes).afterWrites later :=
  List.foldl_append

/-- An import is a history of insertions. -/
lemma exists_writes_of_insertAll {store imported : MemoryStore} {i : Nat} {docs : List Json}
    (h : store.insertAll i docs = .ok imported) :
    ∃ writes, imported = store.afterWrites writes := by
  fun_induction insertAll store i docs with
  | case1 store =>
    cases h
    exact ⟨[], rfl⟩
  | case2 store i members rest ih =>
    obtain ⟨writes, rfl⟩ := ih h
    exact ⟨.insert (Value.ofJson (.object members)) :: writes, rfl⟩
  | case3 => cases h

lemma exists_writes_of_ofJsonDocs {imported : MemoryStore} {docs : List Json}
    (h : ofJsonDocs docs = .ok imported) : ∃ writes, imported = empty.afterWrites writes :=
  exists_writes_of_insertAll h

/-! ### Identifiers -/

/-- The identifiers of the documents, in order. -/
def ids (store : MemoryStore) : List DocumentId := store.documents.map (·.id)

/-- Writing changes a document in place, or adds one with a new identifier at the end. -/
lemma ids_writeSlot (id : DocumentId) (body : Value) (n : Nat) (slots : List Slot) :
    (writeSlot id body n slots).map (·.doc.id)
      = if id ∈ slots.map (·.doc.id) then slots.map (·.doc.id)
        else slots.map (·.doc.id) ++ [id] := by
  induction slots with
  | nil => rfl
  | cons slot rest ih =>
    by_cases h : slot.doc.id = id
    · rw [writeSlot, if_pos h, List.map_cons, List.map_cons, h, if_pos List.mem_cons_self]
    · have hne : ¬ id = slot.doc.id := fun heq => h heq.symm
      rw [writeSlot, if_neg h, List.map_cons, List.map_cons, ih]
      by_cases hmem : id ∈ rest.map (·.doc.id)
      · rw [if_pos hmem, if_pos (List.mem_cons_of_mem _ hmem)]
      · rw [if_neg hmem, if_neg (by rw [List.mem_cons]; exact not_or.mpr ⟨hne, hmem⟩),
          List.cons_append]

lemma ids_eq_map_slots (store : MemoryStore) : store.ids = store.slots.map (·.doc.id) := by
  rw [ids, documents, List.map_map]
  rfl

lemma ids_put (store : MemoryStore) (id : DocumentId) (body : Value) :
    (store.put id body).ids = if id ∈ store.ids then store.ids else store.ids ++ [id] := by
  rw [ids_eq_map_slots, ids_eq_map_slots]
  exact ids_writeSlot id (strippedBody body) store.drawn store.slots

/-- An insertion writes under some identifier, and draws no name or one. -/
lemma exists_put_of_insert (store : MemoryStore) (body : Value) :
    ∃ id drawn, (store.insert body).2 = { store with drawn := drawn }.put id body := by
  unfold insert
  split
  · exact ⟨_, store.drawn, rfl⟩
  · exact ⟨_, store.drawn + 1, rfl⟩

lemma nodup_ids_put {store : MemoryStore} (h : store.ids.Nodup) (id : DocumentId) (body : Value) :
    (store.put id body).ids.Nodup := by
  rw [ids_put]
  by_cases hmem : id ∈ store.ids
  · rw [if_pos hmem]
    exact h
  · rw [if_neg hmem]
    exact List.nodup_append.mpr ⟨h, List.nodup_singleton id, fun a ha b hb hab =>
      hmem (by rw [List.mem_singleton] at hb; rw [← hb, ← hab]; exact ha)⟩

lemma nodup_ids_write {store : MemoryStore} (h : store.ids.Nodup) (w : Write) :
    (store.write w).ids.Nodup := by
  cases w with
  | insert body =>
    obtain ⟨id, drawn, hinsert⟩ := exists_put_of_insert store body
    have hdrawn : { store with drawn := drawn }.ids.Nodup := h
    rw [write, hinsert]
    exact nodup_ids_put hdrawn id body
  | put id body => exact nodup_ids_put h id body
  | delete id =>
    rw [ids_eq_map_slots] at h ⊢
    exact h.sublist (List.filter_sublist.map _)

/-- Every history keeps the identifiers distinct. -/
lemma nodup_ids_afterWrites {store : MemoryStore} (h : store.ids.Nodup) (writes : List Write) :
    (store.afterWrites writes).ids.Nodup := by
  induction writes generalizing store with
  | nil => exact h
  | cons w rest ih => exact ih (nodup_ids_write h w)

lemma nodup_ids_empty_afterWrites (writes : List Write) :
    (empty.afterWrites writes).ids.Nodup := by
  have hempty : empty.ids.Nodup := List.nodup_nil
  exact nodup_ids_afterWrites hempty writes

/-! ### Lookups -/

/-- A lookup finds the one document with an identifier. -/
lemma get?_eq_some_iff {store : MemoryStore} (h : store.ids.Nodup) (id : DocumentId)
    (doc : Document) : store.get? id = some doc ↔ doc ∈ store.documents ∧ doc.id = id := by
  rw [ids_eq_map_slots] at h
  rw [get?, Option.map_eq_some_iff, documents, List.mem_map]
  constructor
  · rintro ⟨slot, hfind, rfl⟩
    have hid := List.find?_some hfind
    rw [decide_eq_true_eq] at hid
    exact ⟨⟨slot, List.mem_of_find?_eq_some hfind, rfl⟩, hid⟩
  · rintro ⟨⟨slot, hmem, rfl⟩, hid⟩
    cases hfind : store.slots.find? (·.doc.id = id) with
    | none =>
      have hnone := List.find?_eq_none.mp hfind slot hmem
      rw [decide_eq_true_eq] at hnone
      exact absurd hid hnone
    | some other =>
      have hother := List.find?_some hfind
      rw [decide_eq_true_eq] at hother
      have hsame : other = slot :=
        List.inj_on_of_nodup_map h (List.mem_of_find?_eq_some hfind) hmem (hother.trans hid.symm)
      exact ⟨other, rfl, by rw [hsame]⟩

/-- **Keys.**  Every history of writes leads to a store that keeps each document under an
identifier of its own. -/
theorem keyed_afterWrites (writes : List Write) :
    (empty.afterWrites writes).toStore.Keyed (empty.afterWrites writes).documents where
  enumerate := rfl
  distinct := nodup_ids_empty_afterWrites writes
  lookup id := ⟨(empty.afterWrites writes).get? id, rfl,
    get?_eq_some_iff (nodup_ids_empty_afterWrites writes) id⟩

end MemoryStore

end DocQuery
