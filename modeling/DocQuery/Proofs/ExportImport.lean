import DocQuery.Proofs.BareDocuments
import DocQuery.Proofs.IdLookup
import DocQuery.Proofs.WriteHistory

/-!
Documents in memory that are exported as JSON and imported into another store.

* `Write.Portable` and `Document.Stored`: writes of objects that JSON can hold, and what every
  document looks like after them (`MemoryStore.stored_documents`);
* `Document.Stored.toJson_eq`: an exported document starts with its identifier and its revision;
* `Document.CopiedTo` and `MemoryStore.exists_copies`: every exported document is imported into a
  slot of its own, as written once;
* `MemoryStore.export_then_import` (**main statement**): nothing gets lost, and queries that do not
  read the path `_rev` give the same from both stores.
-/

namespace DocQuery

/-! ### Stored documents -/

/-- What is written is an object that JSON can hold. -/
def Write.Portable : Write → Prop
  | .insert body => body.kind = .object ∧ body.Portable
  | .put _ body => body.kind = .object ∧ body.Portable
  | .delete _ => True

/-- A document as it is kept in memory: with a revision and with a body that is an object that JSON
can hold, without keys for identifier and revision. -/
structure Document.Stored (doc : Document) : Prop where
  rev : ∃ rev, doc.rev = some rev
  body : ∃ members : Fields Value, doc.body = .object members
    ∧ idField ∉ Fields.keys members ∧ revField ∉ Fields.keys members
  portable : doc.body.Portable

namespace MemoryStore

/-- Writing an object that JSON can hold stores a document. -/
lemma stored_slotOf {body : Value} (hkind : body.kind = .object) (h : body.Portable)
    (id : DocumentId) (generation n : Nat) :
    (slotOf id (strippedBody body) generation n).doc.Stored := by
  rw [strippedBody_eq h.distinct]
  cases body with
  | object members =>
    have hkeys : ∀ key ∈ Fields.keys (members.filter fun member =>
        member.1 ≠ Document.idField ∧ member.1 ≠ Document.revField),
        key ≠ Document.idField ∧ key ≠ Document.revField := by
      intro key hkey
      obtain ⟨member, hmember, rfl⟩ := List.mem_map.mp hkey
      exact of_decide_eq_true (List.mem_filter.mp hmember).2
    obtain ⟨hdistinct, hmembers⟩ := Tree.clean_object_iff.mp h
    refine ⟨⟨_, rfl⟩,
      ⟨_, rfl, fun hid => (hkeys _ hid).1 rfl, fun hrev => (hkeys _ hrev).2 rfl⟩, ?_⟩
    exact Tree.clean_object_iff.mpr ⟨hdistinct.sublist (List.filter_sublist.map _),
      fun member hmember => hmembers member (List.mem_filter.mp hmember).1⟩
  | _ => cases hkind

lemma stored_onSlots {slots : List Slot} (h : ∀ slot ∈ slots, slot.doc.Stored) (n : Nat)
    {change : Change}
    (hchange : ∀ id body, change = .write id body → body.kind = .object ∧ body.Portable) :
    ∀ slot ∈ onSlots n slots change, slot.doc.Stored := by
  cases change with
  | delete id => exact fun slot hslot => h slot (List.mem_filter.mp hslot).1
  | write id body =>
    obtain ⟨hkind, hportable⟩ := hchange id body rfl
    rw [onSlots]
    rcases writeSlot_cases id (strippedBody body) n slots with
      ⟨before, old, after, rfl, -, hwrite⟩ | ⟨-, hwrite⟩
    · rw [List.forall_mem_append, List.forall_mem_cons] at h
      rw [hwrite, List.forall_mem_append, List.forall_mem_cons]
      exact ⟨h.1, stored_slotOf hkind hportable id _ n, h.2.2⟩
    · rw [hwrite, List.forall_mem_append, List.forall_mem_singleton]
      exact ⟨h, stored_slotOf hkind hportable id 1 n⟩

lemma stored_write {store : MemoryStore} (h : ∀ slot ∈ store.slots, slot.doc.Stored) {w : Write}
    (hw : w.Portable) : ∀ slot ∈ (store.write w).slots, slot.doc.Stored := by
  obtain ⟨n, hslots⟩ := slots_write store w
  rw [hslots]
  refine stored_onSlots h n fun id body hchange => ?_
  cases w with
  | insert body => cases hchange; exact hw
  | put id body => cases hchange; exact hw
  | delete id => cases hchange

lemma stored_afterWrites {store : MemoryStore} (h : ∀ slot ∈ store.slots, slot.doc.Stored)
    {writes : List Write} (hwrites : ∀ w ∈ writes, w.Portable) :
    ∀ slot ∈ (store.afterWrites writes).slots, slot.doc.Stored := by
  induction writes generalizing store with
  | nil => exact h
  | cons w rest ih =>
    rw [List.forall_mem_cons] at hwrites
    exact ih (stored_write h hwrites.1) hwrites.2

/-- Every history of objects that JSON can hold leads to stored documents. -/
lemma stored_documents {writes : List Write} (h : ∀ w ∈ writes, w.Portable) :
    ∀ doc ∈ (empty.afterWrites writes).documents, doc.Stored := by
  intro doc hdoc
  have hempty : ∀ slot ∈ empty.slots, slot.doc.Stored := fun _ hslot =>
    absurd hslot List.not_mem_nil
  obtain ⟨slot, hslot, rfl⟩ := List.mem_map.mp hdoc
  exact stored_afterWrites hempty h slot hslot

end MemoryStore

/-! ### Exporting -/

namespace Document

variable {doc : Document}

/-- A stored document is written out with its identifier first, its revision second and then its
body. -/
lemma Stored.toValue_eq (h : doc.Stored) {rev : String} (hrev : doc.rev = some rev)
    {members : Fields Value} (hbody : doc.body = .object members) :
    doc.toValue = .object ((idField, .string doc.id) :: (revField, .string rev) :: members) := by
  obtain ⟨_, hbody', hid, hrevField⟩ := h.body
  cases hbody.symm.trans hbody'
  have hne : idField ≠ revField := by decide
  have hid' : idField ∉ Fields.keys ((revField, .string rev) :: members) :=
    List.not_mem_cons_of_ne_of_not_mem hne hid
  rw [toValue, bodyFields, hbody, hrev]
  dsimp only
  rw [Fields.insertFirst_of_notMem hrevField, Fields.insertFirst_of_notMem hid']

lemma Stored.distinctKeys_toValue (h : doc.Stored) : doc.toValue.DistinctKeys := by
  obtain ⟨rev, hrev⟩ := h.rev
  obtain ⟨members, hbody, hid, hrevField⟩ := h.body
  have hportable := h.portable
  have hne : idField ≠ revField := by decide
  rw [hbody] at hportable
  rw [h.toValue_eq hrev hbody]
  refine ⟨?_, trivial, trivial, hportable.distinct.2⟩
  refine List.nodup_cons.mpr ⟨?_, List.nodup_cons.mpr ⟨hrevField, hportable.distinct.1⟩⟩
  exact List.not_mem_cons_of_ne_of_not_mem hne hid

/-- An exported document starts with its identifier and its revision, and the members of its body
follow. -/
lemma Stored.toJson_eq (h : doc.Stored) {rev : String} (hrev : doc.rev = some rev)
    {members : Fields Value} (hbody : doc.body = .object members) :
    doc.toJson = .object ((idField, .string doc.id) :: (revField, .string rev)
      :: members.map fun member => (member.1, member.2.toJson)) := by
  rw [toJson, h.toValue_eq hrev hbody, Value.toJson_object]
  rfl

/-- Read as a value, an exported document has its identifier, and its body is what is stored of
it. -/
lemma Stored.ofJson_toJson (h : doc.Stored) :
    MemoryStore.ownId? (Value.ofJson doc.toJson) = some doc.id
      ∧ MemoryStore.strippedBody (Value.ofJson doc.toJson) = doc.body.dropZeroSigns := by
  obtain ⟨rev, hrev⟩ := h.rev
  obtain ⟨members, hbody, -⟩ := h.body
  have hne : revField ≠ idField := by decide
  have hportable := h.portable
  rw [hbody] at hportable
  have hmembers : (members.map fun member => (member.1, Value.ofJson member.2.toJson))
      = members.map fun member => (member.1, member.2.dropZeroSigns) :=
    List.map_congr_left fun member hmember => congrArg (Prod.mk member.1)
      (Value.ofJson_toJson ((Tree.clean_object_iff.mp hportable).2 member hmember).numbers)
  have hread : Value.ofJson doc.toJson
      = .object ((idField, .string doc.id) :: (revField, .string rev)
        :: members.map fun member => (member.1, member.2.dropZeroSigns)) := by
    rw [h.toJson_eq hrev hbody, Value.ofJson_object, ← hmembers, List.map_cons, List.map_cons,
      List.map_map]
    rfl
  rw [hread, hbody, Value.dropZeroSigns_object]
  constructor
  · simp [MemoryStore.ownId?, Fields.get?, Tree.asString?]
  · simp [MemoryStore.strippedBody, Fields.erase]

/-! ### Importing -/

/-- A document is copied to a slot: under its identifier and as written once, with the body as it
was, but for the signs of zeros. -/
structure CopiedTo (doc : Document) (slot : Slot) : Prop where
  id : slot.doc.id = doc.id
  rev : ∃ name, slot.doc.rev = some ("1-" ++ name)
  body : slot.doc.body = doc.body.dropZeroSigns
  equal : (doc.body == slot.doc.body) = true
  generation : slot.generation = 1

lemma Stored.copiedTo (h : doc.Stored) (n : Nat) :
    doc.CopiedTo (MemoryStore.slotOf doc.id doc.body.dropZeroSigns 1 n) where
  id := rfl
  rev := ⟨"00000000000040008000" ++ twelveDigits n, by
    have hname : toString 1 ++ "-00000000000040008000" = "1-" ++ "00000000000040008000" := by
      decide
    rw [MemoryStore.slotOf, revisionText, hname, String.append_assoc]⟩
  body := rfl
  equal := (Value.beq_dropZeroSigns _ _).trans h.portable.regular.beq_self
  generation := rfl

lemma CopiedTo.bare_eq {slot : Slot} (h : doc.CopiedTo slot) : doc.bare = slot.doc.bare := by
  rw [bare, bare, h.id, h.body, Value.dropZeroSigns_dropZeroSigns]

end Document

namespace MemoryStore

/-- A stored document whose identifier is not there is imported into a slot at the end. -/
lemma exists_slots_import {store : MemoryStore} {doc : Document} (h : doc.Stored)
    (hid : doc.id ∉ store.ids) :
    ∃ slot, doc.CopiedTo slot
      ∧ (store.write (.insert (Value.ofJson doc.toJson))).slots = store.slots ++ [slot] := by
  obtain ⟨hown, hstripped⟩ := h.ofJson_toJson
  obtain ⟨n, hslots⟩ := slots_write store (.insert (Value.ofJson doc.toJson))
  have hchange : store.changeOf (.insert (Value.ofJson doc.toJson))
      = .write doc.id (Value.ofJson doc.toJson) := by
    rw [changeOf, insert, hown]
  refine ⟨slotOf doc.id doc.body.dropZeroSigns 1 n, h.copiedTo n, ?_⟩
  rw [hslots, hchange, onSlots, hstripped]
  rw [ids_eq_map_slots] at hid
  rcases writeSlot_cases doc.id doc.body.dropZeroSigns n store.slots with
    ⟨before, old, after, hbefore, hold, -⟩ | ⟨-, hwrite⟩
  · refine absurd ?_ hid
    rw [hbefore, ← hold]
    exact List.mem_map_of_mem (List.mem_append_right before List.mem_cons_self)
  · exact hwrite

/-- Stored documents with identifiers of their own are imported one after the other, each into a
slot of its own. -/
lemma exists_copies {docs : List Document} (h : ∀ doc ∈ docs, doc.Stored) {store : MemoryStore}
    (hids : (store.ids ++ docs.map (·.id)).Nodup) :
    ∃ copies, List.Forall₂ Document.CopiedTo docs copies
      ∧ (store.afterWrites (docs.map fun doc => .insert (Value.ofJson doc.toJson))).slots
        = store.slots ++ copies := by
  induction docs generalizing store with
  | nil => exact ⟨[], .nil, (List.append_nil _).symm⟩
  | cons doc rest ih =>
    rw [List.forall_mem_cons] at h
    have hnew : doc.id ∉ store.ids := by
      intro hmem
      exact (List.nodup_append.mp hids).2.2 doc.id hmem doc.id List.mem_cons_self rfl
    obtain ⟨slot, hcopied, hslots⟩ := exists_slots_import h.1 hnew
    have hids' : (store.write (.insert (Value.ofJson doc.toJson))).ids = store.ids ++ [doc.id] := by
      rw [ids_eq_map_slots, hslots, List.map_append, ← ids_eq_map_slots, List.map_singleton,
        hcopied.id]
    have hnodup : ((store.write (.insert (Value.ofJson doc.toJson))).ids
        ++ rest.map (·.id)).Nodup := by
      rw [hids', List.append_assoc]
      exact hids
    obtain ⟨copies, hcopies, hrest⟩ := ih h.2 hnodup
    refine ⟨slot :: copies, .cons hcopied hcopies, ?_⟩
    calc
      _ = (store.write (.insert (Value.ofJson doc.toJson))).slots ++ copies := hrest
      _ = store.slots ++ slot :: copies := by rw [hslots, List.append_assoc]; rfl

/-- Copies of some documents are the same documents when they are bare, and have the same
identifiers. -/
lemma bare_of_copies {docs : List Document} {slots : List Slot}
    (h : List.Forall₂ Document.CopiedTo docs slots) :
    docs.map Document.bare = (slots.map (·.doc)).map Document.bare
      ∧ slots.map (·.doc.id) = docs.map (·.id) := by
  induction h with
  | nil => exact ⟨rfl, rfl⟩
  | cons hcopied _ ih =>
    simp only [List.map_cons, ih.1, ih.2, hcopied.bare_eq, hcopied.id, and_self]

/-- Exported documents are objects, so importing them is a history of insertions. -/
lemma ofJsonDocs_export (docs : List Document) :
    ofJsonDocs (docs.map Document.toJson)
      = .ok (empty.afterWrites (docs.map fun doc => .insert (Value.ofJson doc.toJson))) := by
  have hobjects : ∀ json ∈ docs.map Document.toJson, json.kind = .object := by
    intro json hjson
    obtain ⟨doc, -, rfl⟩ := List.mem_map.mp hjson
    rfl
  rw [ofJsonDocs, insertAll_of_objects empty 0 hobjects, List.map_map]
  rfl

/-! ### Main statement -/

/-- **Export followed by import loses nothing.**  After any history of objects that JSON can hold,
every exported document repeats no key and starts with its identifier and its revision, and the
members of its body follow in order.  Importing the exported documents succeeds.  The copies have
the same identifiers in the same order, the same bodies but for the signs of zeros, and are written
once.
A query that does not read the path `_rev` delivers the same identifiers in the same order from both
stores, with equal bodies. -/
theorem export_then_import (writes : List Write) (h : ∀ w ∈ writes, w.Portable) :
    let memory := empty.afterWrites writes
    (∀ doc ∈ memory.documents, ∃ rev members, doc.rev = some rev ∧ doc.body = .object members
        ∧ doc.toJson = .object ((Document.idField, .string doc.id)
          :: (Document.revField, .string rev)
          :: members.map fun member => (member.1, Value.toJson member.2))
        ∧ doc.toJson.DistinctKeys)
      ∧ ∃ copy, ofJsonDocs (memory.documents.map Document.toJson) = .ok copy
        ∧ copy.ids = memory.ids
        ∧ List.Forall₂ Document.CopiedTo memory.documents copy.slots
        ∧ ∀ query : Query, (∀ path ∈ query.paths, path.segments ≠ [Document.revField]) →
          List.Forall₂ Document.SameContent (query.answer memory.documents)
              (query.answer copy.documents)
            ∧ ∀ options cancelled, options.refusal? cancelled = none → ∃ original copied,
              (query.execute memory.toStore options cancelled).result = .ok original
                ∧ (query.execute copy.toStore options cancelled).result = .ok copied
                ∧ (Reading.mk original cancelled).Delivers
                  ((query.answer memory.documents).map .ok)
                ∧ (Reading.mk copied cancelled).Delivers
                  ((query.answer copy.documents).map .ok) := by
  intro memory
  have hstored : ∀ doc ∈ memory.documents, doc.Stored := stored_documents h
  have hnodup : (empty.ids ++ memory.documents.map (·.id)).Nodup :=
    nodup_ids_empty_afterWrites writes
  obtain ⟨copies, hcopies, hcopy⟩ := exists_copies hstored hnodup
  obtain ⟨hbare, hids⟩ := bare_of_copies hcopies
  have hregular : ∀ doc ∈ memory.documents, doc.body.Regular := fun doc hdoc =>
    (hstored doc hdoc).portable.regular
  refine ⟨fun doc hdoc => ?_, _, ofJsonDocs_export memory.documents, ?_, ?_,
    fun query hpaths => ⟨?_, ?_⟩⟩
  · have hdoc := hstored doc hdoc
    obtain ⟨rev, hrev⟩ := hdoc.rev
    obtain ⟨members, hbody, -⟩ := hdoc.body
    exact ⟨rev, members, hrev, hbody, hdoc.toJson_eq hrev hbody,
      Value.distinctKeys_toJson hdoc.distinctKeys_toValue⟩
  · rw [ids_eq_map_slots]
    exact (congrArg (List.map (·.doc.id)) hcopy).trans hids
  · exact hcopy ▸ hcopies
  · refine Query.answers_alike hpaths ?_ hregular
    rw [hbare]
    exact congrArg (fun slots => (slots.map Slot.doc).map Document.bare) hcopy.symm
  · intro options cancelled hunrefused
    obtain ⟨original, horiginal, hdelivers⟩ :=
      query.exists_delivering (keyed_afterWrites writes) hunrefused
    obtain ⟨copied, hcopied, hdelivers'⟩ :=
      query.exists_delivering (keyed_afterWrites _) hunrefused
    exact ⟨original, copied, horiginal, hcopied, hdelivers, hdelivers'⟩

/-- Two documents, one of which is written twice, with a negative zero and a nested object; a third
is deleted. -/
def journal : List Write :=
  [.insert (.object [("n", .null), ("_id", .string "b"), ("_rev", .string "stale")]),
    .put "a" (.object [("n", .string "y")]),
    .put "b" (.object [("n", .string "x"),
      ("in", .object [("z", .number (Binary64.ofInt 0).neg), ("x", .array [.bool true])])]),
    .put "c" (.object []), .delete "c"]

/-- The documents with the key `n`, from the greatest value downwards, reduced to a nested field. -/
def nestedByN : Query :=
  ⟨.field ⟨["n"]⟩ (.presence true), some [⟨["in", "x"]⟩], [⟨⟨["n"]⟩, .descending⟩], 0, none⟩

/-- The journal is exported and imported in the order in which its documents came, and the query
finds equal documents in the copy. -/
theorem journal_copied :
    (∀ w ∈ journal, w.Portable)
      ∧ (∀ path ∈ nestedByN.paths, path.segments ≠ [Document.revField])
      ∧ ExecOptions.standard.refusal? .empty = none
      ∧ ∃ copy, ofJsonDocs ((empty.afterWrites journal).documents.map Document.toJson) = .ok copy
        ∧ copy.ids = ["b", "a"]
        ∧ List.Forall₂ Document.SameContent
          [⟨"a", none, .object []⟩,
            ⟨"b", none, .object [("in", .object [("x", .array [.bool true])])]⟩]
          (nestedByN.answer copy.documents)
        ∧ ∃ cursor, (nestedByN.execute copy.toStore .standard .empty).result = .ok cursor := by
  have hportable : ∀ w ∈ journal, w.Portable := by
    have hiff (v : Value) : v.Portable ↔ v.DistinctKeys ∧ v.AllNumbers fun x => x.isFinite = true :=
      ⟨fun h => ⟨h.distinct, h.numbers⟩, fun h => ⟨h.1, h.2⟩⟩
    have hzero : (Binary64.ofInt 0).neg.isFinite = true := by decide
    simp [journal, Write.Portable, hiff, Tree.kind, Tree.DistinctKeys, Tree.DistinctKeysMembers,
      Tree.DistinctKeysItems, Fields.Distinct, Fields.keys, Tree.AllNumbers,
      Tree.AllNumbersMembers, Tree.AllNumbersItems, hzero]
  have hpaths : ∀ path ∈ nestedByN.paths, path.segments ≠ [Document.revField] := by
    simp [nestedByN, Query.paths, Selector.paths, Document.revField]
  obtain ⟨-, copy, himport, hids, -, hqueries⟩ := export_then_import journal hportable
  obtain ⟨hanswers, hcursors⟩ := hqueries nestedByN hpaths
  obtain ⟨-, copied, -, hcopied, -⟩ := hcursors .standard .empty rfl
  have hanswer : nestedByN.answer (empty.afterWrites journal).documents
      = [⟨"a", none, .object []⟩,
        ⟨"b", none, .object [("in", .object [("x", .array [.bool true])])]⟩] := by cbv
  rw [hanswer] at hanswers
  exact ⟨hportable, hpaths, rfl, copy, himport, hids, hanswers, copied, hcopied⟩

end MemoryStore

end DocQuery
