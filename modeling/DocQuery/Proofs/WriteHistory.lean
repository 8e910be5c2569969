import DocQuery.Proofs.FieldEdits
import DocQuery.Proofs.KeyedStore
import DocQuery.Session
import Mathlib.Data.Set.Card

/-!
Documents in memory are what their history of writes says, and nothing else.

* `Change` and `MemoryStore.changes`: the history of a store, in which an insertion stands under the
  identifier that it returns;
* `Change.lifetime` (**lifetimes**): the writes under an identifier since it was last absent, which
  only the history decides;
* `MemoryStore.Mirrors`: the store holds one document for each identifier with a lifetime, with the
  body of the last write and the number of writes, in the order in which the lifetimes began;
* `MemoryStore.Keeps`: a write leaves the documents under other identifiers and their order alone;
* `MemoryStore.mirrors_afterWrites` (**main statement**): every history leads to a store that
  mirrors it.
-/

namespace DocQuery

/-! ### Histories -/

/-- A change of the document under one identifier. -/
inductive Change where
  | write (id : DocumentId) (body : Value)
  | delete (id : DocumentId)

namespace Change

/-- The identifier that a change is about. -/
def id : Change → DocumentId
  | .write id _ => id
  | .delete id => id

/-- The writes under an identifier, each with its time, after one more change: a write under it
goes to the end, and its deletion leaves none. -/
def extend (id : DocumentId) (time : Nat) (writes : List (Nat × Value)) :
    Change → List (Nat × Value)
  | .write other body => if other = id then writes ++ [(time, body)] else writes
  | .delete other => if other = id then [] else writes

/-- The writes under an identifier since it was last absent, oldest first, each with its place in
the history. -/
def lifetime (id : DocumentId) (history : List Change) : List (Nat × Value) :=
  history.zipIdx.foldl (fun writes (change, time) => change.extend id time writes) []

/-- When an identifier was first written since it was last absent. -/
def born? (id : DocumentId) (history : List Change) : Option Nat :=
  (lifetime id history).head?.map (·.1)

/-- The lifetime of one identifier began before that of another. -/
def Older (history : List Change) (a b : DocumentId) : Prop :=
  ∃ s t, born? a history = some s ∧ born? b history = some t ∧ s < t

variable {id other : DocumentId} {history : List Change}

lemma lifetime_concat (id : DocumentId) (history : List Change) (change : Change) :
    lifetime id (history ++ [change]) = change.extend id history.length (lifetime id history) := by
  simp [lifetime, List.zipIdx_append]

lemma lifetime_concat_of_ne {change : Change} (h : change.id ≠ id) :
    lifetime id (history ++ [change]) = lifetime id history := by
  rw [lifetime_concat]
  cases change with
  | write other body => exact if_neg h
  | delete other => exact if_neg h

lemma lifetime_concat_write (id : DocumentId) (body : Value) :
    lifetime id (history ++ [.write id body])
      = lifetime id history ++ [(history.length, body)] := by
  rw [lifetime_concat]
  exact if_pos rfl

lemma lifetime_concat_delete (id : DocumentId) :
    lifetime id (history ++ [.delete id]) = [] := by
  rw [lifetime_concat]
  exact if_pos rfl

/-- What is written is present, and so is what was present before. -/
lemma lifetime_concat_write_ne_nil_iff {body : Value} :
    lifetime other (history ++ [.write id body]) ≠ []
      ↔ other = id ∨ lifetime other history ≠ [] := by
  by_cases h : other = id
  · rw [h, lifetime_concat_write]
    simp
  · have hne : (Change.write id body).id ≠ other := Ne.symm h
    rw [lifetime_concat_of_ne hne]
    simp [h]

/-- Every write of a lifetime lies in the past. -/
lemma time_lt_of_mem_lifetime {write : Nat × Value} (h : write ∈ lifetime id history) :
    write.1 < history.length := by
  induction history using List.reverseRecOn with
  | nil => cases h
  | append_singleton history change ih =>
    rw [List.length_append, List.length_singleton]
    by_cases hid : change.id = id
    · subst hid
      cases change with
      | write id body =>
        rw [Change.id, lifetime_concat_write, List.mem_append, List.mem_singleton] at h
        rcases h with h | rfl
        · have := ih h
          omega
        · exact Nat.lt_succ_self _
      | delete id =>
        rw [Change.id, lifetime_concat_delete] at h
        cases h
    · rw [lifetime_concat_of_ne hid] at h
      have := ih h
      omega

lemma born?_lt {t : Nat} (h : born? id history = some t) : t < history.length := by
  obtain ⟨write, hwrite, rfl⟩ := Option.map_eq_some_iff.mp h
  exact time_lt_of_mem_lifetime (List.mem_of_head? hwrite)

lemma exists_born? (h : lifetime id history ≠ []) : ∃ t, born? id history = some t := by
  obtain ⟨write, rest, hlifetime⟩ := List.exists_cons_of_ne_nil h
  exact ⟨write.1, by rw [born?, hlifetime]; rfl⟩

/-- Another write does not make a document younger. -/
lemma born?_concat_write_of_some {a : DocumentId} {t : Nat} (h : born? a history = some t)
    (id : DocumentId) (body : Value) : born? a (history ++ [.write id body]) = some t := by
  by_cases hid : id = a
  · obtain ⟨write, hwrite, rfl⟩ := Option.map_eq_some_iff.mp h
    have hne : lifetime a history ≠ [] := by
      rintro heq
      rw [heq] at hwrite
      cases hwrite
    rw [hid, born?, lifetime_concat_write, List.head?_append_of_ne_nil _ hne, hwrite]
    rfl
  · have hne : (Change.write id body).id ≠ a := hid
    rw [born?, lifetime_concat_of_ne hne]
    exact h

lemma born?_concat_write_of_absent (h : lifetime id history = []) (body : Value) :
    born? id (history ++ [.write id body]) = some history.length := by
  rw [born?, lifetime_concat_write, h]
  rfl

/-- A later write keeps the order in which lifetimes began. -/
lemma Older.write {a b : DocumentId} (h : Older history a b) (id : DocumentId) (body : Value) :
    Older (history ++ [.write id body]) a b := by
  obtain ⟨s, t, ha, hb, hlt⟩ := h
  exact ⟨s, t, born?_concat_write_of_some ha id body, born?_concat_write_of_some hb id body, hlt⟩

lemma Older.delete {a b : DocumentId} (h : Older history a b) (ha : a ≠ id) (hb : b ≠ id) :
    Older (history ++ [.delete id]) a b := by
  obtain ⟨s, t, hs, ht, hlt⟩ := h
  refine ⟨s, t, ?_, ?_, hlt⟩
  · rw [born?, lifetime_concat_of_ne (Ne.symm ha)]
    exact hs
  · rw [born?, lifetime_concat_of_ne (Ne.symm hb)]
    exact ht

/-- What is written for the first time is the youngest. -/
lemma older_concat_write {a : DocumentId} (ha : lifetime a history ≠ [])
    (hid : lifetime id history = []) (body : Value) :
    Older (history ++ [.write id body]) a id := by
  obtain ⟨t, ht⟩ := exists_born? ha
  exact ⟨t, history.length, born?_concat_write_of_some ht id body,
    born?_concat_write_of_absent hid body, born?_lt ht⟩

end Change

/-! ### Documents and their lifetimes -/

/-- A body as it is kept: an object without its own identifier and revision, and anything else as
it is. -/
def Value.withoutMetadata : Value → Value
  | .object members => .object (members.filter fun member =>
      member.1 ≠ Document.idField ∧ member.1 ≠ Document.revField)
  | body => body

/-- A document holds what was written last, and its revision starts with the number of writes. -/
structure Document.Records (doc : Document) (writes : List (Nat × Value)) : Prop where
  body : ∃ time body, writes.getLast? = some (time, body) ∧ doc.body = body.withoutMetadata
  rev : ∃ name, doc.rev = some (toString writes.length ++ "-" ++ name)

/-- No object in the body that is written repeats a key. -/
def Write.DistinctKeys : Write → Prop
  | .insert body => body.DistinctKeys
  | .put _ body => body.DistinctKeys
  | .delete _ => True

namespace MemoryStore

lemma strippedBody_eq {body : Value} (h : body.DistinctKeys) :
    strippedBody body = body.withoutMetadata := by
  cases body with
  | object members =>
    have hmembers : Fields.Distinct members := h.1
    have hrest : Fields.Distinct (members.filter (·.1 ≠ Document.idField)) :=
      hmembers.sublist (List.filter_sublist.map _)
    rw [strippedBody, Fields.erase_eq_filter hmembers, Fields.erase_eq_filter hrest,
      List.filter_filter, Value.withoutMetadata]
    simp only [ne_eq, decide_not, Bool.and_comm, Bool.decide_and]
  | _ => rfl

/-- What a write means for the documents.  An insertion writes under the identifier that it
returns. -/
def changeOf (store : MemoryStore) : Write → Change
  | .insert body => .write (store.insert body).1 body
  | .put id body => .write id body
  | .delete id => .delete id

/-- The history of some writes, one after the other. -/
def changes (store : MemoryStore) : List Write → List Change
  | [] => []
  | w :: rest => store.changeOf w :: changes (store.write w) rest

lemma changes_concat (store : MemoryStore) (writes : List Write) (w : Write) :
    store.changes (writes ++ [w])
      = store.changes writes ++ [(store.afterWrites writes).changeOf w] := by
  induction writes generalizing store with
  | nil => rfl
  | cons first rest ih =>
    rw [List.cons_append, changes, changes, ih]
    rfl

/-! ### One write -/

/-- The slot of a document after some writes under its identifier. -/
def slotOf (id : DocumentId) (body : Value) (generation n : Nat) : Slot :=
  ⟨⟨id, some (revisionText generation n), body⟩, generation⟩

/-- Writing replaces the one slot of an identifier in place, or adds a slot at the end. -/
lemma writeSlot_cases (id : DocumentId) (body : Value) (n : Nat) (slots : List Slot) :
    (∃ before old after, slots = before ++ old :: after ∧ old.doc.id = id
      ∧ writeSlot id body n slots = before ++ slotOf id body (old.generation + 1) n :: after)
    ∨ (id ∉ slots.map (·.doc.id) ∧ writeSlot id body n slots = slots ++ [slotOf id body 1 n]) := by
  induction slots with
  | nil => exact .inr ⟨List.not_mem_nil, rfl⟩
  | cons slot rest ih =>
    by_cases hid : slot.doc.id = id
    · exact .inl ⟨[], slot, rest, rfl, hid, by rw [writeSlot, if_pos hid]; rfl⟩
    · rw [writeSlot, if_neg hid]
      rcases ih with ⟨before, old, after, hrest, hold, hwrite⟩ | ⟨habsent, hwrite⟩
      · exact .inl ⟨slot :: before, old, after, by rw [hrest]; rfl, hold, by rw [hwrite]; rfl⟩
      · refine .inr ⟨?_, by rw [hwrite]; rfl⟩
        rw [List.map_cons, List.mem_cons]
        exact not_or.mpr ⟨Ne.symm hid, habsent⟩

/-- What a change makes of the slots, where a revision takes the `n`-th name. -/
def onSlots (n : Nat) (slots : List Slot) : Change → List Slot
  | .write id body => writeSlot id (strippedBody body) n slots
  | .delete id => slots.filter (·.doc.id ≠ id)

lemma slots_write (store : MemoryStore) (w : Write) :
    ∃ n, (store.write w).slots = onSlots n store.slots (store.changeOf w) := by
  cases w with
  | insert body =>
    rw [write, changeOf, insert]
    split
    · exact ⟨store.drawn, rfl⟩
    · exact ⟨store.drawn + 1, rfl⟩
  | put id body => exact ⟨store.drawn, rfl⟩
  | delete id => exact ⟨0, rfl⟩

lemma filter_onSlots (n : Nat) (slots : List Slot) (change : Change) :
    (onSlots n slots change).filter (·.doc.id ≠ change.id)
      = slots.filter (·.doc.id ≠ change.id) := by
  cases change with
  | write id body =>
    rw [onSlots, Change.id]
    rcases writeSlot_cases id (strippedBody body) n slots with
      ⟨before, old, after, rfl, hold, hwrite⟩ | ⟨-, hwrite⟩
    · simp [hwrite, slotOf, hold]
    · simp [hwrite, slotOf]
  | delete id =>
    rw [onSlots, Change.id, List.filter_filter]
    simp

/-- A write leaves the documents under other identifiers alone, and their order with them. -/
structure Keeps (store : MemoryStore) (w : Write) : Prop where
  others : (store.write w).documents.filter (·.id ≠ (store.changeOf w).id)
    = store.documents.filter (·.id ≠ (store.changeOf w).id)
  ids : (store.write w).ids = match store.changeOf w with
    | .write id _ => if id ∈ store.ids then store.ids else store.ids ++ [id]
    | .delete id => store.ids.filter (· ≠ id)

lemma keeps (store : MemoryStore) (w : Write) : store.Keeps w := by
  obtain ⟨n, hslots⟩ := slots_write store w
  constructor
  · have hfilter := congrArg (List.map (·.doc)) (filter_onSlots n store.slots (store.changeOf w))
    rw [documents, documents, hslots, List.filter_map, List.filter_map]
    exact hfilter
  · rw [ids_eq_map_slots, ids_eq_map_slots, hslots]
    cases store.changeOf w with
    | write id body => exact ids_writeSlot id (strippedBody body) n store.slots
    | delete id => exact (List.filter_map (p := (· ≠ id)) ..).symm

/-! ### Slots -/

/-- A slot holds what the lifetime of its identifier says, and counts its writes. -/
structure Holds (history : List Change) (slot : Slot) : Prop where
  generation : slot.generation = (Change.lifetime slot.doc.id history).length
  doc : slot.doc.Records (Change.lifetime slot.doc.id history)

/-- The slots have distinct identifiers, those with a lifetime, in the order in which their
lifetimes began. -/
structure SlotsMirror (slots : List Slot) (history : List Change) : Prop where
  distinct : (slots.map (·.doc.id)).Nodup
  present : ∀ id, id ∈ slots.map (·.doc.id) ↔ Change.lifetime id history ≠ []
  ordered : (slots.map (·.doc.id)).Pairwise (Change.Older history)
  holds : ∀ slot ∈ slots, Holds history slot

variable {slots : List Slot} {slot : Slot} {history : List Change}

lemma Holds.concat_of_ne {change : Change} (h : Holds history slot)
    (hne : change.id ≠ slot.doc.id) : Holds (history ++ [change]) slot := by
  constructor
  · rw [Change.lifetime_concat_of_ne hne]
    exact h.generation
  · rw [Change.lifetime_concat_of_ne hne]
    exact h.doc

/-- The slot that is written holds one write more. -/
lemma holds_slotOf (id : DocumentId) {body : Value} (hbody : body.DistinctKeys) (n : Nat)
    {writes : Nat} (hwrites : writes = (Change.lifetime id history).length) :
    Holds (history ++ [.write id body]) (slotOf id (strippedBody body) (writes + 1) n) := by
  have hlifetime : Change.lifetime id (history ++ [.write id body])
      = Change.lifetime id history ++ [(history.length, body)] :=
    Change.lifetime_concat_write id body
  have hlength : (Change.lifetime id (history ++ [.write id body])).length = writes + 1 := by
    rw [hlifetime, List.length_append, List.length_singleton, hwrites]
  have hname : "-00000000000040008000" = "-" ++ "00000000000040008000" := rfl
  refine ⟨hlength.symm, ⟨history.length, body, ?_, strippedBody_eq hbody⟩,
    "00000000000040008000" ++ twelveDigits n, ?_⟩
  · rw [slotOf, hlifetime, List.getLast?_concat]
  · rw [slotOf, hlength, revisionText, hname]
    simp only [String.append_assoc]

/-- A write in place of an older one. -/
lemma SlotsMirror.rewrite {before after : List Slot} {old : Slot}
    (h : SlotsMirror (before ++ old :: after) history) (n : Nat) {body : Value}
    (hbody : body.DistinctKeys) :
    SlotsMirror (before ++ slotOf old.doc.id (strippedBody body) (old.generation + 1) n :: after)
      (history ++ [.write old.doc.id body]) := by
  have hids : (before ++ slotOf old.doc.id (strippedBody body) (old.generation + 1) n :: after).map
      (·.doc.id) = (before ++ old :: after).map (·.doc.id) := by
    rw [List.map_append, List.map_append]
    rfl
  have hold : old ∈ before ++ old :: after := List.mem_append_right _ List.mem_cons_self
  refine ⟨hids ▸ h.distinct, fun id => ?_, hids ▸ h.ordered.imp fun hab => hab.write _ body, ?_⟩
  · rw [hids, Change.lifetime_concat_write_ne_nil_iff, h.present]
    constructor
    · exact .inr
    · rintro (rfl | hid)
      · exact (h.present _).mp (List.mem_map_of_mem hold)
      · exact hid
  · have hdistinct := h.distinct
    rw [List.map_append, List.map_cons, List.nodup_middle, List.nodup_cons,
      ← List.map_append] at hdistinct
    have hothers : ∀ slot ∈ before ++ after,
        Holds (history ++ [.write old.doc.id body]) slot := by
      intro slot hslot
      have hne : old.doc.id ≠ slot.doc.id := fun heq =>
        hdistinct.1 (heq ▸ List.mem_map_of_mem hslot)
      rw [List.mem_append] at hslot
      refine (h.holds slot ?_).concat_of_ne hne
      exact List.mem_append.mpr (hslot.imp_right (List.mem_cons_of_mem old))
    rw [List.forall_mem_append] at hothers ⊢
    rw [List.forall_mem_cons]
    exact ⟨hothers.1, holds_slotOf _ hbody n (h.holds old hold).generation, hothers.2⟩

/-- A write under an identifier that was absent. -/
lemma SlotsMirror.append (h : SlotsMirror slots history) {id : DocumentId}
    (habsent : id ∉ slots.map (·.doc.id)) (n : Nat) {body : Value} (hbody : body.DistinctKeys) :
    SlotsMirror (slots ++ [slotOf id (strippedBody body) 1 n]) (history ++ [.write id body]) := by
  have hids : (slots ++ [slotOf id (strippedBody body) 1 n]).map (·.doc.id)
      = slots.map (·.doc.id) ++ [id] := List.map_append
  have hlifetime : Change.lifetime id history = [] := by
    by_contra hne
    exact habsent ((h.present id).mpr hne)
  refine ⟨?_, fun other => ?_, ?_, ?_⟩
  · rw [hids, ← List.concat_eq_append]
    exact h.distinct.concat habsent
  · rw [hids, Change.lifetime_concat_write_ne_nil_iff, ← h.present, List.mem_append,
      List.mem_singleton, or_comm]
  · rw [hids, List.pairwise_append]
    refine ⟨h.ordered.imp fun hab => hab.write id body, List.pairwise_singleton _ _, ?_⟩
    intro other hother last hlast
    rw [List.mem_singleton.mp hlast]
    exact Change.older_concat_write ((h.present other).mp hother) hlifetime body
  · rw [List.forall_mem_append, List.forall_mem_singleton]
    refine ⟨fun slot hslot => (h.holds slot hslot).concat_of_ne ?_, ?_⟩
    · rintro rfl
      exact habsent (List.mem_map_of_mem hslot)
    · exact holds_slotOf id hbody n (by rw [hlifetime]; rfl)

lemma SlotsMirror.delete (h : SlotsMirror slots history) (id : DocumentId) :
    SlotsMirror (slots.filter (·.doc.id ≠ id)) (history ++ [.delete id]) := by
  have hids : (slots.filter (·.doc.id ≠ id)).map (·.doc.id)
      = (slots.map (·.doc.id)).filter (· ≠ id) := (List.filter_map (p := (· ≠ id)) ..).symm
  constructor
  · exact hids ▸ h.distinct.filter _
  · intro other
    rw [hids, List.mem_filter, h.present]
    by_cases hother : other = id
    · rw [hother, Change.lifetime_concat_delete]
      simp
    · rw [Change.lifetime_concat_of_ne (Ne.symm hother)]
      simp [hother]
  · rw [hids]
    refine (h.ordered.filter _).imp_of_mem ?_
    intro a b ha hb hab
    have hne {other : DocumentId} (hother : other ∈ (slots.map (·.doc.id)).filter (· ≠ id)) :
        other ≠ id := by
      simpa using (List.mem_filter.mp hother).2
    exact hab.delete (hne ha) (hne hb)
  · intro slot hslot
    obtain ⟨hmem, hne⟩ := List.mem_filter.mp hslot
    rw [decide_eq_true_eq] at hne
    exact (h.holds slot hmem).concat_of_ne hne.symm

/-- Slots that mirror a history mirror it after one more change. -/
lemma SlotsMirror.onSlots (h : SlotsMirror slots history) (n : Nat) (change : Change)
    (hbody : ∀ id body, change = .write id body → body.DistinctKeys) :
    SlotsMirror (onSlots n slots change) (history ++ [change]) := by
  cases change with
  | write id body =>
    rw [MemoryStore.onSlots]
    rcases writeSlot_cases id (strippedBody body) n slots with
      ⟨before, old, after, rfl, rfl, hwrite⟩ | ⟨habsent, hwrite⟩
    · rw [hwrite]
      exact h.rewrite n (hbody _ _ rfl)
    · rw [hwrite]
      exact h.append habsent n (hbody _ _ rfl)
  | delete id => exact h.delete id

lemma slotsMirror_afterWrites (writes : List Write) (h : ∀ w ∈ writes, w.DistinctKeys) :
    SlotsMirror (empty.afterWrites writes).slots (empty.changes writes) := by
  induction writes using List.reverseRecOn with
  | nil => exact ⟨List.nodup_nil, fun id => by simp [empty, changes, afterWrites, Change.lifetime],
      .nil, nofun⟩
  | append_singleton writes w ih =>
    rw [List.forall_mem_append, List.forall_mem_singleton] at h
    obtain ⟨n, hslots⟩ := slots_write (empty.afterWrites writes) w
    rw [afterWrites_append, changes_concat]
    change SlotsMirror ((empty.afterWrites writes).write w).slots _
    rw [hslots]
    refine (ih h.1).onSlots n _ fun id body hchange => ?_
    have hw := h.2
    cases w with
    | insert body => cases hchange; exact hw
    | put id body => cases hchange; exact hw
    | delete id => cases hchange

/-! ### Main statement -/

/-- A store mirrors a history: it holds one document for each identifier that has a lifetime, with
the body of the last write and the number of writes, in the order in which the lifetimes began; and
scans, lookups and its size agree on what it holds. -/
structure Mirrors (store : MemoryStore) (history : List Change) : Prop where
  distinct : store.ids.Nodup
  present : ∀ id, id ∈ store.ids ↔ Change.lifetime id history ≠ []
  ordered : store.ids.Pairwise (Change.Older history)
  records : ∀ doc ∈ store.documents, doc.Records (Change.lifetime doc.id history)
  scan : store.toStore.enumerate = .ok (store.documents.map .ofDocument)
  get : ∀ id doc, store.get? id = some doc ↔ doc ∈ store.documents ∧ doc.id = id
  lookup : ∀ id, store.toStore.lookup id = some (.ok (store.get? id))
  size : store.size = {id | Change.lifetime id history ≠ []}.ncard

lemma SlotsMirror.mirrors {store : MemoryStore} (h : SlotsMirror store.slots history) :
    store.Mirrors history := by
  have hids := ids_eq_map_slots store
  have hdistinct : store.ids.Nodup := hids ▸ h.distinct
  have hpresent : ∀ id, id ∈ store.ids ↔ Change.lifetime id history ≠ [] := by
    rw [hids]
    exact h.present
  refine {
    distinct := hdistinct
    present := hpresent
    ordered := hids ▸ h.ordered
    records := ?_
    scan := rfl
    get := get?_eq_some_iff hdistinct
    lookup := fun _ => rfl
    size := ?_ }
  · rintro doc hdoc
    obtain ⟨slot, hslot, rfl⟩ := List.mem_map.mp hdoc
    exact (h.holds slot hslot).doc
  · have hset : {id | Change.lifetime id history ≠ []} = (store.ids.toFinset : Set DocumentId) := by
      ext id
      simp [hpresent]
    rw [hset, Set.ncard_coe_finset, List.toFinset_card_of_nodup hdistinct, hids, List.length_map,
      MemoryStore.size]

/-- An import of objects is a history of insertions. -/
lemma insertAll_of_objects (store : MemoryStore) (i : Nat) {docs : List Json}
    (h : ∀ doc ∈ docs, doc.kind = .object) :
    store.insertAll i docs
      = .ok (store.afterWrites (docs.map fun doc => .insert (Value.ofJson doc))) := by
  induction docs generalizing store i with
  | nil => rfl
  | cons doc rest ih =>
    rw [List.forall_mem_cons] at h
    cases doc with
    | object members =>
      rw [insertAll, ih _ _ h.2]
      rfl
    | _ => cases h.1

/-- A store has fewer documents after a deletion if and only if the identifier was present. -/
lemma delete_fst_iff (store : MemoryStore) (id : DocumentId) :
    (store.delete id).1 = true ↔ id ∈ store.ids := by
  rw [delete, decide_eq_true_eq, Ne, List.length_filter_eq_length_iff, ids_eq_map_slots,
    List.mem_map]
  simp only [decide_eq_true_eq, not_forall, not_not, exists_prop]

/-- What a deletion does: it reports whether the document is there, and leaves all others as they
are and in their order. -/
structure Deletes (store : MemoryStore) (id : DocumentId) (present : Prop) : Prop where
  report : (store.delete id).1 = true ↔ present
  documents : (store.delete id).2.documents = store.documents.filter (·.id ≠ id)
  /-- A session replies with the report and the new size, and goes on with what is left. -/
  session : ∀ session : Session, session.backing = .memory store →
    session.delete id = (.deleted (store.delete id).1 (store.delete id).2.size,
      { session with backing := .memory (store.delete id).2 })

lemma deletes (store : MemoryStore) (id : DocumentId) : store.Deletes id (id ∈ store.ids) where
  report := delete_fst_iff store id
  documents := (List.filter_map (p := fun doc : Document => doc.id ≠ id) ..).symm
  session session h := by rw [Session.delete, h]

/-- **Histories.**  Every history leads to a store that mirrors it, a write changes nothing but the
document under its identifier, a deletion removes that and reports whether it was there, and what
is imported is a history of insertions. -/
theorem mirrors_afterWrites (writes : List Write) (h : ∀ w ∈ writes, w.DistinctKeys) :
    (empty.afterWrites writes).Mirrors (empty.changes writes)
      ∧ (∀ w, (empty.afterWrites writes).Keeps w)
      ∧ (∀ id, (empty.afterWrites writes).Deletes id
        (Change.lifetime id (empty.changes writes) ≠ []))
      ∧ ∀ docs : List Json, (∀ doc ∈ docs, doc.kind = .object) →
        writes = docs.map (fun doc => .insert (Value.ofJson doc)) →
          ofJsonDocs docs = .ok (empty.afterWrites writes) := by
  have hmirrors := (slotsMirror_afterWrites writes h).mirrors
  refine ⟨hmirrors, keeps _, fun id => ?_, ?_⟩
  · rw [← hmirrors.present id]
    exact deletes _ id
  · rintro docs hdocs rfl
    exact insertAll_of_objects empty 0 hdocs

/-- Two documents that are written twice, one of which is deleted in between and comes back behind
one without an identifier of its own. -/
def rewrites : List Write :=
  [.insert (Value.ofJson (.object [("n", .number (.int 1)), ("_id", .string "a")])),
    .put "b" (.string "text"),
    .put "a" (Value.ofJson (.object [("_rev", .string "old"), ("n", .number (.int 2))])),
    .delete "b",
    .insert (.object []),
    .put "b" .null]

theorem rewrites_mirrored :
    (∀ w ∈ rewrites, w.DistinctKeys)
      ∧ (empty.afterWrites rewrites).ids = ["a", DocumentId.fresh 3, "b"]
      ∧ (empty.afterWrites rewrites).Mirrors (empty.changes rewrites)
      ∧ ((empty.afterWrites rewrites).delete "b").1 = true
      ∧ ((empty.afterWrites rewrites).delete "b").2.ids = ["a", DocumentId.fresh 3]
      ∧ ((empty.afterWrites rewrites).delete "c").1 = false := by
  have hdistinct : ∀ w ∈ rewrites, w.DistinctKeys := by
    simp [rewrites, Write.DistinctKeys, Value.ofJson, Tree.mapNumbers, Tree.bindNumbers,
      Tree.bindNumbersMembers, Tree.DistinctKeys, Tree.DistinctKeysMembers, Fields.Distinct,
      Fields.keys]
  obtain ⟨hmirrors, -, hdeletes, -⟩ := mirrors_afterWrites rewrites hdistinct
  exact ⟨hdistinct, by decide, hmirrors, (hdeletes "b").report.mpr (by decide), by decide,
    by decide⟩

end MemoryStore

end DocQuery
