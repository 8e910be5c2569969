import DocQuery.Store

/-!
Documents kept in memory, in the order in which their identifiers were first written.  Each write
gives a document a new revision, which starts with the number of writes so far.

* `MemoryStore.put`, `insert`, `delete`: writing;
* `MemoryStore.get?`, `documents`: reading;
* `MemoryStore.ofJsonDocs`: a store with given documents;
* `MemoryStore.toStore`: the store as queries see it.
-/

namespace DocQuery

/-- A document with the number of writes under its identifier. -/
structure Slot where
  doc : Document
  generation : Nat

/-- Documents in memory. -/
structure MemoryStore where
  slots : List Slot
  /-- How many names were drawn, so that the next one is new. -/
  drawn : Nat

/-! ### Fresh names

A new identifier and the name in a revision are drawn at random, as UUIDs of version 4, so they are
not the same in two runs.  Here a count of the names that were drawn takes the place of the draw: it
gives names in the layout of random ones, each of them once.  Nothing else is made of a name. -/

/-- The hexadecimal digits of a number, with zeros in front up to twelve. -/
def twelveDigits (n : Nat) : String :=
  let digits := Nat.toDigits 16 n
  String.ofList (List.replicate (12 - digits.length) '0' ++ digits)

/-- The identifier that a number stands for, in the layout of a random one. -/
def DocumentId.fresh (n : Nat) : DocumentId := "00000000-0000-4000-8000-" ++ twelveDigits n

/-- A revision: the number of writes and a name of its own. -/
def revisionText (generation n : Nat) : String :=
  toString generation ++ "-00000000000040008000" ++ twelveDigits n

namespace MemoryStore

/-- The store without documents. -/
def empty : MemoryStore := ⟨[], 0⟩

/-! ### Reading -/

/-- The documents, in order. -/
def documents (store : MemoryStore) : List Document := store.slots.map (·.doc)

/-- The document with an identifier. -/
def get? (store : MemoryStore) (id : DocumentId) : Option Document :=
  (store.slots.find? (·.doc.id = id)).map (·.doc)

/-- An identifier that is there. -/
def contains (store : MemoryStore) (id : DocumentId) : Bool := (store.get? id).isSome

/-- The number of documents. -/
def size (store : MemoryStore) : Nat := store.slots.length

/-! ### Writing -/

/-- A body as it is kept: an object loses its own identifier and revision. -/
def strippedBody : Value → Value
  | .object members => .object (Fields.erase (Fields.erase members Document.idField)
      Document.revField)
  | body => body

/-- Writes a body under an identifier: in place if the identifier is there, else at the end. -/
def writeSlot (id : DocumentId) (body : Value) (n : Nat) : List Slot → List Slot
  | [] => [⟨⟨id, some (revisionText 1 n), body⟩, 1⟩]
  | slot :: rest =>
    if slot.doc.id = id then
      ⟨⟨id, some (revisionText (slot.generation + 1) n), body⟩, slot.generation + 1⟩ :: rest
    else slot :: writeSlot id body n rest

/-- Writes a body under an identifier. -/
def put (store : MemoryStore) (id : DocumentId) (body : Value) : MemoryStore where
  slots := writeSlot id (strippedBody body) store.drawn store.slots
  drawn := store.drawn + 1

/-- The identifier that a body carries itself. -/
def ownId? (body : Value) : Option DocumentId :=
  match body with
  | .object members => (Fields.get? members Document.idField).bind Tree.asString?
  | _ => none

/-- Writes a body under the identifier it carries, or else under a fresh one. -/
def insert (store : MemoryStore) (body : Value) : DocumentId × MemoryStore :=
  match ownId? body with
  | some id => (id, store.put id body)
  | none =>
    let id := DocumentId.fresh store.drawn
    (id, { store with drawn := store.drawn + 1 }.put id body)

/-- Removes the document with an identifier, and tells whether there are fewer documents now. -/
def delete (store : MemoryStore) (id : DocumentId) : Bool × MemoryStore :=
  let left := store.slots.filter (·.doc.id ≠ id)
  (left.length ≠ store.slots.length, { store with slots := left })

/-- Inserts documents, of which the first has the index `i`. -/
def insertAll (store : MemoryStore) (i : Nat) : List Json → Except QueryError MemoryStore
  | [] => .ok store
  | .object members :: rest =>
    insertAll (store.insert (Value.ofJson (.object members))).2 (i + 1) rest
  | _ :: _ => .error (.invalidShape ((Location.named "").index i) .documentNotObject)

/-- The store with given documents, which have to be objects. -/
def ofJsonDocs (docs : List Json) : Except QueryError MemoryStore := insertAll empty 0 docs

/-! ### Querying -/

/-- The store as queries see it. -/
def toStore (store : MemoryStore) : Store where
  enumerate := .ok (store.documents.map ScanItem.ofDocument)
  lookup id := some (.ok (store.get? id))

end MemoryStore

end DocQuery
