import DocQuery.Event
import DocQuery.Store.Memory

/-!
What is logged about writing to memory: every identifier that was not there before.
-/

namespace DocQuery

namespace MemoryStore

/-- What is logged when a body is written under an identifier. -/
def putEvents (store : MemoryStore) (id : DocumentId) : List Event :=
  if store.contains id then [] else [.stored id]

/-- What is logged when a body is inserted. -/
def insertEvents (store : MemoryStore) (body : Value) : List Event :=
  store.putEvents (store.insert body).1

/-- What is logged when documents are inserted, up to the first that is no object. -/
def insertAllEvents (store : MemoryStore) : List Json → List Event
  | .object members :: rest =>
    let body := Value.ofJson (.object members)
    store.insertEvents body ++ insertAllEvents (store.insert body).2 rest
  | _ => []

end MemoryStore

end DocQuery
