import DocQuery.Store

/-!
Stores with a fixed script: every scan yields the same items, and opening a scan and looking up
behave as laid down.  With them the answers to failures and cancellations can be tried out.
-/

namespace DocQuery

/-- How a scripted store looks documents up. -/
inductive ScriptedLookup where
  /-- It cannot. -/
  | unsupported
  /-- It finds the first document of the script with the identifier. -/
  | index
  | failing (cause : StoreError)

/-- A store with a fixed script. -/
structure ScriptedStore where
  items : List ScanItem
  /-- The failure of every attempt to open a scan. -/
  openFailure : Option StoreError
  lookup : ScriptedLookup

namespace ScriptedStore

/-- The first document of some items with an identifier. -/
def findDocument? (id : DocumentId) : List ScanItem → Option Document
  | [] => none
  | ⟨.ok doc, _⟩ :: rest => if doc.id = id then some doc else findDocument? id rest
  | ⟨.error _, _⟩ :: rest => findDocument? id rest

/-- The store as queries see it. -/
def toStore (store : ScriptedStore) : Store where
  enumerate :=
    match store.openFailure with
    | some cause => .error cause
    | none => .ok store.items
  lookup id :=
    match store.lookup with
    | .unsupported => none
    | .index => some (.ok (findDocument? id store.items))
    | .failing cause => some (.error cause)

end ScriptedStore

end DocQuery
