import DocQuery.Cancellation
import DocQuery.Document

/-!
Stores as queries see them: a scan yields documents one after the other, any of which may fail, and
a lookup finds one document by its identifier if the store supports it.
-/

namespace DocQuery

/-- What pulling once from a scan gives. -/
structure ScanItem where
  content : Except StoreError Document
  /-- A token that is cancelled, or whose deadline passes, while the item is pulled. -/
  cancels : Option CancelToken

/-- An item that is a document. -/
def ScanItem.ofDocument (doc : Document) : ScanItem := ⟨.ok doc, none⟩

/-- An item that is a failure. -/
def ScanItem.ofFailure (cause : StoreError) : ScanItem := ⟨.error cause, none⟩

/-- A store, as it is when a query is opened. -/
structure Store where
  /-- Opens a scan of everything. -/
  enumerate : Except StoreError (List ScanItem)
  /-- Looks a document up; none if the store cannot. -/
  lookup : DocumentId → Option (Except StoreError (Option Document))

end DocQuery
