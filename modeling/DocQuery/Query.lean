import DocQuery.Selector

/-!
Queries: which documents are wanted, which of their fields, in which order, and which page of them.

* `Query`: a selector with projection, sort keys, skip and limit;
* `Query.all`: the query for every document as it is.
-/

namespace DocQuery

/-- The direction of a sort key. -/
inductive Direction where
  | ascending
  | descending
deriving DecidableEq

/-- A path whose value orders documents. -/
structure SortKey where
  path : FieldPath
  direction : Direction
deriving DecidableEq

/-- A query. -/
structure Query where
  selector : Selector
  /-- The fields that are kept; documents are whole without it. -/
  projection : Option (List FieldPath)
  /-- The sort keys, the most significant first. -/
  sort : List SortKey
  skip : Nat
  limit : Option Nat

/-- The query for every document as it is. -/
def Query.all : Query := ⟨.always, none, [], 0, none⟩

end DocQuery
