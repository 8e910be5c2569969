import DocQuery.Query

/-!
Plans: how a query reaches its documents.  A query that demands one identifier looks it up, every
other one scans the store.

* `Selector.demandedId?`: the identifier that a selector demands at its top;
* `Query.plan`: what the execution of a query does.
-/

namespace DocQuery

/-- How a query reaches its documents. -/
inductive ScanKind where
  | fullScan
  | idLookup (id : DocumentId)
deriving DecidableEq

/-- The name of a kind of scan. -/
def ScanKind.label : ScanKind → String
  | .fullScan => "full_scan"
  | .idLookup _ => "id_lookup"

namespace Selector

/-- The identifier that a selector compares the document's with. -/
def comparedId? : Selector → Option DocumentId
  | .field path (.compare .eq (.string id)) =>
    if path.segments = [Document.idField] then some id else none
  | _ => none

/-- The identifier that a selector demands: its own, or the first among the parts of a
conjunction. -/
def demandedId? : Selector → Option DocumentId
  | .and children => children.findSome? comparedId?
  | selector => selector.comparedId?

end Selector

/-- What the execution of a query does. -/
structure Plan where
  scan : ScanKind
  /-- Documents are tested, not all taken. -/
  filter : Bool
  sort : List SortKey
  skip : Nat
  limit : Option Nat
  projection : Option (List FieldPath)

namespace Query

/-- How a query reaches its documents. -/
def scanKind (query : Query) : ScanKind :=
  match query.selector.demandedId? with
  | some id => .idLookup id
  | none => .fullScan

/-- The plan of a query. -/
def plan (query : Query) : Plan where
  scan := query.scanKind
  filter :=
    match query.selector with
    | .always => false
    | _ => true
  sort := query.sort
  skip := query.skip
  limit := query.limit
  projection := query.projection

end Query

end DocQuery
