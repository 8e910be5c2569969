import DocQuery.Query

/-!
The order of documents under sort keys: the first key on which two documents differ decides, and
the identifier if none does.

* `SortKey.order`: two documents by one key, where an absent field is below every present one;
* `Document.order` (**the order**): two documents by several keys;
* `Document.sortBy`: some documents in this order.
-/

namespace DocQuery

/-- Compares what may be absent; an absent value is below every other. -/
def Value.orderFields : Option Value → Option Value → Ordering
  | some v, some w => v.collate w
  | some _, none => .gt
  | none, some _ => .lt
  | none, none => .eq

/-- An ordering seen in a direction. -/
def Direction.apply : Direction → Ordering → Ordering
  | .ascending, order => order
  | .descending, order => order.swap

/-- Compares two documents by one key. -/
def SortKey.order (key : SortKey) (a b : Document) : Ordering :=
  key.direction.apply (Value.orderFields (a.fieldAt key.path) (b.fieldAt key.path))

namespace Document

/-- Compares two documents by sort keys and then by identifier. -/
def order : List SortKey → Document → Document → Ordering
  | [], a, b => compare a.id b.id
  | key :: rest, a, b => (key.order a b).then (order rest a b)

/-- Documents in the order of some sort keys; documents that compare as equal keep their order. -/
def sortBy (keys : List SortKey) (docs : List Document) : List Document :=
  docs.mergeSort fun a b => (order keys a b).isLE

end Document

end DocQuery
