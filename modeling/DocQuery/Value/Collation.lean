import DocQuery.Value

/-!
The order of values: by kind, then within a kind.  Arrays are compared item by item and then by
length, objects as the lists of their members sorted by key.

* `Value.sorted`: a value with the members of every object in it sorted by key;
* `Value.collate` (**the order**): compares any two values;
* `Value.compareSameKind?`: compares two values of one kind.
-/

namespace DocQuery

namespace Fields

variable {α : Type}

/-- Puts a member before the first one with a greater key. -/
def insertSorted (member : String × α) : Fields α → Fields α
  | [] => [member]
  | other :: rest =>
    if member.1 ≤ other.1 then member :: other :: rest else other :: insertSorted member rest

/-- The members sorted by key. -/
def sortByKey : Fields α → Fields α
  | [] => []
  | member :: rest => insertSorted member (sortByKey rest)

end Fields

namespace Value

mutual

/-- The value with the members of every object in it sorted by key. -/
def sorted : Value → Value
  | .array items => .array (sortedItems items)
  | .object members => .object (Fields.sortByKey (sortedMembers members))
  | v => v

/-- The items of an array with the objects in them sorted. -/
def sortedItems : List Value → List Value
  | [] => []
  | v :: rest => v.sorted :: sortedItems rest

/-- The members of an object, in their order, with the objects below them sorted. -/
def sortedMembers : List (String × Value) → List (String × Value)
  | [] => []
  | (k, v) :: rest => (k, v.sorted) :: sortedMembers rest

end

mutual

/-- Compares two values whose objects have their members in order. -/
def compareSorted : Value → Value → Ordering
  | .bool a, .bool b => compare a b
  | .number x, .number y => x.order y
  | .string s, .string t => compare s t
  | .array xs, .array ys => compareItems xs ys
  | .object xs, .object ys => compareMembers xs ys
  | v, w => compare v.kind.rank w.kind.rank

/-- Compares two arrays: the first difference decides, else the length. -/
def compareItems : List Value → List Value → Ordering
  | [], [] => .eq
  | [], _ :: _ => .lt
  | _ :: _, [] => .gt
  | x :: xs, y :: ys => (compareSorted x y).then (compareItems xs ys)

/-- Compares two lists of members: the first difference in a key or a value decides, else the
length. -/
def compareMembers : List (String × Value) → List (String × Value) → Ordering
  | [], [] => .eq
  | [], _ :: _ => .lt
  | _ :: _, [] => .gt
  | (k, x) :: xs, (l, y) :: ys =>
    (compare k l).then ((compareSorted x y).then (compareMembers xs ys))

end

/-- Compares any two values. -/
def collate (v w : Value) : Ordering := compareSorted v.sorted w.sorted

/-- Compares two values of the same kind. -/
def compareSameKind? (v w : Value) : Option Ordering :=
  if v.kind = w.kind then some (collate v w) else none

end Value

end DocQuery
