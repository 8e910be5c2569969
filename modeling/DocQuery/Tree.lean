import DocQuery.Fields
import DocQuery.Power

/-!
Trees of arrays and objects over a type of numbers.  JSON texts and document values are both
such trees and differ in their numbers only.

* `Tree.kind`: which of the six kinds a tree has, in the order in which kinds are ranked;
* `Tree.bindNumbers` and `Tree.mapNumbers`: a change of every number, which keeps keys and order;
* `Tree.induction` and `Tree.induction_objects`: induction over the items of arrays and the values
  of objects;
* `Tree.lookup`: the subtree at a list of segments, each a key of an object or an index of an
  array.
-/

namespace DocQuery

/-- A null, Boolean, number or string, or an array or object of trees. -/
inductive Tree (ν : Type) where
  | null
  | bool (value : Bool)
  | number (value : ν)
  | string (value : String)
  | array (items : List (Tree ν))
  | object (members : List (String × Tree ν))
deriving Inhabited

/-- The kinds of trees, in the order in which they are ranked. -/
inductive Kind where
  | null
  | boolean
  | number
  | string
  | array
  | object
deriving DecidableEq

namespace Kind

/-- The place of a kind in the ranking. -/
def rank : Kind → Nat
  | .null => 0
  | .boolean => 1
  | .number => 2
  | .string => 3
  | .array => 4
  | .object => 5

/-- The name of a kind in queries. -/
def name : Kind → String
  | .null => "null"
  | .boolean => "boolean"
  | .number => "number"
  | .string => "string"
  | .array => "array"
  | .object => "object"

/-- The kind with a given name. -/
def ofName? : String → Option Kind
  | "null" => some .null
  | "boolean" => some .boolean
  | "number" => some .number
  | "string" => some .string
  | "array" => some .array
  | "object" => some .object
  | _ => none

end Kind

namespace Tree

variable {ν μ : Type}

/-- The kind of a tree, which its outermost constructor decides. -/
def kind : Tree ν → Kind
  | .null => .null
  | .bool _ => .boolean
  | .number _ => .number
  | .string _ => .string
  | .array _ => .array
  | .object _ => .object

/-! ### Views -/

/-- The number, if the tree is one. -/
def asNumber? : Tree ν → Option ν
  | .number n => some n
  | _ => none

/-- The string, if the tree is one. -/
def asString? : Tree ν → Option String
  | .string s => some s
  | _ => none

/-- The items, if the tree is an array. -/
def asArray? : Tree ν → Option (List (Tree ν))
  | .array items => some items
  | _ => none

/-- The members, if the tree is an object. -/
def asObject? : Tree ν → Option (Fields (Tree ν))
  | .object members => some members
  | _ => none

/-! ### A change of numbers -/

mutual

/-- The tree with every number replaced by the tree that `f` gives for it. -/
def bindNumbers (f : ν → Tree μ) : Tree ν → Tree μ
  | .null => .null
  | .bool b => .bool b
  | .number n => f n
  | .string s => .string s
  | .array items => .array (bindNumbersItems f items)
  | .object members => .object (bindNumbersMembers f members)

/-- The items of an array with every number in them replaced. -/
def bindNumbersItems (f : ν → Tree μ) : List (Tree ν) → List (Tree μ)
  | [] => []
  | t :: rest => t.bindNumbers f :: bindNumbersItems f rest

/-- The members of an object with every number in them replaced; keys stay. -/
def bindNumbersMembers (f : ν → Tree μ) : List (String × Tree ν) → List (String × Tree μ)
  | [] => []
  | (k, t) :: rest => (k, t.bindNumbers f) :: bindNumbersMembers f rest

end

/-- The tree with `f` applied to every number. -/
def mapNumbers (f : ν → μ) (t : Tree ν) : Tree μ := t.bindNumbers fun n => .number (f n)

theorem bindNumbersItems_eq_map (f : ν → Tree μ) (items : List (Tree ν)) :
    bindNumbersItems f items = items.map (bindNumbers f) := by
  induction items with
  | nil => rfl
  | cons t rest ih => simp [bindNumbersItems, ih]

theorem bindNumbersMembers_eq_map (f : ν → Tree μ) (members : List (String × Tree ν)) :
    bindNumbersMembers f members = members.map fun (k, t) => (k, t.bindNumbers f) := by
  induction members with
  | nil => rfl
  | cons member rest ih => simp [bindNumbersMembers, ih]

@[simp]
theorem kind_mapNumbers (f : ν → μ) (t : Tree ν) : (t.mapNumbers f).kind = t.kind := by
  cases t <;> rfl

/-! ### Induction -/

theorem sizeOf_item_lt [SizeOf ν] {item : Tree ν} {items : List (Tree ν)} (h : item ∈ items) :
    sizeOf item < sizeOf (Tree.array items) := by
  have hlt := List.sizeOf_lt_of_mem h
  simp only [array.sizeOf_spec]
  omega

theorem sizeOf_member_lt [SizeOf ν] {member : String × Tree ν}
    {members : List (String × Tree ν)} (h : member ∈ members) :
    sizeOf member.2 < sizeOf (Tree.object members) := by
  have hlt := List.sizeOf_lt_of_mem h
  obtain ⟨key, value⟩ := member
  simp only [Prod.mk.sizeOf_spec, object.sizeOf_spec] at hlt ⊢
  omega

/-- What holds of an array when it holds of all its items, and of an object when it holds of all its
values, holds of every tree. -/
@[elab_as_elim]
theorem induction {motive : Tree ν → Prop} (null : motive .null) (bool : ∀ b, motive (.bool b))
    (number : ∀ n, motive (.number n)) (string : ∀ s, motive (.string s))
    (array : ∀ items, (∀ item ∈ items, motive item) → motive (.array items))
    (object : ∀ members, (∀ member ∈ members, motive member.2) → motive (.object members)) :
    ∀ t, motive t
  | .null => null
  | .bool b => bool b
  | .number n => number n
  | .string s => string s
  | .array items => array items fun item _ => induction null bool number string array object item
  | .object members =>
    object members fun member _ => induction null bool number string array object member.2
termination_by t => sizeOf t
decreasing_by
  · exact sizeOf_item_lt ‹_›
  · exact sizeOf_member_lt ‹_›

/-- The same for what only tells objects from other trees. -/
@[elab_as_elim]
theorem induction_objects {motive : Tree ν → Prop}
    (other : ∀ t, t.kind ≠ .object →
      (∀ {items}, t = .array items → ∀ item ∈ items, motive item) → motive t)
    (object : ∀ members, (∀ member ∈ members, motive member.2) → motive (.object members))
    (t : Tree ν) : motive t := by
  induction t using induction with
  | array items ih =>
    refine other _ nofun ?_
    rintro _ ⟨rfl⟩
    exact ih
  | object members ih => exact object members ih
  | _ => exact other _ nofun nofun

/-! ### Distinct keys -/

mutual

/-- No object in the tree repeats a key. -/
def DistinctKeys : Tree ν → Prop
  | .array items => DistinctKeysItems items
  | .object members => Fields.Distinct members ∧ DistinctKeysMembers members
  | _ => True

/-- No object in the items of an array repeats a key. -/
def DistinctKeysItems : List (Tree ν) → Prop
  | [] => True
  | t :: rest => t.DistinctKeys ∧ DistinctKeysItems rest

/-- No object below the members of an object repeats a key. -/
def DistinctKeysMembers : List (String × Tree ν) → Prop
  | [] => True
  | (_, t) :: rest => t.DistinctKeys ∧ DistinctKeysMembers rest

end

/-! ### Lookup -/

/-- The digits of `cs` as a number, for a number below `2 ^ 64`. -/
def indexOfDigits? (cs : List Char) : Option Nat :=
  if cs ≠ [] ∧ cs.all Char.isDigit then
    let n := cs.foldl (fun n c => 10 * n + (c.toNat - '0'.toNat)) 0
    if n < twoPow 64 then some n else none
  else none

/-- An array index: decimal digits after an optional plus sign. -/
def index? (segment : String) : Option Nat :=
  match segment.toList with
  | '+' :: digits => indexOfDigits? digits
  | digits => indexOfDigits? digits

/-- The child of a tree at one segment. -/
def child? : Tree ν → String → Option (Tree ν)
  | .object members, segment => Fields.get? members segment
  | .array items, segment => (index? segment).bind (items[·]?)
  | _, _ => none

/-- The subtree at a list of segments. -/
def lookup (t : Tree ν) : List String → Option (Tree ν)
  | [] => some t
  | segment :: rest => (t.child? segment).bind (·.lookup rest)

@[simp]
theorem lookup_nil (t : Tree ν) : t.lookup [] = some t := rfl

theorem lookup_append (t : Tree ν) (p q : List String) :
    t.lookup (p ++ q) = (t.lookup p).bind (·.lookup q) := by
  induction p generalizing t with
  | nil => rfl
  | cons segment rest ih =>
    simp only [List.cons_append, lookup]
    cases t.child? segment with
    | none => rfl
    | some c => exact ih c

end Tree

end DocQuery
