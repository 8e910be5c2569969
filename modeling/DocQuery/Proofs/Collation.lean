import DocQuery.Value.Collation
import Mathlib.Logic.Basic

/-!
The order of values is a total preorder: compared the other way round two values give the reversed
outcome, and the order is transitive.

* `Value.marks`: a value as a flat list of marks that says where each array and object ends;
* `Value.orderMarks_marks`: the order of values is the lexicographic order of their marks;
* `Value.transCmp_collate` (**the order**): so the laws of lexicographic orders hold for values.
-/

namespace DocQuery

open Std

namespace Value

/-! ### Marks -/

/-- A mark in the flat form of a value: a rank with a number or a text beside it. -/
structure Mark where
  rank : Nat
  number : Int
  text : String

/-- Marks by rank, then by number, then by text. -/
def Mark.order : Mark → Mark → Ordering :=
  compareLex (compareOn rank) (compareLex (compareOn number) (compareOn text))

instance : TransCmp Mark.order :=
  inferInstanceAs (TransCmp (compareLex (compareOn Mark.rank)
    (compareLex (compareOn Mark.number) (compareOn Mark.text))))

mutual

/-- A value as a flat list of marks. -/
def marks : Value → List Mark
  | .null => [⟨0, 0, ""⟩]
  | .bool b => [⟨1, b.toInt, ""⟩]
  | .number x => [⟨2, x.key, ""⟩]
  | .string s => [⟨3, 0, s⟩]
  | .array items => ⟨4, 0, ""⟩ :: itemMarks items
  | .object members => ⟨5, 0, ""⟩ :: memberMarks members

/-- The items of an array with a mark before each and a lower one at the end. -/
def itemMarks : List Value → List Mark
  | [] => [⟨0, 0, ""⟩]
  | v :: rest => ⟨1, 0, ""⟩ :: (marks v ++ itemMarks rest)

/-- The members of an object with a mark for each key and a lower one at the end. -/
def memberMarks : List (String × Value) → List Mark
  | [] => [⟨0, 0, ""⟩]
  | (k, v) :: rest => ⟨1, 0, k⟩ :: (marks v ++ memberMarks rest)

end

/-- The lexicographic order of lists of marks. -/
def orderMarks : List Mark → List Mark → Ordering := List.compareLex Mark.order

lemma orderMarks_cons (a b : Mark) (r s : List Mark) :
    orderMarks (a :: r) (b :: s) = (Mark.order a b).then (orderMarks r s) :=
  List.compareLex_cons_cons

lemma Mark.order_eq (a b : Mark) :
    Mark.order a b
      = (compare a.rank b.rank).then ((compare a.number b.number).then (compare a.text b.text)) :=
  rfl

/-- The marks of a value start with one that has the rank of its kind. -/
lemma exists_marks (v : Value) : ∃ mark rest, marks v = mark :: rest ∧ mark.rank = v.kind.rank := by
  cases v with
  | null => exact ⟨_, _, rfl, rfl⟩
  | bool b => exact ⟨_, _, rfl, rfl⟩
  | number x => exact ⟨_, _, rfl, rfl⟩
  | string s => exact ⟨_, _, rfl, rfl⟩
  | array items => exact ⟨_, _, rfl, rfl⟩
  | object members => exact ⟨_, _, rfl, rfl⟩

lemma compareSorted_of_kind_ne {v w : Value} (h : v.kind ≠ w.kind) :
    compareSorted v w = compare v.kind.rank w.kind.rank := by
  unfold compareSorted
  split
  · exact absurd rfl h
  · exact absurd rfl h
  · exact absurd rfl h
  · exact absurd rfl h
  · exact absurd rfl h
  · rfl

lemma rank_injective {k l : Kind} (h : k.rank = l.rank) : k = l := by
  cases k <;> cases l <;> first | rfl | cases h

lemma compareSorted_ne_eq_of_kind_ne {v w : Value} (h : v.kind ≠ w.kind) :
    compareSorted v w ≠ .eq := by
  rw [compareSorted_of_kind_ne h]
  exact fun heq => h (rank_injective (Nat.compare_eq_eq.mp heq))

/-- What comes second in a comparison does not matter once the first part has decided it. -/
lemma then_of_ne_eq {o : Ordering} (h : o ≠ .eq) (later : Ordering) : o.then later = o := by
  cases o with
  | lt => rfl
  | eq => exact absurd rfl h
  | gt => rfl

/-- Values of different kinds are told apart by their first marks. -/
lemma orderMarks_of_kind_ne {v w : Value} (h : v.kind ≠ w.kind) (r s : List Mark) :
    orderMarks (marks v ++ r) (marks w ++ s) = compareSorted v w := by
  obtain ⟨a, as, hv, hrank⟩ := exists_marks v
  obtain ⟨b, bs, hw, hrank'⟩ := exists_marks w
  have hne := compareSorted_ne_eq_of_kind_ne h
  rw [compareSorted_of_kind_ne h] at hne ⊢
  rw [hv, hw, List.cons_append, List.cons_append, orderMarks_cons, Mark.order_eq, hrank, hrank',
    then_of_ne_eq hne, then_of_ne_eq hne]

mutual

/-- The order of two values and of what follows them is the lexicographic order of their marks. -/
theorem orderMarks_marks (v w : Value) (r s : List Mark) :
    orderMarks (marks v ++ r) (marks w ++ s) = (compareSorted v w).then (orderMarks r s) := by
  by_cases h : v.kind = w.kind
  · match v, w, h with
    | .null, .null, _ => rfl
    | .bool a, .bool b, _ => cases a <;> cases b <;> rfl
    | .number x, .number y, _ =>
      rw [marks, marks, List.cons_append, List.cons_append, orderMarks_cons, Mark.order_eq,
        compareSorted, Binary64.order]
      simp
    | .string a, .string b, _ =>
      rw [marks, marks, List.cons_append, List.cons_append, orderMarks_cons, Mark.order_eq,
        compareSorted]
      simp
    | .array xs, .array ys, _ =>
      rw [marks, marks, List.cons_append, List.cons_append, orderMarks_cons, compareSorted,
        orderMarks_itemMarks xs ys r s]
      rfl
    | .object xs, .object ys, _ =>
      rw [marks, marks, List.cons_append, List.cons_append, orderMarks_cons, compareSorted,
        orderMarks_memberMarks xs ys r s]
      rfl
  · rw [orderMarks_of_kind_ne h, then_of_ne_eq (compareSorted_ne_eq_of_kind_ne h)]

theorem orderMarks_itemMarks (xs ys : List Value) (r s : List Mark) :
    orderMarks (itemMarks xs ++ r) (itemMarks ys ++ s)
      = (compareItems xs ys).then (orderMarks r s) := by
  match xs, ys with
  | [], [] => rfl
  | [], _ :: _ => rfl
  | _ :: _, [] => rfl
  | x :: xs, y :: ys =>
    rw [itemMarks, itemMarks, List.cons_append, List.cons_append, orderMarks_cons,
      List.append_assoc, List.append_assoc, orderMarks_marks x y, orderMarks_itemMarks xs ys r s,
      compareItems, Ordering.then_assoc]
    rfl

theorem orderMarks_memberMarks (xs ys : List (String × Value)) (r s : List Mark) :
    orderMarks (memberMarks xs ++ r) (memberMarks ys ++ s)
      = (compareMembers xs ys).then (orderMarks r s) := by
  match xs, ys with
  | [], [] => rfl
  | [], _ :: _ => rfl
  | _ :: _, [] => rfl
  | (k, x) :: xs, (l, y) :: ys =>
    rw [memberMarks, memberMarks, List.cons_append, List.cons_append, orderMarks_cons,
      List.append_assoc, List.append_assoc, orderMarks_marks x y,
      orderMarks_memberMarks xs ys r s, compareMembers, Ordering.then_assoc, Ordering.then_assoc]
    rfl

end

/-! ### The laws of the order -/

lemma compareSorted_eq_orderMarks (v w : Value) :
    compareSorted v w = orderMarks (marks v) (marks w) := by
  have h := orderMarks_marks v w [] []
  rw [List.append_nil, List.append_nil] at h
  rw [h]
  exact Ordering.then_eq.symm

instance : TransCmp orderMarks := inferInstanceAs (TransCmp (List.compareLex Mark.order))

instance : TransCmp compareSorted where
  eq_swap := by
    intro v w
    rw [compareSorted_eq_orderMarks, compareSorted_eq_orderMarks]
    exact OrientedCmp.eq_swap
  isLE_trans := by
    intro u v w huv hvw
    rw [compareSorted_eq_orderMarks] at huv hvw ⊢
    exact TransCmp.isLE_trans huv hvw

/-- **The order of values.**  It is oriented and transitive. -/
instance transCmp_collate : TransCmp collate where
  eq_swap := by
    intro v w
    rw [collate, collate]
    exact OrientedCmp.eq_swap
  isLE_trans := by
    intro u v w huv hvw
    rw [collate] at huv hvw ⊢
    exact TransCmp.isLE_trans huv hvw

end Value

end DocQuery
