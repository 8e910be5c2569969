import DocQuery.Proofs.ZeroSigns
import Mathlib.Data.List.Perm.Subperm

/-!
Equality of values agrees with their order, although the one looks the keys of an object up and the
other walks through them in sequence.

* `Tree.AllNumbers` and `Tree.Clean`: every number in a tree has a property, and no object in it
  repeats a key;
* `Fields.Corresponds`: two lists of fields have the same keys, in any order, with related values;
* `Value.beq_object_iff` and `Value.collate_object_eq_iff`: equality of objects and their order
  both come to that;
* `Value.beq_iff_collate_eq`: values are equal if and only if they compare as equal;
* `Value.equality_agrees_with_collate` (**main statement**): so equality is an equivalence, and
  equal values compare alike with every other.
-/

namespace DocQuery

open Std

/-! ### Numbers in a tree -/

namespace Tree

variable {ν : Type} {p q : ν → Prop}

mutual

/-- Every number in the tree has a property. -/
def AllNumbers (p : ν → Prop) : Tree ν → Prop
  | .number n => p n
  | .array items => AllNumbersItems p items
  | .object members => AllNumbersMembers p members
  | _ => True

/-- Every number in the items of an array has a property. -/
def AllNumbersItems (p : ν → Prop) : List (Tree ν) → Prop
  | [] => True
  | t :: rest => t.AllNumbers p ∧ AllNumbersItems p rest

/-- Every number in the members of an object has a property. -/
def AllNumbersMembers (p : ν → Prop) : List (String × Tree ν) → Prop
  | [] => True
  | (_, t) :: rest => t.AllNumbers p ∧ AllNumbersMembers p rest

end

lemma allNumbersItems_iff {items : List (Tree ν)} :
    AllNumbersItems p items ↔ ∀ item ∈ items, item.AllNumbers p := by
  induction items with
  | nil => simp [AllNumbersItems]
  | cons item rest ih => rw [AllNumbersItems, ih, List.forall_mem_cons]

lemma allNumbersMembers_iff {members : Fields (Tree ν)} :
    AllNumbersMembers p members ↔ ∀ member ∈ members, member.2.AllNumbers p := by
  induction members with
  | nil => simp [AllNumbersMembers]
  | cons member rest ih => rw [AllNumbersMembers, ih, List.forall_mem_cons]

lemma AllNumbers.mono (hpq : ∀ n, p n → q n) {t : Tree ν} (h : t.AllNumbers p) :
    t.AllNumbers q := by
  induction t using Tree.induction with
  | number n => exact hpq n h
  | array items ih =>
    have hitems := allNumbersItems_iff.mp h
    exact allNumbersItems_iff.mpr fun item hitem => ih item hitem (hitems item hitem)
  | object members ih =>
    have hmembers := allNumbersMembers_iff.mp h
    exact allNumbersMembers_iff.mpr fun member hmember =>
      ih member hmember (hmembers member hmember)
  | _ => trivial

/-- No object in the tree repeats a key, and every number in it has a property. -/
structure Clean (p : ν → Prop) (t : Tree ν) : Prop where
  distinct : t.DistinctKeys
  numbers : t.AllNumbers p

lemma Clean.of_mem_array {items : List (Tree ν)} (h : Clean p (.array items)) {item : Tree ν}
    (hitem : item ∈ items) : item.Clean p :=
  ⟨distinctKeysItems_iff.mp h.distinct item hitem, allNumbersItems_iff.mp h.numbers item hitem⟩

lemma clean_object_iff {members : Fields (Tree ν)} :
    Clean p (.object members)
      ↔ Fields.Distinct members ∧ ∀ member ∈ members, member.2.Clean p := by
  constructor
  · intro h
    have hdistinct := distinctKeysMembers_iff.mp h.distinct.2
    have hnumbers := allNumbersMembers_iff.mp h.numbers
    exact ⟨h.distinct.1, fun member hmember =>
      ⟨hdistinct member hmember, hnumbers member hmember⟩⟩
  · rintro ⟨hdistinct, hmembers⟩
    exact ⟨⟨hdistinct, distinctKeysMembers_iff.mpr fun member hmember =>
      (hmembers member hmember).distinct⟩, allNumbersMembers_iff.mpr fun member hmember =>
      (hmembers member hmember).numbers⟩

end Tree

/-! ### Objects side by side -/

namespace Fields

variable {α β : Type} {xs : Fields α} {ys : Fields β}

/-- Two lists of fields have the same keys, in any order, with related values. -/
structure Corresponds (R : α → β → Prop) (xs : Fields α) (ys : Fields β) : Prop where
  keys : xs.keys.Perm ys.keys
  values : ∀ key x y, xs.get? key = some x → ys.get? key = some y → R x y

lemma Corresponds.congr {R S : α → β → Prop} (hxs : xs.Distinct) (hys : ys.Distinct)
    (h : ∀ x ∈ xs, ∀ y ∈ ys, R x.2 y.2 ↔ S x.2 y.2) :
    Corresponds R xs ys ↔ Corresponds S xs ys := by
  have hvalue (key : String) (x : α) (y : β) (hx : xs.get? key = some x)
      (hy : ys.get? key = some y) : R x y ↔ S x y :=
    h (key, x) ((get?_eq_some_iff hxs).mp hx) (key, y) ((get?_eq_some_iff hys).mp hy)
  constructor
  · intro hR
    exact ⟨hR.keys, fun key x y hx hy => (hvalue key x y hx hy).mp (hR.values key x y hx hy)⟩
  · intro hS
    exact ⟨hS.keys, fun key x y hx hy => (hvalue key x y hx hy).mpr (hS.values key x y hx hy)⟩

lemma perm_insertSorted (member : String × α) (fields : Fields α) :
    (insertSorted member fields).Perm (member :: fields) := by
  induction fields with
  | nil => exact .refl _
  | cons other rest ih =>
    rw [insertSorted]
    split
    · exact .refl _
    · exact (ih.cons other).trans (.swap member other rest)

lemma perm_sortByKey (fields : Fields α) : (sortByKey fields).Perm fields := by
  induction fields with
  | nil => exact .nil
  | cons member rest ih => exact (perm_insertSorted member _).trans (ih.cons member)

lemma distinct_sortByKey (h : xs.Distinct) : (sortByKey xs).Distinct :=
  ((perm_sortByKey xs).map _).nodup_iff.mpr h

/-- Sorting by key sees nothing but the keys, so fields with the same keys have them in the same
sequence afterwards. -/
lemma keys_sortByKey_eq (hxs : xs.Distinct) (hkeys : xs.keys.Perm ys.keys) :
    (sortByKey xs).keys = (sortByKey ys).keys := by
  have hbare {γ : Type} (fields : Fields γ) :
      (fields.map fun member => (member.1, ())) = fields.keys.map fun key => (key, ()) := by
    rw [keys, List.map_map]
    rfl
  have hsorted {γ : Type} (fields : Fields γ) :
      (sortByKey (fields.map fun member => (member.1, ()))).keys = (sortByKey fields).keys := by
    rw [sortByKey_map (fun _ => ()), keys_map (fun _ => ())]
  have hperm :
      (xs.map fun member => (member.1, ())).Perm (ys.map fun member => (member.1, ())) := by
    rw [hbare, hbare]
    exact hkeys.map _
  have hdistinct : Distinct (xs.map fun member => (member.1, ())) := by
    rw [Distinct, keys_map (fun _ => ())]
    exact hxs
  rw [← hsorted xs, ← hsorted ys, sortByKey_eq_of_perm hperm hdistinct]

lemma keys_eq_of_forall₂ {R : α → β → Prop}
    (h : List.Forall₂ (fun a b => a.1 = b.1 ∧ R a.2 b.2) xs ys) : xs.keys = ys.keys := by
  induction h with
  | nil => rfl
  | cons hmember _ ih => exact congrArg₂ List.cons hmember.1 ih

lemma get?_cons_of_mem {key k : String} {x v : α} {rest : Fields α}
    (h : Distinct ((k, v) :: rest)) (hx : get? rest key = some x) :
    get? ((k, v) :: rest) key = some x := by
  have hne : k ≠ key := by
    rintro rfl
    exact (List.nodup_cons.mp h).1 (mem_keys_iff.mpr ⟨x, hx⟩)
  rw [get?, if_neg hne, hx]

/-- Fields with the same keys in the same sequence correspond if they do so member by member. -/
lemma forall₂_iff_of_keys_eq {R : α → β → Prop} (hxs : xs.Distinct) (hkeys : xs.keys = ys.keys) :
    List.Forall₂ (fun a b => a.1 = b.1 ∧ R a.2 b.2) xs ys
      ↔ ∀ key x y, xs.get? key = some x → ys.get? key = some y → R x y := by
  induction xs generalizing ys with
  | nil =>
    obtain rfl : ys = [] := List.map_eq_nil_iff.mp hkeys.symm
    simp
  | cons member rest ih =>
    obtain ⟨k, v⟩ := member
    cases ys with
    | nil => cases hkeys
    | cons member' rest' =>
      obtain ⟨l, w⟩ := member'
      obtain ⟨rfl, hrest⟩ := List.cons.inj hkeys
      have hys : Distinct ((k, w) :: rest') := by
        rw [Distinct, ← hkeys]
        exact hxs
      rw [List.forall₂_cons, ih (List.nodup_cons.mp hxs).2 hrest]
      constructor
      · rintro ⟨⟨-, hvalue⟩, hvalues⟩ key x y hx hy
        rw [get?] at hx hy
        split_ifs at hx hy with hkey
        · cases hx
          cases hy
          exact hvalue
        · exact hvalues key x y hx hy
      · intro h
        refine ⟨⟨rfl, h k v w (by simp [get?]) (by simp [get?])⟩, fun key x y hx hy => ?_⟩
        exact h key x y (get?_cons_of_mem hxs hx) (get?_cons_of_mem hys hy)

/-- Sorted by key, fields are related member by member if and only if they correspond. -/
lemma forall₂_sortByKey_iff {R : α → β → Prop} (hxs : xs.Distinct) (hys : ys.Distinct) :
    List.Forall₂ (fun a b => a.1 = b.1 ∧ R a.2 b.2) (sortByKey xs) (sortByKey ys)
      ↔ Corresponds R xs ys := by
  have hget {γ : Type} {fields : Fields γ} (h : fields.Distinct) (key : String) :
      (sortByKey fields).get? key = fields.get? key :=
    get?_eq_of_perm (perm_sortByKey fields) (distinct_sortByKey h) key
  constructor
  · intro h
    have hkeys := keys_eq_of_forall₂ h
    have hvalues := (forall₂_iff_of_keys_eq (distinct_sortByKey hxs) hkeys).mp h
    refine ⟨?_, fun key x y hx hy => hvalues key x y (by rwa [hget hxs]) (by rwa [hget hys])⟩
    calc
      xs.keys.Perm (sortByKey xs).keys := ((perm_sortByKey xs).map _).symm
      _ = (sortByKey ys).keys := hkeys
      List.Perm _ ys.keys := (perm_sortByKey ys).map _
  · intro h
    refine (forall₂_iff_of_keys_eq (distinct_sortByKey hxs)
      (keys_sortByKey_eq hxs h.keys)).mpr fun key x y hx hy => ?_
    exact h.values key x y (by rwa [hget hxs] at hx) (by rwa [hget hys] at hy)

end Fields

namespace Value

variable {v w : Value}

/-! ### Arrays -/

lemma forall₂_congr_of_mem {α β : Type} {R S : α → β → Prop} {xs : List α} {ys : List β}
    (h : ∀ x ∈ xs, ∀ y ∈ ys, R x y ↔ S x y) : List.Forall₂ R xs ys ↔ List.Forall₂ S xs ys := by
  induction xs generalizing ys with
  | nil => cases ys <;> simp
  | cons x xs ih =>
    cases ys with
    | nil => simp
    | cons y ys =>
      have hrest : ∀ x' ∈ xs, ∀ y' ∈ ys, R x' y' ↔ S x' y' := fun x' hx y' hy =>
        h x' (List.mem_cons_of_mem x hx) y' (List.mem_cons_of_mem y hy)
      rw [List.forall₂_cons, List.forall₂_cons, ih hrest,
        h x List.mem_cons_self y List.mem_cons_self]

lemma beqItems_eq_true_iff {xs ys : List Value} :
    beqItems xs ys = true ↔ List.Forall₂ (fun x y => beq x y = true) xs ys := by
  induction xs generalizing ys with
  | nil => cases ys <;> simp [beqItems]
  | cons x xs ih =>
    cases ys with
    | nil => simp [beqItems]
    | cons y ys => rw [beqItems, Bool.and_eq_true, List.forall₂_cons, ih]

lemma compareItems_eq_eq_iff {xs ys : List Value} :
    compareItems xs ys = .eq ↔ List.Forall₂ (fun x y => compareSorted x y = .eq) xs ys := by
  induction xs generalizing ys with
  | nil => cases ys <;> simp [compareItems]
  | cons x xs ih =>
    cases ys with
    | nil => simp [compareItems]
    | cons y ys => rw [compareItems, Ordering.then_eq_eq, List.forall₂_cons, ih]

/-- Arrays compare as equal if and only if they do so item by item. -/
lemma collate_array_eq_iff {xs ys : List Value} :
    collate (.array xs) (.array ys) = .eq ↔ List.Forall₂ (fun x y => collate x y = .eq) xs ys := by
  rw [collate, sorted, sorted, compareSorted, compareItems_eq_eq_iff, sortedItems_eq_map,
    sortedItems_eq_map, List.forall₂_map_left_iff, List.forall₂_map_right_iff]
  rfl

/-! ### Objects -/

/-- Equality of objects looks every key of the first one up in the second.  As the keys are distinct
and equally many, none of the second is left over. -/
lemma beq_object_iff {xs ys : Fields Value} (hxs : xs.Distinct) :
    beq (.object xs) (.object ys) = true
      ↔ Fields.Corresponds (fun x y => beq x y = true) xs ys := by
  rw [beq, Bool.and_eq_true, beq_iff_eq, beqMembers_eq_true_iff hxs]
  constructor
  · rintro ⟨hlength, hmembers⟩
    have hsubset : xs.keys ⊆ ys.keys := by
      intro key hkey
      obtain ⟨x, hx⟩ := Fields.mem_keys_iff.mp hkey
      obtain ⟨y, hy, -⟩ := hmembers key x hx
      exact Fields.mem_keys_iff.mpr ⟨y, hy⟩
    have hlength' : ys.keys.length ≤ xs.keys.length := by
      simp only [Fields.keys, List.length_map]
      omega
    refine ⟨(List.subperm_of_subset hxs hsubset).perm_of_length_le hlength', ?_⟩
    intro key x y hx hy
    obtain ⟨y', hy', hequal⟩ := hmembers key x hx
    cases hy.symm.trans hy'
    exact hequal
  · rintro ⟨hkeys, hvalues⟩
    refine ⟨by simpa [Fields.keys] using hkeys.length_eq, fun key x hx => ?_⟩
    obtain ⟨y, hy⟩ := Fields.mem_keys_iff.mp (hkeys.mem_iff.mp (Fields.mem_keys_iff.mpr ⟨x, hx⟩))
    exact ⟨y, hy, hvalues key x y hx hy⟩

lemma compareMembers_eq_eq_iff {xs ys : Fields Value} :
    compareMembers xs ys = .eq
      ↔ List.Forall₂ (fun a b => a.1 = b.1 ∧ compareSorted a.2 b.2 = .eq) xs ys := by
  induction xs generalizing ys with
  | nil => cases ys <;> simp [compareMembers]
  | cons x xs ih =>
    cases ys with
    | nil => simp [compareMembers]
    | cons y ys =>
      rw [compareMembers, Ordering.then_eq_eq, Ordering.then_eq_eq, Std.compare_eq_iff_eq,
        List.forall₂_cons, ih, and_assoc]

/-- Objects compare as equal if and only if they have the same keys with values that do. -/
lemma collate_object_eq_iff {xs ys : Fields Value} (hxs : xs.Distinct) (hys : ys.Distinct) :
    collate (.object xs) (.object ys) = .eq
      ↔ Fields.Corresponds (fun x y => collate x y = .eq) xs ys := by
  rw [collate, sorted, sorted, compareSorted, compareMembers_eq_eq_iff, sortedMembers_eq_map,
    sortedMembers_eq_map, Fields.sortByKey_map, Fields.sortByKey_map, List.forall₂_map_left_iff,
    List.forall₂_map_right_iff]
  exact Fields.forall₂_sortByKey_iff (R := fun x y => collate x y = .eq) hxs hys

/-! ### Equality and order -/

@[simp]
lemma kind_sorted (v : Value) : v.sorted.kind = v.kind := by
  cases v <;> rfl

lemma beq_ne_true_of_kind_ne (h : v.kind ≠ w.kind) : beq v w ≠ true := by
  intro heq
  cases v <;> cases w <;> first | exact h rfl | cases heq

/-- Values of different kinds are neither equal nor do they compare as equal. -/
lemma beq_iff_collate_eq_of_kind_ne (h : v.kind ≠ w.kind) :
    beq v w = true ↔ collate v w = .eq := by
  have hcollate : collate v w ≠ .eq := by
    rw [collate]
    refine compareSorted_ne_eq_of_kind_ne ?_
    rwa [kind_sorted, kind_sorted]
  exact iff_of_false (beq_ne_true_of_kind_ne h) hcollate

/-- No object in the value repeats a key, and no number in it is a NaN. -/
abbrev Regular (v : Value) : Prop := v.Clean fun x => x.isNaN = false

/-- **Regular values are equal if and only if they compare as equal.**  The induction goes over the
first value. -/
theorem beq_iff_collate_eq (hv : v.Regular) (hw : w.Regular) :
    beq v w = true ↔ collate v w = .eq := by
  induction v using Tree.induction generalizing w with
  | null =>
    cases w with
    | null => exact iff_of_true rfl rfl
    | _ => exact beq_iff_collate_eq_of_kind_ne fun h => by cases h
  | bool a =>
    cases w with
    | bool b => cases a <;> cases b <;> decide
    | _ => exact beq_iff_collate_eq_of_kind_ne fun h => by cases h
  | number x =>
    cases w with
    | number y =>
      have hx : x.isNaN = false := hv.numbers
      change (!x.isNaN && x.key == y.key) = true ↔ compare x.key y.key = .eq
      rw [hx, Bool.not_false, Bool.true_and, beq_iff_eq, Std.compare_eq_iff_eq]
    | _ => exact beq_iff_collate_eq_of_kind_ne fun h => by cases h
  | string s =>
    cases w with
    | string t =>
      change (s == t) = true ↔ compare s t = .eq
      rw [beq_iff_eq, Std.compare_eq_iff_eq]
    | _ => exact beq_iff_collate_eq_of_kind_ne fun h => by cases h
  | array xs ih =>
    cases w with
    | array ys =>
      rw [beq, beqItems_eq_true_iff, collate_array_eq_iff]
      exact forall₂_congr_of_mem fun x hx y hy =>
        ih x hx (hv.of_mem_array hx) (hw.of_mem_array hy)
    | _ => exact beq_iff_collate_eq_of_kind_ne fun h => by cases h
  | object xs ih =>
    cases w with
    | object ys =>
      obtain ⟨hxs, hvs⟩ := Tree.clean_object_iff.mp hv
      obtain ⟨hys, hws⟩ := Tree.clean_object_iff.mp hw
      rw [beq_object_iff hxs, collate_object_eq_iff hxs hys]
      exact Fields.Corresponds.congr hxs hys fun x hx y hy => ih x hx (hvs x hx) (hws y hy)
    | _ => exact beq_iff_collate_eq_of_kind_ne fun h => by cases h

lemma Regular.beq_self (h : v.Regular) : (v == v) = true :=
  (beq_iff_collate_eq h h).mpr ReflCmp.compare_self

/-! ### Main statement -/

/-- **Equality agrees with the order.**  Regular values, those without NaNs and repeated keys, are
equal if and only if they compare as equal.  So equality is reflexive, symmetric and transitive on
them, and equal ones compare alike with every value, on either side. -/
theorem equality_agrees_with_collate (a b c : Value) (ha : a.Regular) (hb : b.Regular)
    (hc : c.Regular) :
    ((a == b) = true ↔ collate a b = .eq)
      ∧ (a == a) = true
      ∧ (a == b) = (b == a)
      ∧ ((a == b) = true → (b == c) = true → (a == c) = true)
      ∧ ((a == b) = true → ∀ d, collate a d = collate b d ∧ collate d a = collate d b) := by
  have hab : (a == b) = true ↔ collate a b = .eq := beq_iff_collate_eq ha hb
  have hba : (b == a) = true ↔ collate b a = .eq := beq_iff_collate_eq hb ha
  have hbc : (b == c) = true ↔ collate b c = .eq := beq_iff_collate_eq hb hc
  have hac : (a == c) = true ↔ collate a c = .eq := beq_iff_collate_eq ha hc
  refine ⟨hab, ha.beq_self, ?_, fun heq heq' => ?_, fun heq d => ⟨?_, ?_⟩⟩
  · rw [Bool.eq_iff_iff, hab, hba]
    exact OrientedCmp.eq_comm
  · exact hac.mpr (TransCmp.eq_trans (hab.mp heq) (hbc.mp heq'))
  · exact TransCmp.congr_left (hab.mp heq)
  · exact TransCmp.congr_right (hab.mp heq)

/-- Two objects with their keys in different order and zeros of different sign are equal, and both
lie above the same array. -/
theorem boxes_equal :
    let a : Value :=
      .object [("n", .number ⟨true, 0, by decide⟩), ("l", .array [.object [], .null])]
    let b : Value :=
      .object [("l", .array [.object [], .null]), ("n", .number ⟨false, 0, by decide⟩)]
    a.Regular ∧ b.Regular ∧ (a == b) = true ∧ (a == b) = (b == a)
      ∧ collate a (.array []) = collate b (.array []) := by
  intro a b
  have ha : a.Regular := by
    constructor
    · simp [a, Tree.DistinctKeys, Tree.DistinctKeysItems, Tree.DistinctKeysMembers,
        Fields.Distinct, Fields.keys]
    · simp [a, Tree.AllNumbers, Tree.AllNumbersItems, Tree.AllNumbersMembers, Binary64.isNaN]
  have hb : b.Regular := by
    constructor
    · simp [b, Tree.DistinctKeys, Tree.DistinctKeysItems, Tree.DistinctKeysMembers,
        Fields.Distinct, Fields.keys]
    · simp [b, Tree.AllNumbers, Tree.AllNumbersItems, Tree.AllNumbersMembers, Binary64.isNaN]
  obtain ⟨hiff, -, hsymm, -, hreplace⟩ := equality_agrees_with_collate a b b ha hb hb
  have hequal : (a == b) = true := hiff.mpr (by decide)
  exact ⟨ha, hb, hequal, hsymm, (hreplace hequal (.array [])).1⟩

end Value

end DocQuery
