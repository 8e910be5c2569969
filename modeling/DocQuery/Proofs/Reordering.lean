import DocQuery.Proofs.Collation
import DocQuery.Query.Order
import Mathlib.Data.List.Forall2
import Mathlib.Data.List.Nodup
import Mathlib.Data.Option.Defs

/-!
Trees that are equal up to the order of the keys of their objects.

* `Tree.Reordered` (**equal up to key order**): the same tree with the keys of the objects in it, at
  every depth, in another order;
* `Tree.reordered_self_iff`: such trees are the ones in which no object repeats a key;
* `Tree.Reordered.lookup`: at every path they hold the same up to key order;
* `Value.beq_congr` and `Value.collate_congr`: equality and order of values do not see the order of
  keys;
* `Document.order_congr`: nor does the order of documents.
-/

namespace DocQuery

lemma rel_bind {α β γ δ : Type} {R : α → β → Prop} {S : γ → δ → Prop} {a : Option α} {b : Option β}
    {f : α → Option γ} {g : β → Option δ} (h : Option.Rel R a b)
    (hfg : ∀ x y, R x y → Option.Rel S (f x) (g y)) : Option.Rel S (a.bind f) (b.bind g) := by
  cases h with
  | none => exact .none
  | some hxy => exact hfg _ _ hxy

/-! ### Fields without repeated keys -/

namespace Fields

variable {α β : Type} {fields xs ys : Fields α}

instance (fields : Fields α) : Decidable fields.Distinct :=
  inferInstanceAs (Decidable fields.keys.Nodup)

lemma mem_keys_iff {key : String} : key ∈ fields.keys ↔ ∃ value, fields.get? key = some value := by
  induction fields with
  | nil => simp [keys]
  | cons member rest ih =>
    obtain ⟨k, v⟩ := member
    by_cases h : k = key
    · simp [keys, get?, h]
    · rw [get?, if_neg h, ← ih]
      simp [keys, Ne.symm h]

lemma get?_eq_some_iff (h : fields.Distinct) {key : String} {value : α} :
    fields.get? key = some value ↔ (key, value) ∈ fields := by
  induction fields with
  | nil => simp
  | cons member rest ih =>
    obtain ⟨k, v⟩ := member
    obtain ⟨hnew, hrest⟩ := List.nodup_cons.mp h
    by_cases heq : k = key
    · subst heq
      have habsent : (k, value) ∉ rest := fun hmem => hnew (List.mem_map.mpr ⟨_, hmem, rfl⟩)
      simp [get?, habsent, eq_comm]
    · rw [get?, if_neg heq, ih hrest]
      simp [Ne.symm heq]

lemma get?_map (f : α → β) (fields : Fields α) (key : String) :
    get? (fields.map fun member => (member.1, f member.2)) key = (get? fields key).map f := by
  induction fields with
  | nil => rfl
  | cons member rest ih =>
    obtain ⟨k, v⟩ := member
    by_cases h : k = key
    · simp [get?, h]
    · simpa [get?, h] using ih

lemma keys_map (f : α → β) (fields : Fields α) :
    keys (fields.map fun member => (member.1, f member.2)) = fields.keys := by
  simp [keys]

/-- Two lists of fields with the same keys have related values at every key. -/
lemma rel_get? {R : α → β → Prop} {xs : Fields α} {ys : Fields β} (hkeys : xs.keys.Perm ys.keys)
    (hvalues : ∀ key x y, xs.get? key = some x → ys.get? key = some y → R x y) (key : String) :
    Option.Rel R (xs.get? key) (ys.get? key) := by
  have hmem : (∃ x, xs.get? key = some x) ↔ ∃ y, ys.get? key = some y := by
    rw [← mem_keys_iff, ← mem_keys_iff, hkeys.mem_iff]
  cases hx : xs.get? key with
  | none =>
    cases hy : ys.get? key with
    | none => exact .none
    | some y => simp [hx, hy] at hmem
  | some x =>
    cases hy : ys.get? key with
    | none => simp [hx, hy] at hmem
    | some y => exact .some (hvalues key x y hx hy)

/-- Without repeated keys the order of the members does not matter to the value of a key. -/
lemma get?_eq_of_perm (h : xs.Perm ys) (hxs : xs.Distinct) (key : String) :
    xs.get? key = ys.get? key := by
  have hys : ys.Distinct := (h.map _).nodup_iff.mp hxs
  refine Option.ext fun value => ?_
  rw [get?_eq_some_iff hxs, get?_eq_some_iff hys, h.mem_iff]

lemma perm_of_get?_eq (hxs : xs.Distinct) (hys : ys.Distinct)
    (h : ∀ key, xs.get? key = ys.get? key) : xs.Perm ys := by
  refine (List.perm_ext_iff_of_nodup (List.Nodup.of_map _ hxs) (List.Nodup.of_map _ hys)).mpr ?_
  rintro ⟨key, value⟩
  rw [← get?_eq_some_iff hxs, ← get?_eq_some_iff hys, h]

/-! ### Sorting by key -/

lemma insertSorted_comm {a b : String × α} (h : a.1 ≠ b.1) (fields : Fields α) :
    insertSorted a (insertSorted b fields) = insertSorted b (insertSorted a fields) := by
  induction fields with
  | nil => grind [insertSorted]
  | cons member rest ih => grind [insertSorted]

lemma sortByKey_eq_of_perm (h : xs.Perm ys) (hxs : xs.Distinct) :
    sortByKey xs = sortByKey ys := by
  induction h with
  | nil => rfl
  | cons member _ ih => rw [sortByKey, sortByKey, ih (List.nodup_cons.mp hxs).2]
  | swap a b rest =>
    have hne : b.1 ≠ a.1 := List.ne_of_not_mem_cons (List.nodup_cons.mp hxs).1
    rw [sortByKey, sortByKey, sortByKey, sortByKey, insertSorted_comm hne]
  | trans hxy _ ih ih' => rw [ih hxs, ih' ((hxy.map _).nodup_iff.mp hxs)]

end Fields

/-! ### Equality up to the order of keys -/

namespace Tree

variable {ν μ : Type} {t u : Tree ν}

/-- Two trees are equal up to the order of the keys of their objects, at every depth; no object in
them repeats a key. -/
inductive Reordered : Tree ν → Tree ν → Prop
  | null : Reordered .null .null
  | bool (b : Bool) : Reordered (.bool b) (.bool b)
  | number (n : ν) : Reordered (.number n) (.number n)
  | string (s : String) : Reordered (.string s) (.string s)
  | array {xs ys : List (Tree ν)} (length : xs.length = ys.length)
      (items : ∀ (i : Nat) x y, xs[i]? = some x → ys[i]? = some y → Reordered x y) :
      Reordered (.array xs) (.array ys)
  | object {xs ys : Fields (Tree ν)} (distinct : xs.Distinct) (keys : xs.keys.Perm ys.keys)
      (values : ∀ key x y, xs.get? key = some x → ys.get? key = some y → Reordered x y) :
      Reordered (.object xs) (.object ys)

lemma forall₂_of_getElem? {α β : Type} {R : α → β → Prop} {xs : List α} {ys : List β}
    (hlength : xs.length = ys.length)
    (hitems : ∀ (i : Nat) x y, xs[i]? = some x → ys[i]? = some y → R x y) : List.Forall₂ R xs ys :=
  List.forall₂_iff_get.mpr ⟨hlength, fun i hx hy => hitems i _ _ (by simp) (by simp)⟩

lemma distinctKeysItems_iff {items : List (Tree ν)} :
    DistinctKeysItems items ↔ ∀ item ∈ items, item.DistinctKeys := by
  induction items with
  | nil => simp [DistinctKeysItems]
  | cons item rest ih => rw [DistinctKeysItems, ih, List.forall_mem_cons]

lemma distinctKeysMembers_iff {members : Fields (Tree ν)} :
    DistinctKeysMembers members ↔ ∀ member ∈ members, member.2.DistinctKeys := by
  induction members with
  | nil => simp [DistinctKeysMembers]
  | cons member rest ih => rw [DistinctKeysMembers, ih, List.forall_mem_cons]

namespace Reordered

lemma symm (h : t.Reordered u) : u.Reordered t := by
  induction h with
  | null => exact .null
  | bool b => exact .bool b
  | number n => exact .number n
  | string s => exact .string s
  | array hlength _ ih =>
    exact .array hlength.symm fun i y x hy hx => ih i x y hx hy
  | object hdistinct hkeys _ ih =>
    exact .object (hkeys.nodup_iff.mp hdistinct) hkeys.symm fun key y x hy hx => ih key x y hx hy

lemma kind_eq (h : t.Reordered u) : t.kind = u.kind := by
  cases h <;> rfl

/-- The trees that are equal to another one up to the order of keys are those without repeated
keys. -/
lemma distinctKeys (h : t.Reordered u) : t.DistinctKeys := by
  induction h with
  | array hlength _ ih =>
    refine distinctKeysItems_iff.mpr fun x hx => ?_
    obtain ⟨i, hi, rfl⟩ := List.getElem_of_mem hx
    exact ih i _ _ (List.getElem?_eq_getElem hi) (List.getElem?_eq_getElem (hlength ▸ hi))
  | object hdistinct hkeys _ ih =>
    refine ⟨hdistinct, distinctKeysMembers_iff.mpr fun member hmember => ?_⟩
    have hx := (Fields.get?_eq_some_iff hdistinct).mpr hmember
    obtain ⟨y, hy⟩ := Fields.mem_keys_iff.mp (hkeys.mem_iff.mp (Fields.mem_keys_iff.mpr ⟨_, hx⟩))
    exact ih _ _ y hx hy
  | _ => trivial

end Reordered

/-- The members of an object may be put into another order and then be replaced one by one. -/
lemma Reordered.of_perm {xs middle ys : Fields (Tree ν)} (hxs : xs.Distinct)
    (hperm : xs.Perm middle)
    (hmembers : List.Forall₂ (fun x y => x.1 = y.1 ∧ x.2.Reordered y.2) middle ys) :
    Reordered (.object xs) (.object ys) := by
  have hkeys : middle.keys = ys.keys := by
    clear hperm
    induction hmembers with
    | nil => rfl
    | cons hmember _ ih => simpa [Fields.keys, hmember.1] using ih
  refine .object hxs (hkeys ▸ hperm.map _) fun key x y hx hy => ?_
  rw [Fields.get?_eq_of_perm hperm hxs] at hx
  clear hperm hkeys
  induction hmembers with
  | nil => cases hx
  | @cons member member' rest rest' hmember _ ih =>
    rw [Fields.get?] at hx hy
    by_cases hkey : member.1 = key
    · rw [if_pos hkey, Option.some.injEq] at hx
      rw [if_pos (hmember.1 ▸ hkey), Option.some.injEq] at hy
      exact hx ▸ hy ▸ hmember.2
    · rw [if_neg hkey] at hx
      rw [if_neg (hmember.1 ▸ hkey)] at hy
      exact ih hx hy

lemma reordered_self_iff : t.Reordered t ↔ t.DistinctKeys := by
  refine ⟨Reordered.distinctKeys, fun h => ?_⟩
  induction t using Tree.induction with
  | null => exact .null
  | bool b => exact .bool b
  | number n => exact .number n
  | string s => exact .string s
  | array items ih =>
    refine .array rfl fun i x y hx hy => ?_
    cases hx.symm.trans hy
    have hmem := List.mem_of_getElem? hx
    exact ih x hmem (distinctKeysItems_iff.mp h x hmem)
  | object members ih =>
    refine .object h.1 (.refl _) fun key x y hx hy => ?_
    cases hx.symm.trans hy
    have hmem := (Fields.get?_eq_some_iff h.1).mp hx
    exact ih _ hmem (distinctKeysMembers_iff.mp h.2 _ hmem)

namespace Reordered

lemma mapNumbers (f : ν → μ) (h : t.Reordered u) : (t.mapNumbers f).Reordered (u.mapNumbers f) := by
  induction h with
  | null => exact .null
  | bool b => exact .bool b
  | number n => exact .number (f n)
  | string s => exact .string s
  | @array xs ys hlength _ ih =>
    rw [Tree.mapNumbers, Tree.mapNumbers, bindNumbers, bindNumbers, bindNumbersItems_eq_map,
      bindNumbersItems_eq_map]
    refine .array (by rw [List.length_map, List.length_map, hlength]) fun i x y hx hy => ?_
    rw [List.getElem?_map, Option.map_eq_some_iff] at hx hy
    obtain ⟨x, hx, rfl⟩ := hx
    obtain ⟨y, hy, rfl⟩ := hy
    exact ih i x y hx hy
  | @object xs ys hdistinct hkeys _ ih =>
    rw [Tree.mapNumbers, Tree.mapNumbers, bindNumbers, bindNumbers, bindNumbersMembers_eq_map,
      bindNumbersMembers_eq_map]
    refine .object ?_ ?_ fun key x y hx hy => ?_
    · rwa [Fields.Distinct, Fields.keys_map]
    · rwa [Fields.keys_map, Fields.keys_map]
    · rw [Fields.get?_map, Option.map_eq_some_iff] at hx hy
      obtain ⟨x, hx, rfl⟩ := hx
      obtain ⟨y, hy, rfl⟩ := hy
      exact ih key x y hx hy

lemma child? (h : t.Reordered u) (segment : String) :
    Option.Rel Reordered (t.child? segment) (u.child? segment) := by
  cases h with
  | @array xs ys hlength hitems =>
    rw [Tree.child?, Tree.child?]
    cases index? segment with
    | none => exact .none
    | some i =>
      rw [Option.bind_some, Option.bind_some]
      cases hx : xs[i]? with
      | none =>
        rw [List.getElem?_eq_none (hlength ▸ List.getElem?_eq_none_iff.mp hx)]
        exact .none
      | some x =>
        have hi : i < ys.length := hlength ▸ (List.getElem?_eq_some_iff.mp hx).1
        rw [List.getElem?_eq_getElem hi]
        exact .some (hitems i _ _ hx (List.getElem?_eq_getElem hi))
  | object _ hkeys hvalues => exact Fields.rel_get? hkeys hvalues segment
  | _ => exact .none

/-- At every path two such trees hold the same up to the order of keys. -/
lemma lookup (h : t.Reordered u) (segments : List String) :
    Option.Rel Reordered (t.lookup segments) (u.lookup segments) := by
  induction segments generalizing t u with
  | nil => exact .some h
  | cons segment rest ih =>
    exact rel_bind (h.child? segment) fun _ _ hchild => ih hchild

end Reordered

/-! ### Views -/

variable {a b : Option (Tree ν)}

/-- The items of arrays that are equal up to the order of keys correspond. -/
lemma rel_asArray? (h : Option.Rel Reordered a b) :
    Option.Rel (List.Forall₂ Reordered) (a.bind asArray?) (b.bind asArray?) := by
  refine rel_bind h fun t u htu => ?_
  cases htu with
  | array hlength hitems => exact .some (forall₂_of_getElem? hlength hitems)
  | _ => exact .none

lemma asString?_congr (h : Option.Rel Reordered a b) : a.bind asString? = b.bind asString? := by
  cases h with
  | none => rfl
  | some htu => cases htu <;> rfl

end Tree

/-! ### Equality and order of values -/

namespace Value

open DocQuery.Tree (Reordered)

lemma reordered_ofJson {json json' : Json} (h : json.Reordered json') :
    (ofJson json).Reordered (ofJson json') :=
  h.mapNumbers _

lemma beqItems_congr {xs xs' ys ys' : List Value}
    (hxs : List.Forall₂ (fun x x' => ∀ y y' : Value, y.Reordered y' → beq x y = beq x' y') xs xs')
    (hys : List.Forall₂ Reordered ys ys') : beqItems xs ys = beqItems xs' ys' := by
  induction hxs generalizing ys ys' with
  | nil => cases hys <;> rfl
  | cons hx _ ih =>
    cases hys with
    | nil => rfl
    | cons hy hrest => rw [beqItems, beqItems, hx _ _ hy, ih hrest]

lemma beqMembers_eq_true_iff {xs ys : Fields Value} (hxs : xs.Distinct) :
    beqMembers xs ys = true
      ↔ ∀ key x, xs.get? key = some x → ∃ y, ys.get? key = some y ∧ beq x y = true := by
  have hmem : beqMembers xs ys = true
      ↔ ∀ member ∈ xs, ∃ y, ys.get? member.1 = some y ∧ beq member.2 y = true := by
    clear hxs
    induction xs with
    | nil => simp [beqMembers]
    | cons member rest ih =>
      rw [beqMembers, Bool.and_eq_true, ih, List.forall_mem_cons]
      cases Fields.get? ys member.1 <;> simp
  rw [hmem]
  constructor
  · exact fun h key x hx => h (key, x) ((Fields.get?_eq_some_iff hxs).mp hx)
  · exact fun h member hmember => h _ _ ((Fields.get?_eq_some_iff hxs).mpr hmember)

/-- Equality does not see the order of keys on either side. -/
theorem beq_congr {v v' w w' : Value} (hv : v.Reordered v') (hw : w.Reordered w') :
    beq v w = beq v' w' := by
  induction hv generalizing w w' with
  | array hlength _ ih =>
    cases hw with
    | array hlength' hitems =>
      refine beqItems_congr (Tree.forall₂_of_getElem? hlength fun i x x' hx hx' y y' hy => ?_)
        (Tree.forall₂_of_getElem? hlength' hitems)
      exact ih i x x' hx hx' hy
    | _ => rfl
  | @object xs xs' hdistinct hkeys hvalues ih =>
    cases hw with
    | @object ys ys' _ hkeys' hvalues' =>
      have hlength : xs.length = xs'.length := by simpa [Fields.keys] using hkeys.length_eq
      have hlength' : ys.length = ys'.length := by simpa [Fields.keys] using hkeys'.length_eq
      have hmembers : beqMembers xs ys = beqMembers xs' ys' := by
        rw [Bool.eq_iff_iff, beqMembers_eq_true_iff hdistinct,
          beqMembers_eq_true_iff (hkeys.nodup_iff.mp hdistinct)]
        refine forall_congr' fun key => ?_
        have hrel := Fields.rel_get? hkeys ih key
        have hrel' := Fields.rel_get? hkeys' hvalues' key
        generalize xs.get? key = a, xs'.get? key = a' at hrel
        generalize ys.get? key = b, ys'.get? key = b' at hrel'
        cases hrel with
        | none => simp
        | some hx =>
          cases hrel' with
          | none => simp
          | some hy => simp [hx hy]
      rw [beq, beq, hlength, hlength', hmembers]
    | _ => rfl
  | _ => cases hw <;> rfl

lemma sortedItems_congr {xs ys : List Value}
    (h : List.Forall₂ (fun x y => x.sorted = y.sorted) xs ys) :
    sortedItems xs = sortedItems ys := by
  induction h with
  | nil => rfl
  | cons hx _ ih => rw [sortedItems, sortedItems, hx, ih]

lemma sortedMembers_eq_map (members : Fields Value) :
    sortedMembers members = members.map fun member => (member.1, member.2.sorted) := by
  induction members with
  | nil => rfl
  | cons member rest ih => rw [sortedMembers, ih, List.map_cons]

lemma sorted_eq_of_reordered {v w : Value} (h : v.Reordered w) : v.sorted = w.sorted := by
  induction h with
  | array hlength _ ih =>
    rw [sorted, sorted, sortedItems_congr (Tree.forall₂_of_getElem? hlength ih)]
  | @object xs ys hdistinct hkeys _ ih =>
    have hperm : (sortedMembers xs).Perm (sortedMembers ys) := by
      rw [sortedMembers_eq_map, sortedMembers_eq_map]
      refine Fields.perm_of_get?_eq ?_ ?_ fun key => ?_
      · rwa [Fields.Distinct, Fields.keys_map]
      · rwa [Fields.Distinct, Fields.keys_map, ← hkeys.nodup_iff]
      · rw [Fields.get?_map, Fields.get?_map]
        have hrel := Fields.rel_get? hkeys ih key
        generalize xs.get? key = a, ys.get? key = b at hrel
        cases hrel with
        | none => rfl
        | some hxy => rw [Option.map_some, Option.map_some, hxy]
    rw [sorted, sorted, Fields.sortByKey_eq_of_perm hperm]
    rwa [Fields.Distinct, sortedMembers_eq_map, Fields.keys_map]
  | _ => rfl

/-- The order of values does not see the order of keys on either side. -/
theorem collate_congr {v v' w w' : Value} (hv : v.Reordered v') (hw : w.Reordered w') :
    collate v w = collate v' w' := by
  rw [collate, collate, sorted_eq_of_reordered hv, sorted_eq_of_reordered hw]

end Value

/-! ### Documents -/

namespace Document

/-- Two documents of the same identifier and revision whose bodies are equal up to the order of
keys. -/
structure Reordered (doc doc' : Document) : Prop where
  id : doc.id = doc'.id
  rev : doc.rev = doc'.rev
  body : doc.body.Reordered doc'.body

variable {doc doc' : Document}

lemma Reordered.fieldAt (h : doc.Reordered doc') (path : FieldPath) :
    Option.Rel Tree.Reordered (doc.fieldAt path) (doc'.fieldAt path) := by
  have hstring (s : String) :
      Option.Rel Tree.Reordered (some (.string s : Value)) (some (.string s)) :=
    .some (.string s)
  unfold Document.fieldAt
  rw [← h.id, ← h.rev]
  split
  · split
    · exact hstring _
    · split
      · split
        · exact hstring _
        · exact h.body.lookup _
      · exact h.body.lookup _
  · exact h.body.lookup _

lemma orderFields_congr {a a' : Option Value} (h : Option.Rel Tree.Reordered a a')
    (b : Option Value) :
    Value.orderFields a b = Value.orderFields a' b
      ∧ Value.orderFields b a = Value.orderFields b a' := by
  cases h with
  | none => exact ⟨rfl, rfl⟩
  | some hv =>
    cases b with
    | none => exact ⟨rfl, rfl⟩
    | some w =>
      rw [Value.orderFields, Value.orderFields, Value.orderFields, Value.orderFields, Value.collate,
        Value.collate, Value.collate, Value.collate, Value.sorted_eq_of_reordered hv]
      exact ⟨rfl, rfl⟩

/-- The order of documents does not see the order of keys in a document, on whichever side it
stands. -/
theorem order_congr (h : doc.Reordered doc') (keys : List SortKey) (other : Document) :
    order keys doc other = order keys doc' other
      ∧ order keys other doc = order keys other doc' := by
  induction keys with
  | nil => rw [order, order, order, order, h.id]; exact ⟨rfl, rfl⟩
  | cons key rest ih =>
    obtain ⟨hleft, hright⟩ := orderFields_congr (h.fieldAt key.path) (other.fieldAt key.path)
    rw [order, order, order, order, SortKey.order, SortKey.order, SortKey.order, SortKey.order,
      hleft, hright, ih.1, ih.2]
    exact ⟨rfl, rfl⟩

end Document

end DocQuery
