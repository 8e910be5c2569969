import DocQuery.Proofs.Reordering
import DocQuery.Proofs.WholeNumbers

/-!
Values and selectors without the signs of zeros.  A zero that is written as an integer has lost its
sign, which no test of a field sees.

* `Value.dropZeroSigns` and `Selector.dropZeroSigns`: a value and a selector whose zeros are all
  positive;
* `Value.beq_dropZeroSigns` and `Value.collate_dropZeroSigns`: equality and order do not see the
  signs of zeros;
* `Selector.isMatch_dropZeroSigns` (**main statement**): nor do selectors.
-/

namespace DocQuery

/-! ### A change of numbers -/

namespace Tree

variable {ν μ κ : Type}

lemma mapNumbers_array (f : ν → μ) (items : List (Tree ν)) :
    (array items).mapNumbers f = .array (items.map (mapNumbers f)) :=
  congrArg array (bindNumbersItems_eq_map _ items)

lemma mapNumbers_object (f : ν → μ) (members : Fields (Tree ν)) :
    (object members).mapNumbers f
      = .object (members.map fun member => (member.1, member.2.mapNumbers f)) :=
  congrArg object (bindNumbersMembers_eq_map _ members)

lemma mapNumbers_mapNumbers (g : μ → κ) (f : ν → μ) (t : Tree ν) :
    (t.mapNumbers f).mapNumbers g = t.mapNumbers (g ∘ f) := by
  induction t using Tree.induction with
  | array items ih =>
    simp only [mapNumbers_array, List.map_map]
    exact congrArg array (List.map_congr_left ih)
  | object members ih =>
    simp only [mapNumbers_object, List.map_map]
    exact congrArg object (List.map_congr_left fun member hmember =>
      congrArg (Prod.mk member.1) (ih member hmember))
  | _ => rfl

end Tree

namespace Fields

variable {α β : Type}

lemma sortByKey_map (f : α → β) (fields : Fields α) :
    sortByKey (fields.map fun member => (member.1, f member.2))
      = (sortByKey fields).map fun member => (member.1, f member.2) := by
  have hinsert (member : String × α) (fields : Fields α) :
      insertSorted (member.1, f member.2) (fields.map fun member => (member.1, f member.2))
        = (insertSorted member fields).map fun member => (member.1, f member.2) := by
    induction fields with
    | nil => rfl
    | cons other rest ih =>
      rw [List.map_cons, insertSorted, insertSorted, ih]
      split <;> rfl
  induction fields with
  | nil => rfl
  | cons member rest ih => rw [List.map_cons, sortByKey, sortByKey, ih, hinsert]

end Fields

/-! ### Values -/

namespace Value

/-- A value whose zeros are all positive. -/
def dropZeroSigns (value : Value) : Value := value.mapNumbers Binary64.dropZeroSign

@[simp]
lemma kind_dropZeroSigns (value : Value) : value.dropZeroSigns.kind = value.kind :=
  Tree.kind_mapNumbers _ value

lemma dropZeroSigns_array (items : List Value) :
    dropZeroSigns (.array items) = .array (items.map dropZeroSigns) :=
  Tree.mapNumbers_array _ items

lemma dropZeroSigns_object (members : Fields Value) :
    dropZeroSigns (.object members)
      = .object (members.map fun member => (member.1, member.2.dropZeroSigns)) :=
  Tree.mapNumbers_object _ members

lemma beqItems_map {xs ys : List Value}
    (h : ∀ x ∈ xs, ∀ y, beq x (dropZeroSigns y) = beq x y) :
    beqItems xs (ys.map dropZeroSigns) = beqItems xs ys := by
  induction xs generalizing ys with
  | nil => cases ys <;> rfl
  | cons x xs ih =>
    rw [List.forall_mem_cons] at h
    cases ys with
    | nil => rfl
    | cons y ys => rw [List.map_cons, beqItems, beqItems, h.1, ih h.2]

lemma beqMembers_map {xs ys : Fields Value}
    (h : ∀ x ∈ xs, ∀ y, beq x.2 (dropZeroSigns y) = beq x.2 y) :
    beqMembers xs (ys.map fun member => (member.1, member.2.dropZeroSigns)) = beqMembers xs ys := by
  induction xs with
  | nil => rfl
  | cons x xs ih =>
    rw [List.forall_mem_cons] at h
    rw [beqMembers, beqMembers, Fields.get?_map, ih h.2]
    cases Fields.get? ys x.1 with
    | none => rfl
    | some y => simp only [Option.map_some, h.1]

/-- Equality does not see the signs of zeros. -/
theorem beq_dropZeroSigns (v w : Value) : (v == w.dropZeroSigns) = (v == w) := by
  change beq v w.dropZeroSigns = beq v w
  induction v using Tree.induction generalizing w with
  | number x =>
    cases w with
    | number y =>
      change (!x.isNaN && x.key == y.dropZeroSign.key) = (!x.isNaN && x.key == y.key)
      rw [Binary64.key_dropZeroSign]
    | _ => rfl
  | array xs ih =>
    cases w with
    | array ys =>
      rw [dropZeroSigns_array, beq, beq]
      exact beqItems_map ih
    | _ => rfl
  | object xs ih =>
    cases w with
    | object ys =>
      rw [dropZeroSigns_object, beq, beq, List.length_map]
      exact congrArg (_ && ·) (beqMembers_map ih)
    | _ => rfl
  | _ => cases w <;> rfl

lemma sortedItems_eq_map (items : List Value) : sortedItems items = items.map sorted := by
  induction items with
  | nil => rfl
  | cons item rest ih => rw [sortedItems, ih, List.map_cons]

/-- Sorting by key leaves numbers as they are. -/
lemma sorted_dropZeroSigns (v : Value) : v.dropZeroSigns.sorted = v.sorted.dropZeroSigns := by
  induction v using Tree.induction with
  | array items ih =>
    rw [dropZeroSigns_array, sorted, sorted, dropZeroSigns_array, sortedItems_eq_map,
      sortedItems_eq_map, List.map_map, List.map_map]
    exact congrArg Tree.array (List.map_congr_left ih)
  | object members ih =>
    have hmembers : sortedMembers (members.map fun member => (member.1, dropZeroSigns member.2))
        = (sortedMembers members).map fun member => (member.1, dropZeroSigns member.2) := by
      rw [sortedMembers_eq_map, sortedMembers_eq_map, List.map_map, List.map_map]
      exact List.map_congr_left fun member hmember =>
        congrArg (Prod.mk member.1) (ih member hmember)
    rw [dropZeroSigns_object, sorted, sorted, dropZeroSigns_object, hmembers, Fields.sortByKey_map]
  | _ => rfl

lemma itemMarks_map {items : List Value}
    (h : ∀ item ∈ items, marks (dropZeroSigns item) = marks item) :
    itemMarks (items.map dropZeroSigns) = itemMarks items := by
  induction items with
  | nil => rfl
  | cons item rest ih =>
    rw [List.forall_mem_cons] at h
    rw [List.map_cons, itemMarks, itemMarks, h.1, ih h.2]

lemma memberMarks_map {members : Fields Value}
    (h : ∀ member ∈ members, marks (dropZeroSigns member.2) = marks member.2) :
    memberMarks (members.map fun member => (member.1, member.2.dropZeroSigns))
      = memberMarks members := by
  induction members with
  | nil => rfl
  | cons member rest ih =>
    rw [List.forall_mem_cons] at h
    rw [List.map_cons, memberMarks, memberMarks, h.1, ih h.2]

lemma marks_dropZeroSigns (v : Value) : marks v.dropZeroSigns = marks v := by
  induction v using Tree.induction with
  | number x =>
    change [Mark.mk 2 x.dropZeroSign.key ""] = [Mark.mk 2 x.key ""]
    rw [Binary64.key_dropZeroSign]
  | array items ih => rw [dropZeroSigns_array, marks, marks, itemMarks_map ih]
  | object members ih => rw [dropZeroSigns_object, marks, marks, memberMarks_map ih]
  | _ => rfl

/-- The order of values does not see the signs of zeros. -/
theorem collate_dropZeroSigns (v w : Value) : collate v w.dropZeroSigns = collate v w := by
  rw [collate, collate, sorted_dropZeroSigns, compareSorted_eq_orderMarks,
    compareSorted_eq_orderMarks, marks_dropZeroSigns]

end Value

/-! ### Tests of fields -/

namespace FieldTest

/-- A test whose zeros are all positive. -/
def dropZeroSigns : FieldTest → FieldTest
  | .compare comparison operand => .compare comparison operand.dropZeroSigns
  | .isIn values => .isIn (values.map Value.dropZeroSigns)
  | .notIn values => .notIn (values.map Value.dropZeroSigns)
  | .containsAll values => .containsAll (values.map Value.dropZeroSigns)
  | test => test

variable {field : Option Value}

lemma equals_dropZeroSigns (operand : Value) :
    equals field operand.dropZeroSigns = equals field operand := by
  cases field with
  | none => rw [equals, equals, Value.kind_dropZeroSigns]
  | some v => exact Value.beq_dropZeroSigns v operand

lemma compares_dropZeroSigns (operand : Value) (wanted : Ordering → Bool) :
    compares field operand.dropZeroSigns wanted = compares field operand wanted := by
  simp only [compares, Value.compareSameKind?, Value.kind_dropZeroSigns,
    Value.collate_dropZeroSigns]

lemma any_equals_map (values : List Value) :
    (values.map Value.dropZeroSigns).any (equals field) = values.any (equals field) := by
  simp only [List.any_map, Function.comp_def, equals_dropZeroSigns]

lemma comparesAs_dropZeroSigns (operand : Value) (comparison : Comparison) :
    comparesAs field operand.dropZeroSigns comparison = comparesAs field operand comparison := by
  cases comparison with
  | eq => exact equals_dropZeroSigns operand
  | ne => exact congrArg (!·) (equals_dropZeroSigns operand)
  | _ => exact compares_dropZeroSigns operand _

lemma holds_dropZeroSigns (test : FieldTest) :
    test.dropZeroSigns.holds field = test.holds field := by
  cases test with
  | compare comparison operand => exact comparesAs_dropZeroSigns operand comparison
  | isIn values => exact any_equals_map values
  | notIn values => exact congrArg (!·) (any_equals_map values)
  | containsAll values =>
    simp only [dropZeroSigns, holds, List.isEmpty_map, List.all_map, Function.comp_def,
      Value.beq_dropZeroSigns]
  | _ => rfl

end FieldTest

/-! ### Selectors -/

namespace Selector

mutual

/-- A selector whose zeros are all positive. -/
def dropZeroSigns : Selector → Selector
  | .always => .always
  | .and children => .and (dropZeroSignsAll children)
  | .or children => .or (dropZeroSignsAll children)
  | .nor children => .nor (dropZeroSignsAll children)
  | .not child => .not child.dropZeroSigns
  | .field path test => .field path test.dropZeroSigns
  | .elemMatch path child => .elemMatch path child.dropZeroSigns

/-- Selectors whose zeros are all positive. -/
def dropZeroSignsAll : List Selector → List Selector
  | [] => []
  | s :: rest => s.dropZeroSigns :: dropZeroSignsAll rest

end

lemma dropZeroSignsAll_eq_map (children : List Selector) :
    dropZeroSignsAll children = children.map dropZeroSigns := by
  induction children with
  | nil => rfl
  | cons child rest ih => rw [dropZeroSignsAll, ih, List.map_cons]

mutual

/-- A selector holds whatever the signs of its zeros are. -/
theorem holds_dropZeroSigns (selector : Selector) (read : FieldPath → Option Value) :
    selector.dropZeroSigns.holds read = selector.holds read := by
  match selector with
  | .always => rfl
  | .and children => rw [dropZeroSigns, holds, holds, allHold_dropZeroSignsAll children]
  | .or children => rw [dropZeroSigns, holds, holds, anyHolds_dropZeroSignsAll children]
  | .nor children => rw [dropZeroSigns, holds, holds, anyHolds_dropZeroSignsAll children]
  | .not child => rw [dropZeroSigns, holds, holds, holds_dropZeroSigns child]
  | .field path test => rw [dropZeroSigns, holds, holds, FieldTest.holds_dropZeroSigns]
  | .elemMatch path child =>
    rw [dropZeroSigns, holds, holds]
    simp only [holds_dropZeroSigns child]

theorem allHold_dropZeroSignsAll (children : List Selector) (read : FieldPath → Option Value) :
    allHold (dropZeroSignsAll children) read = allHold children read := by
  match children with
  | [] => rfl
  | child :: rest =>
    rw [dropZeroSignsAll, allHold, allHold, holds_dropZeroSigns child,
      allHold_dropZeroSignsAll rest]

theorem anyHolds_dropZeroSignsAll (children : List Selector) (read : FieldPath → Option Value) :
    anyHolds (dropZeroSignsAll children) read = anyHolds children read := by
  match children with
  | [] => rfl
  | child :: rest =>
    rw [dropZeroSignsAll, anyHolds, anyHolds, holds_dropZeroSigns child,
      anyHolds_dropZeroSignsAll rest]

end

/-- **Matching does not see the signs of the zeros in a selector.** -/
theorem isMatch_dropZeroSigns (selector : Selector) (doc : Document) :
    selector.dropZeroSigns.isMatch doc = selector.isMatch doc :=
  holds_dropZeroSigns selector doc.fieldAt

end Selector

end DocQuery
