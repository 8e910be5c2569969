import DocQuery.Proofs.ReorderedSelectors
import DocQuery.Proofs.WholeNumbers

/-!
The grammar of selectors, and that exactly its selectors are read as long as they keep the limits.

* `TestOperator.Takes`: the operands that an operator takes;
* `Json.IsSelector`, with `Json.IsEntry`, `Json.IsFieldOperator`, `Json.IsCondition` and
  `Json.IsConditionEntry` (**the grammar**): selectors, conditions and their entries;
* `Json.SelectorFits` and its companions: the limits on nesting, paths and sets;
* `Selector.Accepted`: a tree is read, as a selector or as a condition, exactly when it is one and
  keeps the limits;
* `Selector.exists_ofJsonWith_eq_ok_iff` (**main statement**).
-/

namespace DocQuery

/-! ### Operands -/

namespace TestOperator

/-- The operands that an operator takes. -/
def Takes : TestOperator → Json → Prop
  | .compare _, _ => True
  | .isIn, operand | .notIn, operand | .containsAll, operand => ∃ items, operand = .array items
  | .presence, operand => ∃ expected, operand = .bool expected
  | .kind, operand => ∃ kind : Kind, operand = .string kind.name
  | .size, operand => ∃ (number : JsonNumber) (n : Nat),
      operand = .number number ∧ number.Denotes n ∧ n ≤ JsonNumber.maxCount
  | .modulo, operand => ∃ (first second : JsonNumber) (divisor remainder : Int),
      operand = .array [.number first, .number second]
        ∧ (first.Denotes divisor ∧ first.InRange divisor)
        ∧ (second.Denotes remainder ∧ second.InRange remainder) ∧ divisor ≠ 0
  | .like, operand => ∃ pattern, operand = .string pattern
  | .regex, operand => ∃ source pattern, operand = .string source
      ∧ Regex.ofText source = .ok pattern

/-- The limit on what an operator lists. -/
def OperandFits (config : QueryConfig) : TestOperator → Json → Prop
  | .isIn, operand | .notIn, operand | .containsAll, operand =>
    ∀ items, operand = .array items → items.length ≤ config.maxInSet
  | _, _ => True

end TestOperator

/-! ### The grammar -/

namespace Key

lemma ofText_connectiveName (connective : Connective) :
    ofText connective.name = .connective connective := by
  cases connective <;> rfl

lemma ofText_testName (operator : TestOperator) : ofText operator.name = .test operator := by
  rcases operator with ⟨_ | _ | _ | _ | _ | _⟩ | _ | _ | _ | _ | _ | _ | _ | _ | _ <;> rfl

end Key

namespace Json

mutual

/-- A selector is an object of entries.  With `inItem` set it stands within `$elemMatch`. -/
inductive IsSelector : Bool → Json → Prop
  | object {inItem : Bool} {entries : Fields Json}
      (valid : ∀ entry ∈ entries, IsEntry inItem entry.1 entry.2) :
      IsSelector inItem (.object entries)

/-- An entry of a selector combines selectors, or it gives a field a condition, or within
`$elemMatch` it tests the array item itself. -/
inductive IsEntry : Bool → String → Json → Prop
  | connective {inItem : Bool} (connective : Connective) {parts : List Json}
      (nonempty : parts ≠ []) (valid : ∀ part ∈ parts, IsSelector inItem part) :
      IsEntry inItem connective.name (.array parts)
  | not {inItem : Bool} {operand : Json} (valid : IsSelector inItem operand) :
      IsEntry inItem "$not" operand
  | field {inItem : Bool} {key : String} {path : FieldPath} {operand : Json}
      (name : ¬ IsOperator key) (segments : FieldPath.ofText? key = some path)
      (valid : IsCondition operand) : IsEntry inItem key operand
  | item {key : String} {operand : Json} (valid : IsFieldOperator key operand) :
      IsEntry true key operand

/-- The operators on a field, negation apart. -/
inductive IsFieldOperator : String → Json → Prop
  | test (operator : TestOperator) {operand : Json} (valid : operator.Takes operand) :
      IsFieldOperator operator.name operand
  | elemMatch {operand : Json} (valid : IsSelector true operand) :
      IsFieldOperator "$elemMatch" operand

/-- A condition is a literal or an object of entries, be it empty. -/
inductive IsCondition : Json → Prop
  | literal {json : Json} (kind : json.kind ≠ .object) : IsCondition json
  | object {entries : Fields Json} (valid : ∀ entry ∈ entries, IsConditionEntry entry.1 entry.2) :
      IsCondition (.object entries)

/-- An entry of a condition is an operator on the field, or it leads further into the field. -/
inductive IsConditionEntry : String → Json → Prop
  | operator {key : String} {operand : Json} (valid : IsFieldOperator key operand) :
      IsConditionEntry key operand
  | not {operand : Json} (valid : IsCondition operand) : IsConditionEntry "$not" operand
  | field {key : String} {path : FieldPath} {operand : Json} (name : ¬ IsOperator key)
      (segments : FieldPath.ofText? key = some path) (valid : IsCondition operand) :
      IsConditionEntry key operand

end

/-! ### The limits -/

mutual

/-- A selector with `depth` operators around it keeps the limits on nesting, paths and sets. -/
def SelectorFits (config : QueryConfig) (depth : Nat) (selector : Json) : Prop :=
  depth ≤ config.maxSelectorDepth ∧
    match selector with
    | .object entries => ∀ entry (_ : entry ∈ entries), EntryFits config depth entry.1 entry.2
    | _ => True
termination_by (sizeOf selector, 0)
decreasing_by exact .left _ _ (Tree.sizeOf_member_lt ‹_›)

/-- An entry of a selector keeps the limits. -/
def EntryFits (config : QueryConfig) (depth : Nat) (key : String) (operand : Json) : Prop :=
  match Key.ofText key with
  | .connective _ =>
    match operand with
    | .array parts => ∀ part (_ : part ∈ parts), SelectorFits config (depth + 1) part
    | _ => True
  | .not => SelectorFits config (depth + 1) operand
  | _ => ConditionEntryFits config depth 0 key operand
termination_by (sizeOf operand, 2)
decreasing_by
  · exact .left _ _ (Tree.sizeOf_item_lt ‹_›)
  all_goals exact .right _ (by decide)

/-- A condition on a field whose path has `length` segments keeps the limits. -/
def ConditionFits (config : QueryConfig) (depth length : Nat) (condition : Json) : Prop :=
  match condition with
  | .object entries =>
    ∀ entry (_ : entry ∈ entries), ConditionEntryFits config depth length entry.1 entry.2
  | _ => True
termination_by (sizeOf condition, 0)
decreasing_by exact .left _ _ (Tree.sizeOf_member_lt ‹_›)

/-- An entry of a condition keeps the limits; the segments of its key come on top of those of the
path so far. -/
def ConditionEntryFits (config : QueryConfig) (depth length : Nat) (key : String) (operand : Json) :
    Prop :=
  match Key.ofText key with
  | .not => depth + 1 ≤ config.maxSelectorDepth ∧ ConditionFits config (depth + 1) length operand
  | .elemMatch => SelectorFits config (depth + 1) operand
  | .test operator => operator.OperandFits config operand
  | .field => ∀ path, FieldPath.ofText? key = some path →
      length + path.depth ≤ config.maxPathDepth
        ∧ ConditionFits config depth (length + path.depth) operand
  | .connective _ => True
  | .unknown => True
termination_by (sizeOf operand, 1)
decreasing_by all_goals exact .right _ (by decide)

end

/-! ### Entries by their keys -/

lemma IsFieldOperator.ofText {key : String} {operand : Json} (h : IsFieldOperator key operand) :
    Key.ofText key = .elemMatch ∧ IsSelector true operand
      ∨ ∃ operator, Key.ofText key = .test operator ∧ operator.Takes operand := by
  cases h with
  | test operator valid => exact .inr ⟨operator, Key.ofText_testName operator, valid⟩
  | elemMatch valid => exact .inl ⟨rfl, valid⟩

/-- The key of an entry says what its operand has to be. -/
lemma isEntry_iff {inItem : Bool} {key : String} {operand : Json} :
    IsEntry inItem key operand ↔
      match Key.ofText key with
      | .connective _ => ∃ parts, operand = .array parts ∧ parts ≠ []
          ∧ ∀ part ∈ parts, IsSelector inItem part
      | .not => IsSelector inItem operand
      | .elemMatch => inItem = true ∧ IsSelector true operand
      | .test operator => inItem = true ∧ operator.Takes operand
      | .unknown => False
      | .field => (∃ path, FieldPath.ofText? key = some path) ∧ IsCondition operand := by
  constructor
  · intro h
    cases h with
    | connective connective nonempty valid =>
      rw [Key.ofText_connectiveName]
      exact ⟨_, rfl, nonempty, valid⟩
    | not valid => exact valid
    | field name segments valid =>
      rw [Key.ofText_eq_field_iff.mpr name]
      exact ⟨⟨_, segments⟩, valid⟩
    | item valid =>
      obtain ⟨hkey, hvalid⟩ | ⟨operator, hkey, hvalid⟩ := valid.ofText
      · rw [hkey]
        exact ⟨rfl, hvalid⟩
      · rw [hkey]
        exact ⟨rfl, hvalid⟩
  · intro h
    cases hkey : Key.ofText key with
    | connective connective =>
      rw [hkey] at h
      obtain ⟨parts, rfl, nonempty, valid⟩ := h
      rw [Key.eq_of_name?_ofText hkey rfl]
      exact .connective connective nonempty valid
    | not =>
      rw [hkey] at h
      rw [Key.eq_of_name?_ofText hkey rfl]
      exact .not h
    | elemMatch =>
      rw [hkey] at h
      obtain ⟨rfl, valid⟩ := h
      rw [Key.eq_of_name?_ofText hkey rfl]
      exact .item (.elemMatch valid)
    | test operator =>
      rw [hkey] at h
      obtain ⟨rfl, valid⟩ := h
      rw [Key.eq_of_name?_ofText hkey rfl]
      exact .item (.test operator valid)
    | unknown =>
      rw [hkey] at h
      exact h.elim
    | field =>
      rw [hkey] at h
      obtain ⟨⟨path, segments⟩, valid⟩ := h
      exact .field (Key.ofText_eq_field_iff.mp hkey) segments valid

/-- The key of an entry of a condition says what its operand has to be. -/
lemma isConditionEntry_iff {key : String} {operand : Json} :
    IsConditionEntry key operand ↔
      match Key.ofText key with
      | .connective _ => False
      | .not => IsCondition operand
      | .elemMatch => IsSelector true operand
      | .test operator => operator.Takes operand
      | .unknown => False
      | .field => (∃ path, FieldPath.ofText? key = some path) ∧ IsCondition operand := by
  constructor
  · intro h
    cases h with
    | operator valid =>
      obtain ⟨hkey, hvalid⟩ | ⟨operator, hkey, hvalid⟩ := valid.ofText
      · rw [hkey]
        exact hvalid
      · rw [hkey]
        exact hvalid
    | not valid => exact valid
    | field name segments valid =>
      rw [Key.ofText_eq_field_iff.mpr name]
      exact ⟨⟨_, segments⟩, valid⟩
  · intro h
    cases hkey : Key.ofText key with
    | not =>
      rw [hkey] at h
      rw [Key.eq_of_name?_ofText hkey rfl]
      exact .not h
    | elemMatch =>
      rw [hkey] at h
      rw [Key.eq_of_name?_ofText hkey rfl]
      exact .operator (.elemMatch h)
    | test operator =>
      rw [hkey] at h
      rw [Key.eq_of_name?_ofText hkey rfl]
      exact .operator (.test operator h)
    | field =>
      rw [hkey] at h
      obtain ⟨⟨path, segments⟩, valid⟩ := h
      exact .field (Key.ofText_eq_field_iff.mp hkey) segments valid
    | _ =>
      rw [hkey] at h
      exact h.elim

lemma not_isSelector_of_kind_ne {inItem : Bool} {json : Json} (hkind : json.kind ≠ .object) :
    ¬ IsSelector inItem json := by
  rintro ⟨hvalid⟩
  exact hkind rfl

lemma isSelector_object_iff {inItem : Bool} {entries : Fields Json} :
    IsSelector inItem (.object entries) ↔ ∀ entry ∈ entries, IsEntry inItem entry.1 entry.2 :=
  ⟨fun h => by cases h; assumption, .object⟩

lemma isCondition_object_iff {entries : Fields Json} :
    IsCondition (.object entries) ↔ ∀ entry ∈ entries, IsConditionEntry entry.1 entry.2 := by
  refine ⟨fun h => ?_, .object⟩
  cases h with
  | literal kind => exact absurd rfl kind
  | object valid => exact valid

end Json

/-! ### Readings -/

section Readings

variable {config : QueryConfig} {place : Location} {depth : Nat} {operand : Json}

lemma exists_bind_eq_ok_iff {ε α β : Type} {x : Except ε α} {f : α → Except ε β} :
    (∃ b, x >>= f = .ok b) ↔ ∃ a, x = .ok a ∧ ∃ b, f a = .ok b := by
  simp only [bind_eq_ok_iff]
  exact ⟨fun ⟨b, a, ha, hb⟩ => ⟨a, ha, b, hb⟩, fun ⟨a, ha, b, hb⟩ => ⟨b, a, ha, hb⟩⟩

lemma exists_map_eq_ok_iff {ε α β : Type} {x : Except ε α} {f : α → β} :
    (∃ b, x.map f = .ok b) ↔ ∃ a, x = .ok a := by
  simp [map_eq_ok_iff]

namespace FieldTest

lemma exists_valueSet_eq_ok_iff :
    (∃ values, valueSet config operand place = .ok values)
      ↔ (∃ items, operand = .array items)
        ∧ ∀ items, operand = .array items → items.length ≤ config.maxInSet := by
  cases operand with
  | array items =>
    simp only [valueSet, Tree.array.injEq, exists_eq', true_and, forall_eq']
    split_ifs with hlength
    · simpa using hlength
    · simpa using hlength
  | _ => simp [valueSet]

lemma takes_modulo_iff : TestOperator.modulo.Takes operand
    ↔ ∃ divisor remainder, divisorAndRemainder? operand = some (divisor, remainder)
      ∧ divisor ≠ 0 := by
  simp only [divisorAndRemainder?_eq_some_iff, JsonNumber.integer?_eq_some_iff]
  constructor
  · rintro ⟨first, second, divisor, remainder, rfl, hfirst, hsecond, hdivisor⟩
    exact ⟨divisor, remainder, ⟨first, second, rfl, hfirst, hsecond⟩, hdivisor⟩
  · rintro ⟨divisor, remainder, ⟨first, second, rfl, hfirst, hsecond⟩, hdivisor⟩
    exact ⟨first, second, divisor, remainder, rfl, hfirst, hsecond, hdivisor⟩

/-- A test is read exactly from the operands that its operator takes, within the limit. -/
lemma exists_ofOperand_eq_ok_iff (operator : TestOperator) :
    (∃ test, ofOperand config operator operand place = .ok test)
      ↔ operator.Takes operand ∧ operator.OperandFits config operand := by
  cases operator with
  | compare comparison => simp [ofOperand, TestOperator.Takes, TestOperator.OperandFits]
  | isIn => exact exists_map_eq_ok_iff.trans exists_valueSet_eq_ok_iff
  | notIn => exact exists_map_eq_ok_iff.trans exists_valueSet_eq_ok_iff
  | containsAll => exact exists_map_eq_ok_iff.trans exists_valueSet_eq_ok_iff
  | presence =>
    cases operand <;> simp [ofOperand, TestOperator.Takes, TestOperator.OperandFits]
  | kind =>
    cases operand with
    | string name =>
      simp only [ofOperand, Tree.asString?, Option.bind_some, TestOperator.Takes,
        TestOperator.OperandFits, Tree.string.injEq, ← Kind.ofName?_eq_some_iff, and_true]
      cases Kind.ofName? name <;> simp
    | _ => simp [ofOperand, TestOperator.Takes, Tree.asString?]
  | size =>
    cases operand with
    | number number =>
      simp only [ofOperand, Tree.asNumber?, Option.bind_some, TestOperator.Takes,
        TestOperator.OperandFits, Tree.number.injEq, exists_and_left, exists_eq_left', and_true,
        ← JsonNumber.count?_eq_some_iff]
      cases number.count? <;> simp
    | _ => simp [ofOperand, TestOperator.Takes, Tree.asNumber?]
  | modulo =>
    rw [takes_modulo_iff]
    simp only [ofOperand, TestOperator.OperandFits, and_true]
    cases divisorAndRemainder? operand with
    | none => simp
    | some pair =>
      obtain ⟨divisor, remainder⟩ := pair
      by_cases hdivisor : divisor = 0
      · simp [hdivisor]
      · simp [hdivisor]
  | like =>
    cases operand <;> simp [ofOperand, TestOperator.Takes, TestOperator.OperandFits]
  | regex =>
    cases operand with
    | string source =>
      simp only [ofOperand, TestOperator.Takes, TestOperator.OperandFits, Tree.string.injEq,
        exists_and_left, exists_eq_left', and_true]
      cases Regex.ofText source <;> simp
    | _ => simp [ofOperand, TestOperator.Takes]

end FieldTest

@[simp]
lemma FieldPath.depth_child (path child : FieldPath) :
    (path.child child).depth = path.depth + child.depth :=
  List.length_append

@[simp]
lemma FieldPath.depth_root : root.depth = 0 := rfl

@[simp]
lemma FieldPath.root_child (path : FieldPath) : root.child path = path := rfl

lemma FieldPath.ofKey_eq_ok_iff {key : String} {path : FieldPath} :
    ofKey config key place = .ok path
      ↔ ofText? key = some path ∧ path.depth ≤ config.maxPathDepth := by
  rw [ofKey]
  cases ofText? key with
  | none => simp
  | some other =>
    dsimp only
    split_ifs with hdepth
    · simp only [Option.some.injEq, false_iff, not_and]
      rintro rfl
      omega
    · simp only [Except.ok.injEq, Option.some.injEq, iff_self_and]
      rintro rfl
      omega

namespace Selector

variable {inItem : Bool} {path : FieldPath} {key : String} {json : Json}

lemma exists_checkDepth_eq_ok_iff :
    (∃ u, checkDepth config depth place = .ok u) ↔ depth ≤ config.maxSelectorDepth := by
  rw [checkDepth]
  split_ifs with hdepth
  · simpa using hdepth
  · simpa using hdepth

/-- A tree is read exactly when it belongs to the grammar and keeps the limits: as a selector, as an
array of selectors and as a condition. -/
structure Accepted (json : Json) : Prop where
  selector : ∀ config inItem place depth, (∃ s, ofTree config inItem place depth json = .ok s)
    ↔ Json.IsSelector inItem json ∧ Json.SelectorFits config depth json
  parts : ∀ {items}, json = .array items → ∀ item ∈ items, ∀ config inItem place depth,
    (∃ s, ofTree config inItem place depth item = .ok s)
      ↔ Json.IsSelector inItem item ∧ Json.SelectorFits config depth item
  condition : ∀ config path place depth, (∃ s, ofCondition config path place depth json = .ok s)
    ↔ Json.IsCondition json ∧ Json.ConditionFits config depth path.depth json

/-- An array of selectors is read when each of its items is. -/
lemma exists_ofItems_eq_ok_iff {items : List Json} {valid : Json → Prop}
    (h : ∀ item ∈ items, ∀ place,
      (∃ s, ofTree config inItem place depth item = .ok s) ↔ valid item) (i : Nat) :
    (∃ parts, ofItems config inItem place depth i items = .ok parts)
      ↔ ∀ item ∈ items, valid item := by
  induction items generalizing i with
  | nil => simp [ofItems]
  | cons item rest ih =>
    rw [List.forall_mem_cons] at h
    rw [ofItems, exists_bind_eq_ok_iff, List.forall_mem_cons, ← h.1 (place.index i),
      ← ih h.2 (i + 1)]
    simp only [exists_bind_eq_ok_iff]
    constructor
    · rintro ⟨part, hpart, parts, hparts, _⟩
      exact ⟨⟨part, hpart⟩, parts, hparts⟩
    · rintro ⟨⟨part, hpart⟩, parts, hparts⟩
      exact ⟨part, hpart, parts, hparts, _, rfl⟩

/-- An entry of a condition is read when the grammar and the limits allow it. -/
theorem exists_ofConditionEntry_eq_ok_iff (h : Accepted operand) :
    (∃ s, ofConditionEntry config path place depth key operand = .ok s)
      ↔ Json.IsConditionEntry key operand
        ∧ Json.ConditionEntryFits config depth path.depth key operand := by
  rw [Json.isConditionEntry_iff, Json.ConditionEntryFits.eq_def, ofConditionEntry]
  cases Key.ofText key with
  | connective connective => simp
  | not =>
    have hchild := h.condition config path place (depth + 1)
    simp only [exists_bind_eq_ok_iff, exists_and_right, exists_checkDepth_eq_ok_iff, pure,
      Except.pure, Except.ok.injEq, exists_eq', and_true, hchild]
    rw [and_left_comm]
  | elemMatch => exact exists_map_eq_ok_iff.trans (h.selector ..)
  | test operator =>
    exact exists_map_eq_ok_iff.trans (FieldTest.exists_ofOperand_eq_ok_iff operator)
  | unknown => simp
  | field =>
    simp only [exists_bind_eq_ok_iff, FieldPath.ofKey_eq_ok_iff]
    constructor
    · rintro ⟨child, ⟨hchild, hdepth⟩, hrest⟩
      split_ifs at hrest with hnested
      · obtain ⟨s, hs⟩ := hrest
        cases hs
      · rw [h.condition, FieldPath.depth_child] at hrest
        rw [FieldPath.depth_child, Nat.not_lt] at hnested
        refine ⟨⟨⟨child, hchild⟩, hrest.1⟩, fun other hother => ?_⟩
        cases hchild.symm.trans hother
        exact ⟨hnested, hrest.2⟩
    · rintro ⟨⟨⟨child, hchild⟩, hvalid⟩, hfits⟩
      obtain ⟨hdepth, hfits⟩ := hfits child hchild
      refine ⟨child, ⟨hchild, by omega⟩, ?_⟩
      rw [if_neg (by rw [FieldPath.depth_child]; omega), h.condition, FieldPath.depth_child]
      exact ⟨hvalid, hfits⟩

/-- A field is read like a field of the whole subject. -/
lemma ofEntry_of_field (hkey : Key.ofText key = .field) :
    ofEntry config inItem place depth key operand
      = ofConditionEntry config .root place depth key operand := by
  simp only [ofEntry, ofConditionEntry, hkey, FieldPath.root_child]
  cases hpath : FieldPath.ofKey config key place with
  | error e => rfl
  | ok path =>
    have hdepth := (FieldPath.ofKey_eq_ok_iff.mp hpath).2
    rw [← Nat.not_lt] at hdepth
    exact (if_neg hdepth).symm

/-- An entry of a selector is read when the grammar and the limits allow it. -/
theorem exists_ofEntry_eq_ok_iff (h : Accepted operand) :
    (∃ s, ofEntry config inItem place depth key operand = .ok s)
      ↔ Json.IsEntry inItem key operand ∧ Json.EntryFits config depth key operand := by
  have hcondition : (∃ s, ofConditionEntry config .root place depth key operand = .ok s)
      ↔ Json.IsConditionEntry key operand ∧ Json.ConditionEntryFits config depth 0 key operand :=
    exists_ofConditionEntry_eq_ok_iff h
  rw [Json.isConditionEntry_iff] at hcondition
  rw [Json.isEntry_iff, Json.EntryFits.eq_def]
  cases hkey : Key.ofText key with
  | connective connective =>
    simp only [ofEntry, hkey]
    cases operand with
    | array items =>
      cases items with
      | nil => simp
      | cons item rest =>
        dsimp only
        rw [exists_map_eq_ok_iff,
          exists_ofItems_eq_ok_iff fun item hitem place => h.parts rfl item hitem _ _ place _]
        simp [forall_and]
    | _ => simp
  | not =>
    cases operand with
    | object members =>
      rw [ofEntry_not hkey]
      exact exists_map_eq_ok_iff.trans (h.selector ..)
    | _ =>
      refine iff_of_false (by simp [ofEntry, hkey]) fun hvalid => ?_
      exact Json.not_isSelector_of_kind_ne (by simp [Tree.kind]) hvalid.1
  | elemMatch =>
    rw [hkey] at hcondition
    cases inItem with
    | false => simp [ofEntry, hkey]
    | true => simpa [ofEntry, ofConditionEntry, hkey] using hcondition
  | test operator =>
    rw [hkey] at hcondition
    cases inItem with
    | false => simp [ofEntry, hkey]
    | true => simpa [ofEntry, ofConditionEntry, hkey] using hcondition
  | unknown => simp [ofEntry, hkey]
  | field =>
    rw [hkey] at hcondition
    rw [ofEntry_of_field hkey]
    exact hcondition

/-! ### Trees -/

/-- An object is read when each of its entries is. -/
lemma exists_ofTree_object_eq_ok_iff {members : Fields Json}
    (hmembers : ∀ member ∈ members, Accepted member.2) :
    (∃ s, ofTree config inItem place depth (.object members) = .ok s)
      ↔ Json.IsSelector inItem (.object members)
        ∧ Json.SelectorFits config depth (.object members) := by
  have hentries : (∃ parts, ofMembers config inItem place depth members = .ok parts)
      ↔ ∀ member ∈ members, Json.IsEntry inItem member.1 member.2
        ∧ Json.EntryFits config depth member.1 member.2 := by
    rw [ofMembers_eq_mapM, exists_mapM_eq_ok_iff]
    exact forall₂_congr fun member hmember => exists_ofEntry_eq_ok_iff (hmembers member hmember)
  rw [Json.isSelector_object_iff, Json.SelectorFits, ofTree]
  simp only [exists_bind_eq_ok_iff, exists_and_right, exists_checkDepth_eq_ok_iff, pure,
    Except.pure, Except.ok.injEq, exists_eq', and_true, hentries, forall_and]
  rw [and_left_comm]

lemma exists_ofCondition_object_eq_ok_iff {members : Fields Json}
    (hmembers : ∀ member ∈ members, Accepted member.2) :
    (∃ s, ofCondition config path place depth (.object members) = .ok s)
      ↔ Json.IsCondition (.object members)
        ∧ Json.ConditionFits config depth path.depth (.object members) := by
  rw [Json.isCondition_object_iff, Json.ConditionFits]
  cases members with
  | nil => simp [ofCondition]
  | cons member rest =>
    rw [ofCondition, exists_map_eq_ok_iff, ofConditionMembers_eq_mapM, exists_mapM_eq_ok_iff]
    simp only [← forall_and]
    exact forall₂_congr fun member hmember =>
      exists_ofConditionEntry_eq_ok_iff (hmembers member hmember)

/-- What is no object is no selector, and as a condition it is a literal. -/
lemma Accepted.of_kind_ne (hkind : json.kind ≠ .object)
    (hparts : ∀ {items}, json = .array items → ∀ item ∈ items, Accepted item) : Accepted json where
  selector config inItem place depth := by
    have hselector : ¬ Json.IsSelector inItem json := Json.not_isSelector_of_kind_ne hkind
    cases json with
    | object members => exact absurd rfl hkind
    | _ => simp [ofTree, exists_bind_eq_ok_iff, hselector]
  parts hjson item hitem := (hparts hjson item hitem).selector
  condition config path place depth := by
    have hcondition : Json.IsCondition json := .literal hkind
    cases json with
    | object members => exact absurd rfl hkind
    | _ => simp [ofCondition, Json.ConditionFits, hcondition]

/-- **Every tree is read exactly when the grammar and the limits allow it.** -/
theorem accepted (json : Json) : Accepted json := by
  induction json using Tree.induction_objects with
  | other json hkind ih => exact .of_kind_ne hkind ih
  | object members ih =>
    exact {
      selector := fun _ _ _ _ => exists_ofTree_object_eq_ok_iff ih
      parts := nofun
      condition := fun _ _ _ _ => exists_ofCondition_object_eq_ok_iff ih }

/-- **Exactly the selectors of the grammar that keep the limits are read.** -/
theorem exists_ofJsonWith_eq_ok_iff (config : QueryConfig) (json : Json) :
    (∃ selector, ofJsonWith config json = .ok selector)
      ↔ Json.IsSelector false json ∧ Json.SelectorFits config 0 json :=
  (accepted json).selector config false place 0

end Selector

end Readings

end DocQuery
