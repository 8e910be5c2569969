import DocQuery.Proofs.CanonicalJson
import DocQuery.Proofs.NestedConditions

/-!
The laws that connect the operators on one field.  They are implemented by equality, by the order of
values, by a search through a list and by evaluation on the items of an array; each law says that
two of these agree.

* `Document.regular_fieldAt`: fields of documents with decoded bodies hold no NaN and repeat no key,
  so that equality and order agree on them;
* `Json.operatorAsserts_some_iff`: on a field of the kind of the literal, all comparisons speak of
  one outcome of the order;
* `Document.Fulfils` and `Selector.fulfils_test_iff`: a document fulfils the test of a field when
  the operator and its operand say so;
* `Document.OperatorLaws` and `Document.operators_obey_laws` (**main statement**).
-/

namespace DocQuery

/-! ### Fields of documents -/

/-- Identifier and revision are strings, and the other fields are parts of the body. -/
lemma Document.regular_fieldAt {doc : Document} {path : FieldPath} {v : Value}
    (h : doc.body.Regular) (hv : doc.fieldAt path = some v) : v.Regular := by
  have hstring (text : String) : Value.Regular (.string text) := ⟨trivial, trivial⟩
  rw [fieldAt] at hv
  split at hv
  · cases hrev : doc.rev with
    | none =>
      rw [hrev] at hv
      dsimp only at hv
      split_ifs at hv with hid
      · exact Option.some.inj hv ▸ hstring doc.id
      · exact h.lookup hv
    | some rev =>
      rw [hrev] at hv
      dsimp only at hv
      split_ifs at hv with hid hkey
      · exact Option.some.inj hv ▸ hstring doc.id
      · exact Option.some.inj hv ▸ hstring rev
      · exact h.lookup hv
  · exact h.lookup hv

/-! ### Fields beside literals -/

/-- The outcomes of the order that a comparison admits. -/
def Comparison.Admits : Comparison → Ordering → Prop
  | .eq, order => order = .eq
  | .ne, order => order ≠ .eq
  | .gt, order => order = .gt
  | .gte, order => order ≠ .lt
  | .lt, order => order = .lt
  | .lte, order => order ≠ .gt

lemma Comparison.admits_lte_iff {order : Ordering} :
    lte.Admits order ↔ lt.Admits order ∨ eq.Admits order := by
  cases order <;> simp [Admits]

lemma Comparison.admits_gte_iff {order : Ordering} :
    gte.Admits order ↔ gt.Admits order ∨ eq.Admits order := by
  cases order <;> simp [Admits]

namespace Json

variable {field : Option Value} {v : Value} {x : Json}

lemma fieldEquals_some_iff (hv : v.Regular) (hx : x.Decoded) :
    FieldEquals (some v) x ↔ Value.collate v (Value.ofJson x) = .eq :=
  Value.beq_iff_collate_eq hv (Value.portable_ofJson hx).regular

lemma fieldCompares_some_iff (hkind : v.kind = x.kind) (wanted : Ordering → Prop) :
    FieldCompares (some v) x wanted ↔ wanted (Value.collate v (Value.ofJson x)) := by
  simp [FieldCompares, hkind]

/-- **On a field of the kind of a literal, all comparisons speak of one outcome.** -/
theorem operatorAsserts_some_iff (hv : v.Regular) (hx : x.Decoded) (hkind : v.kind = x.kind)
    (comparison : Comparison) :
    OperatorAsserts (TestOperator.compare comparison).name x (some v)
      ↔ comparison.Admits (Value.collate v (Value.ofJson x)) := by
  cases comparison with
  | eq => exact fieldEquals_some_iff hv hx
  | ne => exact not_congr (fieldEquals_some_iff hv hx)
  | gt => exact fieldCompares_some_iff hkind (· = .gt)
  | gte => exact fieldCompares_some_iff hkind (· ≠ .lt)
  | lt => exact fieldCompares_some_iff hkind (· = .lt)
  | lte => exact fieldCompares_some_iff hkind (· ≠ .gt)

lemma not_fieldCompares (hkind : field.map Tree.kind ≠ some x.kind) (wanted : Ordering → Prop) :
    ¬ FieldCompares field x wanted := by
  rintro ⟨v, rfl, hv, -⟩
  exact hkind (congrArg some hv)

/-- A field that is not of the kind of a literal equals it only if there is neither. -/
lemma fieldEquals_iff_of_kind_ne (hkind : field.map Tree.kind ≠ some x.kind) :
    FieldEquals field x ↔ field = none ∧ x = .null := by
  cases field with
  | none => simp [FieldEquals]
  | some v =>
    have hne : v.kind ≠ (Value.ofJson x).kind := by
      rw [Value.ofJson, Tree.kind_mapNumbers]
      exact fun h => hkind (congrArg some h)
    exact iff_of_false (Value.beq_ne_true_of_kind_ne hne) (by simp)

end Json

/-! ### Tests of one field -/

/-- The selector that tests one field by one operator. -/
def Json.test (key operator : String) (operand : Json) : Json :=
  .single key (.single operator operand)

/-- The selector for arrays with an item that equals a literal. -/
def Json.itemTest (key : String) (operand : Json) : Json :=
  .test key "$elemMatch" (.single "$eq" operand)

/-- A document fulfils the selector that a tree denotes under the standard limits. -/
def Document.Fulfils (doc : Document) (json : Json) : Prop :=
  ∃ selector, Selector.ofJson json = .ok selector ∧ selector.isMatch doc = true

namespace Selector

variable {doc : Document} {key : String} {path : FieldPath} {operator : TestOperator}
  {operand : Json} (hkey : ¬ IsOperator key) (hpath : FieldPath.ofText? key = some path)
  (hdepth : path.depth ≤ QueryConfig.standard.maxPathDepth)

include hkey hpath hdepth

lemma ofJson_test_eq_ok_iff {name : String} {selector : Selector} :
    ofJson (.test key name operand) = .ok selector
      ↔ ofConditionEntry .standard path ((place.key key).key name) 0 name operand
        = .ok selector :=
  (ofTree_entry_eq_ok_iff hkey hpath).trans (and_iff_right ⟨Nat.zero_le _, hdepth⟩)

/-- The test of a field is accepted with every operand that its operator takes. -/
lemma exists_ofJson_test (htakes : operator.Takes operand)
    (hfits : operator.OperandFits .standard operand) :
    ∃ test, ofJson (.test key operator.name operand) = .ok (.field path test)
      ∧ ∀ field, test.holds field = true ↔ Json.OperatorAsserts operator.name operand field := by
  obtain ⟨test, htest⟩ : ∃ test, FieldTest.ofOperand .standard operator operand
      ((place.key key).key operator.name) = .ok test :=
    (FieldTest.exists_ofOperand_eq_ok_iff operator).mpr ⟨htakes, hfits⟩
  refine ⟨test, (ofJson_test_eq_ok_iff hkey hpath hdepth).mpr ?_, fun field => ?_⟩
  · simp only [ofConditionEntry, Key.ofText_testName, htest]
    rfl
  · exact Json.holds_ofOperand_iff htest

/-- **A document fulfils the test of a field if the operator and its operand say so.** -/
theorem fulfils_test_iff (htakes : operator.Takes operand)
    (hfits : operator.OperandFits .standard operand) :
    doc.Fulfils (.test key operator.name operand)
      ↔ Json.OperatorAsserts operator.name operand (doc.fieldAt path) := by
  obtain ⟨test, hread, hholds⟩ := exists_ofJson_test hkey hpath hdepth htakes hfits
  rw [← hholds, Document.Fulfils, hread]
  simp [isMatch, holds]

lemma ofJson_itemTest (x : Json) :
    ofJson (.itemTest key x)
      = .ok (.elemMatch path (.field .root (.compare .eq (Value.ofJson x)))) :=
  (ofJson_test_eq_ok_iff hkey hpath hdepth).mpr rfl

lemma fulfils_itemTest_iff {x : Json} :
    doc.Fulfils (.itemTest key x)
      ↔ ∃ items, doc.fieldAt path = some (.array items)
        ∧ ∃ item ∈ items, Json.FieldEquals (some item) x := by
  rw [Document.Fulfils, ofJson_itemTest hkey hpath hdepth]
  simp only [Except.ok.injEq, exists_eq_left', isMatch, holds]
  rcases doc.fieldAt path with _ | ⟨_ | _ | _ | _ | items | _⟩
  case some.array =>
    simp [Tree.asArray?, FieldTest.holds, FieldTest.comparesAs, FieldPath.root, Json.equals_iff]
  all_goals simp [Tree.asArray?]

end Selector

/-! ### The laws -/

/-- The operator for fields that are below a literal, equal to it or above it. -/
def Json.outcomeOperator : Ordering → String
  | .lt => "$lt"
  | .eq => "$eq"
  | .gt => "$gt"

/-- Conditions on the kind of a field: that it is absent, or that it is of one of the six kinds. -/
def Json.kindCondition : Option Kind → Json
  | none => .single "$exists" (.bool false)
  | some kind => .single "$type" (.string kind.name)

namespace Document

/-- The laws of the operators, for a document with a certain field under a name. -/
structure OperatorLaws (doc : Document) (key : String) (field : Option Value) : Prop where
  /-- Every selector below is accepted. -/
  accepted (operator : TestOperator) (operand : Json) : operator.Takes operand →
    operator.OperandFits .standard operand →
      ∃ selector, Selector.ofJson (.test key operator.name operand) = .ok selector
  acceptedItem (x : Json) : ∃ selector, Selector.ofJson (.itemTest key x) = .ok selector
  /-- A field of the kind of a literal lies below it, equals it or lies above it. -/
  trichotomy (x : Json) : x.Decoded → field.map Tree.kind = some x.kind →
    ∃! order, doc.Fulfils (.test key (Json.outcomeOperator order) x)
  lte (x : Json) : x.Decoded → field.map Tree.kind = some x.kind →
    (doc.Fulfils (.test key "$lte" x)
      ↔ doc.Fulfils (.test key "$lt" x) ∨ doc.Fulfils (.test key "$eq" x))
  gte (x : Json) : x.Decoded → field.map Tree.kind = some x.kind →
    (doc.Fulfils (.test key "$gte" x)
      ↔ doc.Fulfils (.test key "$gt" x) ∨ doc.Fulfils (.test key "$eq" x))
  /-- A field of another kind does not compare with a literal, and neither does an absent one. -/
  unordered (x : Json) : field.map Tree.kind ≠ some x.kind →
    ∀ operator ∈ ["$lt", "$lte", "$gt", "$gte"], ¬ doc.Fulfils (.test key operator x)
  eqUnordered (x : Json) : field.map Tree.kind ≠ some x.kind →
    (doc.Fulfils (.test key "$eq" x) ↔ field = none ∧ x = .null)
  ne (x : Json) : doc.Fulfils (.test key "$ne" x) ↔ ¬ doc.Fulfils (.test key "$eq" x)
  isIn (xs : List Json) : xs.length ≤ QueryConfig.standard.maxInSet →
    (doc.Fulfils (.test key "$in" (.array xs)) ↔ ∃ x ∈ xs, doc.Fulfils (.test key "$eq" x))
  notIn (xs : List Json) : xs.length ≤ QueryConfig.standard.maxInSet →
    (doc.Fulfils (.test key "$nin" (.array xs)) ↔ ¬ doc.Fulfils (.test key "$in" (.array xs)))
  containsAll (xs : List Json) : xs.length ≤ QueryConfig.standard.maxInSet →
    (doc.Fulfils (.test key "$all" (.array xs))
      ↔ xs ≠ [] ∧ ∀ x ∈ xs, doc.Fulfils (.itemTest key x))
  /-- A field is absent or has exactly one kind. -/
  kinds : ∃! kind, doc.Fulfils (.single key (Json.kindCondition kind))

section Laws

variable {doc : Document} {key : String} {path : FieldPath} {x : Json} {xs : List Json}
  (hkey : ¬ IsOperator key) (hpath : FieldPath.ofText? key = some path)
  (hdepth : path.depth ≤ QueryConfig.standard.maxPathDepth)

include hkey hpath hdepth

/-- The comparisons take every operand. -/
lemma fulfils_compare_iff (comparison : Comparison) :
    doc.Fulfils (.test key (TestOperator.compare comparison).name x)
      ↔ Json.OperatorAsserts (TestOperator.compare comparison).name x (doc.fieldAt path) :=
  Selector.fulfils_test_iff hkey hpath hdepth trivial trivial

lemma fulfils_eq_iff : doc.Fulfils (.test key "$eq" x) ↔ Json.FieldEquals (doc.fieldAt path) x :=
  fulfils_compare_iff hkey hpath hdepth .eq

lemma fulfils_ne_iff : doc.Fulfils (.test key "$ne" x) ↔ ¬ doc.Fulfils (.test key "$eq" x) := by
  rw [fulfils_eq_iff hkey hpath hdepth]
  exact fulfils_compare_iff hkey hpath hdepth .ne

/-- On a field of the kind of a literal, one outcome of the order decides all comparisons. -/
lemma exists_forall_fulfils_iff (hbody : doc.body.Regular) (hx : x.Decoded)
    (hkind : (doc.fieldAt path).map Tree.kind = some x.kind) :
    ∃ order, ∀ comparison,
      doc.Fulfils (.test key (TestOperator.compare comparison).name x)
        ↔ comparison.Admits order := by
  obtain ⟨v, hv, hvkind⟩ := Option.map_eq_some_iff.mp hkind
  refine ⟨Value.collate v (Value.ofJson x), fun comparison => ?_⟩
  rw [fulfils_compare_iff hkey hpath hdepth, hv]
  exact Json.operatorAsserts_some_iff (regular_fieldAt hbody hv) hx hvkind comparison

lemma not_fulfils_of_kind_ne (hkind : (doc.fieldAt path).map Tree.kind ≠ some x.kind)
    {operator : String} (hoperator : operator ∈ ["$lt", "$lte", "$gt", "$gte"]) :
    ¬ doc.Fulfils (.test key operator x) := by
  intro h
  simp only [List.mem_cons, List.not_mem_nil, or_false] at hoperator
  obtain rfl | rfl | rfl | rfl := hoperator
  · have hasserts := (fulfils_compare_iff hkey hpath hdepth .lt).mp h
    exact Json.not_fieldCompares hkind (· = .lt) hasserts
  · have hasserts := (fulfils_compare_iff hkey hpath hdepth .lte).mp h
    exact Json.not_fieldCompares hkind (· ≠ .gt) hasserts
  · have hasserts := (fulfils_compare_iff hkey hpath hdepth .gt).mp h
    exact Json.not_fieldCompares hkind (· = .gt) hasserts
  · have hasserts := (fulfils_compare_iff hkey hpath hdepth .gte).mp h
    exact Json.not_fieldCompares hkind (· ≠ .lt) hasserts

/-- A field is tested for its kind, or for its absence, by the kind it has, if any. -/
lemma fulfils_kindCondition_iff {kind : Option Kind} :
    doc.Fulfils (.single key (Json.kindCondition kind))
      ↔ (doc.fieldAt path).map Tree.kind = kind := by
  cases kind with
  | none =>
    have htakes : TestOperator.presence.Takes (.bool false) := ⟨false, rfl⟩
    refine (Selector.fulfils_test_iff hkey hpath hdepth htakes trivial).trans ?_
    cases doc.fieldAt path <;> simp [Json.OperatorAsserts, TestOperator.name]
  | some kind =>
    have htakes : TestOperator.kind.Takes (.string kind.name) := ⟨kind, rfl⟩
    refine (Selector.fulfils_test_iff hkey hpath hdepth htakes trivial).trans ?_
    simp [Json.OperatorAsserts, TestOperator.name, Kind.name_inj, @eq_comm _ kind]

section Lists

variable (hxs : xs.length ≤ QueryConfig.standard.maxInSet)

include hxs

/-- The operators on lists take every list within the limit. -/
lemma fulfils_list_iff {operator : TestOperator}
    (hoperator : operator = .isIn ∨ operator = .notIn ∨ operator = .containsAll) :
    doc.Fulfils (.test key operator.name (.array xs))
      ↔ Json.OperatorAsserts operator.name (.array xs) (doc.fieldAt path) := by
  have hfits (items : List Json) (h : Tree.array xs = .array items) :
      items.length ≤ QueryConfig.standard.maxInSet := by
    cases h
    exact hxs
  obtain rfl | rfl | rfl := hoperator
  · exact Selector.fulfils_test_iff hkey hpath hdepth ⟨xs, rfl⟩ hfits
  · exact Selector.fulfils_test_iff hkey hpath hdepth ⟨xs, rfl⟩ hfits
  · exact Selector.fulfils_test_iff hkey hpath hdepth ⟨xs, rfl⟩ hfits

lemma fulfils_isIn_iff :
    doc.Fulfils (.test key "$in" (.array xs)) ↔ ∃ x ∈ xs, doc.Fulfils (.test key "$eq" x) := by
  refine (fulfils_list_iff hkey hpath hdepth hxs (.inl rfl)).trans ?_
  simp [Json.OperatorAsserts, TestOperator.name, fulfils_eq_iff hkey hpath hdepth]

lemma fulfils_notIn_iff :
    doc.Fulfils (.test key "$nin" (.array xs)) ↔ ¬ doc.Fulfils (.test key "$in" (.array xs)) := by
  refine (fulfils_list_iff hkey hpath hdepth hxs (.inr (.inl rfl))).trans ?_
  rw [fulfils_isIn_iff hkey hpath hdepth hxs]
  simp [Json.OperatorAsserts, TestOperator.name, fulfils_eq_iff hkey hpath hdepth]

/-- The literals of the list are all found in one array, that of the field. -/
lemma fulfils_containsAll_iff :
    doc.Fulfils (.test key "$all" (.array xs))
      ↔ xs ≠ [] ∧ ∀ x ∈ xs, doc.Fulfils (.itemTest key x) := by
  refine (fulfils_list_iff hkey hpath hdepth hxs (.inr (.inr rfl))).trans ?_
  simp only [Selector.fulfils_itemTest_iff hkey hpath hdepth]
  constructor
  · rintro ⟨_, items, ⟨rfl⟩, hne, hfield, hitems⟩
    exact ⟨hne, fun x hx => ⟨items, hfield, hitems x hx⟩⟩
  · rintro ⟨hne, hitems⟩
    obtain ⟨first, hfirst⟩ := List.exists_mem_of_ne_nil xs hne
    obtain ⟨items, hfield, -⟩ := hitems first hfirst
    refine ⟨xs, items, rfl, hne, hfield, fun x hx => ?_⟩
    obtain ⟨_, hfield', hitem⟩ := hitems x hx
    cases hfield.symm.trans hfield'
    exact hitem

end Lists

end Laws

/-! ### Main statement -/

/-- **The operators obey their laws**, on every document whose body JSON can hold, as those of
decoded documents are (`Value.portable_ofJson`), and under every field name that is a path within
the limit. -/
theorem operators_obey_laws (doc : Document) (hbody : doc.body.Portable) {key : String}
    {path : FieldPath} (hkey : ¬ IsOperator key) (hpath : FieldPath.ofText? key = some path)
    (hdepth : path.depth ≤ QueryConfig.standard.maxPathDepth) :
    doc.OperatorLaws key (doc.fieldAt path) where
  accepted operator operand htakes hfits := by
    obtain ⟨test, hread, -⟩ := Selector.exists_ofJson_test hkey hpath hdepth htakes hfits
    exact ⟨_, hread⟩
  acceptedItem x := ⟨_, Selector.ofJson_itemTest hkey hpath hdepth x⟩
  trichotomy x hx hkind := by
    obtain ⟨order, horder⟩ := exists_forall_fulfils_iff hkey hpath hdepth hbody.regular hx hkind
    have houtcome (outcome : Ordering) :
        doc.Fulfils (.test key (Json.outcomeOperator outcome) x) ↔ order = outcome := by
      cases outcome with
      | lt => exact horder .lt
      | eq => exact horder .eq
      | gt => exact horder .gt
    simp only [houtcome]
    exact existsUnique_eq'
  lte x hx hkind := by
    obtain ⟨order, horder⟩ := exists_forall_fulfils_iff hkey hpath hdepth hbody.regular hx hkind
    have hor := or_congr (horder .lt) (horder .eq)
    exact (horder .lte).trans (Comparison.admits_lte_iff.trans hor.symm)
  gte x hx hkind := by
    obtain ⟨order, horder⟩ := exists_forall_fulfils_iff hkey hpath hdepth hbody.regular hx hkind
    have hor := or_congr (horder .gt) (horder .eq)
    exact (horder .gte).trans (Comparison.admits_gte_iff.trans hor.symm)
  unordered x hkind operator hoperator := not_fulfils_of_kind_ne hkey hpath hdepth hkind hoperator
  eqUnordered x hkind :=
    (fulfils_eq_iff hkey hpath hdepth).trans (Json.fieldEquals_iff_of_kind_ne hkind)
  ne x := fulfils_ne_iff hkey hpath hdepth
  isIn xs hxs := fulfils_isIn_iff hkey hpath hdepth hxs
  notIn xs hxs := fulfils_notIn_iff hkey hpath hdepth hxs
  containsAll xs hxs := fulfils_containsAll_iff hkey hpath hdepth hxs
  kinds := by
    simp only [fulfils_kindCondition_iff hkey hpath hdepth]
    exact existsUnique_eq'

/-- The first line of a basket, an array with an object in it. -/
theorem basket_obeys_laws :
    let line : Json := .array
      [.object [("n", .number (.int 2)), ("price", .number (.double ⟨true, 0, by decide⟩))], .null]
    let basket : Document :=
      ⟨"basket", some "1-a", Value.ofJson (.object [("lines", .array [line])])⟩
    basket.body.Portable ∧ ¬ IsOperator "lines.0"
      ∧ FieldPath.ofText? "lines.0" = some ⟨["lines", "0"]⟩
      ∧ basket.fieldAt ⟨["lines", "0"]⟩ = some (Value.ofJson line)
      ∧ basket.OperatorLaws "lines.0" (some (Value.ofJson line)) := by
  intro line basket
  have hdecoded : Json.Decoded (.object [("lines", .array [line])]) := by
    constructor
    · simp [line, Tree.DistinctKeys, Tree.DistinctKeysItems, Tree.DistinctKeysMembers,
        Fields.Distinct, Fields.keys]
    · have htwo : JsonNumber.Decoded (.int 2) := ⟨by decide, by decide⟩
      exact ⟨⟨⟨⟨htwo, rfl, trivial⟩, trivial, trivial⟩, trivial⟩, trivial⟩
  have hbody : basket.body.Portable := Value.portable_ofJson hdecoded
  have hkey : ¬ IsOperator "lines.0" := by decide
  have hpath : FieldPath.ofText? "lines.0" = some ⟨["lines", "0"]⟩ := by decide
  exact ⟨hbody, hkey, hpath, rfl, operators_obey_laws basket hbody hkey hpath (by decide)⟩

end Document

end DocQuery
