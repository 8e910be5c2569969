import DocQuery.Proofs.OperatorMeaning

/-!
What a selector means, read directly off its JSON, and that the selector it is parsed into means the
same.

* `Subject`: what a selector speaks of, a document or an item of an array;
* `Json.Asserts`, with `Json.EntryAsserts`, `Json.ConditionAsserts` and `Json.ConditionEntryAsserts`
  (**meaning**): what a selector, a condition and each of their entries say of a subject;
* `Selector.Faithful`: every reading of a tree, as a selector and as a condition, says the same as
  the tree;
* `Selector.isMatch_ofJsonWith_iff` (**correctness**): a document fulfils the selector that is read
  from a tree exactly when the tree says so.
-/

namespace DocQuery

/-! ### Subjects -/

/-- What a selector speaks of. -/
inductive Subject where
  | document (doc : Document)
  | item (value : Value)

/-- What a subject has at a path: only in a document are `_id` and `_rev` special. -/
def Subject.at? : Subject → FieldPath → Option Value
  | .document doc, path => doc.fieldAt path
  | .item value, path => value.lookup path.segments

/-! ### Meaning -/

namespace Json

mutual

/-- A selector says what each of its entries says. -/
def Asserts (selector : Json) (subject : Subject) : Prop :=
  match selector with
  | .object entries => ∀ entry (_ : entry ∈ entries), EntryAsserts entry.1 entry.2 subject
  | _ => False
termination_by (sizeOf selector, 0)
decreasing_by exact .left _ _ (Tree.sizeOf_member_lt ‹_›)

/-- What an entry of a selector says.  An operator without a field speaks of the whole subject. -/
def EntryAsserts (key : String) (operand : Json) (subject : Subject) : Prop :=
  if IsOperator key then
    match key, operand with
    | "$and", .array parts => ∀ part (_ : part ∈ parts), Asserts part subject
    | "$or", .array parts => ∃ part, ∃ _ : part ∈ parts, Asserts part subject
    | "$nor", .array parts => ¬ ∃ part, ∃ _ : part ∈ parts, Asserts part subject
    | "$not", operand => ¬ Asserts operand subject
    | "$elemMatch", operand =>
      ∃ items, subject.at? .root = some (.array items)
        ∧ ∃ item ∈ items, Asserts operand (.item item)
    | key, operand => OperatorAsserts key operand (subject.at? .root)
  else ∃ path, FieldPath.ofText? key = some path ∧ ConditionAsserts operand path subject
termination_by (sizeOf operand, 2)
decreasing_by
  · exact .left _ _ (Tree.sizeOf_item_lt ‹_›)
  · exact .left _ _ (Tree.sizeOf_item_lt ‹_›)
  · exact .left _ _ (Tree.sizeOf_item_lt ‹_›)
  all_goals exact .right _ (by decide)

/-- What the operand of a field name says of the field at a path: an object with entries is their
conjunction, everything else is a literal that the field equals. -/
def ConditionAsserts (condition : Json) (path : FieldPath) (subject : Subject) : Prop :=
  match condition with
  | .object (first :: rest) =>
    ∀ entry (_ : entry ∈ first :: rest), ConditionEntryAsserts entry.1 entry.2 path subject
  | literal => FieldEquals (subject.at? path) literal
termination_by (sizeOf condition, 0)
decreasing_by exact .left _ _ (Tree.sizeOf_member_lt ‹_›)

/-- What an entry of a condition says of the field at a path.  A key that is no operator leads
further into the field. -/
def ConditionEntryAsserts (key : String) (operand : Json) (path : FieldPath) (subject : Subject) :
    Prop :=
  if IsOperator key then
    match key, operand with
    | "$not", operand => ¬ ConditionAsserts operand path subject
    | "$elemMatch", operand =>
      ∃ items, subject.at? path = some (.array items) ∧ ∃ item ∈ items, Asserts operand (.item item)
    | key, operand => OperatorAsserts key operand (subject.at? path)
  else
    ∃ child, FieldPath.ofText? key = some child
      ∧ ConditionAsserts operand (path.child child) subject
termination_by (sizeOf operand, 1)
decreasing_by all_goals exact .right _ (by decide)

end

variable {subject : Subject} {path : FieldPath}

lemma entryAsserts_test (operator : TestOperator) (operand : Json) :
    EntryAsserts operator.name operand subject
      ↔ OperatorAsserts operator.name operand (subject.at? .root) := by
  rcases operator with ⟨_ | _ | _ | _ | _ | _⟩ | _ | _ | _ | _ | _ | _ | _ | _ | _ <;>
    simp [EntryAsserts, TestOperator.name, IsOperator]

lemma conditionEntryAsserts_test (operator : TestOperator) (operand : Json) :
    ConditionEntryAsserts operator.name operand path subject
      ↔ OperatorAsserts operator.name operand (subject.at? path) := by
  rcases operator with ⟨_ | _ | _ | _ | _ | _⟩ | _ | _ | _ | _ | _ | _ | _ | _ | _ <;>
    simp [ConditionEntryAsserts, TestOperator.name, IsOperator]

lemma entryAsserts_field {key : String} (hkey : ¬ IsOperator key) (operand : Json)
    (hpath : FieldPath.ofText? key = some path) :
    EntryAsserts key operand subject ↔ ConditionAsserts operand path subject := by
  rw [EntryAsserts.eq_def, if_neg hkey]
  simp [hpath]

lemma conditionEntryAsserts_field {key : String} {child : FieldPath} (hkey : ¬ IsOperator key)
    (operand : Json) (hchild : FieldPath.ofText? key = some child) :
    ConditionEntryAsserts key operand path subject
      ↔ ConditionAsserts operand (path.child child) subject := by
  rw [ConditionEntryAsserts.eq_def, if_neg hkey]
  simp [hchild]

end Json

/-! ### Readings -/

namespace Selector

/-- However a tree is read, as a selector, as the selectors in an array or as a condition, what is
read holds of a subject exactly when the tree says so. -/
structure Faithful (json : Json) : Prop where
  selector : ∀ {config inItem place depth selector},
    ofTree config inItem place depth json = .ok selector →
      ∀ subject : Subject, selector.holds subject.at? = true ↔ Json.Asserts json subject
  parts : ∀ {items}, json = .array items → ∀ item ∈ items,
    ∀ {config inItem place depth selector},
      ofTree config inItem place depth item = .ok selector →
        ∀ subject : Subject, selector.holds subject.at? = true ↔ Json.Asserts item subject
  condition : ∀ {config path place depth selector},
    ofCondition config path place depth json = .ok selector →
      ∀ subject : Subject,
        selector.holds subject.at? = true ↔ Json.ConditionAsserts json path subject

variable {config : QueryConfig} {inItem : Bool} {path : FieldPath} {place : Location} {depth : Nat}

/-! ### Lists of parts -/

lemma allHold_iff_of_forall₂ {α : Type} {sources : List α} {parts : List Selector}
    {asserted : α → Prop} {read : FieldPath → Option Value}
    (h : List.Forall₂ (fun source part => part.holds read = true ↔ asserted source) sources parts) :
    allHold parts read = true ↔ ∀ source ∈ sources, asserted source := by
  induction h with
  | nil => simp [allHold]
  | cons hpart _ ih => rw [allHold, Bool.and_eq_true, hpart, ih, List.forall_mem_cons]

lemma anyHolds_iff_of_forall₂ {α : Type} {sources : List α} {parts : List Selector}
    {asserted : α → Prop} {read : FieldPath → Option Value}
    (h : List.Forall₂ (fun source part => part.holds read = true ↔ asserted source) sources parts) :
    anyHolds parts read = true ↔ ∃ source ∈ sources, asserted source := by
  induction h with
  | nil => simp [anyHolds]
  | cons hpart _ ih => rw [anyHolds, Bool.or_eq_true, hpart, ih, List.exists_mem_cons_iff]

/-- `$elemMatch` searches an array for an item of which its operand holds. -/
lemma holds_elemMatch_iff {child : Selector} {operand : Json} {subject : Subject}
    (hchild : ∀ item : Subject, child.holds item.at? = true ↔ Json.Asserts operand item) :
    (Selector.elemMatch path child).holds subject.at? = true
      ↔ ∃ items, subject.at? path = some (.array items)
        ∧ ∃ item ∈ items, Json.Asserts operand (.item item) := by
  have hitem : ∀ item : Value,
      (child.holds fun p => item.lookup p.segments) = true ↔ Json.Asserts operand (.item item) :=
    fun item => hchild (.item item)
  rw [holds]
  rcases subject.at? path with _ | ⟨_ | _ | _ | _ | items | _⟩
  case some.array => simp [Tree.asArray?, hitem]
  all_goals simp [Tree.asArray?]

/-! ### Entries -/

lemma holds_apply_iff {connective : Connective} {sources : List Json} {children : List Selector}
    {subject : Subject}
    (h : List.Forall₂ (fun source child =>
      child.holds subject.at? = true ↔ Json.Asserts source subject) sources children) :
    (connective.apply children).holds subject.at? = true
      ↔ Json.EntryAsserts connective.name (.array sources) subject := by
  cases connective with
  | and => simp [Connective.apply, Connective.name, holds, Json.EntryAsserts, IsOperator,
      allHold_iff_of_forall₂ h]
  | or => simp [Connective.apply, Connective.name, holds, Json.EntryAsserts, IsOperator,
      anyHolds_iff_of_forall₂ h]
  | nor => simp [Connective.apply, Connective.name, holds, Json.EntryAsserts, IsOperator,
      ← anyHolds_iff_of_forall₂ h]

theorem holds_ofEntry_iff {key : String} {operand : Json} {selector : Selector}
    (hoperand : Faithful operand)
    (h : ofEntry config inItem place depth key operand = .ok selector) (subject : Subject) :
    selector.holds subject.at? = true ↔ Json.EntryAsserts key operand subject := by
  cases hkey : Key.ofText key with
  | connective connective =>
    have hname : key = connective.name := Key.eq_of_name?_ofText hkey rfl
    obtain ⟨sources, children, rfl, hchildren, rfl⟩ := ofEntry_of_connective hkey h
    rw [hname]
    refine holds_apply_iff (forall₂_imp_of_mem (forall₂_of_ofItems hchildren) ?_)
    rintro source hsource child ⟨_, hchild⟩
    exact hoperand.parts rfl source hsource hchild subject
  | not =>
    cases Key.eq_of_name?_ofText hkey rfl
    obtain ⟨child, hchild, rfl⟩ := ofEntry_of_not hkey h
    simp [holds, Json.EntryAsserts, IsOperator, ← hoperand.selector hchild subject]
  | elemMatch =>
    cases Key.eq_of_name?_ofText hkey rfl
    unfold ofEntry at h
    rw [hkey] at h
    simp only at h
    split_ifs at h
    obtain ⟨child, hchild, rfl⟩ := map_eq_ok_iff.mp h
    rw [holds_elemMatch_iff (hoperand.selector hchild)]
    simp [Json.EntryAsserts, IsOperator]
  | test operator =>
    cases Key.eq_of_name?_ofText hkey rfl
    unfold ofEntry at h
    rw [hkey] at h
    simp only at h
    split_ifs at h
    obtain ⟨test, htest, rfl⟩ := map_eq_ok_iff.mp h
    rw [Json.entryAsserts_test, holds, Json.holds_ofOperand_iff htest]
  | unknown =>
    unfold ofEntry at h
    rw [hkey] at h
    cases h
  | field =>
    unfold ofEntry at h
    rw [hkey] at h
    simp only [bind_eq_ok_iff] at h
    obtain ⟨path, hpath, hselector⟩ := h
    rw [Json.entryAsserts_field (Key.ofText_eq_field_iff.mp hkey) operand
      (FieldPath.ofText?_of_ofKey hpath)]
    exact hoperand.condition hselector subject

theorem holds_ofConditionEntry_iff {key : String} {operand : Json} {selector : Selector}
    (hoperand : Faithful operand)
    (h : ofConditionEntry config path place depth key operand = .ok selector) (subject : Subject) :
    selector.holds subject.at? = true ↔ Json.ConditionEntryAsserts key operand path subject := by
  unfold ofConditionEntry at h
  cases hkey : Key.ofText key with
  | connective connective =>
    rw [hkey] at h
    cases h
  | not =>
    cases Key.eq_of_name?_ofText hkey rfl
    rw [hkey] at h
    simp only [bind_eq_ok_iff] at h
    obtain ⟨_, _, child, hchild, hselector⟩ := h
    cases hselector
    simp [holds, Json.ConditionEntryAsserts, IsOperator, ← hoperand.condition hchild subject]
  | elemMatch =>
    cases Key.eq_of_name?_ofText hkey rfl
    rw [hkey] at h
    obtain ⟨child, hchild, rfl⟩ := map_eq_ok_iff.mp h
    rw [holds_elemMatch_iff (hoperand.selector hchild)]
    simp [Json.ConditionEntryAsserts, IsOperator]
  | test operator =>
    cases Key.eq_of_name?_ofText hkey rfl
    rw [hkey] at h
    obtain ⟨test, htest, rfl⟩ := map_eq_ok_iff.mp h
    rw [Json.conditionEntryAsserts_test, holds, Json.holds_ofOperand_iff htest]
  | unknown =>
    rw [hkey] at h
    cases h
  | field =>
    rw [hkey] at h
    simp only [bind_eq_ok_iff] at h
    obtain ⟨child, hchild, hselector⟩ := h
    split_ifs at hselector
    · cases hselector
    · rw [Json.conditionEntryAsserts_field (Key.ofText_eq_field_iff.mp hkey) operand
        (FieldPath.ofText?_of_ofKey hchild)]
      exact hoperand.condition hselector subject

/-! ### Trees -/

/-- An object is read as the conjunction of its entries. -/
lemma holds_ofTree_object_iff {members : List (String × Json)} {selector : Selector}
    (hmembers : ∀ member ∈ members, Faithful member.2)
    (h : ofTree config inItem place depth (.object members) = .ok selector) (subject : Subject) :
    selector.holds subject.at? = true ↔ Json.Asserts (.object members) subject := by
  simp only [ofTree, bind_eq_ok_iff] at h
  obtain ⟨_, _, parts, hparts, hselector⟩ := h
  cases hselector
  rw [holds_allOf, Json.Asserts]
  refine allHold_iff_of_forall₂ (forall₂_imp_of_mem (forall₂_of_ofMembers hparts) ?_)
  exact fun member hmember part hpart => holds_ofEntry_iff (hmembers member hmember) hpart subject

lemma holds_ofCondition_object_iff {members : List (String × Json)} {selector : Selector}
    (hmembers : ∀ member ∈ members, Faithful member.2)
    (h : ofCondition config path place depth (.object members) = .ok selector) (subject : Subject) :
    selector.holds subject.at? = true ↔ Json.ConditionAsserts (.object members) path subject := by
  cases members with
  | nil =>
    cases h
    rw [Json.ConditionAsserts]
    exact Json.equals_iff
    simp
  | cons first rest =>
    obtain ⟨parts, hparts, rfl⟩ := map_eq_ok_iff.mp h
    rw [holds_allOf, Json.ConditionAsserts]
    refine allHold_iff_of_forall₂ (forall₂_imp_of_mem (forall₂_of_ofConditionMembers hparts) ?_)
    exact fun member hmember part hpart =>
      holds_ofConditionEntry_iff (hmembers member hmember) hpart subject

/-- Whatever is no object is no selector, and as a condition it is a literal. -/
lemma Faithful.of_kind_ne {json : Json} (hkind : json.kind ≠ .object)
    (hparts : ∀ {items}, json = .array items → ∀ item ∈ items, Faithful item) : Faithful json where
  selector {config inItem place depth selector} h := by
    cases json with
    | object members => exact absurd rfl hkind
    | _ =>
      simp only [ofTree, bind_eq_ok_iff] at h
      obtain ⟨_, _, h⟩ := h
      cases h
  parts hjson item hitem _ _ _ _ _ h := (hparts hjson item hitem).selector h
  condition {config path place depth selector} h subject := by
    cases json with
    | object members => exact absurd rfl hkind
    | _ =>
      cases h
      rw [Json.ConditionAsserts]
      · exact Json.equals_iff
      · rintro first rest ⟨⟩

/-- **Every tree is read faithfully.** -/
theorem faithful (json : Json) : Faithful json := by
  induction json using Tree.induction_objects with
  | other json hkind ih => exact .of_kind_ne hkind ih
  | object members ih =>
    exact {
      selector := holds_ofTree_object_iff ih
      parts := nofun
      condition := holds_ofCondition_object_iff ih }

/-- **Reading keeps the meaning of a selector: a document fulfils what is read from a tree exactly
when the tree says so.** -/
theorem isMatch_ofJsonWith_iff {config : QueryConfig} {json : Json} {selector : Selector}
    (h : ofJsonWith config json = .ok selector) (doc : Document) :
    selector.isMatch doc = true ↔ Json.Asserts json (.document doc) :=
  (faithful json).selector h (.document doc)

/-- Asks for a line of at least two pieces that is not old, for an owner called Ann whose age is not
the empty object, and for anything but a draft. -/
def orderSelector : Json :=
  .object [
    ("lines", .object [("$elemMatch", .object [
      ("count", .object [("$gte", .number (.int 2))]),
      ("$not", .object [("state", .object [("$in", .array [.string "old", .null])])])])]),
    ("meta.owner", .object [("name", .string "Ann"), ("age", .object [("$not", .object [])])]),
    ("$nor", .array [.object [("_id", .string "draft")]])]

/-- What `orderSelector` is read as. -/
def orderTest : Selector :=
  .and [
    .elemMatch ⟨["lines"]⟩ (.and [
      .field ⟨["count"]⟩ (.compare .gte (Value.ofJson (.number (.int 2)))),
      .not (.field ⟨["state"]⟩ (.isIn [.string "old", .null]))]),
    .and [
      .field ⟨["meta", "owner", "name"]⟩ (.compare .eq (.string "Ann")),
      .not (.field ⟨["meta", "owner", "age"]⟩ (.compare .eq (.object [])))],
    .nor [.field ⟨["_id"]⟩ (.compare .eq (.string "draft"))]]

/-- An order with a line of three pieces, whose body is marked as a draft and whose identifier is
not. -/
def order : Document where
  id := "o1"
  rev := none
  body := Value.ofJson (.object [
    ("_id", .string "draft"),
    ("lines", .array [.object [("count", .number (.int 3)), ("state", .string "new")]]),
    ("meta", .object [("owner", .object [("name", .string "Ann")])])])

theorem orderTest_isMatch_order :
    ofJson orderSelector = .ok orderTest ∧ orderTest.isMatch order = true
      ∧ Json.Asserts orderSelector (.document order) :=
  have hread : ofJson orderSelector = .ok orderTest := rfl
  have hmatch : orderTest.isMatch order = true := rfl
  ⟨hread, hmatch, (isMatch_ofJsonWith_iff hread order).mp hmatch⟩

end Selector

end DocQuery
