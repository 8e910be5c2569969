import DocQuery.Proofs.SelectorGrammar

/-!
The parts of a selector: where they stand in its tree, and what they are read as there.

* `Json.HasPart`: the steps that lead from a tree to a part of it;
* `Role` and `Role.after` (**roles**): what the part behind some steps is read as;
* `Step.nests`: the steps that count as operators around a part;
* `Role.Valid` and `Role.Fits`: a part belongs to the grammar and keeps the limits in its role;
* `Role.fits_iff_allowsAll` (**main statement**): a valid tree keeps the limits exactly when each of
  its parts does.
-/

namespace DocQuery

/-! ### Parts -/

namespace Json

/-- The steps from a tree to a part of it. -/
inductive HasPart : Json → List Step → Json → Prop
  | here {json : Json} : HasPart json [] json
  | key {members : Fields Json} {member : String × Json} {steps : List Step} {part : Json}
      (mem : member ∈ members) (inside : HasPart member.2 steps part) :
      HasPart (.object members) (.key member.1 :: steps) part
  | index {items : List Json} {i : Nat} {item : Json} {steps : List Step} {part : Json}
      (get : items[i]? = some item) (inside : HasPart item steps part) :
      HasPart (.array items) (.index i :: steps) part

variable {json : Json} {members : Fields Json} {items : List Json}
  {motive : List Step → Json → Prop}

lemma forall_hasPart_iff_of_kind (harray : json.kind ≠ .array) (hobject : json.kind ≠ .object) :
    (∀ steps part, json.HasPart steps part → motive steps part) ↔ motive [] json := by
  constructor
  · exact fun h => h [] json .here
  · rintro h steps part hpart
    cases hpart with
    | here => exact h
    | key => exact absurd rfl hobject
    | index => exact absurd rfl harray

lemma forall_hasPart_object_iff :
    (∀ steps part, HasPart (.object members) steps part → motive steps part)
      ↔ motive [] (.object members) ∧ ∀ member ∈ members, ∀ steps part,
          member.2.HasPart steps part → motive (.key member.1 :: steps) part := by
  constructor
  · exact fun h => ⟨h _ _ .here, fun member hmember steps part hpart => h _ _ (.key hmember hpart)⟩
  · rintro ⟨hhere, hinside⟩ steps part hpart
    cases hpart with
    | here => exact hhere
    | key hmember hpart => exact hinside _ hmember _ _ hpart

lemma forall_hasPart_array_iff :
    (∀ steps part, HasPart (.array items) steps part → motive steps part)
      ↔ motive [] (.array items) ∧ ∀ i item, items[i]? = some item → ∀ steps part,
          item.HasPart steps part → motive (.index i :: steps) part := by
  constructor
  · exact fun h => ⟨h _ _ .here, fun i item hitem steps part hpart => h _ _ (.index hitem hpart)⟩
  · rintro ⟨hhere, hinside⟩ steps part hpart
    cases hpart with
    | here => exact hhere
    | index hitem hpart => exact hinside _ _ hitem _ _ hpart

end Json

/-! ### Roles -/

/-- What a part of a selector is read as. -/
inductive Role where
  /-- A selector, within `$elemMatch` or not. -/
  | selector (inItem : Bool)
  /-- The array of selectors that a connective combines. -/
  | selectors (inItem : Bool)
  /-- The condition on the field at a path. -/
  | condition (path : FieldPath)
  /-- What an operator compares a field with. -/
  | operand (operator : TestOperator)
  /-- Nothing of the selector: what is inside a literal, or under a key that has no meaning. -/
  | data

/-- A key that counts as an operator around what stands under it. -/
def Key.nests : Key → Bool
  | .connective _ | .not | .elemMatch => true
  | .test _ | .unknown | .field => false

/-- A step under an operator that counts as one around what stands there. -/
def Step.nests : Step → Bool
  | .key name => (Key.ofText name).nests
  | .index _ => false

/-- The number of operators among some steps that count as operators around a part. -/
def operatorsAround (steps : List Step) : Nat := steps.countP Step.nests

@[simp]
lemma operatorsAround_nil : operatorsAround [] = 0 := rfl

lemma operatorsAround_cons (step : Step) (steps : List Step) :
    operatorsAround (step :: steps) = operatorsAround [step] + operatorsAround steps := by
  simp [operatorsAround, List.countP_cons, Nat.add_comm]

namespace Role

/-- The roles in which the entries of an object are parts of the selector. -/
def HasEntries : Role → Prop
  | .selector _ | .condition _ => True
  | .selectors _ | .operand _ | .data => False

/-- The role under a field name, given the path so far. -/
def ofField (path : FieldPath) (key : String) : Role :=
  match FieldPath.ofText? key with
  | some child => .condition (path.child child)
  | none => .data

/-- The role of a part, one step further than a part with a given role. -/
def child : Role → Step → Role
  | .selector inItem, .key key =>
    match Key.ofText key with
    | .connective _ => .selectors inItem
    | .not => .selector inItem
    | .elemMatch => if inItem then .selector true else .data
    | .test operator => if inItem then .operand operator else .data
    | .unknown => .data
    | .field => ofField .root key
  | .selectors inItem, .index _ => .selector inItem
  | .condition path, .key key =>
    match Key.ofText key with
    | .connective _ => .data
    | .not => .condition path
    | .elemMatch => .selector true
    | .test operator => .operand operator
    | .unknown => .data
    | .field => ofField path key
  | _, _ => .data

/-- The role of the part behind some steps. -/
def after (role : Role) (steps : List Step) : Role := steps.foldl child role

@[simp]
lemma after_nil (role : Role) : role.after [] = role := rfl

@[simp]
lemma after_cons (role : Role) (step : Step) (steps : List Step) :
    role.after (step :: steps) = (role.child step).after steps := rfl

@[simp]
lemma data_after (steps : List Step) : data.after steps = data := by
  induction steps with
  | nil => rfl
  | cons step steps ih => exact ih

/-! ### Valid parts that keep the limits -/

/-- A tree belongs to the grammar in its role. -/
def Valid : Role → Json → Prop
  | .selector inItem, json => json.IsSelector inItem
  | .selectors inItem, json => ∃ items, json = .array items ∧ items ≠ []
      ∧ ∀ item ∈ items, Json.IsSelector inItem item
  | .condition _, json => json.IsCondition
  | .operand operator, json => operator.Takes json
  | .data, _ => False

/-- A tree with some operators around it keeps the limits in its role. -/
def Fits (config : QueryConfig) (operators : Nat) : Role → Json → Prop
  | .selector _, json => json.SelectorFits config operators
  | .selectors _, json => ∀ items, json = .array items →
      ∀ item ∈ items, Json.SelectorFits config operators item
  | .condition path, json => operators ≤ config.maxSelectorDepth
      ∧ path.depth ≤ config.maxPathDepth ∧ json.ConditionFits config operators path.depth
  | .operand operator, json => operators ≤ config.maxSelectorDepth
      ∧ operator.OperandFits config json
  | .data, _ => True

/-- The limits on a single part, whatever is inside it: on the operators around it, on the path that
leads to it, and on what it lists. -/
def Allows (config : QueryConfig) (operators : Nat) : Role → Json → Prop
  | .selector _, _ | .selectors _, _ => operators ≤ config.maxSelectorDepth
  | .condition path, _ => operators ≤ config.maxSelectorDepth
      ∧ path.depth ≤ config.maxPathDepth
  | .operand operator, json => operators ≤ config.maxSelectorDepth
      ∧ operator.OperandFits config json
  | .data, _ => True

variable {config : QueryConfig} {operators : Nat} {inItem : Bool} {path : FieldPath} {key : String}
  {operand : Json}

/-! ### Entries -/

/-- What stands in an entry of a valid condition is valid in its role. -/
lemma valid_child_condition (h : Json.IsConditionEntry key operand) (path : FieldPath) :
    ((condition path).child (.key key)).Valid operand := by
  rw [Json.isConditionEntry_iff] at h
  cases hkey : Key.ofText key with
  | field =>
    rw [hkey] at h
    obtain ⟨⟨child, hchild⟩, hvalid⟩ := h
    simp only [Role.child, hkey, ofField, hchild]
    exact hvalid
  | _ =>
    rw [hkey] at h
    simp only [Role.child, hkey]
    exact h

/-- What stands in an entry of a valid selector is valid in its role. -/
lemma valid_child_selector (h : Json.IsEntry inItem key operand) :
    ((selector inItem).child (.key key)).Valid operand := by
  rw [Json.isEntry_iff] at h
  cases hkey : Key.ofText key with
  | field =>
    rw [hkey] at h
    obtain ⟨⟨child, hchild⟩, hvalid⟩ := h
    simp only [Role.child, hkey, ofField, hchild]
    exact hvalid
  | elemMatch =>
    rw [hkey] at h
    obtain ⟨rfl, hvalid⟩ := h
    simp only [Role.child, hkey]
    exact hvalid
  | test operator =>
    rw [hkey] at h
    obtain ⟨rfl, hvalid⟩ := h
    simp only [Role.child, hkey]
    exact hvalid
  | _ =>
    rw [hkey] at h
    simp only [Role.child, hkey]
    exact h

/-- An entry of a valid condition keeps the limits when what stands in it does. -/
lemma conditionEntryFits_iff (h : Json.IsConditionEntry key operand)
    (hoperators : operators ≤ config.maxSelectorDepth) (hpath : path.depth ≤ config.maxPathDepth) :
    Json.ConditionEntryFits config operators path.depth key operand
      ↔ ((condition path).child (.key key)).Fits config
          (operators + operatorsAround [.key key]) operand := by
  rw [Json.isConditionEntry_iff] at h
  rw [Json.ConditionEntryFits.eq_def]
  cases hkey : Key.ofText key with
  | field =>
    rw [hkey] at h
    obtain ⟨⟨child, hchild⟩, -⟩ := h
    simp [Role.child, operatorsAround, Step.nests, Key.nests, hkey, ofField, hchild, Fits,
      hoperators]
  | connective connective =>
    rw [hkey] at h
    exact h.elim
  | unknown =>
    rw [hkey] at h
    exact h.elim
  | _ => simp [Role.child, operatorsAround, Step.nests, Key.nests, hkey, Fits, hoperators, hpath]

/-- An entry of a valid selector keeps the limits when what stands in it does. -/
lemma entryFits_iff (h : Json.IsEntry inItem key operand)
    (hoperators : operators ≤ config.maxSelectorDepth) :
    Json.EntryFits config operators key operand
      ↔ ((selector inItem).child (.key key)).Fits config
          (operators + operatorsAround [.key key]) operand := by
  rw [Json.isEntry_iff] at h
  rw [Json.EntryFits.eq_def, Json.ConditionEntryFits.eq_def]
  cases hkey : Key.ofText key with
  | connective connective =>
    rw [hkey] at h
    obtain ⟨parts, rfl, -, -⟩ := h
    simp [Role.child, operatorsAround, Step.nests, Key.nests, hkey, Fits]
  | not => simp [Role.child, operatorsAround, Step.nests, Key.nests, hkey, Fits]
  | field =>
    rw [hkey] at h
    obtain ⟨⟨child, hchild⟩, -⟩ := h
    simp [Role.child, operatorsAround, Step.nests, Key.nests, hkey, ofField, hchild, Fits,
      hoperators]
  | unknown =>
    rw [hkey] at h
    exact h.elim
  | _ =>
    rw [hkey] at h
    obtain ⟨rfl, -⟩ := h
    simp [Role.child, operatorsAround, Step.nests, Key.nests, hkey, Fits, hoperators]

/-! ### Trees -/

variable {role : Role} {json : Json} {members : Fields Json} {items : List Json}

/-- The limits on a part and on all parts of it. -/
def AllowsAll (config : QueryConfig) (operators : Nat) (role : Role) (json : Json) : Prop :=
  ∀ steps part, json.HasPart steps part →
    (role.after steps).Allows config (operators + operatorsAround steps) part

/-- Nothing limits what is no part of the selector. -/
lemma allowsAll_data (json : Json) : AllowsAll config operators .data json := by
  intro steps part _
  rw [data_after]
  trivial

lemma allowsAll_object_iff :
    AllowsAll config operators role (.object members)
      ↔ role.Allows config operators (.object members) ∧ ∀ member ∈ members,
          AllowsAll config (operators + operatorsAround [.key member.1])
            (role.child (.key member.1)) member.2 := by
  have hkey (key : String) (steps : List Step) :
      operators + operatorsAround [.key key] + operatorsAround steps
        = operators + operatorsAround (.key key :: steps) := by
    rw [operatorsAround_cons _ steps, Nat.add_assoc]
  unfold AllowsAll
  rw [Json.forall_hasPart_object_iff]
  simp only [hkey]
  rfl

lemma allowsAll_array_iff :
    AllowsAll config operators role (.array items)
      ↔ role.Allows config operators (.array items) ∧ ∀ i item, items[i]? = some item →
          AllowsAll config operators (role.child (.index i)) item := by
  have hindex (i : Nat) (steps : List Step) :
      operatorsAround (.index i :: steps) = operatorsAround steps := by
    rw [operatorsAround_cons]
    simp [operatorsAround, Step.nests]
  unfold AllowsAll
  rw [Json.forall_hasPart_array_iff]
  simp only [after_nil, operatorsAround_nil, Nat.add_zero, after_cons, hindex]

lemma le_of_selectorFits (h : json.SelectorFits config operators) :
    operators ≤ config.maxSelectorDepth := by
  rw [Json.SelectorFits.eq_def] at h
  exact h.1

/-- An object keeps the limits when what stands in each of its entries does. -/
lemma fits_object_iff (hvalid : role.Valid (.object members)) :
    role.Fits config operators (.object members)
      ↔ role.Allows config operators (.object members) ∧ ∀ member ∈ members,
          (role.child (.key member.1)).Fits config (operators + operatorsAround [.key member.1])
            member.2 := by
  cases role with
  | selector inItem =>
    have hentries := Json.isSelector_object_iff.mp hvalid
    simp only [Fits, Allows]
    rw [Json.SelectorFits.eq_def]
    refine and_congr_right fun hoperators => forall₂_congr fun member hmember => ?_
    exact entryFits_iff (hentries member hmember) hoperators
  | selectors inItem =>
    obtain ⟨items, hitems, -⟩ := hvalid
    cases hitems
  | condition path =>
    have hentries := Json.isCondition_object_iff.mp hvalid
    rw [Fits, Allows, ← and_assoc, Json.ConditionFits.eq_def]
    refine and_congr_right fun hlimits => forall₂_congr fun member hmember => ?_
    exact conditionEntryFits_iff (hentries member hmember) hlimits.1 hlimits.2
  | operand operator => simp [Fits, Allows, Role.child]
  | data => exact hvalid.elim

/-- An array keeps the limits when its items do. -/
lemma fits_array_iff (hvalid : role.Valid (.array items)) :
    role.Fits config operators (.array items)
      ↔ role.Allows config operators (.array items) ∧ ∀ i item, items[i]? = some item →
          (role.child (.index i)).Fits config operators item := by
  cases role with
  | selector inItem => exact (Json.not_isSelector_of_kind_ne (by simp [Tree.kind]) hvalid).elim
  | selectors inItem =>
    obtain ⟨_, ⟨rfl⟩, hnonempty, -⟩ := hvalid
    simp only [Fits, Allows, Role.child, Tree.array.injEq, forall_eq']
    constructor
    · intro h
      obtain ⟨item, hitem⟩ := List.exists_mem_of_ne_nil _ hnonempty
      refine ⟨le_of_selectorFits (h item hitem), fun i item hitem => ?_⟩
      exact h item (List.mem_of_getElem? hitem)
    · rintro ⟨-, h⟩ item hitem
      obtain ⟨i, hi⟩ := List.getElem?_of_mem hitem
      exact h i item hi
  | condition path => simp [Fits, Allows, Role.child, Json.ConditionFits]
  | operand operator => simp [Fits, Allows, Role.child]
  | data => exact hvalid.elim

/-- What neither array nor object is keeps the limits when they hold for it alone. -/
lemma fits_iff_of_kind (harray : json.kind ≠ .array) (hobject : json.kind ≠ .object)
    (hvalid : role.Valid json) :
    role.Fits config operators json ↔ role.Allows config operators json := by
  cases role with
  | selector inItem => exact (Json.not_isSelector_of_kind_ne hobject hvalid).elim
  | selectors inItem =>
    obtain ⟨_, rfl, -⟩ := hvalid
    exact absurd rfl harray
  | condition path =>
    have hfits : json.ConditionFits config operators path.depth := by
      rw [Json.ConditionFits.eq_def]
      split
      · exact absurd rfl hobject
      · trivial
    simp [Fits, Allows, hfits]
  | operand operator => rfl
  | data => exact hvalid.elim

/-- What stands in the entries of a valid object is valid in its role. -/
lemma valid_child_of_entries (hentries : role.HasEntries) (hvalid : role.Valid (.object members))
    {member : String × Json} (hmember : member ∈ members) :
    (role.child (.key member.1)).Valid member.2 := by
  cases role with
  | selector inItem => exact valid_child_selector (Json.isSelector_object_iff.mp hvalid _ hmember)
  | condition path =>
    exact valid_child_condition (Json.isCondition_object_iff.mp hvalid _ hmember) path
  | _ => exact hentries.elim

/-- What stands in a valid object is valid in its role, or nothing of the selector. -/
lemma valid_child_object (hvalid : role.Valid (.object members)) {member : String × Json}
    (hmember : member ∈ members) (hdata : role.child (.key member.1) ≠ .data) :
    (role.child (.key member.1)).Valid member.2 := by
  refine valid_child_of_entries ?_ hvalid hmember
  cases role with
  | selector inItem => trivial
  | condition path => trivial
  | _ => exact absurd rfl hdata

/-- What stands in a valid array is valid in its role, or nothing of the selector. -/
lemma valid_child_array (hvalid : role.Valid (.array items)) {item : Json} (hitem : item ∈ items)
    (i : Nat) (hdata : role.child (.index i) ≠ .data) : (role.child (.index i)).Valid item := by
  cases role with
  | selectors inItem =>
    obtain ⟨_, ⟨rfl⟩, -, hitems⟩ := hvalid
    exact hitems item hitem
  | _ => exact absurd rfl hdata

/-- **A valid tree keeps the limits exactly when each of its parts does.** -/
theorem fits_iff_allowsAll (json : Json) : ∀ {role : Role} {operators : Nat},
    (role ≠ .data → role.Valid json) →
      (role.Fits config operators json ↔ AllowsAll config operators role json) := by
  have hdata (json : Json) (operators : Nat) :
      Role.data.Fits config operators json ↔ AllowsAll config operators .data json :=
    iff_of_true trivial (allowsAll_data json)
  induction json using Tree.induction with
  | array items ih =>
    intro role operators h
    by_cases hrole : role = .data
    · exact hrole ▸ hdata _ _
    · rw [fits_array_iff (h hrole), allowsAll_array_iff]
      refine and_congr_right fun _ => forall₂_congr fun i item => forall_congr' fun hitem => ?_
      have hmem := List.mem_of_getElem? hitem
      exact ih item hmem (valid_child_array (h hrole) hmem i)
  | object members ih =>
    intro role operators h
    by_cases hrole : role = .data
    · exact hrole ▸ hdata _ _
    · rw [fits_object_iff (h hrole), allowsAll_object_iff]
      refine and_congr_right fun _ => forall₂_congr fun member hmember => ?_
      exact ih member hmember (valid_child_object (h hrole) hmember)
  | _ =>
    intro role operators h
    by_cases hrole : role = .data
    · exact hrole ▸ hdata _ _
    · rw [fits_iff_of_kind (by simp [Tree.kind]) (by simp [Tree.kind]) (h hrole), AllowsAll,
        Json.forall_hasPart_iff_of_kind (by simp [Tree.kind]) (by simp [Tree.kind])]
      rfl

end Role

/-- A selector of the grammar keeps the limits exactly when each of its parts does. -/
theorem Json.selectorFits_iff_allowsAll {config : QueryConfig} {operators : Nat} {inItem : Bool}
    {json : Json} (hvalid : json.IsSelector inItem) :
    json.SelectorFits config operators
      ↔ Role.AllowsAll config operators (.selector inItem) json := by
  have hrole : (Role.selector inItem).Valid json := hvalid
  exact Role.fits_iff_allowsAll json fun _ => hrole

end DocQuery
