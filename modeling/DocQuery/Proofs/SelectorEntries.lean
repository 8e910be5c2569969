import DocQuery.Selector.OfJson
import Mathlib.Data.List.Forall2

/-!
The entries of a selector, one by one.  A selector or condition is read entry by entry, so what
holds of the reading of each entry holds of the whole.

* `bind_eq_ok_iff` and `map_eq_ok_iff`: when a reader that goes on from another one succeeds;
* `Key.eq_of_name?_ofText`: only its own key stands for an operator;
* `Selector.ofEntry` and `Selector.ofConditionEntry` (**entries**): what one entry is read as;
* `Selector.forall₂_of_ofMembers` and its companions: a list is read item by item;
* `Selector.holds_allOf`: entries are read as a conjunction.
-/

namespace DocQuery

/-! ### Readers -/

lemma bind_eq_ok_iff {ε α β : Type} {x : Except ε α} {f : α → Except ε β} {b : β} :
    x >>= f = .ok b ↔ ∃ a, x = .ok a ∧ f a = .ok b := by
  cases x with
  | error e => simp [bind, Except.bind]
  | ok a => simp [bind, Except.bind]

lemma map_eq_ok_iff {ε α β : Type} {x : Except ε α} {f : α → β} {b : β} :
    x.map f = .ok b ↔ ∃ a, x = .ok a ∧ f a = b := by
  cases x with
  | error e => simp [Except.map]
  | ok a => simp [Except.map]

/-- A list is read exactly when each of its elements is read. -/
lemma mapM_eq_ok_iff {ε α β : Type} {f : α → Except ε β} {as : List α} {bs : List β} :
    as.mapM f = .ok bs ↔ List.Forall₂ (fun a b => f a = .ok b) as bs := by
  induction as generalizing bs with
  | nil => simp [pure, Except.pure, eq_comm]
  | cons a rest ih =>
    rw [List.mapM_cons, bind_eq_ok_iff, List.forall₂_cons_left_iff]
    simp only [bind_eq_ok_iff, ih]
    constructor
    · rintro ⟨b, hb, later, hlater, hbs⟩
      cases hbs
      exact ⟨b, later, hb, hlater, rfl⟩
    · rintro ⟨b, later, hb, hlater, rfl⟩
      exact ⟨b, hb, later, hlater, rfl⟩

lemma forall₂_imp_of_mem {α β : Type} {R S : α → β → Prop} {as : List α} {bs : List β}
    (h : List.Forall₂ R as bs) (himp : ∀ a ∈ as, ∀ b, R a b → S a b) : List.Forall₂ S as bs := by
  have hmem : List.Forall₂ (fun a b => a ∈ as ∧ R a b) as bs :=
    (List.forall₂_and_left as bs).mpr ⟨fun _ => id, h⟩
  exact hmem.imp fun a b hab => himp a hab.1 b hab.2

/-! ### Keys -/

/-- The key of a connective. -/
def Connective.name : Connective → String
  | .and => "$and"
  | .or => "$or"
  | .nor => "$nor"

/-- The key of an operator that tests one field. -/
def TestOperator.name : TestOperator → String
  | .compare .eq => "$eq"
  | .compare .ne => "$ne"
  | .compare .gt => "$gt"
  | .compare .gte => "$gte"
  | .compare .lt => "$lt"
  | .compare .lte => "$lte"
  | .isIn => "$in"
  | .notIn => "$nin"
  | .containsAll => "$all"
  | .presence => "$exists"
  | .kind => "$type"
  | .size => "$size"
  | .modulo => "$mod"
  | .like => "$like"
  | .regex => "$regex"

/-- A key that does not name a field: it starts with a dollar sign. -/
def IsOperator (key : String) : Prop := key.toList.head? = some '$'

instance (key : String) : Decidable (IsOperator key) :=
  inferInstanceAs (Decidable (key.toList.head? = some '$'))

namespace Key

/-- The key that stands for an operator. -/
def name? : Key → Option String
  | .connective c => some c.name
  | .not => some "$not"
  | .elemMatch => some "$elemMatch"
  | .test operator => some operator.name
  | .unknown => none
  | .field => none

/-- Only its own key stands for an operator. -/
lemma eq_of_name?_ofText {text name : String} {key : Key} (hkey : ofText text = key)
    (h : key.name? = some name) : text = name := by
  subst hkey
  unfold ofText at h
  split at h
  case h_21 =>
    split at h <;> cases h
  all_goals
    cases h
    rfl

/-- A key that does not start with a dollar sign names a field. -/
lemma ofText_eq_field_iff {text : String} : ofText text = .field ↔ ¬ IsOperator text := by
  unfold ofText IsOperator
  split <;> simp_all

end Key

lemma FieldPath.ofText?_of_ofKey {config : QueryConfig} {text : String} {place : Location}
    {path : FieldPath} (h : ofKey config text place = .ok path) : ofText? text = some path := by
  unfold ofKey at h
  split at h
  · cases h
  · split_ifs at h
    cases h
    assumption

/-! ### Entries -/

namespace Selector

variable {config : QueryConfig} {inItem : Bool} {path : FieldPath} {place : Location} {depth : Nat}

/-- What one entry of a selector is read as. -/
def ofEntry (config : QueryConfig) (inItem : Bool) (here : Location) (depth : Nat) (key : String)
    (operand : Json) : Except QueryError Selector :=
  match Key.ofText key with
  | .connective connective =>
    match operand with
    | .array [] => .error (.invalidShape here .noSelectors)
    | .array items => (ofItems config inItem here (depth + 1) 0 items).map connective.apply
    | _ => .error (.invalidShape here .notSelectors)
  | .not =>
    match operand with
    | .object members => (do
      checkDepth config (depth + 1) here
      let parts ← ofMembers config inItem here (depth + 1) members
      return .not (allOf parts))
    | _ => .error (.invalidShape here .negationNotObject)
  | .elemMatch =>
    if inItem then (ofTree config true here (depth + 1) operand).map (.elemMatch .root)
    else .error (.invalidShape here (.operatorWithoutField key))
  | .test operator =>
    if inItem then (FieldTest.ofOperand config operator operand here).map (.field .root)
    else .error (.invalidShape here (.operatorWithoutField key))
  | .unknown => .error (.unsupportedOperator key here)
  | .field => (do
    let path ← FieldPath.ofKey config key here
    ofCondition config path here depth operand)

/-- What one entry of a condition is read as. -/
def ofConditionEntry (config : QueryConfig) (path : FieldPath) (here : Location) (depth : Nat)
    (key : String) (operand : Json) : Except QueryError Selector :=
  match Key.ofText key with
  | .connective _ => .error (.invalidShape here (.operatorInField key))
  | .not => (do
    checkDepth config (depth + 1) here
    let child ← ofCondition config path here (depth + 1) operand
    return .not child)
  | .elemMatch => (ofTree config true here (depth + 1) operand).map (.elemMatch path)
  | .test operator => (FieldTest.ofOperand config operator operand here).map (.field path)
  | .unknown => .error (.unsupportedOperator key here)
  | .field => (do
    let child ← FieldPath.ofKey config key here
    let nested := path.child child
    if config.maxPathDepth < nested.depth then
      .error (.invalidShape here (.pathTooDeep config.maxPathDepth))
    ofCondition config nested here depth operand)

lemma ofMembers_cons (key : String) (operand : Json) (rest : List (String × Json)) :
    ofMembers config inItem place depth ((key, operand) :: rest)
      = (do
        let part ← ofEntry config inItem (place.key key) depth key operand
        let parts ← ofMembers config inItem place depth rest
        return part :: parts) := by
  conv => lhs; unfold ofMembers
  unfold ofEntry
  cases Key.ofText key with
  | connective connective =>
    cases operand with
    | array items => cases items <;> rfl
    | _ => rfl
  | not => cases operand <;> rfl
  | elemMatch => cases inItem <;> rfl
  | test operator => cases inItem <;> rfl
  | unknown => rfl
  | field => rfl

lemma ofConditionMembers_cons (key : String) (operand : Json) (rest : List (String × Json)) :
    ofConditionMembers config path place depth ((key, operand) :: rest)
      = (do
        let part ← ofConditionEntry config path (place.key key) depth key operand
        let parts ← ofConditionMembers config path place depth rest
        return part :: parts) := by
  conv => lhs; unfold ofConditionMembers
  unfold ofConditionEntry
  cases Key.ofText key <;> rfl

/-- A connective is read from an array, item by item. -/
lemma ofEntry_of_connective {connective : Connective} {key : String} {operand : Json}
    {selector : Selector} (hkey : Key.ofText key = .connective connective)
    (h : ofEntry config inItem place depth key operand = .ok selector) :
    ∃ items children, operand = .array items
      ∧ ofItems config inItem place (depth + 1) 0 items = .ok children
      ∧ selector = connective.apply children := by
  unfold ofEntry at h
  rw [hkey] at h
  cases operand with
  | array items =>
    cases items with
    | nil => cases h
    | cons item rest =>
      obtain ⟨children, hchildren, rfl⟩ := map_eq_ok_iff.mp h
      exact ⟨_, children, rfl, hchildren, rfl⟩
  | _ => cases h

/-- A negation is read from an object, one level further down. -/
lemma ofEntry_not {key : String} (hkey : Key.ofText key = .not) (members : List (String × Json)) :
    ofEntry config inItem place depth key (.object members)
      = (ofTree config inItem place (depth + 1) (.object members)).map .not := by
  simp only [ofEntry, hkey]
  rw [ofTree]
  cases checkDepth config (depth + 1) place with
  | error e => rfl
  | ok _ => cases ofMembers config inItem place (depth + 1) members <;> rfl

lemma ofEntry_of_not {key : String} {operand : Json} {selector : Selector}
    (hkey : Key.ofText key = .not)
    (h : ofEntry config inItem place depth key operand = .ok selector) :
    ∃ child, ofTree config inItem place (depth + 1) operand = .ok child
      ∧ selector = .not child := by
  cases operand with
  | object members =>
    rw [ofEntry_not hkey] at h
    obtain ⟨child, hchild, rfl⟩ := map_eq_ok_iff.mp h
    exact ⟨child, hchild, rfl⟩
  | _ =>
    unfold ofEntry at h
    rw [hkey] at h
    cases h

/-! ### Lists of entries and of selectors -/

lemma ofMembers_eq_mapM (members : List (String × Json)) :
    ofMembers config inItem place depth members
      = members.mapM fun member =>
          ofEntry config inItem (place.key member.1) depth member.1 member.2 := by
  induction members with
  | nil => rfl
  | cons member rest ih => rw [ofMembers_cons, List.mapM_cons, ih]

lemma ofConditionMembers_eq_mapM (members : List (String × Json)) :
    ofConditionMembers config path place depth members
      = members.mapM fun member =>
          ofConditionEntry config path (place.key member.1) depth member.1 member.2 := by
  induction members with
  | nil => rfl
  | cons member rest ih => rw [ofConditionMembers_cons, List.mapM_cons, ih]

lemma forall₂_of_ofMembers {members : List (String × Json)} {parts : List Selector}
    (h : ofMembers config inItem place depth members = .ok parts) :
    List.Forall₂ (fun member part =>
      ofEntry config inItem (place.key member.1) depth member.1 member.2 = .ok part)
      members parts :=
  mapM_eq_ok_iff.mp (ofMembers_eq_mapM members ▸ h)

lemma forall₂_of_ofConditionMembers {members : List (String × Json)} {parts : List Selector}
    (h : ofConditionMembers config path place depth members = .ok parts) :
    List.Forall₂ (fun member part =>
      ofConditionEntry config path (place.key member.1) depth member.1 member.2 = .ok part)
      members parts :=
  mapM_eq_ok_iff.mp (ofConditionMembers_eq_mapM members ▸ h)

lemma forall₂_of_ofItems {items : List Json} {parts : List Selector} {i : Nat}
    (h : ofItems config inItem place depth i items = .ok parts) :
    List.Forall₂ (fun item part => ∃ here, ofTree config inItem here depth item = .ok part)
      items parts := by
  induction items generalizing parts i with
  | nil =>
    cases h
    exact .nil
  | cons item rest ih =>
    simp only [ofItems, bind_eq_ok_iff] at h
    obtain ⟨part, hpart, later, hlater, hparts⟩ := h
    cases hparts
    exact .cons ⟨place.index i, hpart⟩ (ih hlater)

/-! ### Conjunctions -/

lemma allHold_eq_true_iff {children : List Selector} {read : FieldPath → Option Value} :
    allHold children read = true ↔ ∀ child ∈ children, child.holds read = true := by
  induction children with
  | nil => simp [allHold]
  | cons child rest ih => rw [allHold, Bool.and_eq_true, ih, List.forall_mem_cons]

lemma anyHolds_eq_true_iff {children : List Selector} {read : FieldPath → Option Value} :
    anyHolds children read = true ↔ ∃ child ∈ children, child.holds read = true := by
  induction children with
  | nil => simp [anyHolds]
  | cons child rest ih => rw [anyHolds, Bool.or_eq_true, ih, List.exists_mem_cons_iff]

lemma holds_allOf (parts : List Selector) (read : FieldPath → Option Value) :
    (allOf parts).holds read = allHold parts read := by
  match parts with
  | [] => rfl
  | [part] => rw [allOf, allHold, allHold, Bool.and_true]
  | part :: other :: rest => rfl

end Selector

end DocQuery
