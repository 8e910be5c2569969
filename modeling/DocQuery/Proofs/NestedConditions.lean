import DocQuery.Proofs.PathText
import DocQuery.Proofs.SelectorGrammar
import DocQuery.Proofs.SelectorMeaning

/-!
Conditions within conditions.  A field name in the condition on another field leads further into
that field, just as a dot in the name does, and the entries of a condition are read as if each stood
alone.

* `Selector.ReadAnywhere`: what a tree is read as does not depend on the place at which it stands,
  which only faults name;
* `Selector.ofTree_field_eq_ok_iff` and `Selector.ofCondition_object_eq_ok_iff`: reading the one
  field of a selector, and the entries of a condition;
* `Selector.nested_reads_as_dotted` (**main statement**): nested conditions are read as dotted
  paths, and a condition with several entries holds when the conditions with one entry do.
-/

namespace DocQuery

/-! ### Places -/

lemma Agree.refl {ε α : Type} (x : Except ε α) : Agree (· = ·) x x := by
  cases x with
  | error e => exact .failed e e
  | ok a => exact .done rfl

/-- Lists are read alike if each of their elements is. -/
lemma Agree.mapM {ε α β : Type} {f g : α → Except ε β} {as : List α}
    (h : ∀ a ∈ as, Agree (· = ·) (f a) (g a)) : Agree (· = ·) (as.mapM f) (as.mapM g) := by
  induction as with
  | nil => exact .refl _
  | cons a rest ih =>
    rw [List.forall_mem_cons] at h
    rw [List.mapM_cons, List.mapM_cons]
    refine h.1.bind ?_
    rintro b _ rfl
    refine (ih h.2).bind ?_
    rintro bs _ rfl
    exact .refl _

lemma Agree.eq_ok_iff {ε α : Type} {x y : Except ε α} (h : Agree (· = ·) x y) (a : α) :
    x = .ok a ↔ y = .ok a := by
  cases h with
  | failed e e' => exact iff_of_false nofun nofun
  | done heq => rw [heq]

/-- The object with one member. -/
def Json.single (key : String) (operand : Json) : Json := .object [(key, operand)]

namespace FieldTest

variable {config : QueryConfig} {operand : Json}

lemma agree_valueSet_place (place place' : Location) :
    Agree (· = ·) (valueSet config operand place) (valueSet config operand place') := by
  unfold valueSet
  split
  · split
    · exact .failed _ _
    · exact .refl _
  · exact .failed _ _

lemma agree_ofOperand_place (operator : TestOperator) (place place' : Location) :
    Agree (· = ·) (ofOperand config operator operand place)
      (ofOperand config operator operand place') := by
  unfold ofOperand
  cases operator with
  | compare comparison => exact .refl _
  | isIn => exact (agree_valueSet_place place place').map fun _ _ => congrArg _
  | notIn => exact (agree_valueSet_place place place').map fun _ _ => congrArg _
  | containsAll => exact (agree_valueSet_place place place').map fun _ _ => congrArg _
  | modulo =>
    dsimp only
    split
    · split
      · exact .failed _ _
      · exact .refl _
    · exact .failed _ _
  | regex =>
    dsimp only
    split
    · split
      · exact .refl _
      · exact .failed _ _
    · exact .failed _ _
  | _ =>
    dsimp only
    split
    · exact .refl _
    · exact .failed _ _

end FieldTest

namespace Selector

variable {config : QueryConfig} {inItem : Bool} {path : FieldPath} {place place' : Location}
  {depth : Nat} {key : String} {operand json : Json}

/-- A tree is read as the same at every place, as a selector, as an array of selectors and as a
condition. -/
structure ReadAnywhere (json : Json) : Prop where
  selector : ∀ config inItem place place' depth,
    Agree (· = ·) (ofTree config inItem place depth json) (ofTree config inItem place' depth json)
  parts : ∀ {items}, json = .array items → ∀ config inItem place place' depth,
    Agree (· = ·) (ofItems config inItem place depth 0 items)
      (ofItems config inItem place' depth 0 items)
  condition : ∀ config path place place' depth,
    Agree (· = ·) (ofCondition config path place depth json)
      (ofCondition config path place' depth json)

lemma agree_ofItems_place {items : List Json} (h : ∀ item ∈ items, ReadAnywhere item) (i : Nat) :
    Agree (· = ·) (ofItems config inItem place depth i items)
      (ofItems config inItem place' depth i items) := by
  induction items generalizing i with
  | nil => exact .refl _
  | cons item rest ih =>
    rw [List.forall_mem_cons] at h
    rw [ofItems, ofItems]
    refine (h.1.selector ..).bind ?_
    rintro part _ rfl
    refine (ih h.2 (i + 1)).bind ?_
    rintro parts _ rfl
    exact .refl _

lemma agree_ofConditionEntry_place (h : ReadAnywhere operand) :
    Agree (· = ·) (ofConditionEntry config path place depth key operand)
      (ofConditionEntry config path place' depth key operand) := by
  unfold ofConditionEntry
  cases Key.ofText key with
  | connective connective => exact .failed _ _
  | not =>
    refine agree_checkDepth.bind fun _ _ _ => (h.condition ..).bind ?_
    rintro child _ rfl
    exact .refl _
  | elemMatch => exact (h.selector ..).map fun _ _ => congrArg _
  | test operator =>
    exact (FieldTest.agree_ofOperand_place operator ..).map fun _ _ => congrArg _
  | unknown => exact .failed _ _
  | field =>
    refine (agree_ofKey config key).bind ?_
    rintro child _ rfl
    dsimp only
    split
    · exact .failed _ _
    · exact h.condition ..

lemma agree_ofEntry_place (h : ReadAnywhere operand) :
    Agree (· = ·) (ofEntry config inItem place depth key operand)
      (ofEntry config inItem place' depth key operand) := by
  cases hkey : Key.ofText key with
  | connective connective =>
    simp only [ofEntry, hkey]
    cases operand with
    | array items =>
      cases items with
      | nil => exact .failed _ _
      | cons item rest => exact (h.parts rfl ..).map fun _ _ => congrArg _
    | _ => exact .failed _ _
  | not =>
    cases operand with
    | object members =>
      rw [ofEntry_not hkey, ofEntry_not hkey]
      exact (h.selector ..).map fun _ _ => congrArg _
    | _ =>
      simp only [ofEntry, hkey]
      exact .failed _ _
  | field =>
    rw [ofEntry_of_field hkey, ofEntry_of_field hkey]
    exact agree_ofConditionEntry_place h
  | unknown =>
    simp only [ofEntry, hkey]
    exact .failed _ _
  | elemMatch =>
    simp only [ofEntry, hkey]
    split
    · exact (h.selector ..).map fun _ _ => congrArg _
    · exact .failed _ _
  | test operator =>
    simp only [ofEntry, hkey]
    split
    · exact (FieldTest.agree_ofOperand_place operator ..).map fun _ _ => congrArg _
    · exact .failed _ _

/-- What is no object is no selector, and as a condition it is a literal. -/
lemma ReadAnywhere.of_kind_ne (hkind : json.kind ≠ .object)
    (hparts : ∀ {items}, json = .array items → ∀ item ∈ items, ReadAnywhere item) :
    ReadAnywhere json where
  selector config inItem place place' depth := by
    cases json with
    | object members => exact absurd rfl hkind
    | _ => exact agree_checkDepth.bind fun _ _ _ => .failed _ _
  parts hjson config inItem place place' depth := agree_ofItems_place (hparts hjson) 0
  condition config path place place' depth := by
    cases json with
    | object members => exact absurd rfl hkind
    | _ => exact .refl _

/-- **Every tree is read as the same at every place.** -/
theorem readAnywhere (json : Json) : ReadAnywhere json := by
  induction json using Tree.induction_objects with
  | other json hkind ih => exact .of_kind_ne hkind ih
  | object members ih =>
    exact {
      selector := fun config inItem place place' depth => by
        rw [ofTree, ofTree, ofMembers_eq_mapM, ofMembers_eq_mapM]
        refine agree_checkDepth.bind fun _ _ _ => (Agree.mapM fun member hmember => ?_).bind ?_
        · exact agree_ofEntry_place (ih member hmember)
        · rintro parts _ rfl
          exact .refl _
      parts := nofun
      condition := fun config path place place' depth => by
        cases members with
        | nil => exact .refl _
        | cons member rest =>
          rw [ofCondition, ofCondition, ofConditionMembers_eq_mapM, ofConditionMembers_eq_mapM]
          refine (Agree.mapM fun member hmember => ?_).map fun _ _ => congrArg _
          exact agree_ofConditionEntry_place (ih member hmember) }

/-! ### Objects with one member -/

variable {selector : Selector} {name : String}

lemma checkDepth_bind_eq_ok_iff {α : Type} {x : Except QueryError α} {a : α} :
    (checkDepth config depth place >>= fun _ => x) = .ok a
      ↔ depth ≤ config.maxSelectorDepth ∧ x = .ok a := by
  rw [bind_eq_ok_iff, exists_and_right, exists_checkDepth_eq_ok_iff]

/-- A selector with one entry is read as that entry. -/
lemma ofTree_single_eq_ok_iff :
    ofTree config inItem place depth (.single key operand) = .ok selector
      ↔ depth ≤ config.maxSelectorDepth
        ∧ ofEntry config inItem (place.key key) depth key operand = .ok selector := by
  rw [Json.single, ofTree, checkDepth_bind_eq_ok_iff, ofMembers_eq_mapM]
  refine and_congr_right fun _ => ?_
  simp only [bind_eq_ok_iff, mapM_eq_ok_iff, List.forall₂_cons_left_iff, List.forall₂_nil_left_iff]
  constructor
  · rintro ⟨_, ⟨part, _, hpart, rfl, rfl⟩, heq⟩
    cases heq
    exact hpart
  · intro hpart
    exact ⟨[selector], ⟨selector, [], hpart, rfl, rfl⟩, rfl⟩

/-- A condition with entries is read as their conjunction. -/
lemma ofCondition_object_eq_ok_iff {entries : Fields Json} (h : entries ≠ []) :
    ofCondition config path place depth (.object entries) = .ok selector
      ↔ ∃ parts, List.Forall₂ (fun entry part =>
          ofConditionEntry config path (place.key entry.1) depth entry.1 entry.2 = .ok part)
          entries parts ∧ allOf parts = selector := by
  obtain ⟨entry, rest, rfl⟩ := List.exists_cons_of_ne_nil h
  rw [ofCondition, map_eq_ok_iff, ofConditionMembers_eq_mapM]
  simp only [mapM_eq_ok_iff]

lemma ofCondition_single_eq_ok_iff :
    ofCondition config path place depth (.single key operand) = .ok selector
      ↔ ofConditionEntry config path (place.key key) depth key operand = .ok selector := by
  rw [Json.single, ofCondition_object_eq_ok_iff (List.cons_ne_nil _ _)]
  simp only [List.forall₂_cons_left_iff, List.forall₂_nil_left_iff]
  constructor
  · rintro ⟨_, ⟨part, _, hpart, rfl, rfl⟩, rfl⟩
    exact hpart
  · intro hpart
    exact ⟨[selector], ⟨selector, [], hpart, rfl, rfl⟩, rfl⟩

/-- A field name in a condition goes on from the path of the condition. -/
lemma ofConditionEntry_field_eq_ok_iff (hkey : ¬ IsOperator key) :
    ofConditionEntry config path place depth key operand = .ok selector
      ↔ ∃ child, FieldPath.ofText? key = some child
        ∧ (path.child child).depth ≤ config.maxPathDepth
        ∧ ofCondition config (path.child child) place depth operand = .ok selector := by
  simp only [ofConditionEntry, Key.ofText_eq_field_iff.mpr hkey, bind_eq_ok_iff,
    FieldPath.ofKey_eq_ok_iff]
  constructor
  · rintro ⟨child, ⟨hchild, -⟩, hselector⟩
    split_ifs at hselector with hdepth
    · cases hselector
    · exact ⟨child, hchild, Nat.not_lt.mp hdepth, hselector⟩
  · rintro ⟨child, hchild, hdepth, hselector⟩
    refine ⟨child, ⟨hchild, ?_⟩, ?_⟩
    · rw [FieldPath.depth_child] at hdepth
      omega
    · rwa [if_neg (Nat.not_lt.mpr hdepth)]

/-- A selector with one field is read as the condition on it. -/
lemma ofTree_field_eq_ok_iff (hkey : ¬ IsOperator key) :
    ofTree config inItem place depth (.single key operand) = .ok selector
      ↔ depth ≤ config.maxSelectorDepth ∧ ∃ path, FieldPath.ofText? key = some path
        ∧ path.depth ≤ config.maxPathDepth
        ∧ ofCondition config path (place.key key) depth operand = .ok selector := by
  rw [ofTree_single_eq_ok_iff, ofEntry_of_field (Key.ofText_eq_field_iff.mpr hkey),
    ofConditionEntry_field_eq_ok_iff hkey]
  rfl

/-! ### Main statement -/

/-- A name that goes on after a dot is no operator either. -/
lemma not_isOperator_dotted (hkey : ¬ IsOperator key) (hpath : FieldPath.ofText? key = some path)
    (name : String) : ¬ IsOperator (key ++ "." ++ name) := by
  have hne : key.toList ≠ [] := by
    intro hnil
    rw [FieldPath.ofText?, hnil] at hpath
    cases hpath
  obtain ⟨c, rest, hlist⟩ := List.exists_cons_of_ne_nil hne
  rw [IsOperator, hlist] at hkey
  rw [IsOperator, String.append_assoc, String.toList_append, hlist]
  exact hkey

/-- A field below another one, by nesting or by a dot. -/
lemma ofTree_nested_eq_ok_iff (hkey : ¬ IsOperator key) (hpath : FieldPath.ofText? key = some path)
    (hend : ¬ FieldPath.EndsUnpaired key) (hname : ¬ IsOperator name) :
    ofTree config inItem place depth (.single key (.single name operand)) = .ok selector
      ↔ ofTree config inItem place depth (.single (key ++ "." ++ name) operand) = .ok selector := by
  rw [ofTree_field_eq_ok_iff hkey,
    ofTree_field_eq_ok_iff (not_isOperator_dotted hkey hpath name)]
  refine and_congr_right fun _ => ?_
  simp only [hpath, Option.some.injEq, exists_eq_left', ofCondition_single_eq_ok_iff,
    ofConditionEntry_field_eq_ok_iff hname, FieldPath.ofText?_dotted hpath hend,
    Option.map_eq_some_iff]
  constructor
  · rintro ⟨-, child, hchild, hdepth, hselector⟩
    refine ⟨_, ⟨child, hchild, rfl⟩, hdepth, ?_⟩
    exact (((readAnywhere operand).condition ..).eq_ok_iff selector).mp hselector
  · rintro ⟨_, ⟨child, hchild, rfl⟩, hdepth, hselector⟩
    refine ⟨?_, child, hchild, hdepth, ?_⟩
    · rw [FieldPath.depth_child] at hdepth
      omega
    · exact (((readAnywhere operand).condition ..).eq_ok_iff selector).mp hselector

section Entries

variable {entries : Fields Json} (hkey : ¬ IsOperator key)
  (hpath : FieldPath.ofText? key = some path)

include hkey hpath

/-- A field with a condition is read entry by entry, under limits that do not depend on the
entries. -/
lemma ofTree_entries_eq_ok_iff (hne : entries ≠ []) :
    ofTree config inItem place depth (.single key (.object entries)) = .ok selector
      ↔ (depth ≤ config.maxSelectorDepth ∧ path.depth ≤ config.maxPathDepth)
        ∧ ∃ parts, List.Forall₂ (fun entry part => ofConditionEntry config path
            ((place.key key).key entry.1) depth entry.1 entry.2 = .ok part) entries parts
          ∧ allOf parts = selector := by
  rw [ofTree_field_eq_ok_iff hkey]
  simp only [hpath, Option.some.injEq, exists_eq_left', ofCondition_object_eq_ok_iff hne, and_assoc]

lemma ofTree_entry_eq_ok_iff :
    ofTree config inItem place depth (.single key (.single name operand)) = .ok selector
      ↔ (depth ≤ config.maxSelectorDepth ∧ path.depth ≤ config.maxPathDepth)
        ∧ ofConditionEntry config path ((place.key key).key name) depth name operand
          = .ok selector := by
  rw [ofTree_field_eq_ok_iff hkey]
  simp only [hpath, Option.some.injEq, exists_eq_left', ofCondition_single_eq_ok_iff, and_assoc]

/-- A condition with entries is accepted if and only if each entry is accepted on its own. -/
lemma exists_ofTree_entries_eq_ok_iff (hne : entries ≠ []) :
    (∃ selector, ofTree config inItem place depth (.single key (.object entries)) = .ok selector)
      ↔ ∀ entry ∈ entries, ∃ part,
        ofTree config inItem place depth (.single key (.single entry.1 entry.2)) = .ok part := by
  simp only [ofTree_entries_eq_ok_iff hkey hpath hne, ofTree_entry_eq_ok_iff hkey hpath]
  constructor
  · rintro ⟨_, hlimits, parts, hparts, -⟩ entry hentry
    obtain ⟨part, -, hpart⟩ := (Matched.of_forall₂ hparts).left entry hentry
    exact ⟨part, hlimits, hpart⟩
  · intro h
    obtain ⟨first, hfirst⟩ := List.exists_mem_of_ne_nil entries hne
    obtain ⟨_, hlimits, -⟩ := h first hfirst
    obtain ⟨parts, hparts⟩ := exists_mapM_eq_ok_iff.mpr fun entry hentry =>
      (h entry hentry).imp fun _ hpart => hpart.2
    exact ⟨_, hlimits, parts, mapM_eq_ok_iff.mp hparts, rfl⟩

/-- A condition with entries holds if and only if each entry holds on its own. -/
lemma holds_entries_iff (hne : entries ≠ [])
    (h : ofTree config inItem place depth (.single key (.object entries)) = .ok selector)
    (read : FieldPath → Option Value) :
    selector.holds read = true ↔ ∀ entry ∈ entries, ∃ part,
      ofTree config inItem place depth (.single key (.single entry.1 entry.2)) = .ok part
        ∧ part.holds read = true := by
  obtain ⟨hlimits, parts, hparts, rfl⟩ := (ofTree_entries_eq_ok_iff hkey hpath hne).mp h
  rw [holds_allOf]
  refine allHold_iff_of_forall₂ (hparts.imp fun entry part hpart => ?_)
  simp only [ofTree_entry_eq_ok_iff hkey hpath, hlimits, and_self, true_and, hpart,
    Except.ok.injEq, exists_eq_left']

end Entries

/-- **Nested conditions are read as dotted paths.**  Under a field name that is a path and does not
end in a backslash of its own, a condition on one further field is accepted if and only if the
dotted name is, and as the same selector.  A condition with several entries is accepted if and only
if each of them is, and holds of a subject if and only if each of them does.  With `inItem` set the
selector stands within `$elemMatch`; `Selector.ofJsonWith` reads at the depth zero without it. -/
theorem nested_reads_as_dotted (config : QueryConfig) (inItem : Bool) (place : Location)
    (depth : Nat) {key : String} {path : FieldPath} (hkey : ¬ IsOperator key)
    (hpath : FieldPath.ofText? key = some path) (hend : ¬ FieldPath.EndsUnpaired key) :
    (∀ name operand, ¬ IsOperator name → ∀ selector,
      ofTree config inItem place depth (.single key (.single name operand)) = .ok selector
        ↔ ofTree config inItem place depth (.single (key ++ "." ++ name) operand) = .ok selector)
    ∧ ∀ entries : Fields Json, entries ≠ [] →
      ((∃ selector,
          ofTree config inItem place depth (.single key (.object entries)) = .ok selector)
        ↔ ∀ entry ∈ entries, ∃ part,
          ofTree config inItem place depth (.single key (.single entry.1 entry.2)) = .ok part)
      ∧ ∀ selector,
        ofTree config inItem place depth (.single key (.object entries)) = .ok selector →
          ∀ subject : Subject, selector.holds subject.at? = true ↔ ∀ entry ∈ entries, ∃ part,
            ofTree config inItem place depth (.single key (.single entry.1 entry.2)) = .ok part
              ∧ part.holds subject.at? = true := by
  refine ⟨fun name operand hname selector => ?_, fun entries hne => ⟨?_, ?_⟩⟩
  · exact ofTree_nested_eq_ok_iff hkey hpath hend hname
  · exact exists_ofTree_entries_eq_ok_iff hkey hpath hne
  · exact fun selector h subject => holds_entries_iff hkey hpath hne h subject.at?

/-- The net sum is at least two, and there is something at all. -/
def unitEntries : Fields Json :=
  [("net", .single "sum" (.single "$gte" (.number (.int 2)))), ("$exists", .bool true)]

/-- What the first of them is read as below a name that ends in an escaped backslash. -/
def netSumTest : Selector :=
  .field ⟨["unit\\", "net", "sum"]⟩ (.compare .gte (Value.ofJson (.number (.int 2))))

theorem unit_reads_as_dotted :
    ¬ IsOperator "unit\\\\" ∧ FieldPath.ofText? "unit\\\\" = some ⟨["unit\\"]⟩
      ∧ ¬ FieldPath.EndsUnpaired "unit\\\\" ∧ unitEntries ≠ []
      ∧ ofTree .standard true Selector.place 1
          (.single "unit\\\\" (.single "net.sum" (.single "$gte" (.number (.int 2)))))
        = .ok netSumTest
      ∧ ∃ selector, ofTree .standard true Selector.place 1
          (.single "unit\\\\" (.object unitEntries)) = .ok selector := by
  have hkey : ¬ IsOperator "unit\\\\" := by decide
  have hpath : FieldPath.ofText? "unit\\\\" = some ⟨["unit\\"]⟩ := by decide
  have hend : ¬ FieldPath.EndsUnpaired "unit\\\\" := by decide
  have hname : "unit\\\\" ++ "." ++ "net.sum" = "unit\\\\.net.sum" := by decide
  have hne : unitEntries ≠ [] := List.cons_ne_nil _ _
  obtain ⟨hdotted, hentries⟩ :=
    nested_reads_as_dotted .standard true Selector.place 1 hkey hpath hend
  refine ⟨hkey, hpath, hend, hne, (hdotted "net.sum" _ (by decide) _).mpr (hname ▸ rfl), ?_⟩
  refine (hentries unitEntries hne).1.mpr ?_
  rw [unitEntries, List.forall_mem_cons, List.forall_mem_singleton]
  constructor
  · exact ⟨netSumTest, rfl⟩
  · exact ⟨.field ⟨["unit\\"]⟩ (.presence true), rfl⟩

end Selector

end DocQuery
