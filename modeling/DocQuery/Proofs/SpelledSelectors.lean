import DocQuery.Proofs.SelectorEntries
import DocQuery.Proofs.ZeroSigns

/-!
Selectors read from trees that are the same up to the spelling of whole numbers, as integers or as
doubles.

* `Json.withIntegers` (**spelling**): a tree with every whole number spelled as an integer;
* `SameUnlessRefused`: what is read from a tree beside what is read from the same tree with
  integers;
* `FieldTest.IsLargeModulo`: a `$mod` test with a number beyond `2 ^ 53`;
* `Selector.sameReadings`: every tree is read like the same tree with integers, unless a `$mod`
  operand is refused which with integers gives a large `$mod` test.
-/

namespace DocQuery

/-! ### Trees with integers -/

namespace Json

/-- A tree with every whole number in it spelled as an integer. -/
def withIntegers (json : Json) : Json := json.mapNumbers JsonNumber.asInteger

lemma withIntegers_array (items : List Json) :
    withIntegers (.array items) = .array (items.map withIntegers) :=
  Tree.mapNumbers_array _ items

/-- The members of an object with every whole number in them spelled as an integer. -/
def membersWithIntegers (members : Fields Json) : Fields Json :=
  members.map fun member => (member.1, withIntegers member.2)

lemma withIntegers_object (members : Fields Json) :
    withIntegers (.object members) = .object (membersWithIntegers members) :=
  Tree.mapNumbers_object _ members

lemma keys_membersWithIntegers (members : Fields Json) :
    (membersWithIntegers members).keys = members.keys :=
  Fields.keys_map withIntegers members

lemma length_membersWithIntegers (members : Fields Json) :
    (membersWithIntegers members).length = members.length :=
  List.length_map _

lemma get?_membersWithIntegers (members : Fields Json) (key : String) :
    (membersWithIntegers members).get? key = (members.get? key).map withIntegers :=
  Fields.get?_map withIntegers members key

lemma contains_membersWithIntegers (members : Fields Json) (key : String) :
    (membersWithIntegers members).contains key = members.contains key := by
  rw [Fields.contains, Fields.contains, get?_membersWithIntegers, Option.isSome_map]

lemma eq_number_of_withIntegers {json : Json} {n : JsonNumber}
    (h : json.withIntegers = .number n) : ∃ a, json = .number a ∧ a.asInteger = n := by
  cases json with
  | number a =>
    cases h
    exact ⟨a, rfl, rfl⟩
  | _ => cases h

lemma eq_pair_of_withIntegers {json : Json} {m n : JsonNumber}
    (h : json.withIntegers = .array [.number m, .number n]) :
    ∃ a b, json = .array [.number a, .number b] ∧ a.asInteger = m ∧ b.asInteger = n := by
  cases json with
  | array items =>
    rw [withIntegers_array, Tree.array.injEq] at h
    obtain ⟨first, rest, rfl, hfirst, hrest⟩ := List.map_eq_cons_iff.mp h
    obtain ⟨second, rest', rfl, hsecond, hrest'⟩ := List.map_eq_cons_iff.mp hrest
    obtain ⟨a, rfl, ha⟩ := eq_number_of_withIntegers hfirst
    obtain ⟨b, rfl, hb⟩ := eq_number_of_withIntegers hsecond
    cases List.map_eq_nil_iff.mp hrest'
    exact ⟨a, b, rfl, ha, hb⟩
  | _ => cases h

end Json

lemma Value.dropZeroSigns_ofJson (json : Json) :
    (ofJson json.withIntegers).dropZeroSigns = (ofJson json).dropZeroSigns := by
  have h : Binary64.dropZeroSign ∘ JsonNumber.toBinary64 ∘ JsonNumber.asInteger
      = Binary64.dropZeroSign ∘ JsonNumber.toBinary64 :=
    funext JsonNumber.dropZeroSign_asInteger
  simp only [dropZeroSigns, ofJson, Json.withIntegers, Tree.mapNumbers_mapNumbers, h]

/-! ### Readings -/

/-- An outcome beside that for the same tree with integers: the same, or refused for an operand of
`$mod` where the other, if it is a result, has a large number. -/
inductive SameUnlessRefused {α β : Type} (R : α → β → Prop) (large : β → Prop) :
    Except QueryError α → Except QueryError β → Prop
  | failed (e : QueryError) : SameUnlessRefused R large (.error e) (.error e)
  | done {a : α} {b : β} (related : R a b) : SameUnlessRefused R large (.ok a) (.ok b)
  | refused (place : Location) {y : Except QueryError β} (results : ∀ b, y = .ok b → large b) :
      SameUnlessRefused R large (.error (.invalidShape place .operandNotPair)) y

namespace SameUnlessRefused

variable {α β γ δ : Type} {R : α → β → Prop} {S : γ → δ → Prop} {large : β → Prop}
  {large' : δ → Prop} {x : Except QueryError α} {y : Except QueryError β}

lemma bind {f : α → Except QueryError γ} {g : β → Except QueryError δ}
    (h : SameUnlessRefused R large x y)
    (hfg : ∀ a b, R a b → SameUnlessRefused S large' (f a) (g b))
    (hlarge : ∀ b d, large b → g b = .ok d → large' d) :
    SameUnlessRefused S large' (x >>= f) (y >>= g) := by
  cases h with
  | failed e => exact .failed e
  | done related => exact hfg _ _ related
  | refused place results =>
    refine .refused place fun d hd => ?_
    obtain ⟨b, hb, hg⟩ := bind_eq_ok_iff.mp hd
    exact hlarge b d (results b hb) hg

lemma map {f : α → γ} {g : β → δ} (h : SameUnlessRefused R large x y)
    (hfg : ∀ a b, R a b → S (f a) (g b)) (hlarge : ∀ b, large b → large' (g b)) :
    SameUnlessRefused S large' (x.map f) (y.map g) := by
  cases h with
  | failed e => exact .failed e
  | done related => exact .done (hfg _ _ related)
  | refused place results =>
    refine .refused place fun d hd => ?_
    obtain ⟨b, hb, rfl⟩ := map_eq_ok_iff.mp hd
    exact hlarge b (results b hb)

lemma of_eq {R : α → α → Prop} {large : α → Prop} {x y : Except QueryError α} (h : x = y)
    (hR : ∀ a, R a a) : SameUnlessRefused R large x y := by
  subst h
  cases x with
  | error e => exact .failed e
  | ok a => exact .done (hR a)

/-- After a step that does not see the spelling of numbers. -/
lemma after {R : α → β → Prop} (z : Except QueryError γ) {f : γ → Except QueryError α}
    {g : γ → Except QueryError β} (h : ∀ c, SameUnlessRefused R large (f c) (g c)) :
    SameUnlessRefused R large (z >>= f) (z >>= g) := by
  cases z with
  | error e => exact .failed e
  | ok c => exact h c

end SameUnlessRefused

/-! ### Tests of fields -/

namespace FieldTest

/-- A `$mod` test with a number beyond `2 ^ 53`. -/
def IsLargeModulo : FieldTest → Prop
  | .modulo divisor remainder => twoPow 53 < divisor.natAbs ∨ twoPow 53 < remainder.natAbs
  | _ => False

/-- Two tests have the same operands up to the signs of zeros. -/
def SameOperands (test test' : FieldTest) : Prop := test.dropZeroSigns = test'.dropZeroSigns

variable {config : QueryConfig} {place : Location} {operand : Json}

lemma same_valueSet :
    SameUnlessRefused (fun values values' => values.map Value.dropZeroSigns
      = values'.map Value.dropZeroSigns) (fun _ => False) (valueSet config operand place)
      (valueSet config operand.withIntegers place) := by
  cases operand with
  | array items =>
    rw [Json.withIntegers_array, valueSet, valueSet, List.length_map]
    split
    · exact .failed _
    · refine .done ?_
      rw [List.map_map, List.map_map, List.map_map]
      exact List.map_congr_left fun item _ => (Value.dropZeroSigns_ofJson item).symm
  | _ => exact .failed _

variable {divisor remainder : Int}

lemma divisorAndRemainder?_withIntegers
    (h : divisorAndRemainder? operand = some (divisor, remainder)) :
    divisorAndRemainder? operand.withIntegers = some (divisor, remainder) := by
  obtain ⟨first, second, rfl, hfirst, hsecond⟩ := divisorAndRemainder?_eq_some_iff.mp h
  refine divisorAndRemainder?_eq_some_iff.mpr ⟨first.asInteger, second.asInteger, ?_,
    JsonNumber.integer?_asInteger hfirst, JsonNumber.integer?_asInteger hsecond⟩
  exact Json.withIntegers_array _

lemma isLargeModulo_of_divisorAndRemainder? (h : divisorAndRemainder? operand = none)
    (hpair : divisorAndRemainder? operand.withIntegers = some (divisor, remainder)) :
    IsLargeModulo (.modulo divisor remainder) := by
  obtain ⟨_, _, hoperand, hfirst, hsecond⟩ := divisorAndRemainder?_eq_some_iff.mp hpair
  obtain ⟨first, second, rfl, rfl, rfl⟩ := Json.eq_pair_of_withIntegers hoperand
  cases hdivisor : first.integer? with
  | none => exact .inl (JsonNumber.lt_natAbs_of_integer? hdivisor hfirst)
  | some d =>
    cases hremainder : second.integer? with
    | none => exact .inr (JsonNumber.lt_natAbs_of_integer? hremainder hsecond)
    | some r =>
      have hsome := divisorAndRemainder?_eq_some_iff.mpr
        ⟨first, second, rfl, hdivisor, hremainder⟩
      cases h.symm.trans hsome

lemma same_modulo :
    SameUnlessRefused SameOperands IsLargeModulo (ofOperand config .modulo operand place)
      (ofOperand config .modulo operand.withIntegers place) := by
  cases hpair : divisorAndRemainder? operand with
  | some pair =>
    refine .of_eq ?_ fun _ => rfl
    simp only [ofOperand, hpair, divisorAndRemainder?_withIntegers hpair]
  | none =>
    simp only [ofOperand, hpair]
    refine .refused place fun test htest => ?_
    cases hpair' : divisorAndRemainder? operand.withIntegers with
    | none =>
      rw [hpair'] at htest
      cases htest
    | some pair =>
      rw [hpair'] at htest
      dsimp only at htest
      split_ifs at htest
      cases htest
      exact isLargeModulo_of_divisorAndRemainder? hpair hpair'

/-- A test is read from its operand whatever the spelling of numbers is, unless it is a large `$mod`
test. -/
theorem same_ofOperand (operator : TestOperator) :
    SameUnlessRefused SameOperands IsLargeModulo (ofOperand config operator operand place)
      (ofOperand config operator operand.withIntegers place) := by
  have hrefl (test : FieldTest) : SameOperands test test := rfl
  cases operator with
  | compare comparison =>
    exact .done (congrArg (compare comparison) (Value.dropZeroSigns_ofJson operand).symm)
  | isIn => exact same_valueSet.map (fun _ _ => congrArg isIn) fun _ => False.elim
  | notIn => exact same_valueSet.map (fun _ _ => congrArg notIn) fun _ => False.elim
  | containsAll => exact same_valueSet.map (fun _ _ => congrArg containsAll) fun _ => False.elim
  | presence => exact .of_eq (by cases operand <;> rfl) hrefl
  | kind => exact .of_eq (by cases operand <;> rfl) hrefl
  | size =>
    refine .of_eq ?_ hrefl
    cases operand with
    | number n =>
      change ofOperand config .size (.number n) place
        = ofOperand config .size (.number n.asInteger) place
      simp only [ofOperand, Tree.asNumber?, Option.bind_some, JsonNumber.count?_asInteger]
    | _ => rfl
  | modulo => exact same_modulo
  | like => exact .of_eq (by cases operand <;> rfl) hrefl
  | regex => exact .of_eq (by cases operand <;> rfl) hrefl

end FieldTest

/-! ### Selectors -/

namespace Selector

mutual

/-- The tests of fields in a selector. -/
def tests : Selector → List FieldTest
  | .always => []
  | .and children => testsAll children
  | .or children => testsAll children
  | .nor children => testsAll children
  | .not child => child.tests
  | .field _ test => [test]
  | .elemMatch _ child => child.tests

/-- The tests of fields in some selectors. -/
def testsAll : List Selector → List FieldTest
  | [] => []
  | s :: rest => s.tests ++ testsAll rest

end

/-- A selector with a large `$mod` test. -/
def HasLargeModulo (selector : Selector) : Prop := ∃ test ∈ selector.tests, test.IsLargeModulo

/-- Two selectors are the same but for the signs of zeros in their operands. -/
def SameOperands (selector selector' : Selector) : Prop :=
  selector.dropZeroSigns = selector'.dropZeroSigns

variable {config : QueryConfig} {inItem : Bool} {path : FieldPath} {place : Location} {depth : Nat}
  {parts parts' : List Selector} {child child' : Selector} {operand json : Json}

lemma testsAll_eq_flatMap (children : List Selector) :
    testsAll children = children.flatMap tests := by
  induction children with
  | nil => rfl
  | cons child rest ih => rw [testsAll, ih, List.flatMap_cons]

lemma tests_apply (connective : Connective) (children : List Selector) :
    (connective.apply children).tests = children.flatMap tests := by
  rw [← testsAll_eq_flatMap]
  cases connective <;> rfl

lemma tests_allOf (parts : List Selector) : (allOf parts).tests = parts.flatMap tests := by
  match parts with
  | [] => rfl
  | [part] => rw [allOf, List.flatMap_singleton]
  | part :: other :: rest => exact tests_apply .and _

lemma dropZeroSigns_apply (connective : Connective) (children : List Selector) :
    (connective.apply children).dropZeroSigns = connective.apply (children.map dropZeroSigns) := by
  rw [← dropZeroSignsAll_eq_map]
  cases connective <;> rfl

lemma dropZeroSigns_allOf (parts : List Selector) :
    (allOf parts).dropZeroSigns = allOf (parts.map dropZeroSigns) := by
  match parts with
  | [] => rfl
  | [part] => rfl
  | part :: other :: rest => exact dropZeroSigns_apply .and _

mutual

lemma tests_dropZeroSigns (selector : Selector) :
    selector.dropZeroSigns.tests = selector.tests.map FieldTest.dropZeroSigns := by
  match selector with
  | .always => rfl
  | .and children => exact testsAll_dropZeroSignsAll children
  | .or children => exact testsAll_dropZeroSignsAll children
  | .nor children => exact testsAll_dropZeroSignsAll children
  | .not child => exact tests_dropZeroSigns child
  | .field _ test => rfl
  | .elemMatch _ child => exact tests_dropZeroSigns child

lemma testsAll_dropZeroSignsAll (children : List Selector) :
    testsAll (dropZeroSignsAll children) = (testsAll children).map FieldTest.dropZeroSigns := by
  match children with
  | [] => rfl
  | child :: rest =>
    rw [dropZeroSignsAll, testsAll, testsAll, List.map_append, tests_dropZeroSigns child,
      testsAll_dropZeroSignsAll rest]

end

lemma hasLargeModulo_dropZeroSigns (selector : Selector) :
    selector.dropZeroSigns.HasLargeModulo ↔ selector.HasLargeModulo := by
  have htest (test : FieldTest) : test.dropZeroSigns.IsLargeModulo ↔ test.IsLargeModulo := by
    cases test <;> rfl
  simp [HasLargeModulo, tests_dropZeroSigns, htest]

/-- Some selectors of which one has a large `$mod` test. -/
def AnyLargeModulo (parts : List Selector) : Prop := ∃ part ∈ parts, part.HasLargeModulo

lemma map_dropZeroSigns_eq (h : List.Forall₂ SameOperands parts parts') :
    parts.map dropZeroSigns = parts'.map dropZeroSigns := by
  induction h with
  | nil => rfl
  | cons hpart _ ih => rw [List.map_cons, List.map_cons, ih, hpart]

lemma sameOperands_apply (connective : Connective) (h : List.Forall₂ SameOperands parts parts') :
    SameOperands (connective.apply parts) (connective.apply parts') := by
  rw [SameOperands, dropZeroSigns_apply, dropZeroSigns_apply, map_dropZeroSigns_eq h]

lemma sameOperands_allOf (h : List.Forall₂ SameOperands parts parts') :
    SameOperands (allOf parts) (allOf parts') := by
  rw [SameOperands, dropZeroSigns_allOf, dropZeroSigns_allOf, map_dropZeroSigns_eq h]

lemma hasLargeModulo_of_flatMap {selector : Selector}
    (htests : selector.tests = parts.flatMap tests) (h : AnyLargeModulo parts) :
    selector.HasLargeModulo := by
  obtain ⟨part, hpart, test, htest, hlarge⟩ := h
  refine ⟨test, ?_, hlarge⟩
  rw [htests]
  exact List.mem_flatMap.mpr ⟨part, hpart, htest⟩

lemma SameOperands.hasLargeModulo_iff {selector selector' : Selector}
    (h : selector.SameOperands selector') :
    selector.HasLargeModulo ↔ selector'.HasLargeModulo := by
  rw [← hasLargeModulo_dropZeroSigns, h, hasLargeModulo_dropZeroSigns]

/-! ### Readings of selectors -/

/-- The reading of a selector beside that with integers. -/
abbrev SameReading : Except QueryError Selector → Except QueryError Selector → Prop :=
  SameUnlessRefused SameOperands HasLargeModulo

/-- The reading of some selectors beside that with integers. -/
abbrev SameReadingOfParts :
    Except QueryError (List Selector) → Except QueryError (List Selector) → Prop :=
  SameUnlessRefused (List.Forall₂ SameOperands) AnyLargeModulo

/-- What is read from a tree, as a selector, as an array of selectors or as a condition, is the same
as with integers, unless a `$mod` operand is refused. -/
structure SameReadings (json : Json) : Prop where
  selector : ∀ config inItem place depth,
    SameReading (ofTree config inItem place depth json)
      (ofTree config inItem place depth json.withIntegers)
  parts : ∀ {items}, json = .array items → ∀ item ∈ items, ∀ config inItem place depth,
    SameReading (ofTree config inItem place depth item)
      (ofTree config inItem place depth (Json.withIntegers item))
  condition : ∀ config path place depth,
    SameReading (ofCondition config path place depth json)
      (ofCondition config path place depth json.withIntegers)

/-- A list of selectors is read one after the other; the first refusal ends both readings. -/
lemma same_cons {x y : Except QueryError Selector} {xs ys : Except QueryError (List Selector)}
    (h : SameReading x y) (hrest : SameReadingOfParts xs ys) :
    SameReadingOfParts (do return (← x) :: (← xs)) (do return (← y) :: (← ys)) := by
  refine h.bind (fun part part' hpart => hrest.bind (fun later later' hlater => ?_) ?_) ?_
  · exact .done (.cons hpart hlater)
  · rintro later _ ⟨test, htest, hlarge⟩ ⟨⟩
    exact ⟨test, List.mem_cons_of_mem _ htest, hlarge⟩
  · rintro part parts hlarge hparts
    obtain ⟨later, _, hcons⟩ := bind_eq_ok_iff.mp hparts
    cases hcons
    exact ⟨part, List.mem_cons_self, hlarge⟩

lemma same_mapM {α : Type} {as : List α} {f g : α → Except QueryError Selector}
    (h : ∀ a ∈ as, SameReading (f a) (g a)) : SameReadingOfParts (as.mapM f) (as.mapM g) := by
  induction as with
  | nil => exact .done .nil
  | cons a rest ih =>
    rw [List.forall_mem_cons] at h
    rw [List.mapM_cons, List.mapM_cons]
    exact same_cons h.1 (ih h.2)

lemma same_ofItems {items : List Json}
    (h : ∀ item ∈ items, ∀ place, SameReading (ofTree config inItem place depth item)
      (ofTree config inItem place depth (Json.withIntegers item))) (i : Nat) :
    SameReadingOfParts (ofItems config inItem place depth i items)
      (ofItems config inItem place depth i (items.map Json.withIntegers)) := by
  induction items generalizing i with
  | nil => exact .done .nil
  | cons item rest ih =>
    rw [List.forall_mem_cons] at h
    rw [List.map_cons, ofItems, ofItems]
    exact same_cons (h.1 _) (ih h.2 (i + 1))

lemma same_field {x y : Except QueryError FieldTest}
    (h : SameUnlessRefused FieldTest.SameOperands FieldTest.IsLargeModulo x y) (path : FieldPath) :
    SameReading (x.map (.field path)) (y.map (.field path)) :=
  h.map (fun _ _ htest => congrArg (field path) htest)
    fun test hlarge => ⟨test, List.mem_singleton_self test, hlarge⟩

lemma same_elemMatch {x y : Except QueryError Selector} (h : SameReading x y) (path : FieldPath) :
    SameReading (x.map (.elemMatch path)) (y.map (.elemMatch path)) :=
  h.map (fun _ _ hchild => congrArg (elemMatch path) hchild) fun _ hlarge => hlarge

/-- An entry of a condition is read the same if what it contains is. -/
theorem same_ofConditionEntry (key : String) (h : SameReadings operand) :
    SameReading (ofConditionEntry config path place depth key operand)
      (ofConditionEntry config path place depth key operand.withIntegers) := by
  simp only [ofConditionEntry]
  cases Key.ofText key with
  | connective connective => exact .failed _
  | not =>
    refine .after _ fun _ => (h.condition ..).bind (fun _ _ hchild => ?_) ?_
    · exact .done (congrArg not hchild)
    · rintro child _ hlarge ⟨⟩
      exact hlarge
  | elemMatch => exact same_elemMatch (h.selector ..) path
  | test operator => exact same_field (FieldTest.same_ofOperand operator) path
  | unknown => exact .failed _
  | field =>
    refine .after _ fun child => ?_
    split
    · exact .failed _
    · exact h.condition ..

/-- An entry of a selector is read the same if what it contains is. -/
theorem same_ofEntry (key : String) (h : SameReadings operand) :
    SameReading (ofEntry config inItem place depth key operand)
      (ofEntry config inItem place depth key operand.withIntegers) := by
  cases hkey : Key.ofText key with
  | connective connective =>
    simp only [ofEntry, hkey]
    cases operand with
    | array items =>
      rw [Json.withIntegers_array]
      cases items with
      | nil => exact .failed _
      | cons item rest =>
        refine (same_ofItems (fun item hitem place => h.parts rfl item hitem ..) 0).map ?_ ?_
        · exact fun _ _ => sameOperands_apply connective
        · exact fun children => hasLargeModulo_of_flatMap (tests_apply connective children)
    | _ => exact .failed _
  | not =>
    cases operand with
    | object members =>
      have hselector := h.selector config inItem place (depth + 1)
      rw [Json.withIntegers_object] at hselector ⊢
      rw [ofEntry_not hkey, ofEntry_not hkey]
      exact hselector.map (fun _ _ hchild => congrArg not hchild) fun _ hlarge => hlarge
    | _ =>
      simp only [ofEntry, hkey]
      exact .failed _
  | elemMatch =>
    simp only [ofEntry, hkey]
    split
    · exact same_elemMatch (h.selector ..) .root
    · exact .failed _
  | test operator =>
    simp only [ofEntry, hkey]
    split
    · exact same_field (FieldTest.same_ofOperand operator) .root
    · exact .failed _
  | unknown =>
    simp only [ofEntry, hkey]
    exact .failed _
  | field =>
    simp only [ofEntry, hkey]
    exact .after _ fun path => h.condition ..

lemma same_ofMembers {members : Fields Json} (h : ∀ member ∈ members, SameReadings member.2) :
    SameReadingOfParts (ofMembers config inItem place depth members)
      (ofMembers config inItem place depth (Json.membersWithIntegers members)) := by
  rw [ofMembers_eq_mapM, ofMembers_eq_mapM, Json.membersWithIntegers, List.mapM_map]
  exact same_mapM fun member hmember => same_ofEntry member.1 (h member hmember)

lemma same_ofConditionMembers {members : Fields Json}
    (h : ∀ member ∈ members, SameReadings member.2) :
    SameReadingOfParts (ofConditionMembers config path place depth members)
      (ofConditionMembers config path place depth (Json.membersWithIntegers members)) := by
  rw [ofConditionMembers_eq_mapM, ofConditionMembers_eq_mapM, Json.membersWithIntegers,
    List.mapM_map]
  exact same_mapM fun member hmember => same_ofConditionEntry member.1 (h member hmember)

lemma same_literal (json : Json) (path : FieldPath) :
    SameReading (.ok (.field path (.compare .eq (Value.ofJson json))))
      (.ok (.field path (.compare .eq (Value.ofJson json.withIntegers)))) :=
  .done (congrArg (fun value => field path (.compare .eq value))
    (Value.dropZeroSigns_ofJson json).symm)

lemma SameReadings.of_members {members : Fields Json}
    (h : ∀ member ∈ members, SameReadings member.2) : SameReadings (.object members) where
  selector config inItem place depth := by
    rw [Json.withIntegers_object, ofTree, ofTree]
    refine .after _ fun _ => (same_ofMembers h).bind (fun _ _ hparts => ?_) ?_
    · exact .done (sameOperands_allOf hparts)
    · rintro parts _ hlarge ⟨⟩
      exact hasLargeModulo_of_flatMap (tests_allOf parts) hlarge
  parts := nofun
  condition config path place depth := by
    cases members with
    | nil => exact same_literal (.object []) path
    | cons member rest =>
      rw [Json.withIntegers_object]
      refine (same_ofConditionMembers h).map (fun _ _ => sameOperands_allOf) fun parts => ?_
      exact hasLargeModulo_of_flatMap (tests_allOf parts)

/-- What is no object is no selector, and as a condition it is a literal. -/
lemma SameReadings.of_kind_ne (hkind : json.kind ≠ .object)
    (hparts : ∀ {items}, json = .array items → ∀ item ∈ items, SameReadings item) :
    SameReadings json where
  selector config inItem place depth := by
    cases json with
    | object members => exact absurd rfl hkind
    | _ => exact .after _ fun _ => .failed _
  parts hjson item hitem := (hparts hjson item hitem).selector
  condition config path place depth := by
    have hliteral := same_literal json path
    cases json with
    | object members => exact absurd rfl hkind
    | _ => exact hliteral

/-- **Every tree is read like the same tree with integers, unless a `$mod` operand is refused.** -/
theorem sameReadings (json : Json) : SameReadings json := by
  induction json using Tree.induction_objects with
  | other json hkind ih => exact .of_kind_ne hkind ih
  | object members ih => exact .of_members ih

end Selector

end DocQuery
