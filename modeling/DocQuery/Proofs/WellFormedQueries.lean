import DocQuery.Proofs.PathText
import DocQuery.Proofs.SelectorGrammar
import DocQuery.Query.OfJson

/-!
Queries that are read are well formed: what their readers refuse does not occur anywhere in them.

* `FieldPath.WellFormed`, `FieldTest.WellFormed` and `Selector.WellFormed` (**selectors**): paths
  have segments and no segment is empty, connectives combine something, divisors are not zero;
* `Query.WellFormed` (**queries**) and `Query.ListsEntriesOf`: the same for sort keys, projection
  and page, and the lists have the entries of the tree in its order;
* `Selector.checkedHolds`: evaluation that stops at a remainder that does not exist;
* `Selector.WellFormed.checkedHolds`: it never stops on a well-formed selector;
* `Query.wellFormed_of_ofJsonWith` (**main statement**).
-/

namespace DocQuery

/-! ### Well-formed selectors -/

/-- A path without empty segments, which may be the root only within `$elemMatch`. -/
structure FieldPath.WellFormed (inItem : Bool) (path : FieldPath) : Prop where
  segments : ∀ segment ∈ path.segments, segment ≠ ""
  nonempty : inItem = false → path.segments ≠ []

/-- A whole number that 64 bits with sign can hold. -/
def FitsInt64 (n : Int) : Prop := -(twoPow 63 : Int) ≤ n ∧ n < twoPow 63

instance (n : Int) : Decidable (FitsInt64 n) :=
  inferInstanceAs (Decidable (_ ∧ _))

/-- A test whose divisor is not zero and whose length is a count. -/
def FieldTest.WellFormed : FieldTest → Prop
  | .modulo divisor remainder => divisor ≠ 0 ∧ FitsInt64 divisor ∧ FitsInt64 remainder
  | .hasSize size => size ≤ twoPow 53
  | _ => True

/-- A selector that combines at least one selector wherever it combines some, and whose paths and
tests are well formed.  With `inItem` set it stands within `$elemMatch`. -/
inductive Selector.WellFormed : Bool → Selector → Prop
  | always {inItem : Bool} : WellFormed inItem .always
  | and {inItem : Bool} {children : List Selector} (nonempty : children ≠ [])
      (each : ∀ child ∈ children, WellFormed inItem child) : WellFormed inItem (.and children)
  | or {inItem : Bool} {children : List Selector} (nonempty : children ≠ [])
      (each : ∀ child ∈ children, WellFormed inItem child) : WellFormed inItem (.or children)
  | nor {inItem : Bool} {children : List Selector} (nonempty : children ≠ [])
      (each : ∀ child ∈ children, WellFormed inItem child) : WellFormed inItem (.nor children)
  | not {inItem : Bool} {child : Selector} (inner : WellFormed inItem child) :
      WellFormed inItem (.not child)
  | field {inItem : Bool} {path : FieldPath} {test : FieldTest} (hpath : path.WellFormed inItem)
      (htest : test.WellFormed) : WellFormed inItem (.field path test)
  | elemMatch {inItem : Bool} {path : FieldPath} {child : Selector}
      (hpath : path.WellFormed inItem) (inner : WellFormed true child) :
      WellFormed inItem (.elemMatch path child)

/-! ### Evaluation with checked remainders -/

/-- The remainder of a division of whole numbers of 64 bits with sign.  There is none if the divisor
is zero or the quotient takes more bits. -/
def checkedRemainder (n divisor : Int) : Option Int :=
  if divisor ≠ 0 ∧ FitsInt64 (n.tdiv divisor) then some (n.tmod divisor) else none

/-- Whether a test holds of a field; none at a remainder that does not exist. -/
def FieldTest.checkedHolds (test : FieldTest) (field : Option Value) : Option Bool :=
  match test with
  | .modulo divisor remainder =>
    match field.bind smallInteger? with
    | some n => (checkedRemainder n divisor).map fun found => decide (found = remainder)
    | none => some false
  | test => some (test.holds field)

namespace Selector

mutual

/-- Whether a selector holds, given what is at each path; none if a remainder does not exist in any
part of it, whether or not the other parts decide already. -/
def checkedHolds : Selector → (FieldPath → Option Value) → Option Bool
  | .always, _ => some true
  | .and children, read => (checkedEach children read).map (·.all id)
  | .or children, read => (checkedEach children read).map (·.any id)
  | .nor children, read => (checkedEach children read).map (!·.any id)
  | .not child, read => (child.checkedHolds read).map (!·)
  | .field path test, read => test.checkedHolds (read path)
  | .elemMatch path child, read =>
    match (read path).bind Tree.asArray? with
    | some items =>
      (items.mapM fun item => child.checkedHolds fun p => item.lookup p.segments).map (·.any id)
    | none => some false

/-- Whether each of several selectors holds. -/
def checkedEach : List Selector → (FieldPath → Option Value) → Option (List Bool)
  | [], _ => some []
  | s :: rest, read => do
    let first ← s.checkedHolds read
    let later ← checkedEach rest read
    return first :: later

end

end Selector

/-! ### Well-formed queries -/

/-- A tree that a projection lists, as the text of a path. -/
def FieldPath.WrittenAs (item : Json) (path : FieldPath) : Prop :=
  ∃ text, item = .string text ∧ FieldPath.ofText? text = some path

/-- A tree that stands for a sort key: a path, an object from a path to a direction, or an object
that spells both out. -/
inductive SortKey.WrittenAs : Json → SortKey → Prop
  | path {text : String} {path : FieldPath} (segments : FieldPath.ofText? text = some path) :
      WrittenAs (.string text) ⟨path, .ascending⟩
  | pair {key : String} {json : Json} {path : FieldPath} {direction : Direction}
      (short : ¬ isSpelledOut [(key, json)]) (segments : FieldPath.ofText? key = some path)
      (named : Direction.ofJson? json = some direction) :
      WrittenAs (.object [(key, json)]) ⟨path, direction⟩
  | spelledOut {members : Fields Json} {text : String} {path : FieldPath} {direction : Direction}
      (spelled : isSpelledOut members) (written : members.get? "path" = some (.string text))
      (segments : FieldPath.ofText? text = some path)
      (named : ∀ json, members.get? "direction" = some json →
        Direction.ofJson? json = some direction)
      (unnamed : members.get? "direction" = none → direction = .ascending) :
      WrittenAs (.object members) ⟨path, direction⟩

/-- A tree that is an array with one item for each element of a list, in order. -/
def Json.Lists {α : Type} (writtenAs : Json → α → Prop) (json : Json) (as : List α) : Prop :=
  ∃ items, json = .array items ∧ List.Forall₂ writtenAs items as

namespace Query

/-- A query whose selector and paths are well formed, and which skips and returns a count. -/
structure WellFormed (query : Query) : Prop where
  selector : query.selector.WellFormed false
  projection : ∀ paths, query.projection = some paths → ∀ path ∈ paths, path.WellFormed false
  sort : ∀ key ∈ query.sort, key.path.WellFormed false
  skip : query.skip ≤ twoPow 53
  limit : ∀ limit, query.limit = some limit → limit ≤ twoPow 53

/-- The paths of the projection and the sort keys are those that the members list. -/
structure ListsEntriesOf (members : Fields Json) (query : Query) : Prop where
  projection : Option.Rel (Json.Lists FieldPath.WrittenAs)
    (valueOf? members "fields" "projection") query.projection
  sort : Json.Lists SortKey.WrittenAs ((members.get? "sort").getD (.array [])) query.sort

end Query

/-! ### Paths and tests -/

namespace FieldPath

variable {inItem : Bool} {path other : FieldPath} {text : String}

/-- A path that is read has segments, and none of them is empty. -/
lemma wellFormed_of_ofText? (h : ofText? text = some path) : path.WellFormed inItem := by
  unfold ofText? at h
  dsimp only at h
  split_ifs at h with hempty
  cases h
  constructor
  · rintro segment hsegment rfl
    obtain ⟨piece, hpiece, hlist⟩ := List.mem_map.mp hsegment
    have hnil : piece = [] := by simpa using hlist
    exact hempty (List.any_eq_true.mpr ⟨piece, hpiece, by simp [hnil]⟩)
  · intro _ hnil
    exact pieces_ne_nil _ _ (List.map_eq_nil_iff.mp hnil)

lemma wellFormed_root : root.WellFormed true :=
  ⟨nofun, nofun⟩

/-- A well-formed path that goes on is well formed. -/
lemma WellFormed.child (h : path.WellFormed inItem) (hother : other.WellFormed inItem) :
    (path.child other).WellFormed inItem where
  segments segment hsegment := by
    obtain hmem | hmem := List.mem_append.mp hsegment
    · exact h.segments segment hmem
    · exact hother.segments segment hmem
  nonempty hout hnil := h.nonempty hout (List.append_eq_nil_iff.mp hnil).1

end FieldPath

/-! ### Lists -/

/-- What a relation gives for every element on its left holds of all on its right. -/
lemma forall_of_forall₂ {α β : Type} {R : α → β → Prop} {motive : β → Prop} {as : List α}
    {bs : List β} (h : List.Forall₂ R as bs) (himp : ∀ a ∈ as, ∀ b, R a b → motive b) :
    ∀ b ∈ bs, motive b := by
  induction h with
  | nil => simp
  | cons hab _ ih =>
    rw [List.forall_mem_cons] at himp ⊢
    exact ⟨himp.1 _ hab, ih himp.2⟩

section Readings

variable {config : QueryConfig} {place : Location} {depth : Nat} {operand : Json}

lemma FieldPath.wellFormed_of_ofKey {inItem : Bool} {key : String} {path : FieldPath}
    (h : ofKey config key place = .ok path) : path.WellFormed inItem :=
  wellFormed_of_ofText? (ofText?_of_ofKey h)

lemma JsonNumber.le_of_count? {number : JsonNumber} {n : Nat} (h : number.count? = some n) :
    n ≤ twoPow 53 :=
  (count?_eq_some_iff.mp h).2

lemma fitsInt64_of_natAbs_le {n : Int} (h : n.natAbs ≤ twoPow 53) : FitsInt64 n := by
  have hlt : twoPow 53 < twoPow 63 := by decide
  unfold FitsInt64
  omega

lemma JsonNumber.fitsInt64_of_integer? {number : JsonNumber} {n : Int}
    (h : number.integer? = some n) : FitsInt64 n := by
  have hrange := (integer?_eq_some_iff.mp h).2
  cases number with
  | int m => exact hrange
  | double x => exact fitsInt64_of_natAbs_le hrange

/-- A test that is read is well formed. -/
lemma FieldTest.wellFormed_of_ofOperand {operator : TestOperator} {test : FieldTest}
    (h : ofOperand config operator operand place = .ok test) : test.WellFormed := by
  unfold ofOperand at h
  cases operator with
  | size =>
    dsimp only at h
    split at h
    · next size hsize =>
      cases h
      obtain ⟨number, -, hcount⟩ := Option.bind_eq_some_iff.mp hsize
      exact JsonNumber.le_of_count? hcount
    · cases h
  | modulo =>
    dsimp only at h
    split at h
    · next divisor remainder hpair =>
      split_ifs at h with hzero
      cases h
      obtain ⟨first, second, -, hfirst, hsecond⟩ := divisorAndRemainder?_eq_some_iff.mp hpair
      exact ⟨hzero, JsonNumber.fitsInt64_of_integer? hfirst,
        JsonNumber.fitsInt64_of_integer? hsecond⟩
    · cases h
  | compare comparison =>
    cases h
    trivial
  | isIn =>
    obtain ⟨values, -, rfl⟩ := map_eq_ok_iff.mp h
    trivial
  | notIn =>
    obtain ⟨values, -, rfl⟩ := map_eq_ok_iff.mp h
    trivial
  | containsAll =>
    obtain ⟨values, -, rfl⟩ := map_eq_ok_iff.mp h
    trivial
  | _ =>
    dsimp only at h
    repeat' split at h
    all_goals cases h <;> trivial

/-! ### Selectors -/

namespace Selector

variable {inItem : Bool} {path : FieldPath} {key : String} {json : Json} {selector : Selector}

namespace WellFormed

lemma apply (connective : Connective) {children : List Selector} (nonempty : children ≠ [])
    (each : ∀ child ∈ children, WellFormed inItem child) :
    WellFormed inItem (connective.apply children) := by
  cases connective with
  | and => exact .and nonempty each
  | or => exact .or nonempty each
  | nor => exact .nor nonempty each

/-- Entries are combined only where there are at least two. -/
lemma allOf {parts : List Selector} (each : ∀ part ∈ parts, WellFormed inItem part) :
    WellFormed inItem (allOf parts) := by
  match parts with
  | [] => exact .always
  | [part] => exact each part (List.mem_singleton_self part)
  | first :: second :: rest => exact .and (List.cons_ne_nil _ _) each

end WellFormed

/-- Every reader of a tree gives well-formed selectors: as a selector, as an array of selectors and
as a condition. -/
structure ReadsWellFormed (json : Json) : Prop where
  selector : ∀ {config inItem place depth selector},
    ofTree config inItem place depth json = .ok selector → selector.WellFormed inItem
  parts : ∀ {items}, json = .array items → ∀ item ∈ items, ∀ {config inItem place depth selector},
    ofTree config inItem place depth item = .ok selector → selector.WellFormed inItem
  condition : ∀ {config inItem path place depth selector}, path.WellFormed inItem →
    ofCondition config path place depth json = .ok selector → selector.WellFormed inItem

/-- A field, or the array item itself, that is given an operator is well formed. -/
lemma wellFormed_of_conditionEntry (h : ReadsWellFormed operand) (hpath : path.WellFormed inItem)
    (hread : ofConditionEntry config path place depth key operand = .ok selector) :
    selector.WellFormed inItem := by
  unfold ofConditionEntry at hread
  cases hkey : Key.ofText key with
  | connective connective =>
    rw [hkey] at hread
    cases hread
  | not =>
    rw [hkey] at hread
    obtain ⟨_, -, hread⟩ := bind_eq_ok_iff.mp hread
    obtain ⟨child, hchild, hselector⟩ := bind_eq_ok_iff.mp hread
    cases hselector
    exact .not (h.condition hpath hchild)
  | elemMatch =>
    rw [hkey] at hread
    obtain ⟨child, hchild, rfl⟩ := map_eq_ok_iff.mp hread
    exact .elemMatch hpath (h.selector hchild)
  | test operator =>
    rw [hkey] at hread
    obtain ⟨test, htest, rfl⟩ := map_eq_ok_iff.mp hread
    exact .field hpath (FieldTest.wellFormed_of_ofOperand htest)
  | unknown =>
    rw [hkey] at hread
    cases hread
  | field =>
    rw [hkey] at hread
    obtain ⟨child, hchild, hread⟩ := bind_eq_ok_iff.mp hread
    dsimp only at hread
    split_ifs at hread with hdepth
    · cases hread
    · exact h.condition (hpath.child (FieldPath.wellFormed_of_ofKey hchild)) hread

/-- An entry of a selector is well formed. -/
lemma wellFormed_of_entry (h : ReadsWellFormed operand)
    (hread : ofEntry config inItem place depth key operand = .ok selector) :
    selector.WellFormed inItem := by
  cases hkey : Key.ofText key with
  | connective connective =>
    have hentry := ((exists_ofEntry_eq_ok_iff (accepted operand)).mp ⟨selector, hread⟩).1
    rw [Json.isEntry_iff, hkey] at hentry
    obtain ⟨parts, rfl, hnonempty, -⟩ := hentry
    obtain ⟨items, children, hitems, hchildren, rfl⟩ := ofEntry_of_connective hkey hread
    cases hitems
    have hread := forall₂_of_ofItems hchildren
    refine .apply connective (fun hnil => ?_) (forall_of_forall₂ hread ?_)
    · subst hnil
      exact hnonempty (List.forall₂_nil_right_iff.mp hread)
    · rintro item hitem child ⟨here, hchild⟩
      exact h.parts rfl item hitem hchild
  | not =>
    obtain ⟨child, hchild, rfl⟩ := ofEntry_of_not hkey hread
    exact .not (h.selector hchild)
  | elemMatch =>
    unfold ofEntry at hread
    rw [hkey] at hread
    cases inItem with
    | false => cases hread
    | true =>
      obtain ⟨child, hchild, rfl⟩ := map_eq_ok_iff.mp hread
      exact .elemMatch FieldPath.wellFormed_root (h.selector hchild)
  | test operator =>
    unfold ofEntry at hread
    rw [hkey] at hread
    cases inItem with
    | false => cases hread
    | true =>
      obtain ⟨test, htest, rfl⟩ := map_eq_ok_iff.mp hread
      exact .field FieldPath.wellFormed_root (FieldTest.wellFormed_of_ofOperand htest)
  | unknown =>
    unfold ofEntry at hread
    rw [hkey] at hread
    cases hread
  | field =>
    unfold ofEntry at hread
    rw [hkey] at hread
    obtain ⟨path, hpath, hread⟩ := bind_eq_ok_iff.mp hread
    exact h.condition (FieldPath.wellFormed_of_ofKey hpath) hread

/-- Only objects are read as selectors, and what their entries denote is well formed. -/
lemma wellFormed_of_selector
    (hmembers : ∀ {members}, json = .object members → ∀ member ∈ members, ReadsWellFormed member.2)
    (hread : ofTree config inItem place depth json = .ok selector) :
    selector.WellFormed inItem := by
  unfold ofTree at hread
  split at hread
  · next members =>
    obtain ⟨_, -, hread⟩ := bind_eq_ok_iff.mp hread
    obtain ⟨parts, hparts, hselector⟩ := bind_eq_ok_iff.mp hread
    cases hselector
    exact .allOf (forall_of_forall₂ (forall₂_of_ofMembers hparts) fun member hmember _ =>
      wellFormed_of_entry (hmembers rfl member hmember))
  · obtain ⟨_, -, hread⟩ := bind_eq_ok_iff.mp hread
    cases hread

/-- A literal is well formed, and so is what the entries of a condition denote. -/
lemma wellFormed_of_condition (hpath : path.WellFormed inItem)
    (hmembers : ∀ {members}, json = .object members → ∀ member ∈ members, ReadsWellFormed member.2)
    (hread : ofCondition config path place depth json = .ok selector) :
    selector.WellFormed inItem := by
  unfold ofCondition at hread
  split at hread
  · next first rest =>
    obtain ⟨parts, hparts, rfl⟩ := map_eq_ok_iff.mp hread
    exact .allOf (forall_of_forall₂ (forall₂_of_ofConditionMembers hparts) fun member hmember _ =>
      wellFormed_of_conditionEntry (hmembers rfl member hmember) hpath)
  · cases hread
    exact .field hpath trivial

lemma ReadsWellFormed.of_parts
    (hmembers : ∀ {members}, json = .object members → ∀ member ∈ members, ReadsWellFormed member.2)
    (hitems : ∀ {items}, json = .array items → ∀ item ∈ items, ReadsWellFormed item) :
    ReadsWellFormed json where
  selector := wellFormed_of_selector hmembers
  parts hjson item hitem := (hitems hjson item hitem).selector
  condition hpath := wellFormed_of_condition hpath hmembers

/-- **Every reader of a tree gives well-formed selectors.** -/
theorem readsWellFormed (json : Json) : ReadsWellFormed json := by
  induction json using Tree.induction_objects with
  | other json hkind ih => exact .of_parts (fun hjson => absurd (hjson ▸ rfl) hkind) ih
  | object members ih =>
    refine .of_parts ?_ nofun
    rintro _ ⟨rfl⟩
    exact ih

end Selector

/-! ### Evaluation -/

namespace FieldTest

lemma natAbs_le_of_smallInteger? {value : Value} {n : Int} (h : smallInteger? value = some n) :
    n.natAbs ≤ twoPow 53 := by
  unfold smallInteger? at h
  split at h
  · split_ifs at h with hlimit
    rw [Binary64.exactLimit_lt_magnitude_iff_natAbs h, Nat.not_lt] at hlimit
    exact hlimit
  · cases h

/-- Small numbers have a remainder by every divisor but zero. -/
lemma checkedRemainder_eq {n divisor : Int} (hn : n.natAbs ≤ twoPow 53) (hdivisor : divisor ≠ 0) :
    checkedRemainder n divisor = some (n.tmod divisor) := by
  have hquotient : (n.tdiv divisor).natAbs ≤ n.natAbs := Int.natAbs_tdiv_le_natAbs n divisor
  exact if_pos ⟨hdivisor, fitsInt64_of_natAbs_le (Nat.le_trans hquotient hn)⟩

example : checkedRemainder (-(twoPow 63 : Int)) (-1) = none := by decide

/-- A well-formed test never asks for a remainder that does not exist. -/
lemma WellFormed.checkedHolds {test : FieldTest} (h : test.WellFormed) (field : Option Value) :
    test.checkedHolds field = some (test.holds field) := by
  cases test with
  | modulo divisor remainder =>
    simp only [FieldTest.checkedHolds, holds]
    cases field with
    | none => rfl
    | some value =>
      simp only [Option.bind_some, Option.any_some, leaves]
      cases hvalue : smallInteger? value with
      | none => rfl
      | some n =>
        simp [checkedRemainder_eq (natAbs_le_of_smallInteger? hvalue) h.1, h.1]
  | _ => rfl

end FieldTest

namespace Selector

variable {inItem : Bool}

lemma checkedEach_eq {children : List Selector} {read : FieldPath → Option Value}
    (h : ∀ child ∈ children, child.checkedHolds read = some (child.holds read)) :
    checkedEach children read = some (children.map (·.holds read)) := by
  induction children with
  | nil => rfl
  | cons child rest ih =>
    rw [List.forall_mem_cons] at h
    simp [checkedEach, h.1, ih h.2]

lemma allHold_eq (children : List Selector) (read : FieldPath → Option Value) :
    allHold children read = children.all (·.holds read) := by
  rw [Bool.eq_iff_iff, allHold_eq_true_iff, List.all_eq_true]

lemma anyHolds_eq (children : List Selector) (read : FieldPath → Option Value) :
    anyHolds children read = children.any (·.holds read) := by
  rw [Bool.eq_iff_iff, anyHolds_eq_true_iff, List.any_eq_true]

/-- **A well-formed selector never asks for a remainder that does not exist.** -/
theorem WellFormed.checkedHolds {selector : Selector} (h : selector.WellFormed inItem) :
    ∀ read, selector.checkedHolds read = some (selector.holds read) := by
  induction h with
  | always => exact fun _ => rfl
  | and _ _ ih =>
    intro read
    rw [Selector.checkedHolds, checkedEach_eq fun child hchild => ih child hchild read, holds,
      allHold_eq]
    simp
  | or _ _ ih =>
    intro read
    rw [Selector.checkedHolds, checkedEach_eq fun child hchild => ih child hchild read, holds,
      anyHolds_eq]
    simp
  | nor _ _ ih =>
    intro read
    rw [Selector.checkedHolds, checkedEach_eq fun child hchild => ih child hchild read, holds,
      anyHolds_eq]
    simp
  | not _ ih =>
    intro read
    rw [Selector.checkedHolds, ih read]
    rfl
  | @field inItem path test _ htest => exact fun read => htest.checkedHolds (read path)
  | @elemMatch inItem path child _ _ ih =>
    intro read
    rw [Selector.checkedHolds, holds]
    cases (read path).bind Tree.asArray? with
    | none => rfl
    | some items =>
      have hitems : (items.mapM fun item => some (child.holds fun p => item.lookup p.segments))
          = some (items.map fun item => child.holds fun p => item.lookup p.segments) :=
        List.mapM_pure
      simp only [ih, hitems]
      simp

end Selector

/-! ### Sort keys, projections and counts -/

lemma le_of_countOfJson {json : Json} {n : Nat} (h : countOfJson json place = .ok n) :
    n ≤ twoPow 53 := by
  unfold countOfJson at h
  split at h
  · next count hcount =>
    cases h
    obtain ⟨number, -, hnumber⟩ := Option.bind_eq_some_iff.mp hcount
    exact JsonNumber.le_of_count? hnumber
  · cases h

lemma FieldPath.forall₂_of_ofItems {items : List Json} {paths : List FieldPath} {i : Nat}
    (h : ofItems config place i items = .ok paths) : List.Forall₂ WrittenAs items paths := by
  induction items generalizing i paths with
  | nil =>
    cases h
    exact .nil
  | cons item rest ih =>
    cases item with
    | string text =>
      rw [ofItems] at h
      obtain ⟨path, hpath, h⟩ := bind_eq_ok_iff.mp h
      obtain ⟨later, hlater, h⟩ := bind_eq_ok_iff.mp h
      cases h
      exact .cons ⟨text, rfl, ofText?_of_ofKey hpath⟩ (ih hlater)
    | _ => cases h

lemma FieldPath.WrittenAs.wellFormed {item : Json} {path : FieldPath} (h : path.WrittenAs item) :
    path.WellFormed false := by
  obtain ⟨text, -, hpath⟩ := h
  exact wellFormed_of_ofText? hpath

lemma Direction.ofJson_eq_ok_iff {json : Json} {direction : Direction} :
    ofJson json place = .ok direction ↔ ofJson? json = some direction := by
  unfold ofJson
  cases ofJson? json <;> simp

namespace SortKey

variable {key : SortKey}

lemma writtenAs_of_ofSpelledOut {members : Fields Json} (hspelled : isSpelledOut members)
    (h : ofSpelledOut config place members = .ok key) : WrittenAs (.object members) key := by
  unfold ofSpelledOut at h
  split at h
  · cases h
  · next text htext =>
    obtain ⟨json, hjson, hstring⟩ := Option.bind_eq_some_iff.mp htext
    have hwritten : members.get? "path" = some (.string text) := by
      cases json <;> cases hstring
      exact hjson
    dsimp only at h
    split at h
    · next named hnamed =>
      obtain ⟨direction, hdirection, h⟩ := bind_eq_ok_iff.mp h
      obtain ⟨path, hpath, h⟩ := bind_eq_ok_iff.mp h
      cases h
      refine .spelledOut hspelled hwritten (FieldPath.ofText?_of_ofKey hpath) ?_ ?_
      · rintro _ hother
        cases hnamed.symm.trans hother
        exact Direction.ofJson_eq_ok_iff.mp hdirection
      · exact fun hunnamed => nomatch hnamed.symm.trans hunnamed
    · next hunnamed =>
      obtain ⟨direction, hdirection, h⟩ := bind_eq_ok_iff.mp h
      obtain ⟨path, hpath, h⟩ := bind_eq_ok_iff.mp h
      cases hdirection
      cases h
      refine .spelledOut hspelled hwritten (FieldPath.ofText?_of_ofKey hpath) ?_ fun _ => rfl
      exact fun _ hnamed => nomatch hunnamed.symm.trans hnamed

/-- A sort key is read from what stands for it. -/
lemma writtenAs_of_ofJson {item : Json} (h : ofJson config place item = .ok key) :
    WrittenAs item key := by
  unfold ofJson at h
  split at h
  · obtain ⟨path, hpath, h⟩ := bind_eq_ok_iff.mp h
    cases h
    exact .path (FieldPath.ofText?_of_ofKey hpath)
  · split_ifs at h with hspelled
    · exact writtenAs_of_ofSpelledOut hspelled h
    · split at h
      · obtain ⟨path, hpath, h⟩ := bind_eq_ok_iff.mp h
        obtain ⟨direction, hdirection, h⟩ := bind_eq_ok_iff.mp h
        cases h
        exact .pair hspelled (FieldPath.ofText?_of_ofKey hpath)
          (Direction.ofJson_eq_ok_iff.mp hdirection)
      · cases h
  · cases h

lemma forall₂_of_ofItems {items : List Json} {keys : List SortKey} {i : Nat}
    (h : ofItems config place i items = .ok keys) : List.Forall₂ WrittenAs items keys := by
  induction items generalizing i keys with
  | nil =>
    cases h
    exact .nil
  | cons item rest ih =>
    rw [ofItems] at h
    obtain ⟨first, hfirst, h⟩ := bind_eq_ok_iff.mp h
    obtain ⟨later, hlater, h⟩ := bind_eq_ok_iff.mp h
    cases h
    exact .cons (writtenAs_of_ofJson hfirst) (ih hlater)

lemma WrittenAs.wellFormed {item : Json} (h : WrittenAs item key) :
    key.path.WellFormed false := by
  cases h with
  | path segments => exact FieldPath.wellFormed_of_ofText? segments
  | pair _ segments _ => exact FieldPath.wellFormed_of_ofText? segments
  | spelledOut _ _ segments => exact FieldPath.wellFormed_of_ofText? segments

end SortKey

/-! ### Queries -/

/-- What holds of everything that is written as some item holds of all elements of a list. -/
lemma Json.Lists.forall {α : Type} {R : Json → α → Prop} {motive : α → Prop} {json : Json}
    {as : List α} (h : json.Lists R as) (hmotive : ∀ {item a}, R item a → motive a) :
    ∀ a ∈ as, motive a := by
  obtain ⟨items, -, hitems⟩ := h
  exact forall_of_forall₂ hitems fun _ _ _ => hmotive

namespace Query

lemma lists_of_projectionOfJson {json : Json} {paths : List FieldPath}
    (h : projectionOfJson config json = .ok paths) : Json.Lists FieldPath.WrittenAs json paths := by
  unfold projectionOfJson at h
  dsimp only at h
  split at h
  · next items =>
    split_ifs at h
    exact ⟨items, rfl, FieldPath.forall₂_of_ofItems h⟩
  · cases h

lemma lists_of_sortOfJson {json : Json} {keys : List SortKey}
    (h : sortOfJson config json = .ok keys) : Json.Lists SortKey.WrittenAs json keys := by
  unfold sortOfJson at h
  dsimp only at h
  split at h
  · next items =>
    split_ifs at h
    exact ⟨items, rfl, SortKey.forall₂_of_ofItems h⟩
  · cases h

/-- An optional value is there when it is read, and only then. -/
lemma rel_of_optional {α : Type} {read : Json → Except QueryError α} {R : Json → α → Prop}
    (hread : ∀ {json a}, read json = .ok a → R json a) {json : Option Json} {found : Option α}
    (h : optional read json = .ok found) : Option.Rel R json found := by
  cases json with
  | none =>
    cases h
    exact .none
  | some json =>
    obtain ⟨a, ha, rfl⟩ := map_eq_ok_iff.mp h
    exact .some (hread ha)

/-- A query is what its members are read as, one by one. -/
lemma exists_of_ofMembers {members : Fields Json} {query : Query}
    (h : ofMembers config members = .ok query) :
    ∃ json sort skip, Selector.ofJsonWith config json = .ok query.selector
      ∧ optional (projectionOfJson config) (valueOf? members "fields" "projection")
        = .ok query.projection
      ∧ optional (sortOfJson config) (members.get? "sort") = .ok sort
      ∧ query.sort = sort.getD []
      ∧ optional (countOfJson · (.named "skip")) (members.get? "skip") = .ok skip
      ∧ query.skip = skip.getD 0
      ∧ optional (countOfJson · (.named "limit")) (members.get? "limit") = .ok query.limit := by
  unfold ofMembers at h
  obtain ⟨_, -, h⟩ := bind_eq_ok_iff.mp h
  obtain ⟨_, -, h⟩ := bind_eq_ok_iff.mp h
  obtain ⟨_, -, h⟩ := bind_eq_ok_iff.mp h
  dsimp only at h
  split at h
  · next json _ =>
    obtain ⟨selector, hselector, h⟩ := bind_eq_ok_iff.mp h
    obtain ⟨projection, hprojection, h⟩ := bind_eq_ok_iff.mp h
    obtain ⟨sort, hsort, h⟩ := bind_eq_ok_iff.mp h
    obtain ⟨skip, hskip, h⟩ := bind_eq_ok_iff.mp h
    obtain ⟨limit, hlimit, h⟩ := bind_eq_ok_iff.mp h
    cases h
    exact ⟨json, sort, skip, hselector, hprojection, hsort, rfl, hskip, rfl, hlimit⟩
  · cases h

/-- An optional count is at most `2 ^ 53`. -/
lemma le_of_optional {json : Option Json} {count : Option Nat}
    (h : optional (countOfJson · place) json = .ok count) :
    ∀ n, count = some n → n ≤ twoPow 53 := by
  rintro n rfl
  have hrel := rel_of_optional (R := fun _ n => n ≤ twoPow 53) le_of_countOfJson h
  cases hrel
  assumption

lemma listsEntriesOf_of_ofMembers {members : Fields Json} {query : Query}
    (h : ofMembers config members = .ok query) : query.ListsEntriesOf members := by
  obtain ⟨_, sort, _, -, hprojection, hsort, hquery, -⟩ := exists_of_ofMembers h
  refine ⟨rel_of_optional lists_of_projectionOfJson hprojection, ?_⟩
  rw [hquery]
  cases hjson : members.get? "sort" with
  | none =>
    rw [hjson] at hsort
    cases hsort
    exact ⟨[], rfl, .nil⟩
  | some json =>
    rw [hjson] at hsort
    cases rel_of_optional lists_of_sortOfJson hsort with
    | some hlists => exact hlists

lemma wellFormed_of_ofMembers {members : Fields Json} {query : Query}
    (h : ofMembers config members = .ok query) : query.WellFormed := by
  obtain ⟨json, _, skip, hselector, -, -, -, hskip, hquery, hlimit⟩ := exists_of_ofMembers h
  have hlists := listsEntriesOf_of_ofMembers h
  exact {
    selector := (Selector.readsWellFormed json).selector hselector
    projection := by
      intro paths hpaths
      have hprojection := hlists.projection
      rw [hpaths] at hprojection
      generalize valueOf? members "fields" "projection" = json at hprojection
      cases hprojection with
      | some hpaths => exact hpaths.forall FieldPath.WrittenAs.wellFormed
    sort := hlists.sort.forall SortKey.WrittenAs.wellFormed
    skip := by
      rw [hquery]
      cases skip with
      | none => exact Nat.zero_le _
      | some n => exact le_of_optional hskip n rfl
    limit := le_of_optional hlimit }

/-- **Queries that are read are well formed.**  Their projection and sort keys have the entries of
the tree in its order, and evaluation never asks for a remainder that does not exist. -/
theorem wellFormed_of_ofJsonWith {json : Json} {query : Query}
    (h : ofJsonWith config json = .ok query) :
    query.WellFormed ∧ (∃ members, json = .object members ∧ query.ListsEntriesOf members)
      ∧ ∀ read, query.selector.checkedHolds read = some (query.selector.holds read) := by
  unfold ofJsonWith at h
  split at h
  · next members =>
    have hquery := wellFormed_of_ofMembers h
    exact ⟨hquery, ⟨members, rfl, listsEntriesOf_of_ofMembers h⟩, hquery.selector.checkedHolds⟩
  · cases h

/-- A query with a remainder within `$elemMatch`, a negation there, and a sort key. -/
def evenReadings : Json :=
  .object [
    ("selector", .object [
      ("year", .number (.int 1990)),
      ("readings", .object [
        ("$elemMatch", .object [
          ("$mod", .array [.number (.int 2), .number (.int 0)]),
          ("$not", .object [("$eq", .number (.int 0))])]),
        ("$size", .number (.int 3))])]),
    ("fields", .array [.string "readings", .string "site.name"]),
    ("sort", .array [.string "site.name"]),
    ("limit", .number (.int 10))]

/-- The query that is read from it. -/
def evenReadingsQuery : Query where
  selector := .and [
    .field ⟨["year"]⟩ (.compare .eq (Value.ofJson (.number (.int 1990)))),
    .and [
      .elemMatch ⟨["readings"]⟩ (.and [
        .field .root (.modulo 2 0),
        .not (.field .root (.compare .eq (Value.ofJson (.number (.int 0)))))]),
      .field ⟨["readings"]⟩ (.hasSize 3)]]
  projection := some [⟨["readings"]⟩, ⟨["site", "name"]⟩]
  sort := [⟨⟨["site", "name"]⟩, .ascending⟩]
  skip := 0
  limit := some 10

theorem evenReadings_wellFormed :
    ofJsonWith .standard evenReadings = .ok evenReadingsQuery
      ∧ evenReadingsQuery.WellFormed
      ∧ (∃ members, evenReadings = .object members ∧ evenReadingsQuery.ListsEntriesOf members)
      ∧ ∀ read, evenReadingsQuery.selector.checkedHolds read
          = some (evenReadingsQuery.selector.holds read) := by
  have h : ofJsonWith .standard evenReadings = .ok evenReadingsQuery := rfl
  exact ⟨h, wellFormed_of_ofJsonWith h⟩

end Query

end Readings

end DocQuery
