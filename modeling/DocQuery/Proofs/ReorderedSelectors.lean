import DocQuery.Proofs.Reordering
import DocQuery.Proofs.SelectorEntries

/-!
Selectors read from trees that are equal up to the order of keys.

* `Agree` (**agreement**): two readers both fail, or both succeed with related results;
* `agree_mapM`: lists that are read agree when each element of one has a partner in the other;
* `FieldTest.Alike` and `Selector.Alike`: the same outcome on fields that are equal up to the order
  of keys;
* `Selector.agree_ofTree`: trees that are equal up to the order of keys are read alike or rejected
  both.
-/

namespace DocQuery

/-! ### Agreement -/

/-- Two outcomes agree when both are failures, or both are results that are related. -/
inductive Agree {ε α β : Type} (R : α → β → Prop) : Except ε α → Except ε β → Prop
  | failed (e e' : ε) : Agree R (.error e) (.error e')
  | done {a : α} {b : β} (related : R a b) : Agree R (.ok a) (.ok b)

namespace Agree

variable {ε α β γ δ : Type} {R : α → β → Prop} {S : γ → δ → Prop}

lemma bind {x : Except ε α} {y : Except ε β} {f : α → Except ε γ} {g : β → Except ε δ}
    (h : Agree R x y) (hfg : ∀ a b, R a b → Agree S (f a) (g b)) : Agree S (x >>= f) (y >>= g) := by
  cases h with
  | failed e e' => exact .failed e e'
  | done hab => exact hfg _ _ hab

lemma map {x : Except ε α} {y : Except ε β} {f : α → γ} {g : β → δ} (h : Agree R x y)
    (hfg : ∀ a b, R a b → S (f a) (g b)) : Agree S (x.map f) (y.map g) := by
  cases h with
  | failed e e' => exact .failed e e'
  | done hab => exact .done (hfg _ _ hab)

lemma mono {R' : α → β → Prop} {x : Except ε α} {y : Except ε β} (h : Agree R x y)
    (hR : ∀ a b, R a b → R' a b) : Agree R' x y := by
  cases h with
  | failed e e' => exact .failed e e'
  | done hab => exact .done (hR _ _ hab)

lemma iff_forall {x : Except ε α} {y : Except ε β} :
    Agree R x y ↔ ((∃ a, x = .ok a) ↔ ∃ b, y = .ok b) ∧ ∀ a b, x = .ok a → y = .ok b → R a b := by
  constructor
  · rintro (⟨e, e'⟩ | hab)
    · simp
    · simpa using hab
  · rintro ⟨hiff, hR⟩
    cases x with
    | error e =>
      cases y with
      | error e' => exact .failed e e'
      | ok b => simp at hiff
    | ok a =>
      cases y with
      | error e' => simp at hiff
      | ok b => exact .done (hR a b rfl rfl)

end Agree

/-- Each element of one list is related to some element of the other. -/
structure Matched {α β : Type} (R : α → β → Prop) (as : List α) (bs : List β) : Prop where
  left : ∀ a ∈ as, ∃ b ∈ bs, R a b
  right : ∀ b ∈ bs, ∃ a ∈ as, R a b

section Lists

variable {ε α β γ δ : Type} {as : List α} {bs : List β}

lemma exists_mapM_eq_ok_iff {f : α → Except ε γ} :
    (∃ cs, as.mapM f = .ok cs) ↔ ∀ a ∈ as, ∃ c, f a = .ok c := by
  induction as with
  | nil => simp [pure, Except.pure]
  | cons a rest ih =>
    rw [List.forall_mem_cons, ← ih, List.mapM_cons]
    simp only [bind_eq_ok_iff]
    constructor
    · rintro ⟨_, c, hc, cs, hcs, _⟩
      exact ⟨⟨c, hc⟩, cs, hcs⟩
    · rintro ⟨⟨c, hc⟩, cs, hcs⟩
      exact ⟨_, c, hc, cs, hcs, rfl⟩

lemma Matched.of_forall₂ {R : α → β → Prop} (h : List.Forall₂ R as bs) : Matched R as bs := by
  induction h with
  | nil => exact ⟨nofun, nofun⟩
  | cons hab _ ih =>
    constructor
    · rw [List.forall_mem_cons]
      exact ⟨⟨_, List.mem_cons_self, hab⟩,
        fun a ha => (ih.left a ha).imp fun b hb => ⟨List.mem_cons_of_mem _ hb.1, hb.2⟩⟩
    · rw [List.forall_mem_cons]
      exact ⟨⟨_, List.mem_cons_self, hab⟩,
        fun b hb => (ih.right b hb).imp fun a ha => ⟨List.mem_cons_of_mem _ ha.1, ha.2⟩⟩

lemma Matched.mono {R R' : α → β → Prop} (h : Matched R as bs) (hR : ∀ a b, R a b → R' a b) :
    Matched R' as bs where
  left a ha := (h.left a ha).imp fun b hb => ⟨hb.1, hR a b hb.2⟩
  right b hb := (h.right b hb).imp fun a ha => ⟨ha.1, hR a b ha.2⟩

/-- Fields with the same keys, in whatever order, match when their values are related. -/
lemma Fields.matched {R : α → β → Prop} {xs : Fields α} {ys : Fields β} (hxs : xs.Distinct)
    (hkeys : xs.keys.Perm ys.keys)
    (hvalues : ∀ key x y, xs.get? key = some x → ys.get? key = some y → R x y) :
    Matched (fun x y => x.1 = y.1 ∧ R x.2 y.2) xs ys := by
  have hys : ys.Distinct := hkeys.nodup_iff.mp hxs
  constructor
  · rintro ⟨key, x⟩ hx
    rw [← get?_eq_some_iff hxs] at hx
    obtain ⟨y, hy⟩ := mem_keys_iff.mp (hkeys.mem_iff.mp (mem_keys_iff.mpr ⟨x, hx⟩))
    exact ⟨(key, y), (get?_eq_some_iff hys).mp hy, rfl, hvalues key x y hx hy⟩
  · rintro ⟨key, y⟩ hy
    rw [← get?_eq_some_iff hys] at hy
    obtain ⟨x, hx⟩ := mem_keys_iff.mp (hkeys.mem_iff.mpr (mem_keys_iff.mpr ⟨y, hy⟩))
    exact ⟨(key, x), (get?_eq_some_iff hxs).mp hx, rfl, hvalues key x y hx hy⟩

/-- Lists that are read agree, in whatever order they stand, when each element of one has a partner
in the other with which it agrees. -/
theorem agree_mapM {S : γ → δ → Prop} {f : α → Except ε γ} {g : β → Except ε δ}
    (h : Matched (fun a b => Agree S (f a) (g b)) as bs) :
    Agree (Matched S) (as.mapM f) (bs.mapM g) := by
  refine Agree.iff_forall.mpr ⟨?_, fun cs ds hcs hds => ?_⟩
  · rw [exists_mapM_eq_ok_iff, exists_mapM_eq_ok_iff]
    constructor
    · intro hok b hb
      obtain ⟨a, ha, hab⟩ := h.right b hb
      exact (Agree.iff_forall.mp hab).1.mp (hok a ha)
    · intro hok a ha
      obtain ⟨b, hb, hab⟩ := h.left a ha
      exact (Agree.iff_forall.mp hab).1.mpr (hok b hb)
  · have has := Matched.of_forall₂ (mapM_eq_ok_iff.mp hcs)
    have hbs := Matched.of_forall₂ (mapM_eq_ok_iff.mp hds)
    constructor
    · intro c hc
      obtain ⟨a, ha, hac⟩ := has.right c hc
      obtain ⟨b, hb, hab⟩ := h.left a ha
      obtain ⟨d, hd, hbd⟩ := hbs.left b hb
      exact ⟨d, hd, (Agree.iff_forall.mp hab).2 c d hac hbd⟩
    · intro d hd
      obtain ⟨b, hb, hbd⟩ := hbs.right d hd
      obtain ⟨a, ha, hab⟩ := h.right b hb
      obtain ⟨c, hc, hac⟩ := has.left a ha
      exact ⟨c, hc, (Agree.iff_forall.mp hab).2 c d hac hbd⟩

end Lists

/-! ### Tests of fields -/

namespace FieldTest

/-- Two tests have the same outcome on fields that are equal up to the order of keys. -/
def Alike (test test' : FieldTest) : Prop :=
  ∀ field field', Option.Rel Tree.Reordered field field' → test.holds field = test'.holds field'

variable {field field' : Option Value} {v v' : Value} {values values' : List Value}

lemma any_congr {α β : Type} {as : List α} {bs : List β} {p : α → Bool} {q : β → Bool}
    (h : List.Forall₂ (fun a b => p a = q b) as bs) : as.any p = bs.any q := by
  induction h with
  | nil => rfl
  | cons hab _ ih => rw [List.any_cons, List.any_cons, hab, ih]

lemma all_congr {α β : Type} {as : List α} {bs : List β} {p : α → Bool} {q : β → Bool}
    (h : List.Forall₂ (fun a b => p a = q b) as bs) : as.all p = bs.all q := by
  induction h with
  | nil => rfl
  | cons hab _ ih => rw [List.all_cons, List.all_cons, hab, ih]

lemma equals_congr (h : Option.Rel Tree.Reordered field field') (hv : v.Reordered v') :
    equals field v = equals field' v' := by
  cases h with
  | none => rw [equals, equals, hv.kind_eq]
  | some hfield => exact Value.beq_congr hfield hv

lemma compares_congr (h : Option.Rel Tree.Reordered field field') (hv : v.Reordered v')
    (wanted : Ordering → Bool) : compares field v wanted = compares field' v' wanted := by
  cases h with
  | none => rfl
  | some hfield =>
    simp only [compares, Option.bind_some, Value.compareSameKind?, hfield.kind_eq, hv.kind_eq,
      Value.collate_congr hfield hv]

lemma any_equals_congr (h : Option.Rel Tree.Reordered field field')
    (hvalues : List.Forall₂ Tree.Reordered values values') :
    values.any (equals field) = values'.any (equals field') :=
  any_congr (hvalues.imp fun _ _ hv => equals_congr h hv)

lemma alike_compare (comparison : Comparison) (hv : v.Reordered v') :
    Alike (.compare comparison v) (.compare comparison v') := by
  intro field field' h
  cases comparison with
  | eq => exact equals_congr h hv
  | ne => exact congrArg (!·) (equals_congr h hv)
  | gt => exact compares_congr h hv _
  | gte => exact compares_congr h hv _
  | lt => exact compares_congr h hv _
  | lte => exact compares_congr h hv _

lemma alike_containsAll (hvalues : List.Forall₂ Tree.Reordered values values') :
    Alike (.containsAll values) (.containsAll values') := by
  intro field field' h
  have hempty : values.isEmpty = values'.isEmpty := by cases hvalues <;> rfl
  rw [holds, holds, hempty]
  have hitems := Tree.rel_asArray? h
  generalize field.bind Tree.asArray? = a, field'.bind Tree.asArray? = a' at hitems
  cases hitems with
  | none => rfl
  | some hitems =>
    rw [Option.any_some, Option.any_some]
    refine congrArg (_ && ·) (all_congr (hvalues.imp fun v v' hv => any_congr (hitems.imp ?_)))
    exact fun item item' hitem => Value.beq_congr hitem hv

lemma alike_presence (expected : Bool) : Alike (.presence expected) (.presence expected) := by
  intro field field' h
  cases h <;> rfl

lemma alike_hasKind (kind : Kind) : Alike (.hasKind kind) (.hasKind kind) := by
  intro field field' h
  cases h with
  | none => rfl
  | some hv => rw [holds, holds, Option.any_some, Option.any_some, hv.kind_eq]

lemma alike_hasSize (size : Nat) : Alike (.hasSize size) (.hasSize size) := by
  intro field field' h
  rw [holds, holds]
  have hitems := Tree.rel_asArray? h
  generalize field.bind Tree.asArray? = a, field'.bind Tree.asArray? = a' at hitems
  cases hitems with
  | none => rfl
  | some hitems => rw [Option.any_some, Option.any_some, hitems.length_eq]

lemma alike_modulo (divisor remainder : Int) :
    Alike (.modulo divisor remainder) (.modulo divisor remainder) := by
  intro field field' h
  cases h with
  | none => rfl
  | some hv => cases hv <;> rfl

lemma alike_like (pattern : LikePattern) : Alike (.like pattern) (.like pattern) := by
  intro field field' h
  rw [holds, holds, Tree.asString?_congr h]

lemma alike_regex (pattern : Regex) : Alike (.regex pattern) (.regex pattern) := by
  intro field field' h
  rw [holds, holds, Tree.asString?_congr h]

variable {config : QueryConfig} {operand operand' : Json} {place place' : Location}

lemma agree_valueSet (h : operand.Reordered operand') :
    Agree (List.Forall₂ Tree.Reordered) (valueSet config operand place)
      (valueSet config operand' place') := by
  cases h with
  | @array xs ys hlength hitems =>
    rw [valueSet, valueSet, hlength]
    split
    · exact .failed _ _
    · refine .done (List.forall₂_map_left_iff.mpr (List.forall₂_map_right_iff.mpr ?_))
      exact (Tree.forall₂_of_getElem? hlength hitems).imp fun _ _ => Value.reordered_ofJson
  | _ => exact .failed _ _

lemma divisorAndRemainder?_congr (h : operand.Reordered operand') :
    divisorAndRemainder? operand = divisorAndRemainder? operand' := by
  cases h with
  | array hlength hitems =>
    cases Tree.forall₂_of_getElem? hlength hitems with
    | nil => rfl
    | cons hfirst hrest =>
      cases hrest with
      | nil => cases hfirst <;> rfl
      | cons hsecond hrest =>
        cases hrest with
        | nil => cases hfirst <;> cases hsecond <;> rfl
        | cons hthird hrest => cases hfirst <;> cases hsecond <;> rfl
  | _ => rfl

/-- Operands that are equal up to the order of keys give tests with the same outcome, or are
rejected both. -/
theorem agree_ofOperand (operator : TestOperator) (h : operand.Reordered operand') :
    Agree Alike (ofOperand config operator operand place)
      (ofOperand config operator operand' place') := by
  cases operator with
  | compare comparison => exact .done (alike_compare comparison (Value.reordered_ofJson h))
  | isIn =>
    refine (agree_valueSet h).map fun values values' hvalues field field' hfield => ?_
    exact any_equals_congr hfield hvalues
  | notIn =>
    refine (agree_valueSet h).map fun values values' hvalues field field' hfield => ?_
    exact congrArg (!·) (any_equals_congr hfield hvalues)
  | containsAll => exact (agree_valueSet h).map fun values values' => alike_containsAll
  | presence =>
    cases h with
    | bool expected => exact .done (alike_presence expected)
    | _ => exact .failed _ _
  | kind =>
    cases h with
    | string name =>
      dsimp only [ofOperand, Tree.asString?, Option.bind_some]
      cases Kind.ofName? name with
      | none => exact .failed _ _
      | some kind => exact .done (alike_hasKind kind)
    | _ => exact .failed _ _
  | size =>
    cases h with
    | number n =>
      dsimp only [ofOperand, Tree.asNumber?, Option.bind_some]
      cases n.count? with
      | none => exact .failed _ _
      | some size => exact .done (alike_hasSize size)
    | _ => exact .failed _ _
  | modulo =>
    dsimp only [ofOperand]
    rw [divisorAndRemainder?_congr h]
    cases divisorAndRemainder? operand' with
    | none => exact .failed _ _
    | some pair =>
      obtain ⟨divisor, remainder⟩ := pair
      dsimp only
      split
      · exact .failed _ _
      · exact .done (alike_modulo divisor remainder)
  | like =>
    cases h with
    | string source => exact .done (alike_like _)
    | _ => exact .failed _ _
  | regex =>
    cases h with
    | string source =>
      dsimp only [ofOperand]
      cases Regex.ofText source with
      | error reason => exact .failed _ _
      | ok pattern => exact .done (alike_regex pattern)
    | _ => exact .failed _ _

end FieldTest

/-! ### Selectors -/

namespace Selector

/-- Two selectors hold alike of whatever is equal up to the order of keys. -/
def Alike (selector selector' : Selector) : Prop :=
  ∀ read read' : FieldPath → Option Value,
    (∀ path, Option.Rel Tree.Reordered (read path) (read' path)) →
      selector.holds read = selector'.holds read'

variable {config : QueryConfig} {inItem : Bool} {path : FieldPath} {place place' : Location}
  {depth : Nat} {parts parts' : List Selector} {child child' : Selector} {json json' : Json}

lemma alike_field {test test' : FieldTest} (h : test.Alike test') (path : FieldPath) :
    Alike (.field path test) (.field path test') := by
  intro read read' hread
  rw [holds, holds]
  exact h _ _ (hread path)

lemma alike_not (h : child.Alike child') : Alike (.not child) (.not child') := by
  intro read read' hread
  rw [holds, holds, h read read' hread]

lemma alike_elemMatch (h : child.Alike child') (path : FieldPath) :
    Alike (.elemMatch path child) (.elemMatch path child') := by
  intro read read' hread
  rw [holds, holds]
  have hitems := Tree.rel_asArray? (hread path)
  generalize (read path).bind Tree.asArray? = a, (read' path).bind Tree.asArray? = a' at hitems
  cases hitems with
  | none => rfl
  | some hitems =>
    refine FieldTest.any_congr (hitems.imp fun item item' hitem => h _ _ fun path => ?_)
    exact hitem.lookup path.segments

lemma allHold_congr {read read' : FieldPath → Option Value} (h : Matched Alike parts parts')
    (hread : ∀ path, Option.Rel Tree.Reordered (read path) (read' path)) :
    allHold parts read = allHold parts' read' := by
  rw [Bool.eq_iff_iff, allHold_eq_true_iff, allHold_eq_true_iff]
  constructor
  · intro hall part' hpart'
    obtain ⟨part, hpart, halike⟩ := h.right part' hpart'
    exact halike read read' hread ▸ hall part hpart
  · intro hall part hpart
    obtain ⟨part', hpart', halike⟩ := h.left part hpart
    exact halike read read' hread ▸ hall part' hpart'

lemma anyHolds_congr {read read' : FieldPath → Option Value} (h : Matched Alike parts parts')
    (hread : ∀ path, Option.Rel Tree.Reordered (read path) (read' path)) :
    anyHolds parts read = anyHolds parts' read' := by
  rw [Bool.eq_iff_iff, anyHolds_eq_true_iff, anyHolds_eq_true_iff]
  constructor
  · rintro ⟨part, hpart, hholds⟩
    obtain ⟨part', hpart', halike⟩ := h.left part hpart
    exact ⟨part', hpart', halike read read' hread ▸ hholds⟩
  · rintro ⟨part', hpart', hholds⟩
    obtain ⟨part, hpart, halike⟩ := h.right part' hpart'
    exact ⟨part, hpart, halike read read' hread ▸ hholds⟩

lemma alike_apply (connective : Connective) (h : Matched Alike parts parts') :
    Alike (connective.apply parts) (connective.apply parts') := by
  intro read read' hread
  cases connective with
  | and =>
    rw [Connective.apply, holds, holds]
    exact allHold_congr h hread
  | or =>
    rw [Connective.apply, holds, holds]
    exact anyHolds_congr h hread
  | nor =>
    rw [Connective.apply, holds, holds, anyHolds_congr h hread]

lemma alike_allOf (h : Matched Alike parts parts') : Alike (allOf parts) (allOf parts') := by
  intro read read' hread
  rw [holds_allOf, holds_allOf, allHold_congr h hread]

/-! ### Readings -/

/-- However two trees are read, as selectors, as arrays of selectors or as conditions, they are read
alike or rejected both; only the places in the faults may differ. -/
structure ReadAlike (json json' : Json) : Prop where
  selector : ∀ config inItem place place' depth,
    Agree Alike (ofTree config inItem place depth json) (ofTree config inItem place' depth json')
  parts : ∀ {items items'}, json = .array items → json' = .array items' →
    ∀ config inItem place place' depth,
      Agree (Matched Alike) (ofItems config inItem place depth 0 items)
        (ofItems config inItem place' depth 0 items')
  condition : ∀ config path place place' depth,
    Agree Alike (ofCondition config path place depth json)
      (ofCondition config path place' depth json')

lemma agree_checkDepth : Agree (fun _ _ => True) (checkDepth config depth place)
    (checkDepth config depth place') := by
  unfold checkDepth
  split
  · exact .failed _ _
  · exact .done trivial

lemma agree_ofKey (config : QueryConfig) (text : String) :
    Agree (· = ·) (FieldPath.ofKey config text place) (FieldPath.ofKey config text place') := by
  unfold FieldPath.ofKey
  split
  · exact .failed _ _
  · split
    · exact .failed _ _
    · exact .done rfl

lemma agree_ofItems {items items' : List Json} (hitems : List.Forall₂ ReadAlike items items')
    (i : Nat) :
    Agree (List.Forall₂ Alike) (ofItems config inItem place depth i items)
      (ofItems config inItem place' depth i items') := by
  induction hitems generalizing i with
  | nil => exact .done .nil
  | cons hitem _ ih =>
    rw [ofItems, ofItems]
    refine (hitem.selector ..).bind fun part part' hpart => ?_
    exact (ih (i + 1)).bind fun parts parts' hparts => .done (.cons hpart hparts)

theorem agree_ofEntry (key : String) (h : json.Reordered json') (hread : ReadAlike json json') :
    Agree Alike (ofEntry config inItem place depth key json)
      (ofEntry config inItem place' depth key json') := by
  cases hkey : Key.ofText key with
  | connective connective =>
    simp only [ofEntry, hkey]
    cases h with
    | @array xs ys hlength hitems =>
      cases xs with
      | nil =>
        cases List.length_eq_zero_iff.mp hlength.symm
        exact .failed _ _
      | cons x xs =>
        cases ys with
        | nil => cases hlength
        | cons y ys => exact (hread.parts rfl rfl ..).map fun _ _ => alike_apply connective
    | _ => exact .failed _ _
  | not =>
    cases h with
    | object hdistinct hkeys hvalues =>
      rw [ofEntry_not hkey, ofEntry_not hkey]
      exact (hread.selector ..).map fun child child' => alike_not
    | _ =>
      simp only [ofEntry, hkey]
      exact .failed _ _
  | elemMatch =>
    simp only [ofEntry, hkey]
    split
    · exact (hread.selector ..).map fun child child' hchild => alike_elemMatch hchild .root
    · exact .failed _ _
  | test operator =>
    simp only [ofEntry, hkey]
    split
    · exact (FieldTest.agree_ofOperand operator h).map fun _ _ htest => alike_field htest .root
    · exact .failed _ _
  | unknown =>
    simp only [ofEntry, hkey]
    exact .failed _ _
  | field =>
    simp only [ofEntry, hkey]
    refine (agree_ofKey config key).bind ?_
    rintro path _ rfl
    exact hread.condition ..

theorem agree_ofConditionEntry (key : String) (h : json.Reordered json')
    (hread : ReadAlike json json') :
    Agree Alike (ofConditionEntry config path place depth key json)
      (ofConditionEntry config path place' depth key json') := by
  unfold ofConditionEntry
  cases Key.ofText key with
  | connective connective => exact .failed _ _
  | not =>
    refine agree_checkDepth.bind fun _ _ _ => (hread.condition ..).bind
      fun child child' hchild => ?_
    exact .done (alike_not hchild)
  | elemMatch =>
    exact (hread.selector ..).map fun child child' hchild => alike_elemMatch hchild path
  | test operator =>
    exact (FieldTest.agree_ofOperand operator h).map fun _ _ htest => alike_field htest path
  | unknown => exact .failed _ _
  | field =>
    refine (agree_ofKey config key).bind ?_
    rintro child _ rfl
    dsimp only
    split
    · exact .failed _ _
    · exact hread.condition ..

/-- The entries of an object that are read alike one by one, in whatever order, are read alike
together. -/
lemma agree_ofTree_object {members members' : Fields Json}
    (hmembers : Matched (fun member member' => member.1 = member'.1
      ∧ member.2.Reordered member'.2 ∧ ReadAlike member.2 member'.2) members members') :
    Agree Alike (ofTree config inItem place depth (.object members))
      (ofTree config inItem place' depth (.object members')) := by
  rw [ofTree, ofTree, ofMembers_eq_mapM, ofMembers_eq_mapM]
  refine agree_checkDepth.bind fun _ _ _ => ?_
  refine (agree_mapM (hmembers.mono ?_)).bind fun parts parts' hparts => .done (alike_allOf hparts)
  rintro ⟨key, operand⟩ ⟨_, operand'⟩ ⟨rfl, hoperand, hread⟩
  exact agree_ofEntry key hoperand hread

/-- Literals that are equal up to the order of keys are equal to the same fields. -/
lemma alike_literal (h : json.Reordered json') (path : FieldPath) :
    Alike (.field path (.compare .eq (Value.ofJson json)))
      (.field path (.compare .eq (Value.ofJson json'))) :=
  alike_field (FieldTest.alike_compare .eq (Value.reordered_ofJson h)) path

lemma agree_ofCondition_object {members members' : Fields Json}
    (h : Tree.Reordered (.object members) (.object members'))
    (hmembers : Matched (fun member member' => member.1 = member'.1
      ∧ member.2.Reordered member'.2 ∧ ReadAlike member.2 member'.2) members members') :
    Agree Alike (ofCondition config path place depth (.object members))
      (ofCondition config path place' depth (.object members')) := by
  cases members with
  | nil =>
    cases members' with
    | nil => exact .done (alike_literal h path)
    | cons member' rest' =>
      obtain ⟨_, hmem, _⟩ := hmembers.right member' List.mem_cons_self
      cases hmem
  | cons member rest =>
    cases members' with
    | nil =>
      obtain ⟨_, hmem, _⟩ := hmembers.left member List.mem_cons_self
      cases hmem
    | cons member' rest' =>
      rw [ofCondition, ofCondition, ofConditionMembers_eq_mapM, ofConditionMembers_eq_mapM]
      refine (agree_mapM (hmembers.mono ?_)).map fun parts parts' => alike_allOf
      rintro ⟨key, operand⟩ ⟨_, operand'⟩ ⟨rfl, hoperand, hread⟩
      exact agree_ofConditionEntry key hoperand hread

/-- What is no object is no selector, and as a condition it is a literal. -/
lemma ReadAlike.of_kind_ne (h : json.Reordered json') (hkind : json.kind ≠ .object)
    (hparts : ∀ {items items'}, json = .array items → json' = .array items' →
      List.Forall₂ ReadAlike items items') : ReadAlike json json' where
  selector config inItem place place' depth := by
    cases h with
    | object hdistinct hkeys hvalues => exact absurd rfl hkind
    | _ => exact agree_checkDepth.bind fun _ _ _ => .failed _ _
  parts hjson hjson' config inItem place place' depth :=
    (agree_ofItems (hparts hjson hjson') 0).mono fun _ _ => Matched.of_forall₂
  condition config path place place' depth := by
    have halike := alike_literal h path
    cases h with
    | object hdistinct hkeys hvalues => exact absurd rfl hkind
    | _ => exact .done halike

/-- **Selectors that are equal up to the order of keys are read alike or rejected both.** -/
theorem readAlike_of_reordered (h : json.Reordered json') : ReadAlike json json' := by
  induction h with
  | @array xs ys hlength hitems ih =>
    refine .of_kind_ne (.array hlength hitems) nofun ?_
    rintro _ _ ⟨rfl⟩ ⟨rfl⟩
    exact Tree.forall₂_of_getElem? hlength ih
  | @object xs ys hdistinct hkeys hvalues ih =>
    have hmembers := Fields.matched hdistinct hkeys fun key x y hx hy =>
      And.intro (hvalues key x y hx hy) (ih key x y hx hy)
    exact {
      selector := fun _ _ _ _ _ => agree_ofTree_object hmembers
      parts := nofun
      condition := fun _ _ _ _ _ =>
        agree_ofCondition_object (.object hdistinct hkeys hvalues) hmembers }
  | _ => exact .of_kind_ne (by constructor) nofun nofun

end Selector

end DocQuery
