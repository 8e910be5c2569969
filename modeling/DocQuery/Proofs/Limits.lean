import DocQuery.Proofs.SelectorParts
import DocQuery.Query.OfJson

/-!
The limits of a configuration only ever reject queries, and they reject exactly the queries that
exceed them.

* `Consistent`: a reader whose result does not depend on the configuration, and which rejects what
  it accepts under another one with a fault of shape only;
* `LimitedBy` (**limited readers**): consistent readers with the limits that decide on acceptance;
* `Selector.readConsistently`: every tree is read consistently, as a selector and as a condition;
* `Query.Within`: a query that keeps the limits on operators, paths, sets, fields and sort keys;
* `Query.limits_reject_exactly` (**main statement**).
-/

namespace DocQuery

/-! ### Consistent readers -/

/-- What a reader accepts under one configuration it reads the same under every other one, or it
rejects it with a fault of shape. -/
structure Consistent {α : Type} (read : QueryConfig → Except QueryError α) : Prop where
  same : ∀ {config : QueryConfig} {a : α}, read config = .ok a → ∀ other : QueryConfig,
    read other = .ok a ∨ ∃ place fault, read other = .error (.invalidShape place fault)

namespace Consistent

variable {α β : Type} {read : QueryConfig → Except QueryError α}

lemma fixed (x : Except QueryError α) : Consistent fun _ => x where
  same h _ := .inl h

lemma bind {f : QueryConfig → α → Except QueryError β} (h : Consistent read)
    (hf : ∀ a, Consistent fun config => f config a) :
    Consistent fun config => read config >>= f config where
  same hb other := by
    obtain ⟨a, ha, hb⟩ := bind_eq_ok_iff.mp hb
    rcases h.same ha other with hother | ⟨place, fault, hother⟩
    · rw [hother]
      exact (hf a).same hb other
    · rw [hother]
      exact .inr ⟨place, fault, rfl⟩

lemma map (h : Consistent read) (f : α → β) : Consistent fun config => (read config).map f where
  same hb other := by
    obtain ⟨a, ha, rfl⟩ := map_eq_ok_iff.mp hb
    rcases h.same ha other with hother | ⟨place, fault, hother⟩
    · rw [hother]
      exact .inl rfl
    · rw [hother]
      exact .inr ⟨place, fault, rfl⟩

lemma mapM {as : List α} {f : QueryConfig → α → Except QueryError β}
    (h : ∀ a ∈ as, Consistent fun config => f config a) :
    Consistent fun config => as.mapM (f config) := by
  induction as with
  | nil => exact fixed (.ok [])
  | cons a rest ih =>
    rw [List.forall_mem_cons] at h
    simp only [List.mapM_cons]
    exact h.1.bind fun b => (ih h.2).bind fun bs => fixed (.ok (b :: bs))

/-- A limit on some number is checked first. -/
lemma limit (h : Consistent read) (bound : QueryConfig → Nat) (n : Nat) (place : Location)
    (fault : QueryConfig → ShapeFault) :
    Consistent fun config =>
      if bound config < n then .error (.invalidShape place (fault config)) else read config where
  same ha other := by
    split_ifs at ha
    split_ifs
    · exact .inr ⟨place, fault other, rfl⟩
    · exact h.same ha other

end Consistent

/-! ### Limited readers -/

/-- A consistent reader which, of what it accepts at all, accepts exactly what is within the limits
of a configuration. -/
structure LimitedBy {α : Type} (within : QueryConfig → Prop)
    (read : QueryConfig → Except QueryError α) : Prop extends Consistent read where
  accepts : ∀ {config : QueryConfig} {a : α}, read config = .ok a → ∀ other : QueryConfig,
    (∃ b, read other = .ok b) ↔ within other

namespace LimitedBy

variable {α β : Type} {read : QueryConfig → Except QueryError α}
  {within within' : QueryConfig → Prop}

/-- A reader without limits. -/
lemma fixed (x : Except QueryError α) : LimitedBy (fun _ => True) fun _ => x where
  toConsistent := .fixed x
  accepts h _ := iff_of_true ⟨_, h⟩ trivial

/-- A reader that accepts nothing. -/
lemma of_error (error : QueryError) :
    LimitedBy within fun _ => (.error error : Except QueryError α) where
  toConsistent := .fixed _
  accepts h := nomatch h

lemma bind {f : QueryConfig → α → Except QueryError β} (h : LimitedBy within read)
    (hf : ∀ a, LimitedBy within' fun config => f config a) :
    LimitedBy (fun config => within config ∧ within' config)
      fun config => read config >>= f config where
  toConsistent := h.toConsistent.bind fun a => (hf a).toConsistent
  accepts hb other := by
    obtain ⟨a, ha, hb⟩ := bind_eq_ok_iff.mp hb
    rw [exists_bind_eq_ok_iff, ← h.accepts ha other, ← (hf a).accepts hb other]
    constructor
    · rintro ⟨a', ha', hb'⟩
      obtain hother | ⟨place, fault, hother⟩ := h.same ha other
      · cases ha'.symm.trans hother
        exact ⟨⟨a, hother⟩, hb'⟩
      · cases ha'.symm.trans hother
    · rintro ⟨⟨a', ha'⟩, hb'⟩
      obtain hother | ⟨place, fault, hother⟩ := h.same ha other
      · exact ⟨a, hother, hb'⟩
      · cases ha'.symm.trans hother

/-- A limited reader after a step without limits. -/
lemma after (x : Except QueryError β) {f : QueryConfig → β → Except QueryError α}
    (h : ∀ b, LimitedBy within fun config => f config b) :
    LimitedBy within fun config => x >>= f config where
  toConsistent := (Consistent.fixed x).bind fun b => (h b).toConsistent
  accepts ha other := by
    obtain ⟨b, rfl, ha⟩ := bind_eq_ok_iff.mp ha
    exact (h b).accepts ha other

/-- A reader that makes something of what a limited reader gives. -/
lemma map (h : LimitedBy within read) (f : α → β) :
    LimitedBy within fun config => (read config).map f where
  toConsistent := h.toConsistent.map f
  accepts hb other := by
    obtain ⟨a, ha, rfl⟩ := map_eq_ok_iff.mp hb
    rw [exists_map_eq_ok_iff, h.accepts ha other]

/-- A limit on some number is checked first. -/
lemma limit (h : LimitedBy within read) (bound : QueryConfig → Nat) (n : Nat) (place : Location)
    (fault : QueryConfig → ShapeFault) :
    LimitedBy (fun config => n ≤ bound config ∧ within config) fun config =>
      if bound config < n then .error (.invalidShape place (fault config)) else read config where
  toConsistent := h.toConsistent.limit bound n place fault
  accepts ha other := by
    split_ifs at ha
    split_ifs with hother
    · exact iff_of_false (by simp) fun hlimit => absurd hlimit.1 (Nat.not_le.mpr hother)
    · rw [h.accepts ha other]
      exact (and_iff_right (Nat.not_lt.mp hother)).symm

lemma congr (h : LimitedBy within read) (hwithin : ∀ config, within config ↔ within' config) :
    LimitedBy within' read where
  toConsistent := h.toConsistent
  accepts ha other := (h.accepts ha other).trans (hwithin other)

/-- A limited reader accepts what it accepts under large enough limits exactly within the limits. -/
lemma eq_ok_iff (h : LimitedBy within read) {config big : QueryConfig} (hbig : within big) (a : α) :
    read config = .ok a ↔ read big = .ok a ∧ within config := by
  constructor
  · intro ha
    obtain ⟨b, hb⟩ := (h.accepts ha big).mpr hbig
    refine ⟨?_, (h.accepts ha config).mp ⟨a, ha⟩⟩
    obtain hbig' | ⟨place, fault, hbig'⟩ := h.same ha big
    · exact hbig'
    · cases hb.symm.trans hbig'
  · rintro ⟨ha, hwithin⟩
    obtain ⟨b, hb⟩ := (h.accepts ha config).mpr hwithin
    obtain hconfig | ⟨place, fault, hconfig⟩ := h.same ha config
    · exact hconfig
    · cases hb.symm.trans hconfig

end LimitedBy

/-! ### Larger limits -/

/-- Every limit of a configuration is at most that of another. -/
structure QueryConfig.AtMost (config other : QueryConfig) : Prop where
  maxSelectorDepth : config.maxSelectorDepth ≤ other.maxSelectorDepth
  maxPathDepth : config.maxPathDepth ≤ other.maxPathDepth
  maxInSet : config.maxInSet ≤ other.maxInSet
  maxSortFields : config.maxSortFields ≤ other.maxSortFields
  maxProjectionFields : config.maxProjectionFields ≤ other.maxProjectionFields

section Larger

variable {config other : QueryConfig}

lemma TestOperator.OperandFits.mono {operator : TestOperator} {operand : Json}
    (h : operator.OperandFits config operand) (hle : config.AtMost other) :
    operator.OperandFits other operand := by
  cases operator with
  | isIn => exact fun items hitems => Nat.le_trans (h items hitems) hle.maxInSet
  | notIn => exact fun items hitems => Nat.le_trans (h items hitems) hle.maxInSet
  | containsAll => exact fun items hitems => Nat.le_trans (h items hitems) hle.maxInSet
  | _ => trivial

lemma Role.Allows.mono {role : Role} {operators : Nat} {part : Json}
    (h : role.Allows config operators part) (hle : config.AtMost other) :
    role.Allows other operators part := by
  cases role with
  | selector inItem => exact Nat.le_trans h hle.maxSelectorDepth
  | selectors inItem => exact Nat.le_trans h hle.maxSelectorDepth
  | condition path =>
    exact ⟨Nat.le_trans h.1 hle.maxSelectorDepth, Nat.le_trans h.2 hle.maxPathDepth⟩
  | operand operator => exact ⟨Nat.le_trans h.1 hle.maxSelectorDepth, h.2.mono hle⟩
  | data => trivial

end Larger

/-! ### Paths -/

/-- A path is within the limit on the number of its segments, if the text denotes one. -/
def FieldPath.KeyFits (config : QueryConfig) (text : String) : Prop :=
  ∀ path, ofText? text = some path → path.depth ≤ config.maxPathDepth

lemma FieldPath.KeyFits.mono {config other : QueryConfig} {text : String} (h : KeyFits config text)
    (hle : config.AtMost other) : KeyFits other text :=
  fun path hpath => Nat.le_trans (h path hpath) hle.maxPathDepth

lemma FieldPath.limitedBy_ofKey (text : String) (place : Location) :
    LimitedBy (KeyFits · text) fun config => ofKey config text place := by
  unfold ofKey KeyFits
  cases ofText? text with
  | none => exact .of_error _
  | some path =>
    refine LimitedBy.congr ((LimitedBy.fixed (.ok path)).limit (·.maxPathDepth) path.depth place _)
      fun config => ?_
    simp

lemma FieldPath.limitedBy_ofItems (items : List Json) (place : Location) (i : Nat) :
    LimitedBy (fun config => ∀ text, .string text ∈ items → KeyFits config text)
      fun config => ofItems config place i items := by
  induction items generalizing i with
  | nil =>
    refine (LimitedBy.fixed _).congr fun config => ?_
    simp
  | cons item rest ih =>
    cases item with
    | string text =>
      simp only [ofItems]
      refine LimitedBy.congr ((limitedBy_ofKey text _).bind fun path =>
        (ih (i + 1)).map (path :: ·)) fun config => ?_
      simp
    | _ => exact .of_error _

/-! ### Selectors -/

namespace Selector

variable {json : Json} {place : Location} {depth : Nat} {inItem : Bool} {path : FieldPath}
  {key : String} {operand : Json}

lemma consistent_checkDepth (depth : Nat) (place : Location) :
    Consistent fun config => checkDepth config depth place :=
  (Consistent.fixed (.ok ())).limit (·.maxSelectorDepth) depth place _

lemma consistent_valueSet (operand : Json) (place : Location) :
    Consistent fun config => FieldTest.valueSet config operand place := by
  cases operand with
  | array items =>
    exact (Consistent.fixed (.ok (items.map Value.ofJson))).limit (·.maxInSet) items.length place _
  | _ => exact .fixed _

lemma consistent_ofOperand (operator : TestOperator) (operand : Json) (place : Location) :
    Consistent fun config => FieldTest.ofOperand config operator operand place := by
  cases operator with
  | isIn => exact (consistent_valueSet operand place).map _
  | notIn => exact (consistent_valueSet operand place).map _
  | containsAll => exact (consistent_valueSet operand place).map _
  | _ => exact .fixed _

/-- A tree is read consistently, as a selector, as an array of selectors and as a condition. -/
structure ReadConsistently (json : Json) : Prop where
  selector : ∀ inItem place depth, Consistent fun config => ofTree config inItem place depth json
  parts : ∀ {items}, json = .array items → ∀ inItem place depth,
    Consistent fun config => ofItems config inItem place depth 0 items
  condition : ∀ path place depth, Consistent fun config => ofCondition config path place depth json

lemma consistent_ofItems {items : List Json} (h : ∀ item ∈ items, ReadConsistently item)
    (i : Nat) : Consistent fun config => ofItems config inItem place depth i items := by
  induction items generalizing i with
  | nil => exact .fixed (.ok [])
  | cons item rest ih =>
    rw [List.forall_mem_cons] at h
    simp only [ofItems]
    exact (h.1.selector ..).bind fun part =>
      (ih h.2 (i + 1)).bind fun parts => .fixed (.ok (part :: parts))

lemma consistent_ofConditionEntry (h : ReadConsistently operand) :
    Consistent fun config => ofConditionEntry config path place depth key operand := by
  unfold ofConditionEntry
  cases Key.ofText key with
  | connective connective => exact .fixed _
  | not =>
    exact (consistent_checkDepth ..).bind fun _ =>
      (h.condition ..).bind fun child => .fixed (.ok (Selector.not child))
  | elemMatch => exact (h.selector ..).map _
  | test operator => exact (consistent_ofOperand ..).map _
  | unknown => exact .fixed _
  | field =>
    refine (FieldPath.limitedBy_ofKey key place).toConsistent.bind fun child => ?_
    exact (h.condition (path.child child) place depth).limit (·.maxPathDepth)
      (path.child child).depth place _

lemma consistent_ofEntry (h : ReadConsistently operand) :
    Consistent fun config => ofEntry config inItem place depth key operand := by
  unfold ofEntry
  cases hkey : Key.ofText key with
  | connective connective =>
    cases operand with
    | array items =>
      cases items with
      | nil => exact .fixed _
      | cons item rest => exact (h.parts rfl ..).map _
    | _ => exact .fixed _
  | not =>
    cases operand with
    | object members =>
      have hselector := (h.selector inItem place (depth + 1)).map Selector.not
      simp only [← ofEntry_not hkey] at hselector
      simpa only [ofEntry, hkey] using hselector
    | _ => exact .fixed _
  | elemMatch =>
    cases inItem with
    | false => exact .fixed _
    | true => exact (h.selector ..).map _
  | test operator =>
    cases inItem with
    | false => exact .fixed _
    | true => exact (consistent_ofOperand ..).map _
  | unknown => exact .fixed _
  | field =>
    exact (FieldPath.limitedBy_ofKey key place).toConsistent.bind fun path => h.condition ..

lemma ReadConsistently.object {members : Fields Json}
    (h : ∀ member ∈ members, ReadConsistently member.2) : ReadConsistently (.object members) where
  selector inItem place depth := by
    simp only [ofTree, ofMembers_eq_mapM]
    refine (consistent_checkDepth depth place).bind fun _ => ?_
    refine .bind (.mapM fun member hmember => consistent_ofEntry (h member hmember)) fun parts => ?_
    exact .fixed (.ok (allOf parts))
  parts := nofun
  condition path place depth := by
    cases members with
    | nil => exact .fixed _
    | cons member rest =>
      simp only [ofCondition, ofConditionMembers_eq_mapM]
      exact .map (.mapM fun member hmember => consistent_ofConditionEntry (h member hmember)) _

lemma ReadConsistently.of_kind_ne (hkind : json.kind ≠ .object)
    (hparts : ∀ {items}, json = .array items → ∀ item ∈ items, ReadConsistently item) :
    ReadConsistently json where
  selector inItem place depth := by
    cases json with
    | object members => exact absurd rfl hkind
    | _ => exact (consistent_checkDepth depth place).bind fun _ => .fixed _
  parts hjson _ _ _ := consistent_ofItems (hparts hjson) 0
  condition path place depth := by
    cases json with
    | object members => exact absurd rfl hkind
    | _ => exact .fixed _

/-- **Every tree is read consistently.** -/
theorem readConsistently (json : Json) : ReadConsistently json := by
  induction json using Tree.induction_objects with
  | other json hkind ih => exact .of_kind_ne hkind ih
  | object members ih => exact .object ih

end Selector

/-! ### Sort keys -/

namespace SortKey

/-- The text of the path in an entry of the sort keys. -/
def pathText? : Json → Option String
  | .string text => some text
  | .object members =>
    if isSpelledOut members then (Fields.get? members "path").bind Tree.asString?
    else
      match members with
      | [(key, _)] => some key
      | _ => none
  | _ => none

/-- An entry of the sort keys is within the limit on paths. -/
def EntryFits (config : QueryConfig) (item : Json) : Prop :=
  ∀ text, pathText? item = some text → FieldPath.KeyFits config text

lemma limitedBy_ofSpelledOut (members : Fields Json) (place : Location) :
    LimitedBy (fun config => ∀ text, (members.get? "path").bind Tree.asString? = some text →
      FieldPath.KeyFits config text) fun config => ofSpelledOut config place members := by
  unfold ofSpelledOut
  cases (members.get? "path").bind Tree.asString? with
  | none => exact .of_error _
  | some text =>
    have hpath (direction : Direction) : LimitedBy (FieldPath.KeyFits · text) fun config =>
        FieldPath.ofKey config text place >>= fun path => .ok (SortKey.mk path direction) := by
      refine LimitedBy.congr ((FieldPath.limitedBy_ofKey text place).bind fun path => .fixed _)
        fun config => ?_
      simp
    cases members.get? "direction" with
    | none =>
      refine (hpath .ascending).congr fun config => ?_
      simp
    | some json =>
      refine (LimitedBy.after (Direction.ofJson json (place.key "direction")) hpath).congr
        fun config => ?_
      simp

lemma limitedBy_ofJson (item : Json) (place : Location) :
    LimitedBy (EntryFits · item) fun config => ofJson config place item := by
  unfold ofJson EntryFits pathText?
  cases item with
  | string text =>
    refine LimitedBy.congr ((FieldPath.limitedBy_ofKey text place).bind fun path => .fixed _)
      fun config => ?_
    simp
  | object members =>
    dsimp only
    split_ifs with hspelled
    · exact limitedBy_ofSpelledOut members place
    · match members with
      | [(key, json)] =>
        refine LimitedBy.congr ((FieldPath.limitedBy_ofKey key (place.key key)).bind fun path =>
          .after (Direction.ofJson json (place.key key)) fun direction => .fixed _) fun config => ?_
        simp
      | [] => exact .of_error _
      | _ :: _ :: _ => exact .of_error _
  | _ => exact .of_error _

lemma limitedBy_ofItems (items : List Json) (place : Location) (i : Nat) :
    LimitedBy (fun config => ∀ item ∈ items, EntryFits config item)
      fun config => ofItems config place i items := by
  induction items generalizing i with
  | nil =>
    refine (LimitedBy.fixed _).congr fun config => ?_
    simp
  | cons item rest ih =>
    simp only [ofItems]
    refine LimitedBy.congr ((limitedBy_ofJson item _).bind fun key =>
      (ih (i + 1)).bind fun keys => .fixed _) fun config => ?_
    simp

end SortKey

/-! ### Queries -/

namespace Selector

/-- A selector is limited by the limits on each of its parts. -/
lemma limitedBy_ofTree (inItem : Bool) (place : Location) (depth : Nat) (json : Json) :
    LimitedBy (fun config => Role.AllowsAll config depth (.selector inItem) json)
      fun config => ofTree config inItem place depth json where
  toConsistent := (readConsistently json).selector inItem place depth
  accepts h other := by
    have hvalid := (((accepted json).selector _ inItem place depth).mp ⟨_, h⟩).1
    rw [(accepted json).selector, ← Json.selectorFits_iff_allowsAll hvalid]
    exact and_iff_right hvalid

end Selector

namespace Query

variable {config other big : QueryConfig} {members : Fields Json} {json : Json}

/-- The members of a query are within the limits of a configuration: every part of the selector,
every path and the number of entries of the projection and of the sort keys. -/
structure Within (config : QueryConfig) (members : Fields Json) : Prop where
  selector : ∀ selector, valueOf? members "selector" "where" = some selector →
    ∀ steps part, selector.HasPart steps part →
      ((Role.selector false).after steps).Allows config (operatorsAround steps) part
  projection : ∀ items, valueOf? members "fields" "projection" = some (.array items) →
    items.length ≤ config.maxProjectionFields
      ∧ ∀ text, .string text ∈ items → FieldPath.KeyFits config text
  sort : ∀ items, members.get? "sort" = some (.array items) →
    items.length ≤ config.maxSortFields ∧ ∀ item ∈ items, SortKey.EntryFits config item

lemma limitedBy_projectionOfJson (json : Json) :
    LimitedBy (fun config => ∀ items, json = .array items →
      items.length ≤ config.maxProjectionFields
        ∧ ∀ text, .string text ∈ items → FieldPath.KeyFits config text)
      fun config => projectionOfJson config json := by
  cases json with
  | array items =>
    refine LimitedBy.congr ((FieldPath.limitedBy_ofItems items (.named "fields") 0).limit
      (·.maxProjectionFields) items.length (.named "fields") _) fun config => ?_
    simp
  | _ => exact .of_error _

lemma limitedBy_sortOfJson (json : Json) :
    LimitedBy (fun config => ∀ items, json = .array items →
      items.length ≤ config.maxSortFields ∧ ∀ item ∈ items, SortKey.EntryFits config item)
      fun config => sortOfJson config json := by
  cases json with
  | array items =>
    refine LimitedBy.congr ((SortKey.limitedBy_ofItems items (.named "sort") 0).limit
      (·.maxSortFields) items.length (.named "sort") _) fun config => ?_
    simp
  | _ => exact .of_error _

lemma limitedBy_optional {α : Type} {within : QueryConfig → Json → Prop}
    {read : QueryConfig → Json → Except QueryError α}
    (h : ∀ json, LimitedBy (within · json) fun config => read config json) (value : Option Json) :
    LimitedBy (fun config => ∀ json, value = some json → within config json)
      fun config => optional (read config) value := by
  cases value with
  | none =>
    refine (LimitedBy.fixed _).congr fun config => ?_
    simp
  | some json =>
    refine ((h json).map some).congr fun config => ?_
    simp

/-- **A query is limited by the limits on its members.** -/
theorem limitedBy_ofMembers (members : Fields Json) :
    LimitedBy (Within · members) fun config => ofMembers config members := by
  unfold ofMembers
  refine .after _ fun _ => .after _ fun _ => .after _ fun _ => ?_
  cases hselector : valueOf? members "selector" "where" with
  | none => exact .of_error _
  | some json =>
    refine LimitedBy.congr ((Selector.limitedBy_ofTree false Selector.place 0 json).bind
      fun selector =>
      (limitedBy_optional limitedBy_projectionOfJson (valueOf? members "fields" "projection")).bind
        fun projection =>
      (limitedBy_optional limitedBy_sortOfJson (members.get? "sort")).bind fun sort =>
      .after _ fun skip => .after _ fun limit => .fixed _) fun config => ?_
    simp only [Role.AllowsAll, Nat.zero_add, and_true]
    constructor
    · rintro ⟨hparts, hprojection, hsort⟩
      refine ⟨fun other hother => ?_, fun items hitems => hprojection _ hitems items rfl,
        fun items hitems => hsort _ hitems items rfl⟩
      cases hselector.symm.trans hother
      exact hparts
    · rintro ⟨hparts, hprojection, hsort⟩
      refine ⟨hparts json hselector, ?_, ?_⟩
      · rintro _ hitems items rfl
        exact hprojection items hitems
      · rintro _ hitems items rfl
        exact hsort items hitems

lemma Within.mono (h : Within config members) (hle : config.AtMost other) :
    Within other members where
  selector selector hselector steps part hpart :=
    (h.selector selector hselector steps part hpart).mono hle
  projection items hitems :=
    ⟨Nat.le_trans (h.projection items hitems).1 hle.maxProjectionFields, fun text htext =>
      ((h.projection items hitems).2 text htext).mono hle⟩
  sort items hitems :=
    ⟨Nat.le_trans (h.sort items hitems).1 hle.maxSortFields, fun item hitem text htext =>
      ((h.sort items hitems).2 item hitem text htext).mono hle⟩

/-! ### What limits do -/

/-- A query keeps the limits of a configuration; what is no object has nothing that could exceed
them. -/
def KeepsLimits (config : QueryConfig) : Json → Prop
  | .object members => Within config members
  | _ => True

lemma limitedBy_ofJsonWith (json : Json) :
    LimitedBy (KeepsLimits · json) fun config => ofJsonWith config json := by
  cases json with
  | object members => exact limitedBy_ofMembers members
  | _ => exact .of_error _

/-- **Limits reject exactly what exceeds them, and nothing else depends on them.**  Under a
configuration, a query is read as it is under limits that it does not exceed, if it keeps those of
the configuration; else it is rejected with a fault of shape.  Larger limits keep what is read. -/
theorem limits_reject_exactly (hbig : KeepsLimits big json) (query : Query) :
    (ofJsonWith config json = .ok query
        ↔ ofJsonWith big json = .ok query ∧ KeepsLimits config json)
      ∧ (ofJsonWith big json = .ok query → ∀ error, ofJsonWith config json = .error error →
          ∃ place fault, error = .invalidShape place fault)
      ∧ (ofJsonWith config json = .ok query → ∀ larger, config.AtMost larger →
          ofJsonWith larger json = .ok query) := by
  have hlimited := limitedBy_ofJsonWith json
  refine ⟨hlimited.eq_ok_iff hbig query, fun hread error herror => ?_, fun hread larger hle => ?_⟩
  · obtain hconfig | ⟨place, fault, hconfig⟩ := hlimited.same hread config
    · cases herror.symm.trans hconfig
    · cases herror.symm.trans hconfig
      exact ⟨place, fault, rfl⟩
  · obtain ⟨hbigread, hkeeps⟩ := (hlimited.eq_ok_iff hbig query).mp hread
    refine (hlimited.eq_ok_iff hbig query).mpr ⟨hbigread, ?_⟩
    cases json with
    | object members => exact Within.mono hkeeps hle
    | _ => trivial

/-- A query with three operators around its innermost test, with a set of three values and with a
path of two segments behind a nested condition. -/
def surveys : Json :=
  .object [
    ("where", .object [
      ("$or", .array [
        .object [("site", .object [("name", .object [("$in",
          .array [.string "north", .string "south", .string "west"])])])],
        .object [("$not", .object [("samples", .object [
          ("$elemMatch", .object [("$gt", .number (.int 7))])])])]])]),
    ("sort", .array [.string "site.name", .string "year"])]

/-- The query that is read from it. -/
def surveysQuery : Query where
  selector := .or [
    .field ⟨["site", "name"]⟩ (.isIn [.string "north", .string "south", .string "west"]),
    .not (.elemMatch ⟨["samples"]⟩
      (.field .root (.compare .gt (Value.ofJson (.number (.int 7))))))]
  projection := none
  sort := [⟨⟨["site", "name"]⟩, .ascending⟩, ⟨⟨["year"]⟩, .ascending⟩]
  skip := 0
  limit := none

/-- Limits that just admit it. -/
def tightLimits : QueryConfig :=
  { QueryConfig.standard with maxSelectorDepth := 3, maxPathDepth := 2, maxInSet := 3 }

theorem surveys_within_tightLimits :
    KeepsLimits .standard surveys ∧ ofJsonWith tightLimits surveys = .ok surveysQuery
      ∧ (ofJsonWith .standard surveys = .ok surveysQuery ∧ KeepsLimits tightLimits surveys)
      ∧ (∃ place fault, ofJsonWith { tightLimits with maxSelectorDepth := 2 } surveys
          = .error (.invalidShape place fault)) := by
  have hread : ofJsonWith .standard surveys = .ok surveysQuery := rfl
  have htight : ofJsonWith tightLimits surveys = .ok surveysQuery := rfl
  have hbig : KeepsLimits .standard surveys :=
    ((limitedBy_ofJsonWith surveys).accepts hread _).mp ⟨_, hread⟩
  refine ⟨hbig, htight, (limits_reject_exactly hbig surveysQuery).1.mp htight, ?_⟩
  have hrejected : ∃ error,
      ofJsonWith { tightLimits with maxSelectorDepth := 2 } surveys = .error error := ⟨_, rfl⟩
  obtain ⟨error, herror⟩ := hrejected
  obtain ⟨place, fault, rfl⟩ :=
    (limits_reject_exactly hbig surveysQuery).2.1 hread error herror
  exact ⟨place, fault, herror⟩

end Query

end DocQuery
