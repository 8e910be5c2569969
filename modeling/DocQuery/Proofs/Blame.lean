import DocQuery.Proofs.FirstFault

/-!
Where a rejected selector is at fault, and of what kind the fault is.  A selector is read in the
order in which it is written, so the error is about the first part that is not valid by itself.

* `operatorNames`: the operators there are;
* `QueryError.Blames` and `QueryError.BlamesSelector` (**the kind**): an error is about the place
  that some steps lead to, and its kind is right for the last of them;
* `Selector.Faulty`: every reader of a tree blames the first fault of it;
* `Selector.rejection_blames_first_fault` (**main statement**).
-/

namespace DocQuery

/-! ### Readers that fail -/

section Readers

variable {ε α β : Type} {error : ε}

lemma bind_eq_error_iff {x : Except ε α} {f : α → Except ε β} :
    x >>= f = .error error ↔ x = .error error ∨ ∃ a, x = .ok a ∧ f a = .error error := by
  cases x with
  | error e => simp [bind, Except.bind]
  | ok a => simp [bind, Except.bind]

lemma map_eq_error_iff {x : Except ε α} {f : α → β} :
    x.map f = .error error ↔ x = .error error := by
  cases x with
  | error e => simp [Except.map]
  | ok a => simp [Except.map]

/-- A list that is not read has a first element that is not. -/
lemma exists_of_mapM_eq_error {f : α → Except ε β} {as : List α} (h : as.mapM f = .error error) :
    ∃ before a after, as = before ++ a :: after ∧ (∀ b ∈ before, ∃ c, f b = .ok c)
      ∧ f a = .error error := by
  induction as with
  | nil => cases h
  | cons a rest ih =>
    rw [List.mapM_cons] at h
    obtain ha | ⟨b, hb, h⟩ := bind_eq_error_iff.mp h
    · exact ⟨[], a, rest, rfl, by simp, ha⟩
    · obtain hrest | ⟨_, _, h⟩ := bind_eq_error_iff.mp h
      · obtain ⟨before, c, after, rfl, hbefore, hc⟩ := ih hrest
        refine ⟨a :: before, c, after, rfl, ?_, hc⟩
        exact List.forall_mem_cons.mpr ⟨⟨b, hb⟩, hbefore⟩
      · cases h

end Readers

/-! ### Kinds of faults -/

/-- The operators there are. -/
def operatorNames : List String :=
  ["$and", "$or", "$nor", "$not", "$eq", "$ne", "$gt", "$gte", "$lt", "$lte", "$in", "$nin",
    "$exists", "$type", "$size", "$mod", "$all", "$like", "$regex", "$elemMatch"]

/-- A key has no meaning when it looks like an operator and is none. -/
lemma Key.ofText_eq_unknown_iff {text : String} :
    ofText text = .unknown ↔ IsOperator text ∧ text ∉ operatorNames := by
  unfold ofText IsOperator
  split <;> simp_all [operatorNames]

/-- The place some steps further. -/
def Location.after (place : Location) (steps : List Step) : Location :=
  { place with steps := place.steps ++ steps }

namespace QueryError

/-- The place that an error of a query names. -/
def place? : QueryError → Option Location
  | .invalidShape place _ | .unsupportedOperator _ place => some place
  | .malformedJson .. | .storeFailure _ | .cancelled _ => none

/-- An error about the place some steps further.  It is about an unsupported operator, which it
names, if the last step is a key without a meaning, and else about a fault of shape. -/
inductive Blames (place : Location) (steps : List Step) : QueryError → Prop
  | shape (fault : ShapeFault) (known : ∀ key, steps.getLast? = some (.key key) →
      Key.ofText key ≠ .unknown) : Blames place steps (.invalidShape (place.after steps) fault)
  | unsupported {key : String} (last : steps.getLast? = some (.key key))
      (unknown : Key.ofText key = .unknown) :
      Blames place steps (.unsupportedOperator key (place.after steps))

namespace Blames

variable {place : Location} {steps : List Step} {error : QueryError}

lemma shape_here (place : Location) (fault : ShapeFault) :
    Blames place [] (.invalidShape place fault) := by
  have h : Blames place [] (.invalidShape (place.after []) fault) := .shape fault (by simp)
  simpa [Location.after] using h

/-- What is blamed behind a step is blamed with that step in front, if it is no key without a
meaning. -/
lemma cons {step : Step} (hstep : ∀ key, step = .key key → Key.ofText key ≠ .unknown)
    (h : Blames (place.after [step]) steps error) : Blames place (step :: steps) error := by
  have hplace : (place.after [step]).after steps = place.after (step :: steps) := by
    simp [Location.after]
  cases h with
  | shape fault known =>
    rw [hplace]
    refine .shape fault fun key hkey => ?_
    rw [List.getLast?_cons, Option.some.injEq] at hkey
    cases hsteps : steps.getLast? with
    | none =>
      rw [hsteps] at hkey
      exact hstep key hkey
    | some last =>
      rw [hsteps] at hkey
      exact known key (hsteps.trans (congrArg some hkey))
  | unsupported last unknown =>
    rw [hplace]
    exact .unsupported (by rw [List.getLast?_cons, last]; rfl) unknown

end Blames

/-- An error about the place that some steps into a selector lead to, of the right kind. -/
structure BlamesSelector (error : QueryError) (steps : List Step) : Prop where
  /-- The place is the text `selector` with a `.key` or an `[index]` for each step. -/
  text : error.place?.map Location.text = some ("selector" ++ String.join (steps.map fun
    | .key key => "." ++ key
    | .index i => "[" ++ toString i ++ "]"))
  /-- It is about an unsupported operator where the last key looks like an operator and is none. -/
  unsupported_iff : (∃ operator place, error = .unsupportedOperator operator place)
    ↔ ∃ key, steps.getLast? = some (.key key) ∧ IsOperator key ∧ key ∉ operatorNames
  /-- That key is then named. -/
  names : ∀ operator place, error = .unsupportedOperator operator place →
    steps.getLast? = some (.key operator)
  /-- Everywhere else it is about a fault of shape, so in particular at every operator there is. -/
  shape : (∀ key, steps.getLast? = some (.key key) → IsOperator key → key ∈ operatorNames) →
    ∃ place fault, error = .invalidShape place fault

lemma text_after (steps : List Step) :
    (Selector.place.after steps).text = "selector" ++ String.join (steps.map fun
      | .key key => "." ++ key
      | .index i => "[" ++ toString i ++ "]") := by
  refine congrArg ("selector" ++ String.join ·) (List.map_congr_left fun step _ => ?_)
  cases step <;> rfl

lemma Blames.blamesSelector {error : QueryError} {steps : List Step}
    (h : error.Blames Selector.place steps) : error.BlamesSelector steps := by
  have htext := congrArg some (text_after steps)
  cases h with
  | shape fault known =>
    refine ⟨htext, iff_of_false nofun ?_, nofun, fun _ => ⟨_, fault, rfl⟩⟩
    rintro ⟨key, hkey, hunknown⟩
    exact known key hkey (Key.ofText_eq_unknown_iff.mpr hunknown)
  | @unsupported key last unknown =>
    have hunknown := Key.ofText_eq_unknown_iff.mp unknown
    refine ⟨htext, iff_of_true ⟨key, _, rfl⟩ ⟨key, last, hunknown⟩, ?_, fun hknown => ?_⟩
    · rintro _ _ ⟨rfl⟩
      exact last
    · exact absurd (hknown key last hunknown.1) hunknown.2

end QueryError

/-! ### Readers of parts -/

section Parts

variable {config : QueryConfig} {place : Location} {depth : Nat} {error : QueryError}

/-- A key is at fault as a whole: it is no path, or the path is too deep. -/
lemma FieldPath.exists_of_ofKey_eq_error {key : String}
    (h : ofKey config key place = .error error) :
    (∃ fault, error = .invalidShape place fault)
      ∧ ∀ path, ofText? key = some path → ¬ path.depth ≤ config.maxPathDepth := by
  unfold ofKey at h
  split at h
  · next hnone =>
    cases h
    exact ⟨⟨_, rfl⟩, fun path hpath => nomatch hnone.symm.trans hpath⟩
  · next found hfound =>
    split_ifs at h with hdepth
    cases h
    refine ⟨⟨_, rfl⟩, fun path hpath => ?_⟩
    cases hfound.symm.trans hpath
    exact Nat.not_le.mpr hdepth

lemma FieldTest.exists_of_valueSet_eq_error {operand : Json}
    (h : valueSet config operand place = .error error) :
    ∃ fault, error = .invalidShape place fault := by
  unfold valueSet at h
  split at h
  · split_ifs at h
    cases h
    exact ⟨_, rfl⟩
  · cases h
    exact ⟨_, rfl⟩

/-- An operand is at fault as a whole. -/
lemma FieldTest.exists_of_ofOperand_eq_error {operator : TestOperator} {operand : Json}
    (h : ofOperand config operator operand place = .error error) :
    ∃ fault, error = .invalidShape place fault := by
  unfold ofOperand at h
  cases operator with
  | compare comparison => cases h
  | isIn => exact exists_of_valueSet_eq_error (map_eq_error_iff.mp h)
  | notIn => exact exists_of_valueSet_eq_error (map_eq_error_iff.mp h)
  | containsAll => exact exists_of_valueSet_eq_error (map_eq_error_iff.mp h)
  | _ =>
    dsimp only at h
    repeat' split at h
    all_goals cases h <;> exact ⟨_, rfl⟩

/-! ### Readers of trees -/

lemma operatorsAround_key (key : String) :
    operatorsAround [.key key] = if (Key.ofText key).nests then 1 else 0 := by
  cases h : (Key.ofText key).nests <;> simp [operatorsAround, Step.nests, h]

/-- An error that blames the first fault of a tree. -/
def Role.Blamed (config : QueryConfig) (operators : Nat) (role : Role) (json : Json)
    (place : Location) (error : QueryError) : Prop :=
  ∃ steps, role.FirstFault config operators json steps ∧ error.Blames place steps

/-- A tree that is at fault itself is blamed as a whole. -/
lemma Role.blamed_here {role : Role} {json : Json} (h : ¬ role.Faultless config depth json)
    (fault : ShapeFault) : role.Blamed config depth json place (.invalidShape place fault) :=
  ⟨[], .here h, .shape_here place fault⟩

/-- Nothing under a key without a meaning is part of the selector. -/
lemma Role.child_of_unknown {key : String} (hkey : Key.ofText key = .unknown) (role : Role) :
    role.child (.key key) = .data := by
  cases role with
  | selector inItem => simp only [child, hkey]
  | condition path => simp only [child, hkey]
  | _ => rfl

/-- An operand that is not read is at fault itself. -/
lemma Role.blamed_operand {operator : TestOperator} {operand : Json}
    (h : FieldTest.ofOperand config operator operand place = .error error) :
    (Role.operand operator).Blamed config depth operand place error := by
  obtain ⟨fault, rfl⟩ := FieldTest.exists_of_ofOperand_eq_error h
  refine blamed_here (fun hfaultless => ?_) fault
  obtain ⟨test, htest⟩ := (FieldTest.exists_ofOperand_eq_ok_iff operator).mpr hfaultless
  cases h.symm.trans htest

/-- A field whose path is not read, or is too deep, is at fault itself. -/
lemma Role.not_faultless_ofField {path : FieldPath} {key : String} {json : Json}
    (h : ∀ child, FieldPath.ofText? key = some child →
      ¬ (path.child child).depth ≤ config.maxPathDepth) :
    ¬ (ofField path key).Faultless config depth json := by
  unfold ofField
  cases hkey : FieldPath.ofText? key with
  | none => exact id
  | some child => exact fun hfaultless => h child hkey hfaultless.2

namespace Selector

variable {inItem : Bool} {path : FieldPath} {key : String} {operand json : Json}

/-- A tree that stands too deep is at fault itself. -/
lemma blamed_of_checkDepth {role : Role}
    (hrole : role.Faultless config depth json → depth ≤ config.maxSelectorDepth)
    (h : checkDepth config depth place = .error error) :
    role.Blamed config depth json place error := by
  unfold checkDepth at h
  split_ifs at h with hdepth
  cases h
  exact Role.blamed_here (fun hfaultless => Nat.not_lt.mpr (hrole hfaultless) hdepth) _

/-- Every reader of a tree blames the first fault of it: as a selector, as an array of selectors and
as a condition. -/
structure Faulty (json : Json) : Prop where
  selector : ∀ {config inItem place depth error},
    ofTree config inItem place depth json = .error error →
      (Role.selector inItem).Blamed config depth json place error
  parts : ∀ {items}, json = .array items → ∀ {config inItem place depth error},
    ofItems config inItem place depth 0 items = .error error →
      (Role.selectors inItem).Blamed config depth json place error
  condition : ∀ {config path place depth error}, depth ≤ config.maxSelectorDepth →
    path.depth ≤ config.maxPathDepth → ofCondition config path place depth json = .error error →
      (Role.condition path).Blamed config depth json place error

/-! ### Entries -/

/-- An entry of a condition by itself is a condition when it is read. -/
lemma accepts_conditionEntry_iff {member : String × Json} (hdepth : depth ≤ config.maxSelectorDepth)
    (hpath : path.depth ≤ config.maxPathDepth) :
    (Role.condition path).Accepts config depth (.object [member])
      ↔ ∃ s, ofConditionEntry config path place depth member.1 member.2 = .ok s := by
  rw [exists_ofConditionEntry_eq_ok_iff (accepted _), Role.Accepts, Role.Valid, Role.Fits,
    Json.isCondition_object_iff, Json.ConditionFits]
  simp [hdepth, hpath]

/-- An entry of a selector by itself is a selector when it is read. -/
lemma accepts_entry_iff {member : String × Json} (hdepth : depth ≤ config.maxSelectorDepth) :
    (Role.selector inItem).Accepts config depth (.object [member])
      ↔ ∃ s, ofEntry config inItem place depth member.1 member.2 = .ok s := by
  rw [exists_ofEntry_eq_ok_iff (accepted _), Role.Accepts, Role.Valid, Role.Fits,
    Json.isSelector_object_iff, Json.SelectorFits]
  simp [hdepth]

/-- Under a known key of a condition, what is at fault is the operand. -/
lemma blamed_conditionEntry (h : Faulty operand) (hdepth : depth ≤ config.maxSelectorDepth)
    (hpath : path.depth ≤ config.maxPathDepth) (hknown : Key.ofText key ≠ .unknown)
    (herror : ofConditionEntry config path place depth key operand = .error error) :
    ((Role.condition path).child (.key key)).Blamed config (depth + operatorsAround [.key key])
      operand place error := by
  unfold ofConditionEntry at herror
  rw [operatorsAround_key]
  cases hkey : Key.ofText key with
  | connective connective =>
    rw [hkey] at herror
    cases herror
    simp only [Role.child, hkey]
    exact Role.blamed_here id _
  | not =>
    rw [hkey] at herror
    simp only [Role.child, hkey]
    obtain hcheck | ⟨u, hcheck, hrest⟩ := bind_eq_error_iff.mp herror
    · exact blamed_of_checkDepth And.left hcheck
    · have hnested : depth + 1 ≤ config.maxSelectorDepth :=
        exists_checkDepth_eq_ok_iff.mp ⟨u, hcheck⟩
      exact h.condition hnested hpath (map_eq_error_iff.mp hrest)
  | elemMatch =>
    rw [hkey] at herror
    simp only [Role.child, hkey]
    exact h.selector (map_eq_error_iff.mp herror)
  | test operator =>
    rw [hkey] at herror
    simp only [Role.child, hkey]
    exact Role.blamed_operand (map_eq_error_iff.mp herror)
  | unknown => exact absurd hkey hknown
  | field =>
    rw [hkey] at herror
    simp only [Role.child, hkey]
    obtain hpiece | ⟨child, hchild, hrest⟩ := bind_eq_error_iff.mp herror
    · obtain ⟨⟨fault, rfl⟩, hdeep⟩ := FieldPath.exists_of_ofKey_eq_error hpiece
      refine Role.blamed_here (Role.not_faultless_ofField fun child hchild => ?_) fault
      have hlong := hdeep child hchild
      rw [FieldPath.depth_child]
      omega
    · have htext := FieldPath.ofText?_of_ofKey hchild
      dsimp only at hrest
      split_ifs at hrest with hnested
      · cases hrest
        refine Role.blamed_here (Role.not_faultless_ofField fun other hother => ?_) _
        cases htext.symm.trans hother
        exact Nat.not_le.mpr hnested
      · simp only [Role.ofField, htext]
        exact h.condition hdepth (Nat.not_lt.mp hnested) hrest

/-- Under a known key of a selector, what is at fault is the operand. -/
lemma blamed_entry (h : Faulty operand) (hdepth : depth ≤ config.maxSelectorDepth)
    (hknown : Key.ofText key ≠ .unknown)
    (herror : ofEntry config inItem place depth key operand = .error error) :
    ((Role.selector inItem).child (.key key)).Blamed config (depth + operatorsAround [.key key])
      operand place error := by
  rw [operatorsAround_key]
  cases hkey : Key.ofText key with
  | connective connective =>
    unfold ofEntry at herror
    rw [hkey] at herror
    simp only [Role.child, hkey]
    cases operand with
    | array items =>
      cases items with
      | nil =>
        cases herror
        exact Role.blamed_here (by simp [Role.Faultless]) _
      | cons item rest => exact h.parts rfl (map_eq_error_iff.mp herror)
    | _ =>
      cases herror
      exact Role.blamed_here (by simp [Role.Faultless]) _
  | not =>
    simp only [Role.child, hkey]
    cases operand with
    | object members =>
      rw [ofEntry_not hkey] at herror
      exact h.selector (map_eq_error_iff.mp herror)
    | _ =>
      unfold ofEntry at herror
      rw [hkey] at herror
      cases herror
      exact Role.blamed_here (by simp [Role.Faultless]) _
  | elemMatch =>
    unfold ofEntry at herror
    rw [hkey] at herror
    simp only [Role.child, hkey]
    cases inItem with
    | false =>
      cases herror
      exact Role.blamed_here id _
    | true => exact h.selector (map_eq_error_iff.mp herror)
  | test operator =>
    unfold ofEntry at herror
    rw [hkey] at herror
    simp only [Role.child, hkey]
    cases inItem with
    | false =>
      cases herror
      exact Role.blamed_here id _
    | true => exact Role.blamed_operand (map_eq_error_iff.mp herror)
  | unknown => exact absurd hkey hknown
  | field =>
    have hrole : (Role.selector inItem).child (.key key)
        = (Role.condition .root).child (.key key) := by
      simp only [Role.child, hkey]
    rw [ofEntry_of_field hkey] at herror
    rw [hrole, ← hkey, ← operatorsAround_key]
    exact blamed_conditionEntry h hdepth (Nat.zero_le _) hknown herror

/-! ### Trees -/

/-- An object blames its first entry that is not valid by itself. -/
lemma blamed_object {role : Role} {members : Fields Json}
    {read : String × Json → Except QueryError Selector}
    (hread : members.mapM read = .error error) (hentries : role.HasEntries)
    (hfaultless : role.Faultless config depth (.object members))
    (haccepts : ∀ member, role.Accepts config depth (.object [member])
      ↔ ∃ s, read member = .ok s)
    (hknown : ∀ member ∈ members, Key.ofText member.1 ≠ .unknown → read member = .error error →
      (role.child (.key member.1)).Blamed config (depth + operatorsAround [.key member.1])
        member.2 (place.key member.1) error)
    (hunknown : ∀ member, Key.ofText member.1 = .unknown →
      read member = .error (.unsupportedOperator member.1 (place.key member.1))) :
    role.Blamed config depth (.object members) place error := by
  obtain ⟨before, member, after, rfl, hbefore, hmember⟩ := exists_of_mapM_eq_error hread
  have hearlier : ∀ entry ∈ before, role.Accepts config depth (.object [entry]) :=
    fun entry hentry => (haccepts entry).mpr (hbefore entry hentry)
  by_cases hkey : Key.ofText member.1 = .unknown
  · rw [hunknown member hkey] at hmember
    cases hmember
    refine ⟨[.key member.1], .key hentries hfaultless rfl hearlier (.here ?_),
      .unsupported rfl hkey⟩
    rw [Role.child_of_unknown hkey]
    exact id
  · obtain ⟨steps, hsteps, hblames⟩ := hknown member (by simp) hkey hmember
    refine ⟨.key member.1 :: steps, .key hentries hfaultless rfl hearlier hsteps,
      .cons ?_ hblames⟩
    rintro _ ⟨rfl⟩
    exact hkey

lemma exists_of_ofItems_eq_error {items : List Json} {i : Nat}
    (h : ofItems config inItem place depth i items = .error error) :
    ∃ before item after, items = before ++ item :: after
      ∧ (∀ other ∈ before, ∃ here s, ofTree config inItem here depth other = .ok s)
      ∧ ofTree config inItem (place.index (i + before.length)) depth item = .error error := by
  induction items generalizing i with
  | nil => cases h
  | cons item rest ih =>
    rw [ofItems] at h
    obtain hitem | ⟨s, hs, h⟩ := bind_eq_error_iff.mp h
    · exact ⟨[], item, rest, rfl, by simp, hitem⟩
    · obtain hrest | ⟨_, _, h⟩ := bind_eq_error_iff.mp h
      · obtain ⟨before, other, after, rfl, hbefore, hother⟩ := ih hrest
        refine ⟨item :: before, other, after, rfl, ?_, ?_⟩
        · exact List.forall_mem_cons.mpr ⟨⟨_, s, hs⟩, hbefore⟩
        · rw [List.length_cons, Nat.add_comm before.length, ← Nat.add_assoc]
          exact hother
      · cases h

/-- An array of selectors blames the first that is not valid by itself. -/
lemma blamed_array {items : List Json} (hitems : ∀ item ∈ items, Faulty item)
    (h : ofItems config inItem place depth 0 items = .error error) :
    (Role.selectors inItem).Blamed config depth (.array items) place error := by
  obtain ⟨before, item, after, rfl, hbefore, hitem⟩ := exists_of_ofItems_eq_error h
  obtain ⟨steps, hsteps, hblames⟩ := (hitems item (by simp)).selector hitem
  rw [Nat.zero_add] at hblames
  refine ⟨.index before.length :: steps, .index rfl ?_ hsteps, .cons nofun hblames⟩
  intro other hother
  obtain ⟨here, s, hs⟩ := hbefore other hother
  exact ((accepted other).selector config inItem here depth).mp ⟨s, hs⟩

lemma blamed_selector_object {members : Fields Json}
    (hmembers : ∀ member ∈ members, Faulty member.2)
    (h : ofTree config inItem place depth (.object members) = .error error) :
    (Role.selector inItem).Blamed config depth (.object members) place error := by
  rw [ofTree] at h
  obtain hcheck | ⟨u, hcheck, hrest⟩ := bind_eq_error_iff.mp h
  · exact blamed_of_checkDepth And.left hcheck
  · have hdepth : depth ≤ config.maxSelectorDepth := exists_checkDepth_eq_ok_iff.mp ⟨u, hcheck⟩
    have hparts := map_eq_error_iff.mp hrest
    rw [ofMembers_eq_mapM] at hparts
    refine blamed_object hparts trivial ⟨hdepth, members, rfl⟩
      (fun _ => accepts_entry_iff hdepth) ?_ ?_
    · exact fun member hmember => blamed_entry (hmembers member hmember) hdepth
    · intro member hkey
      simp only [ofEntry, hkey]

lemma blamed_condition_object {members : Fields Json}
    (hmembers : ∀ member ∈ members, Faulty member.2) (hdepth : depth ≤ config.maxSelectorDepth)
    (hpath : path.depth ≤ config.maxPathDepth)
    (h : ofCondition config path place depth (.object members) = .error error) :
    (Role.condition path).Blamed config depth (.object members) place error := by
  cases members with
  | nil => cases h
  | cons first rest =>
    rw [ofCondition, map_eq_error_iff, ofConditionMembers_eq_mapM] at h
    refine blamed_object h trivial ⟨hdepth, hpath⟩
      (fun _ => accepts_conditionEntry_iff hdepth hpath) ?_ ?_
    · exact fun member hmember => blamed_conditionEntry (hmembers member hmember) hdepth hpath
    · intro member hkey
      rw [ofConditionEntry, hkey]

/-- What is no object is no selector, and as a condition it is read. -/
lemma Faulty.of_kind_ne (hkind : json.kind ≠ .object)
    (hparts : ∀ {items}, json = .array items → ∀ item ∈ items, Faulty item) : Faulty json where
  selector {config inItem place depth error} h := by
    cases json with
    | object members => exact absurd rfl hkind
    | _ =>
      simp only [ofTree] at h
      obtain hcheck | ⟨_, _, hrest⟩ := bind_eq_error_iff.mp h
      · exact blamed_of_checkDepth And.left hcheck
      · cases hrest
        exact Role.blamed_here (by simp [Role.Faultless]) _
  parts := by
    rintro items rfl config inItem place depth error h
    exact blamed_array (hparts rfl) h
  condition {config path place depth error} _ _ h := by
    cases json with
    | object members => exact absurd rfl hkind
    | _ => cases h

/-- **Every reader of a tree blames the first fault of it.** -/
theorem faulty (json : Json) : Faulty json := by
  induction json using Tree.induction_objects with
  | other json hkind ih => exact .of_kind_ne hkind ih
  | object members ih =>
    exact {
      selector := blamed_selector_object ih
      parts := nofun
      condition := blamed_condition_object ih }

/-! ### Rejected selectors -/

/-- **A rejected selector is blamed at its first fault, and with the right kind**: the place is that
of a part of it, everything that comes earlier is valid by itself, and there is no other such
place. -/
theorem rejection_blames_first_fault {config : QueryConfig} {json : Json} {error : QueryError}
    (h : ofJsonWith config json = .error error) :
    ∃ steps part, json.HasPart steps part
      ∧ Role.FirstFault config 0 (.selector false) json steps
      ∧ (∀ other, Role.FirstFault config 0 (.selector false) json other → other = steps)
      ∧ error.BlamesSelector steps := by
  obtain ⟨steps, hfirst, hblames⟩ := (faulty json).selector h
  obtain ⟨part, hpart⟩ := hfirst.exists_hasPart
  exact ⟨steps, part, hpart, hfirst, fun _ hother => hother.unique hfirst, hblames.blamesSelector⟩

/-- A selector with an operator that there is not, within an array and after a valid condition. -/
def nearestSurveys : Json :=
  .object [
    ("year", .object [("$gt", .number (.int 1990))]),
    ("samples", .object [
      ("$size", .number (.int 3)),
      ("$elemMatch", .object [
        ("$or", .array [
          .object [("depth", .number (.int 2))],
          .object [("site", .object [("$near", .string "north")])]])])])]

/-- The steps to it. -/
def nearestSteps : List Step :=
  [.key "samples", .key "$elemMatch", .key "$or", .index 1, .key "site", .key "$near"]

theorem nearestSurveys_rejected :
    ofJsonWith .standard nearestSurveys
        = .error (.unsupportedOperator "$near" ⟨"selector", nearestSteps⟩)
      ∧ Location.text ⟨"selector", nearestSteps⟩ = "selector.samples.$elemMatch.$or[1].site.$near"
      ∧ ∃ steps part, nearestSurveys.HasPart steps part
        ∧ Role.FirstFault .standard 0 (.selector false) nearestSurveys steps
        ∧ (∀ other, Role.FirstFault .standard 0 (.selector false) nearestSurveys other →
          other = steps)
        ∧ (QueryError.unsupportedOperator "$near" ⟨"selector", nearestSteps⟩).BlamesSelector
          steps := by
  have h : ofJsonWith .standard nearestSurveys
      = .error (.unsupportedOperator "$near" ⟨"selector", nearestSteps⟩) := rfl
  exact ⟨h, by decide, rejection_blames_first_fault h⟩

end Selector

end Parts

end DocQuery
