import DocQuery.Proofs.SelectorEntries

/-!
What the operators on one field mean, said of the operand as it is written in JSON.

* `JsonNumber.Denotes`: the whole number that a number denotes, in either spelling;
* `Json.FieldEquals` and `Json.FieldCompares`: a field beside a literal;
* `Json.OperatorAsserts` (**operators**): what an operator and its operand say of a field;
* `Json.holds_ofOperand_iff`: the test that is read from an operand says the same.
-/

namespace DocQuery

/-! ### Whole numbers -/

/-- A number denotes a whole number. -/
def JsonNumber.Denotes : JsonNumber → Int → Prop
  | .int m, n => m = n
  | .double x, n => x.integral? = some n

/-- A whole double that is not below zero denotes no negative number; the negative zero denotes
zero. -/
lemma Binary64.zero_le_of_integral? {x : Binary64} {n : Int} (hkey : ¬ x.key < 0)
    (h : x.integral? = some n) : 0 ≤ n := by
  unfold integral? at h
  split at h
  · rw [Option.some.injEq] at h
    cases hsign : x.negative with
    | false =>
      rw [hsign, if_neg Bool.false_ne_true] at h
      omega
    | true =>
      rw [key, hsign, if_pos rfl] at hkey
      have hmagnitude : x.magnitude = 0 := by omega
      have htruncated : x.truncated = 0 := by
        have hsignificand : x.significand = 0 := by
          rw [significand, hmagnitude]
          rfl
        rw [truncated, hsignificand, Nat.zero_mul, Nat.zero_div, ite_self]
      rw [hsign, if_pos rfl, htruncated] at h
      omega
  · cases h

namespace JsonNumber

variable {number : JsonNumber}

lemma denotes_iff_of_integer? {k : Int} (h : number.integer? = some k) (n : Int) :
    number.Denotes n ↔ n = k := by
  cases number with
  | int m =>
    rw [integer?, Option.ite_none_right_eq_some] at h
    rw [Denotes, Option.some.inj h.2, eq_comm]
  | double x =>
    rw [integer?, Option.ite_none_left_eq_some] at h
    rw [Denotes, h.2, Option.some.injEq, eq_comm]

lemma denotes_iff_of_count? {k : Nat} (h : number.count? = some k) (n : Nat) :
    number.Denotes n ↔ n = k := by
  cases number with
  | int m =>
    rw [count?, Option.ite_none_right_eq_some, Option.some.injEq] at h
    rw [Denotes]
    omega
  | double x =>
    rw [count?, Option.ite_none_left_eq_some, Option.map_eq_some_iff] at h
    obtain ⟨hrange, m, hm, rfl⟩ := h
    have hnonneg := Binary64.zero_le_of_integral? (fun hkey => hrange (.inl hkey)) hm
    rw [Denotes, hm, Option.some.injEq]
    omega

end JsonNumber

/-! ### Kinds -/

namespace Kind

lemma ofName?_eq_some_iff {name : String} {kind : Kind} :
    ofName? name = some kind ↔ name = kind.name := by
  constructor
  · intro h
    unfold ofName? at h
    split at h <;> cases h <;> rfl
  · rintro rfl
    cases kind <;> rfl

lemma name_inj {a b : Kind} : a.name = b.name ↔ a = b := by
  rw [← ofName?_eq_some_iff, ofName?_eq_some_iff.mpr rfl, Option.some.injEq]

end Kind

/-! ### Operators -/

namespace Json

/-- A field equals a literal; an absent field equals null only. -/
def FieldEquals (field : Option Value) (literal : Json) : Prop :=
  match field with
  | some v => (v == Value.ofJson literal) = true
  | none => literal = .null

/-- A field is there, has the kind of a literal and compares with it as wanted. -/
def FieldCompares (field : Option Value) (literal : Json) (wanted : Ordering → Prop) : Prop :=
  ∃ v, field = some v ∧ v.kind = literal.kind ∧ wanted (v.collate (Value.ofJson literal))

/-- What an operator and its operand say of a field. -/
def OperatorAsserts (operator : String) (operand : Json) (field : Option Value) : Prop :=
  match operator with
  | "$eq" => FieldEquals field operand
  | "$ne" => ¬ FieldEquals field operand
  | "$lt" => FieldCompares field operand (· = .lt)
  | "$lte" => FieldCompares field operand (· ≠ .gt)
  | "$gt" => FieldCompares field operand (· = .gt)
  | "$gte" => FieldCompares field operand (· ≠ .lt)
  | "$in" => ∃ values, operand = .array values ∧ ∃ value ∈ values, FieldEquals field value
  | "$nin" => ∃ values, operand = .array values ∧ ∀ value ∈ values, ¬ FieldEquals field value
  | "$all" => ∃ values items, operand = .array values ∧ values ≠ [] ∧ field = some (.array items)
      ∧ ∀ value ∈ values, ∃ item ∈ items, FieldEquals (some item) value
  | "$exists" => operand = .bool field.isSome
  | "$type" => ∃ v, field = some v ∧ operand = .string v.kind.name
  | "$size" => ∃ number items, operand = .number number ∧ field = some (.array items)
      ∧ number.Denotes items.length
  -- The remainder has the sign of the field, which is whole and no farther from zero than doubles
  -- count exactly.
  | "$mod" => ∃ first second divisor remainder x n,
      operand = .array [.number first, .number second] ∧ first.Denotes divisor
        ∧ second.Denotes remainder ∧ field = some (.number x)
        ∧ x.magnitude ≤ Binary64.exactLimit ∧ x.integral? = some n ∧ n.tmod divisor = remainder
  | "$like" => ∃ pattern text, operand = .string pattern ∧ field = some (.string text)
      ∧ LikePattern.isMatch ⟨pattern⟩ text = true
  | "$regex" => ∃ source pattern text, operand = .string source
      ∧ Regex.ofText source = .ok pattern ∧ field = some (.string text)
      ∧ pattern.isMatch text = true
  | _ => False

variable {config : QueryConfig} {place : Location} {operand : Json} {field : Option Value}

lemma equals_iff :
    FieldTest.equals field (Value.ofJson operand) = true ↔ FieldEquals field operand := by
  cases field with
  | some v => rfl
  | none =>
    rw [FieldTest.equals, FieldEquals, decide_eq_true_eq, Value.ofJson, Tree.kind_mapNumbers]
    cases operand <;> simp [Tree.kind]

lemma compares_iff {wanted : Ordering → Bool} :
    FieldTest.compares field (Value.ofJson operand) wanted = true
      ↔ FieldCompares field operand fun order => wanted order = true := by
  cases field with
  | none => simp [FieldTest.compares, FieldCompares]
  | some v =>
    have hkind : (Value.ofJson operand).kind = operand.kind := Tree.kind_mapNumbers _ _
    by_cases h : v.kind = operand.kind
    · simp [FieldTest.compares, FieldCompares, Value.compareSameKind?, hkind, h]
    · simp [FieldTest.compares, FieldCompares, Value.compareSameKind?, hkind, h]

lemma valueSet_eq_ok_iff {values : List Value}
    (h : FieldTest.valueSet config operand place = .ok values) :
    ∃ literals, operand = .array literals ∧ values = literals.map Value.ofJson := by
  unfold FieldTest.valueSet at h
  split at h
  · split at h
    · cases h
    · cases h
      exact ⟨_, rfl, rfl⟩
  · cases h

lemma eq_of_divisorAndRemainder?_eq_some {divisor remainder : Int}
    (h : FieldTest.divisorAndRemainder? operand = some (divisor, remainder)) :
    ∃ first second : JsonNumber, operand = .array [.number first, .number second]
      ∧ first.integer? = some divisor ∧ second.integer? = some remainder := by
  unfold FieldTest.divisorAndRemainder? at h
  split at h
  case h_1 first second =>
    simp only [bind, Option.bind_eq_some_iff] at h
    obtain ⟨d, hd, r, hr, hpair⟩ := h
    cases hpair
    exact ⟨first, second, rfl, hd, hr⟩
  case h_2 => cases h

lemma any_equals_iff {literals : List Json} :
    (literals.map Value.ofJson).any (FieldTest.equals field) = true
      ↔ ∃ literal ∈ literals, FieldEquals field literal := by
  simp only [List.any_map, List.any_eq_true, Function.comp_apply, equals_iff]

lemma asArray?_any_iff {p : List Value → Bool} :
    (field.bind Tree.asArray?).any p = true
      ↔ ∃ items, field = some (.array items) ∧ p items = true := by
  rcases field with _ | ⟨_ | _ | _ | _ | items | _⟩ <;> simp [Tree.asArray?]

lemma asString?_any_iff {p : String → Bool} :
    (field.bind Tree.asString?).any p = true
      ↔ ∃ text, field = some (.string text) ∧ p text = true := by
  rcases field with _ | ⟨_ | _ | _ | text | _ | _⟩ <;> simp [Tree.asString?]

lemma containsAll_iff {literals : List Json} :
    (FieldTest.containsAll (literals.map Value.ofJson)).holds field = true
      ↔ literals ≠ [] ∧ ∃ items, field = some (.array items)
        ∧ ∀ literal ∈ literals, ∃ item ∈ items, FieldEquals (some item) literal := by
  rw [FieldTest.holds, Bool.and_eq_true, Bool.not_eq_true', List.isEmpty_eq_false_iff, ne_eq,
    List.map_eq_nil_iff, asArray?_any_iff]
  simp only [List.all_map, List.all_eq_true, List.any_eq_true, Function.comp_apply, FieldEquals]

lemma modulo_iff {divisor remainder : Int} (hdivisor : divisor ≠ 0) :
    (FieldTest.modulo divisor remainder).holds field = true
      ↔ ∃ x n, field = some (.number x) ∧ x.magnitude ≤ Binary64.exactLimit
        ∧ x.integral? = some n ∧ n.tmod divisor = remainder := by
  rcases field with _ | ⟨_ | _ | x | _ | _ | _⟩
  case some.number =>
    by_cases hsmall : x.magnitude ≤ Binary64.exactLimit
    · cases hn : x.integral? <;>
        simp [FieldTest.holds, FieldTest.leaves, FieldTest.smallInteger?, Nat.not_lt.mpr, hsmall,
          hn, hdivisor]
    · simp [FieldTest.holds, FieldTest.leaves, FieldTest.smallInteger?, Nat.lt_of_not_le, hsmall]
  all_goals simp [FieldTest.holds, FieldTest.leaves, FieldTest.smallInteger?]

lemma comparesAs_iff (comparison : Comparison) :
    FieldTest.comparesAs field (Value.ofJson operand) comparison = true
      ↔ OperatorAsserts (TestOperator.compare comparison).name operand field := by
  cases comparison with
  | eq => exact equals_iff
  | ne =>
    rw [FieldTest.comparesAs, Bool.not_eq_true', Bool.eq_false_iff, ne_eq, equals_iff]
    rfl
  | gt => exact compares_iff.trans (by simp only [beq_iff_eq]; rfl)
  | gte => exact compares_iff.trans (by simp only [bne_iff_ne]; rfl)
  | lt => exact compares_iff.trans (by simp only [beq_iff_eq]; rfl)
  | lte => exact compares_iff.trans (by simp only [bne_iff_ne]; rfl)

/-- **A test says of a field what its operator and its operand say.** -/
theorem holds_ofOperand_iff {operator : TestOperator} {test : FieldTest}
    (h : FieldTest.ofOperand config operator operand place = .ok test) :
    test.holds field = true ↔ OperatorAsserts operator.name operand field := by
  unfold FieldTest.ofOperand at h
  cases operator with
  | compare comparison =>
    cases h
    exact comparesAs_iff comparison
  | isIn =>
    obtain ⟨values, hvalues, rfl⟩ := map_eq_ok_iff.mp h
    obtain ⟨literals, rfl, rfl⟩ := valueSet_eq_ok_iff hvalues
    rw [FieldTest.holds, any_equals_iff]
    simp [OperatorAsserts, TestOperator.name]
  | notIn =>
    obtain ⟨values, hvalues, rfl⟩ := map_eq_ok_iff.mp h
    obtain ⟨literals, rfl, rfl⟩ := valueSet_eq_ok_iff hvalues
    rw [FieldTest.holds, Bool.not_eq_true', Bool.eq_false_iff, ne_eq, any_equals_iff]
    simp [OperatorAsserts, TestOperator.name]
  | containsAll =>
    obtain ⟨values, hvalues, rfl⟩ := map_eq_ok_iff.mp h
    obtain ⟨literals, rfl, rfl⟩ := valueSet_eq_ok_iff hvalues
    rw [containsAll_iff]
    simp [OperatorAsserts, TestOperator.name]
  | presence =>
    cases operand with
    | bool expected =>
      cases h
      change (field.isSome == expected) = true ↔ Tree.bool expected = .bool field.isSome
      rw [beq_iff_eq, Tree.bool.injEq, eq_comm]
    | _ => cases h
  | kind =>
    cases operand with
    | string name =>
      dsimp only [Tree.asString?, Option.bind_some] at h
      cases hkind : Kind.ofName? name with
      | none => rw [hkind] at h; cases h
      | some kind =>
        rw [hkind] at h
        cases h
        rw [Kind.ofName?_eq_some_iff.mp hkind, FieldTest.holds, Option.any_eq_true]
        simp only [decide_eq_true_eq, OperatorAsserts, TestOperator.name, Tree.string.injEq,
          Kind.name_inj, @eq_comm _ kind]
    | _ => cases h
  | size =>
    cases operand with
    | number number =>
      dsimp only [Tree.asNumber?, Option.bind_some] at h
      cases hsize : number.count? with
      | none => rw [hsize] at h; cases h
      | some size =>
        rw [hsize] at h
        cases h
        rw [FieldTest.holds, asArray?_any_iff]
        simp [OperatorAsserts, TestOperator.name, JsonNumber.denotes_iff_of_count? hsize]
    | _ => cases h
  | modulo =>
    cases hpair : FieldTest.divisorAndRemainder? operand with
    | none => rw [hpair] at h; cases h
    | some pair =>
      obtain ⟨divisor, remainder⟩ := pair
      rw [hpair] at h
      simp only at h
      split_ifs at h with hdivisor
      cases h
      rw [modulo_iff hdivisor]
      obtain ⟨first, second, rfl, hfirst, hsecond⟩ := eq_of_divisorAndRemainder?_eq_some hpair
      constructor
      · rintro ⟨x, n, hfield⟩
        exact ⟨first, second, divisor, remainder, x, n, rfl,
          (JsonNumber.denotes_iff_of_integer? hfirst _).mpr rfl,
          (JsonNumber.denotes_iff_of_integer? hsecond _).mpr rfl, hfield⟩
      · rintro ⟨_, _, d, r, x, n, hoperand, hd, hr, hfield⟩
        cases hoperand
        rw [JsonNumber.denotes_iff_of_integer? hfirst] at hd
        rw [JsonNumber.denotes_iff_of_integer? hsecond] at hr
        exact ⟨x, n, hd ▸ hr ▸ hfield⟩
  | like =>
    cases operand with
    | string source =>
      cases h
      rw [FieldTest.holds, asString?_any_iff]
      simp [OperatorAsserts, TestOperator.name]
    | _ => cases h
  | regex =>
    cases operand with
    | string source =>
      cases hregex : Regex.ofText source with
      | error reason => simp [hregex] at h
      | ok pattern =>
        simp only [hregex] at h
        cases h
        rw [FieldTest.holds, asString?_any_iff]
        simp [OperatorAsserts, TestOperator.name, hregex]
    | _ => cases h

end Json

end DocQuery
