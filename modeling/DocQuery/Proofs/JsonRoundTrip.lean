import DocQuery.Proofs.ValueEquality

/-!
Values that are written as JSON and read again.  Whole numbers below `2 ^ 53` are written as
integers and all others as doubles, so a finite number comes back as it was, but for the sign of a
zero.

* `Tree.distinctKeys_bindNumbers` and `Tree.AllNumbers.bindNumbers`: a change of numbers repeats no
  key, and all numbers of the outcome are those it gives;
* `Value.Portable`: a value without repeated keys whose numbers are all finite;
* `Value.ofJson_toJson` (**main statement**): a value with finite numbers comes back with the same
  keys in the same order and the same numbers, and its zeros are positive.
-/

namespace DocQuery

/-! ### Objects under a change of numbers -/

namespace Tree

variable {ν μ : Type}

lemma bindNumbers_array (f : ν → Tree μ) (items : List (Tree ν)) :
    (array items).bindNumbers f = .array (items.map (bindNumbers f)) :=
  congrArg array (bindNumbersItems_eq_map f items)

lemma bindNumbers_object (f : ν → Tree μ) (members : Fields (Tree ν)) :
    (object members).bindNumbers f
      = .object (members.map fun member => (member.1, member.2.bindNumbers f)) :=
  congrArg object (bindNumbersMembers_eq_map f members)

/-- Where numbers give trees that repeat no key, neither does the whole. -/
lemma distinctKeys_bindNumbers {f : ν → Tree μ} (hf : ∀ n, (f n).DistinctKeys) {t : Tree ν}
    (h : t.DistinctKeys) : (t.bindNumbers f).DistinctKeys := by
  induction t using Tree.induction with
  | number n => exact hf n
  | array items ih =>
    have hitems := distinctKeysItems_iff.mp h
    rw [bindNumbers_array]
    refine distinctKeysItems_iff.mpr fun item hitem => ?_
    obtain ⟨before, hbefore, rfl⟩ := List.mem_map.mp hitem
    exact ih before hbefore (hitems before hbefore)
  | object members ih =>
    obtain ⟨hdistinct, hmembers⟩ := h
    rw [distinctKeysMembers_iff] at hmembers
    rw [bindNumbers_object]
    refine ⟨?_, distinctKeysMembers_iff.mpr fun member hmember => ?_⟩
    · rw [Fields.Distinct, Fields.keys_map]
      exact hdistinct
    · obtain ⟨before, hbefore, rfl⟩ := List.mem_map.mp hmember
      exact ih before hbefore (hmembers before hbefore)
  | _ => trivial

/-- Where numbers give trees whose numbers have a property, so does the whole. -/
lemma AllNumbers.bindNumbers {p : ν → Prop} {q : μ → Prop} {f : ν → Tree μ}
    (hf : ∀ n, p n → (f n).AllNumbers q) {t : Tree ν} (h : t.AllNumbers p) :
    (t.bindNumbers f).AllNumbers q := by
  induction t using Tree.induction with
  | number n => exact hf n h
  | array items ih =>
    have hitems := allNumbersItems_iff.mp h
    rw [bindNumbers_array]
    refine allNumbersItems_iff.mpr (List.forall_mem_map.mpr fun item hitem => ?_)
    exact ih item hitem (hitems item hitem)
  | object members ih =>
    have hmembers := allNumbersMembers_iff.mp h
    rw [bindNumbers_object]
    refine allNumbersMembers_iff.mpr (List.forall_mem_map.mpr fun member hmember => ?_)
    exact ih member hmember (hmembers member hmember)
  | _ => trivial

end Tree

/-! ### Zeros -/

namespace Binary64

variable {x : Binary64} {n : Int}

lemma integral?_of_magnitude (h : x.magnitude = 0) : x.integral? = some 0 := by
  have hsignificand : x.significand = 0 := by
    rw [significand, h, if_pos (twoPow_pos 52)]
  have hintegral : x.isIntegral = true := by
    simp [isIntegral, isFinite, h, hsignificand, infinity]
  have htruncated : x.truncated = 0 := by
    simp [truncated, hsignificand]
  simp [integral?, hintegral, htruncated]

lemma dropZeroSign_of_ne (h : x.magnitude ≠ 0) : x.dropZeroSign = x := if_neg h

/-- The double nearest to a whole number is no negative zero. -/
lemma ofInt_of_integral? (h : x.integral? = some n) : ofInt n = x.dropZeroSign := by
  by_cases hzero : x.magnitude = 0
  · have hn : n = 0 := by
      rw [integral?_of_magnitude hzero, Option.some.injEq] at h
      exact h.symm
    rw [hn, dropZeroSign, if_pos hzero]
    rfl
  · have hdrop := dropZeroSign_ofInt h
    rw [dropZeroSign_of_ne hzero] at hdrop ⊢
    have hne : (ofInt n).magnitude ≠ 0 := by
      intro hmagnitude
      rw [dropZeroSign, if_pos hmagnitude] at hdrop
      exact hzero (congrArg magnitude hdrop).symm
    rwa [dropZeroSign_of_ne hne] at hdrop

end Binary64

/-! ### Values as JSON -/

namespace Value

variable {v : Value}

lemma toJson_array (items : List Value) : toJson (.array items) = .array (items.map toJson) :=
  Tree.bindNumbers_array numberToJson items

lemma toJson_object (members : Fields Value) :
    toJson (.object members) = .object (members.map fun member => (member.1, member.2.toJson)) :=
  Tree.bindNumbers_object numberToJson members

lemma ofJson_array (items : List Json) : ofJson (.array items) = .array (items.map ofJson) :=
  Tree.mapNumbers_array _ items

lemma ofJson_object (members : Fields Json) :
    ofJson (.object members) = .object (members.map fun member => (member.1, ofJson member.2)) :=
  Tree.mapNumbers_object _ members

/-- A number is written without any object. -/
lemma distinctKeys_numberToJson (x : Binary64) : (numberToJson x).DistinctKeys := by
  rw [numberToJson]
  split
  · trivial
  · split <;> trivial

lemma distinctKeys_toJson (h : v.DistinctKeys) : v.toJson.DistinctKeys :=
  Tree.distinctKeys_bindNumbers distinctKeys_numberToJson h

/-- A finite double comes back from JSON as it was, but for the sign of a zero: a whole one below
`2 ^ 53` as the double nearest to its integer. -/
lemma ofJson_numberToJson {x : Binary64} (h : x.isFinite = true) :
    ofJson (numberToJson x) = .number x.dropZeroSign := by
  rw [numberToJson]
  cases hx : x.integral? with
  | some n =>
    dsimp only
    by_cases hlimit : x.magnitude < Binary64.exactLimit
    · rw [if_pos hlimit, ← Binary64.ofInt_of_integral? hx]
      rfl
    · have hne : x.magnitude ≠ 0 := by
        intro hzero
        rw [hzero] at hlimit
        exact hlimit (by decide)
      rw [if_neg hlimit, Binary64.dropZeroSign_of_ne hne]
      rfl
  | none =>
    have hne : x.magnitude ≠ 0 := by
      intro hzero
      rw [Binary64.integral?_of_magnitude hzero] at hx
      cases hx
    rw [if_pos h, Binary64.dropZeroSign_of_ne hne]
    rfl

/-- **A value with finite numbers comes back from JSON**, keys in their order and numbers as they
were, but for the signs of zeros. -/
theorem ofJson_toJson (h : v.AllNumbers fun x => x.isFinite = true) :
    ofJson v.toJson = v.dropZeroSigns := by
  induction v using Tree.induction with
  | number x => exact ofJson_numberToJson h
  | array items ih =>
    have hitems := Tree.allNumbersItems_iff.mp h
    rw [toJson_array, ofJson_array, dropZeroSigns_array, List.map_map]
    exact congrArg Tree.array (List.map_congr_left fun item hitem =>
      ih item hitem (hitems item hitem))
  | object members ih =>
    have hmembers := Tree.allNumbersMembers_iff.mp h
    rw [toJson_object, ofJson_object, dropZeroSigns_object, List.map_map]
    exact congrArg Tree.object (List.map_congr_left fun member hmember =>
      congrArg (Prod.mk member.1) (ih member hmember (hmembers member hmember)))
  | _ => rfl

/-- A value that JSON can hold: no object in it repeats a key, and its numbers are finite. -/
abbrev Portable (v : Value) : Prop := v.Clean fun x => x.isFinite = true

/-- Finite numbers are no NaNs. -/
lemma Portable.regular (h : v.Portable) : v.Regular := by
  refine ⟨h.distinct, h.numbers.mono fun x hx => ?_⟩
  rw [Binary64.isFinite, decide_eq_true_eq] at hx
  rw [Binary64.isNaN, decide_eq_false_iff_not]
  omega

end Value

end DocQuery
