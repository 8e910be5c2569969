import DocQuery.Proofs.BareDocuments

/-!
The conversion between values and JSON in both directions.  A number has several spellings in JSON,
`1` and `1.0` for one, of which the conversion of a value always chooses the same.

* `JsonNumber.Decoded` and `Json.Decoded`: what a JSON text can hold, in its numbers and as a whole;
* `Binary64.isFinite_ofInt`: whole numbers of 64 bits are in the range of doubles;
* `Value.portable_ofJson`: a decoded text gives a value that JSON can hold;
* `Value.toJson_dropZeroSigns`: the JSON form does not show the signs of zeros;
* `Value.toJson_ofJson_toJson` and `Value.json_round_trips` (**main statements**): values come back
  from JSON, and the JSON form of a value is canonical.
-/

namespace DocQuery

/-! ### Whole numbers as doubles -/

namespace Binary64

lemma roundHalfEven_le (n d : Nat) : roundHalfEven n d ≤ n / d + 1 := by
  rw [roundHalfEven]
  split <;> omega

/-- Rounding carries a whole number to the next power of two at most. -/
lemma magnitudeOfNat_le {n top : Nat} (hlow : twoPow top ≤ n) (hhigh : n < twoPow (top + 1)) :
    magnitudeOfNat n ≤ (1024 + top) * twoPow 52 := by
  rw [magnitudeOfNat_eq hlow hhigh]
  split_ifs with htop
  · have hscaled : n * twoPow (52 - top) ≤ twoPow 53 := by
      calc
        n * twoPow (52 - top) ≤ twoPow (top + 1) * twoPow (52 - top) :=
          Nat.mul_le_mul_right _ (Nat.le_of_lt hhigh)
        _ = twoPow 53 := by rw [← twoPow_add, show top + 1 + (52 - top) = 53 by omega]
    rw [twoPow_53] at hscaled
    rw [twoPow_52]
    omega
  · have hquotient : n / twoPow (top - 52) < twoPow 53 := by
      refine Nat.div_lt_of_lt_mul ?_
      rwa [← twoPow_add, show top - 52 + 53 = top + 1 by omega]
    have hround := roundHalfEven_le n (twoPow (top - 52))
    rw [twoPow_53] at hquotient
    rw [twoPow_52]
    omega

lemma magnitudeOfNat_lt_infinity {n : Nat} (h : n < twoPow 64) : magnitudeOfNat n < infinity := by
  by_cases hzero : n = 0
  · rw [hzero]
    decide
  · have hlow : twoPow n.log2 ≤ n := Nat.log2_self_le hzero
    have hhigh : n < twoPow (n.log2 + 1) := Nat.lt_log2_self
    have htop : n.log2 < 64 := (Nat.log2_lt hzero).mpr h
    have hle := magnitudeOfNat_le hlow hhigh
    have hinfinity : infinity = 2047 * twoPow 52 := rfl
    rw [hinfinity]
    rw [twoPow_52] at hle ⊢
    omega

/-- Whole numbers of 64 bits, with sign or without, are in the range of doubles. -/
lemma isFinite_ofInt {n : Int} (hlow : -(twoPow 63 : Int) ≤ n) (hhigh : n < twoPow 64) :
    (ofInt n).isFinite = true := by
  have habs : n.natAbs < twoPow 64 := by
    have htwice : twoPow 64 = 2 * twoPow 63 := twoPow_succ 63
    omega
  rw [isFinite, decide_eq_true_eq]
  exact Nat.lt_of_le_of_lt (Nat.min_le_right _ _) (magnitudeOfNat_lt_infinity habs)

end Binary64

/-! ### Decoded texts -/

/-- The numbers of JSON texts: integers that fit into 64 bits, with sign or without, and finite
doubles. -/
def JsonNumber.Decoded : JsonNumber → Prop
  | .int n => -(twoPow 63 : Int) ≤ n ∧ n < twoPow 64
  | .double x => x.isFinite = true

/-- What a JSON text is decoded to: no object repeats a key, and the numbers are those of texts. -/
abbrev Json.Decoded (json : Json) : Prop := json.Clean JsonNumber.Decoded

lemma JsonNumber.Decoded.isFinite_toBinary64 {a : JsonNumber} (h : a.Decoded) :
    a.toBinary64.isFinite = true := by
  cases a with
  | int n => exact Binary64.isFinite_ofInt h.1 h.2
  | double x => exact h

namespace Value

variable {v : Value} {json : Json}

/-- The value of a decoded text is one that JSON can hold. -/
lemma portable_ofJson (h : json.Decoded) : (ofJson json).Portable where
  distinct := Tree.distinctKeys_bindNumbers (fun _ => by trivial) h.distinct
  numbers := h.numbers.bindNumbers fun _ => JsonNumber.Decoded.isFinite_toBinary64

/-! ### The canonical form -/

lemma numberToJson_dropZeroSign (x : Binary64) : numberToJson x.dropZeroSign = numberToJson x := by
  by_cases hzero : x.magnitude = 0
  · have hlimit : (0 : Nat) < Binary64.exactLimit := by decide
    have hdropped := (Binary64.magnitude_dropZeroSign x).trans hzero
    rw [numberToJson, numberToJson, Binary64.integral?_of_magnitude hzero,
      Binary64.integral?_of_magnitude hdropped]
    simp only [hzero, hdropped, if_pos hlimit]
  · rw [Binary64.dropZeroSign_of_ne hzero]

/-- A zero is written as the integer, whatever its sign. -/
lemma toJson_dropZeroSigns (v : Value) : v.dropZeroSigns.toJson = v.toJson := by
  induction v using Tree.induction with
  | number x => exact numberToJson_dropZeroSign x
  | array items ih =>
    rw [dropZeroSigns_array, toJson_array, toJson_array, List.map_map]
    exact congrArg Tree.array (List.map_congr_left ih)
  | object members ih =>
    rw [dropZeroSigns_object, toJson_object, toJson_object, List.map_map]
    exact congrArg Tree.object (List.map_congr_left fun member hmember =>
      congrArg (Prod.mk member.1) (ih member hmember))
  | _ => rfl

/-- **The JSON form of a value is canonical**: read and written again it does not change. -/
theorem toJson_ofJson_toJson (h : v.Portable) : (ofJson v.toJson).toJson = v.toJson := by
  rw [ofJson_toJson h.numbers, toJson_dropZeroSigns]

/-- A value is equal to what comes back from its JSON form. -/
lemma ofJson_toJson_beq (h : v.Portable) : (ofJson v.toJson == v) = true := by
  rw [ofJson_toJson h.numbers, beq_dropZeroSigns_left]
  exact h.regular.beq_self

/-- **Values and JSON.**  A value with finite numbers comes back from JSON equal to itself: with its
keys in the same order everywhere and with the same numbers, but for the signs of zeros.  The value
of a decoded text has a JSON form that reading and writing leave as it is, and that stands for a
value equal to that of the text. -/
theorem json_round_trips :
    (∀ v : Value, v.Portable →
        ofJson v.toJson = v.dropZeroSigns ∧ (ofJson v.toJson == v) = true)
      ∧ ∀ json : Json, json.Decoded →
        (ofJson (ofJson json).toJson).toJson = (ofJson json).toJson
          ∧ (ofJson (ofJson json).toJson == ofJson json) = true := by
  refine ⟨fun v h => ⟨ofJson_toJson h.numbers, ofJson_toJson_beq h⟩, fun json h => ?_⟩
  have hportable := portable_ofJson h
  exact ⟨toJson_ofJson_toJson hportable, ofJson_toJson_beq hportable⟩

/-- Numbers on both sides of `2 ^ 53` and a negative zero come back, the zero without its sign; a
large integer becomes a double and a whole double an integer. -/
theorem limits_round_trip :
    let value (zero : Binary64) : Value := .object [("steps", .array
      [.number ⟨true, 0x433FFFFFFFFFFFFF, by decide⟩, .number zero,
        .number ⟨false, 0x4340000000000000, by decide⟩]),
      ("range", .object [("to", .number ⟨false, 0x3FE0000000000000, by decide⟩), ("from", .null)])]
    let json : Json := .object [("total", .number (.int 18446744073709551615)),
      ("unit", .number (.double ⟨false, 0x3FF0000000000000, by decide⟩))]
    let canonical : Json := .object
      [("total", .number (.double ⟨false, 0x43F0000000000000, by decide⟩)),
        ("unit", .number (.int 1))]
    (value ⟨true, 0, by decide⟩).Portable
      ∧ ofJson (value ⟨true, 0, by decide⟩).toJson = value ⟨false, 0, by decide⟩
      ∧ json.Decoded ∧ (ofJson json).toJson = canonical
      ∧ (ofJson canonical).toJson = canonical := by
  intro value json canonical
  have hvalue : (value ⟨true, 0, by decide⟩).Portable := by
    constructor
    · simp [value, Tree.DistinctKeys, Tree.DistinctKeysItems, Tree.DistinctKeysMembers,
        Fields.Distinct, Fields.keys]
    · simp [value, Tree.AllNumbers, Tree.AllNumbersItems, Tree.AllNumbersMembers,
        Binary64.isFinite, Binary64.infinity]
  have hjson : json.Decoded := by
    constructor
    · simp [json, Tree.DistinctKeys, Tree.DistinctKeysMembers, Fields.Distinct, Fields.keys]
    · have htotal : JsonNumber.Decoded (.int 18446744073709551615) := ⟨by decide, by decide⟩
      exact ⟨htotal, rfl, trivial⟩
  have hcanonical : (ofJson json).toJson = canonical := rfl
  have hback := (json_round_trips.2 json hjson).1
  rw [hcanonical] at hback
  exact ⟨hvalue, (json_round_trips.1 _ hvalue).1, hjson, hcanonical, hback⟩

end Value

end DocQuery
