import DocQuery.Proofs.CanonicalJson
import DocQuery.Proofs.FieldEdits
import DocQuery.Value.OfText
import Mathlib.Tactic.Ring

/-!
What is read from a JSON text: no object repeats a key, and every number is a whole one of 64 bits
or a finite double.

* `Binary64.isFinite_div`: dividing by two or more stays in the range of doubles;
* `Json.Reader.Gives`: what is taken from an input has a property;
* `Json.Reader.gives_unsignedNumber`: the numbers that are read;
* `Json.Reader.takes` (**reading**): the trees that are read, by induction on the fuel;
* `Json.decoded_read` and `Value.portable_ofText` (**main statements**): whole texts.
-/

namespace DocQuery

/-! ### Division in the range of doubles -/

lemma twoPow_le_twoPow {m n : Nat} (h : m ≤ n) : twoPow m ≤ twoPow n :=
  Nat.pow_le_pow_right (by decide) h

lemma log2_lt_of_lt_twoPow {n k : Nat} (hn : n ≠ 0) (h : n < twoPow k) : n.log2 < k :=
  (Nat.log2_lt hn).mpr h

namespace Binary64

/-- Fewer than `2 ^ 2097` of the smallest doubles are in range. -/
lemma magnitudeOfUnits_lt_infinity {n d : Nat} (h : n / d < twoPow 2097) :
    magnitudeOfUnits n d < infinity := by
  have hshift : (n / d).log2 - 52 ≤ 2044 := by
    by_cases hzero : n / d = 0
    · rw [hzero]
      decide
    · have hlog := log2_lt_of_lt_twoPow hzero h
      omega
  have hquotient : n / (d * twoPow ((n / d).log2 - 52)) < twoPow 53 := by
    rw [← Nat.div_div_eq_div_mul]
    refine Nat.div_lt_of_lt_mul ?_
    rw [← twoPow_add]
    exact Nat.lt_of_lt_of_le Nat.lt_log2_self (twoPow_le_twoPow (by omega))
  have hround := roundHalfEven_le n (d * twoPow ((n / d).log2 - 52))
  have hinfinity : infinity = 2047 * twoPow 52 := rfl
  rw [magnitudeOfUnits, hinfinity]
  rw [twoPow_53] at hquotient
  rw [twoPow_52]
  omega

variable {x y : Binary64}

lemma ratio_lt (h : x.isFinite = true) : x.ratio.1 < x.ratio.2 * twoPow 1024 := by
  have hsignificand := x.significand_lt
  have hexponent : x.exponent ≤ 2046 := by
    have hfinite : x.magnitude < twoPow 52 * 2047 := of_decide_eq_true h
    have hquotient := Nat.div_lt_of_lt_mul hfinite
    rw [exponent]
    omega
  rw [ratio]
  split_ifs with hlarge
  · calc
      x.significand * twoPow (x.exponent - 1075)
          < twoPow 53 * twoPow (x.exponent - 1075) :=
        Nat.mul_lt_mul_of_pos_right hsignificand (twoPow_pos _)
      _ = twoPow (53 + (x.exponent - 1075)) := (twoPow_add _ _).symm
      _ ≤ twoPow 1024 := twoPow_le_twoPow (by omega)
      _ = 1 * twoPow 1024 := (Nat.one_mul _).symm
  · calc
      x.significand < twoPow 53 := hsignificand
      _ ≤ twoPow (1075 - x.exponent + 1024) := twoPow_le_twoPow (by omega)
      _ = twoPow (1075 - x.exponent) * twoPow 1024 := twoPow_add _ _

/-- A finite double divided by two or more is finite. -/
lemma isFinite_div (h : x.isFinite = true) (hpos : 0 < y.ratio.1)
    (htwo : 2 * y.ratio.2 ≤ y.ratio.1) : (x.div y).isFinite = true := by
  have hunits : x.ratio.1 * y.ratio.2 * twoPow 1074 / (x.ratio.2 * y.ratio.1) < twoPow 2097 := by
    have hx := ratio_lt h
    have hunit := twoPow_pos 1074
    have hpowers : twoPow 1024 * twoPow 1074 = 2 * twoPow 2097 := by
      rw [← twoPow_add, ← twoPow_succ]
    -- The powers are too large to be looked at.
    generalize twoPow 1024 = top at *
    generalize twoPow 1074 = unit at *
    generalize twoPow 2097 = bound at *
    refine Nat.div_lt_of_lt_mul (Nat.lt_of_mul_lt_mul_left (a := 2) ?_)
    calc
      2 * (x.ratio.1 * y.ratio.2 * unit) = x.ratio.1 * (2 * y.ratio.2) * unit := by ring
      _ ≤ x.ratio.1 * y.ratio.1 * unit :=
        Nat.mul_le_mul_right _ (Nat.mul_le_mul_left _ htwo)
      _ < x.ratio.2 * top * y.ratio.1 * unit :=
        Nat.mul_lt_mul_of_pos_right (Nat.mul_lt_mul_of_pos_right hx hpos) hunit
      _ = x.ratio.2 * y.ratio.1 * (top * unit) := by ring
      _ = 2 * (x.ratio.2 * y.ratio.1 * bound) := by rw [hpowers]; ring
  rw [isFinite, decide_eq_true_eq]
  exact Nat.lt_of_le_of_lt (Nat.min_le_right _ _) (magnitudeOfUnits_lt_infinity hunits)

end Binary64

namespace Json.Reader

/-! ### Numbers -/

/-- Whatever is taken from an input has a property. -/
def Gives {α : Type} (p : α → Prop) (taken : Except Failure (α × Input)) : Prop :=
  ∀ a rest, taken = .ok (a, rest) → p a

lemma gives_error {α : Type} (p : α → Prop) (e : Failure) : Gives p (.error e) := nofun

lemma gives_fail {α : Type} (p : α → Prop) (input : Input) (fault : Fault) :
    Gives p (input.fail fault) := gives_error p _

lemma gives_failAtNext {α : Type} (p : α → Prop) (input : Input) (fault : Fault) :
    Gives p (input.failAtNext fault) := gives_error p _

lemma gives_ok {α : Type} {p : α → Prop} {a : α} (h : p a) (rest : Input) :
    Gives p (.ok (a, rest)) := by
  rintro _ _ ⟨⟩
  exact h

lemma Gives.map {α β : Type} {p : α → Prop} {q : β → Prop} {taken : Except Failure (α × Input)}
    {f : α → β} (h : Gives p taken) (hf : ∀ a, p a → q (f a)) :
    Gives q (taken.map fun (a, rest) => (f a, rest)) := by
  cases taken with
  | error e => exact gives_error q e
  | ok read => exact gives_ok (hf _ (h read.1 read.2 rfl)) read.2

/-- The powers of ten that divide are at least two. -/
lemma two_le_powerOfTen : ∀ k < 309, k ≠ 0 →
    0 < (powerOfTen k).ratio.1 ∧ 2 * (powerOfTen k).ratio.2 ≤ (powerOfTen k).ratio.1 := by
  decide +kernel

lemma isFinite_scale {x y : Binary64} {exponent : Int} (hx : x.isFinite = true)
    (h : scale x exponent = some y) : y.isFinite = true := by
  have hdiv (k : Nat) (hk : k < 309) (hne : k ≠ 0) : (x.div (powerOfTen k)).isFinite = true :=
    Binary64.isFinite_div hx (two_le_powerOfTen k hk hne).1 (two_le_powerOfTen k hk hne).2
  fun_induction scale x exponent with
  | case1 x exponent =>
    cases h
    exact hx
  | case2 => cases h
  | case3 x exponent _ _ _ product hfinite => exact Option.some.inj h ▸ hfinite
  | case4 => cases h
  | case5 x exponent _ _ hneg hle =>
    cases h
    exact hdiv _ (by omega) (by omega)
  | case6 x exponent _ _ _ _ ih =>
    have hstep := hdiv 308 (by decide) (by decide)
    exact ih hstep h fun k hk hne =>
      Binary64.isFinite_div hstep (two_le_powerOfTen k hk hne).1 (two_le_powerOfTen k hk hne).2

lemma appendDigits_lt {significand : Nat} (h : significand < twoPow 64) (ds : List Nat) :
    (appendDigits significand ds).1 < twoPow 64 := by
  induction ds generalizing significand with
  | nil => exact h
  | cons d rest ih =>
    rw [appendDigits]
    split_ifs with hd
    · exact ih hd
    · exact h

variable {significand : Nat}

lemma isFinite_ofNat (h : significand < twoPow 64) :
    (Binary64.ofInt significand).isFinite = true := by
  have hpos := twoPow_pos 63
  exact Binary64.isFinite_ofInt (by omega) (by exact_mod_cast h)

lemma gives_double {x : Binary64} (h : x.isFinite = true) (negative : Bool) (rest : Input) :
    Gives JsonNumber.Decoded (.ok (.double (if negative then x.neg else x), rest)) :=
  gives_ok (by cases negative <;> exact h) rest

lemma gives_scaled (negative : Bool) (h : significand < twoPow 64) (exponent : Int)
    (input : Input) : Gives JsonNumber.Decoded (scaled negative significand exponent input) := by
  rw [scaled]
  split
  · rename_i x hx
    exact gives_double (isFinite_scale (isFinite_ofNat h) hx) negative _
  · exact gives_fail _ _ _

lemma gives_exponentPart (negative : Bool) (h : significand < twoPow 64) (start : Int)
    (input : Input) :
    Gives JsonNumber.Decoded (exponentPart negative significand start input) := by
  unfold exponentPart
  extract_lets letter sign digitsAt zero
  split
  · split
    · exact gives_fail _ _ _
    · exact gives_failAtNext _ _ _
  · split
    split
    · exact gives_scaled negative h _ _
    · split
      · exact gives_fail _ _ _
      · exact gives_double (by decide) negative _

lemma gives_fraction (negative : Bool) (h : significand < twoPow 64) (exponent : Int)
    (input : Input) : Gives JsonNumber.Decoded (fraction negative significand exponent input) := by
  rw [fraction]
  dsimp only
  split
  · split <;> exact gives_failAtNext _ _ _
  · have hlt := appendDigits_lt h (digits (input.drop 1))
    rw [optionalExponent]
    split
    · exact gives_exponentPart negative hlt _ _
    · exact gives_exponentPart negative hlt _ _
    · exact gives_scaled negative hlt _ _

/-- The numbers that are read are whole ones of 64 bits and finite doubles. -/
lemma gives_unsignedNumber (negative : Bool) (input : Input) :
    Gives JsonNumber.Decoded (unsignedNumber negative input) := by
  rw [unsignedNumber]
  split
  · split
    · exact gives_fail _ _ _
    · exact gives_failAtNext _ _ _
  · exact gives_failAtNext _ _ _
  · have hlt := appendDigits_lt (twoPow_pos 64) (digits input)
    dsimp only
    split
    · exact gives_fraction negative hlt _ _
    · exact gives_exponentPart negative hlt _ _
    · exact gives_exponentPart negative hlt _ _
    · split_ifs with hdropped hpositive hrange
      · exact gives_scaled negative hlt _ _
      · refine gives_ok ⟨?_, by exact_mod_cast hlt⟩ _
        have hpos := twoPow_pos 63
        omega
      · exact gives_double (isFinite_ofNat hlt) true _
      · have hpos := twoPow_pos 64
        exact gives_ok ⟨by omega, by omega⟩ _

/-! ### Trees -/

lemma gives_word {p : Json → Prop} {result : Json} (h : p result) (cs : List Char)
    (input : Input) : Gives p (word result cs input) := by
  induction cs generalizing input with
  | nil => exact gives_ok h _
  | cons c rest ih =>
    rw [word]
    split
    · exact gives_error _ _
    · split
      · exact ih _
      · exact gives_error _ _

/-- What is taken with some fuel is decoded: values, items and members. -/
structure Takes (fuel : Nat) : Prop where
  value : ∀ depth input, Gives Json.Decoded (value fuel depth input)
  items : ∀ depth first input,
    Gives (fun ts => ∀ t ∈ ts, Json.Decoded t) (items fuel depth first input)
  itemThenItems : ∀ depth input,
    Gives (fun ts => ∀ t ∈ ts, Json.Decoded t) (itemThenItems fuel depth input)
  members : ∀ depth first input,
    Gives (fun ms => ∀ m ∈ ms, Json.Decoded m.2) (members fuel depth first input)
  memberThenMembers : ∀ depth input,
    Gives (fun ms => ∀ m ∈ ms, Json.Decoded m.2) (memberThenMembers fuel depth input)

/-- Members that are collected give an object that repeats no key. -/
lemma decoded_object {ms : List (String × Json)} (h : ∀ m ∈ ms, Json.Decoded m.2) :
    Json.Decoded (.object (Fields.ofList ms)) := by
  have hdistinct := Fields.distinct_ofList ms
  refine Tree.clean_object_iff.mpr ⟨hdistinct, fun member hmember => ?_⟩
  have hget := (Fields.get?_eq_some_iff hdistinct).mpr hmember
  rw [Fields.get?_ofList] at hget
  obtain ⟨m, hm, hvalue⟩ := List.mem_map.mp (List.mem_of_getLast? hget)
  rw [← hvalue]
  exact h m (List.mem_of_mem_filter hm)

lemma decoded_array {ts : List Json} (h : ∀ t ∈ ts, Json.Decoded t) :
    Json.Decoded (.array ts) where
  distinct := Tree.distinctKeysItems_iff.mpr fun t ht => (h t ht).distinct
  numbers := Tree.allNumbersItems_iff.mpr fun t ht => (h t ht).numbers

variable {fuel : Nat}

lemma Takes.value_succ (h : Takes fuel) (depth : Nat) (input : Input) :
    Gives Json.Decoded (Reader.value (fuel + 1) depth input) := by
  have hnumber {n : JsonNumber} (hn : n.Decoded) : Json.Decoded (.number n) := ⟨trivial, hn⟩
  unfold Reader.value
  extract_lets input
  split
  · exact gives_error _ _
  · exact gives_word ⟨trivial, trivial⟩ _ _
  · exact gives_word ⟨trivial, trivial⟩ _ _
  · exact gives_word ⟨trivial, trivial⟩ _ _
  · exact (gives_unsignedNumber true _).map fun _ => hnumber
  · exact Gives.map (p := fun _ => True) (fun _ _ _ => trivial) fun _ _ => ⟨trivial, trivial⟩
  · split
    · exact gives_error _ _
    · exact (h.items _ _ _).map fun _ => decoded_array
  · split
    · exact gives_error _ _
    · exact (h.members _ _ _).map fun _ => decoded_object
  · split
    · exact (gives_unsignedNumber false _).map fun _ => hnumber
    · exact gives_error _ _

lemma Takes.items_succ (h : Takes fuel) (depth : Nat) (first : Bool) (input : Input) :
    Gives (fun ts => ∀ t ∈ ts, Json.Decoded t) (Reader.items (fuel + 1) depth first input) := by
  unfold Reader.items
  dsimp only
  split
  · exact gives_error _ _
  · exact gives_ok (fun _ ht => absurd ht List.not_mem_nil) _
  · split
    · exact h.itemThenItems _ _
    · split
      · split
        · exact gives_error _ _
        · exact gives_error _ _
        · exact h.itemThenItems _ _
      · exact gives_error _ _

lemma Takes.itemThenItems_succ (h : Takes fuel) (depth : Nat) (input : Input) :
    Gives (fun ts => ∀ t ∈ ts, Json.Decoded t) (Reader.itemThenItems (fuel + 1) depth input) := by
  unfold Reader.itemThenItems
  split
  · exact gives_error _ _
  · rename_i t rest ht
    refine (h.items _ _ _).map fun ts hts => ?_
    exact List.forall_mem_cons.mpr ⟨h.value _ _ t rest ht, hts⟩

lemma Takes.members_succ (h : Takes fuel) (depth : Nat) (first : Bool) (input : Input) :
    Gives (fun ms => ∀ m ∈ ms, Json.Decoded m.2) (Reader.members (fuel + 1) depth first input) := by
  unfold Reader.members
  dsimp only
  split
  · exact gives_error _ _
  · exact gives_ok (fun _ hm => absurd hm List.not_mem_nil) _
  · split
    · split
      · exact h.memberThenMembers _ _
      · exact gives_error _ _
    · split
      · split
        · exact gives_error _ _
        · exact h.memberThenMembers _ _
        · exact gives_error _ _
        · exact gives_error _ _
      · exact gives_error _ _

lemma Takes.memberThenMembers_succ (h : Takes fuel) (depth : Nat) (input : Input) :
    Gives (fun ms => ∀ m ∈ ms, Json.Decoded m.2)
      (Reader.memberThenMembers (fuel + 1) depth input) := by
  unfold Reader.memberThenMembers
  split
  · exact gives_error _ _
  · dsimp only
    split
    · exact gives_error _ _
    · split
      · exact gives_error _ _
      · rename_i t rest ht
        refine (h.members _ _ _).map fun ms hms => ?_
        exact List.forall_mem_cons.mpr ⟨h.value _ _ t rest ht, hms⟩
    · exact gives_error _ _

/-- Whatever the fuel, what is taken is decoded. -/
theorem takes (fuel : Nat) : Takes fuel := by
  induction fuel with
  | zero =>
    refine ⟨fun _ _ => ?_, fun _ _ _ => ?_, fun _ _ => ?_, fun _ _ _ => ?_, fun _ _ => ?_⟩
    · unfold Reader.value
      exact gives_fail _ _ _
    · unfold Reader.items
      exact gives_fail _ _ _
    · unfold Reader.itemThenItems
      exact gives_fail _ _ _
    · unfold Reader.members
      exact gives_fail _ _ _
    · unfold Reader.memberThenMembers
      exact gives_fail _ _ _
  | succ fuel ih =>
    exact ⟨ih.value_succ, ih.items_succ, ih.itemThenItems_succ, ih.members_succ,
      ih.memberThenMembers_succ⟩

end Json.Reader

/-! ### Texts -/

lemma mapError_eq_ok_iff {ε ε' α : Type} {taken : Except ε α} {f : ε → ε'} {a : α} :
    taken.mapError f = .ok a ↔ taken = .ok a := by
  cases taken <;> simp [Except.mapError]

/-- **Reading.**  What is read from a text repeats no key in an object, and its numbers are those
that a text can hold. -/
theorem Json.decoded_read {raw : List UInt8} {json : Json} (h : Json.read raw = .ok json) :
    json.Decoded := by
  rw [read, mapError_eq_ok_iff, Reader.document] at h
  cases hvalue : Reader.value (3 * raw.length + 3) Reader.maxDepth ⟨raw, 0⟩ with
  | error e =>
    rw [hvalue] at h
    cases h
  | ok taken =>
    have hdecoded := (Reader.takes _).value _ _ taken.1 taken.2 hvalue
    rw [hvalue] at h
    simp only [bind, Except.bind] at h
    split at h
    · cases h
      exact hdecoded
    · cases h

/-- A value that is read from a text can be written as one. -/
theorem Value.portable_ofText {raw : List UInt8} {v : Value} (h : Value.ofText raw = .ok v) :
    v.Portable := by
  rw [ofText, Json.decode] at h
  cases hread : (Json.read raw).mapError (QueryError.malformed raw) with
  | error e =>
    rw [hread] at h
    cases h
  | ok json =>
    rw [hread] at h
    cases h
    exact portable_ofJson (Json.decoded_read (mapError_eq_ok_iff.mp hread))

end DocQuery
