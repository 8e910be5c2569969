import DocQuery.Proofs.OperatorMeaning

/-!
Whole numbers in their two spellings, as integers and as doubles.

* `Binary64.magnitudeOfNat_truncated` (**exactness**): rounding the whole number that a double
  denotes gives the double back, so that only the sign of zero can be lost
  (`Binary64.dropZeroSign_ofInt`);
* `Binary64.exactLimit_lt_magnitude_iff`: the bound on magnitudes is the bound `2 ^ 53` on whole
  numbers;
* `JsonNumber.count?_eq_some_iff`: as a count, a number is read by its value and not by its
  spelling;
* `JsonNumber.integer?_eq_some_iff`: as a signed integer, a double is read up to `2 ^ 53` only;
* `JsonNumber.asInteger`: a number in its spelling as an integer, if it is whole.
-/

namespace DocQuery

namespace Binary64

variable {x : Binary64} {n : Int}

/-! ### Significand and exponent -/

lemma twoPow_52 : twoPow 52 = 4503599627370496 := rfl

lemma twoPow_53 : twoPow 53 = 9007199254740992 := rfl

/-- Magnitudes count significands of `2 ^ 52` for each exponent. -/
lemma magnitude_eq (x : Binary64) : x.magnitude = (x.exponent - 1) * twoPow 52 + x.significand := by
  rw [exponent, significand, twoPow_52]
  split_ifs with h <;> omega

lemma significand_lt (x : Binary64) : x.significand < twoPow 53 := by
  rw [significand, twoPow_52, twoPow_53]
  split_ifs with h <;> omega

/-- A double that is not subnormal has all bits of the significand. -/
lemma le_significand (h : 1 < x.exponent) : twoPow 52 ≤ x.significand := by
  rw [exponent, twoPow_52] at h
  rw [significand, twoPow_52]
  split_ifs with hsubnormal <;> omega

/-- A whole double below `2 ^ 52` is zero or has all bits of the significand. -/
lemma significand_eq_zero_or_le (h : x.significand % twoPow (1075 - x.exponent) = 0) :
    x.significand = 0 ∨ twoPow 52 ≤ x.significand := by
  by_cases hexponent : 1 < x.exponent
  · exact .inr (le_significand hexponent)
  · have hone : x.exponent = 1 := by
      have hpos : 1 ≤ x.exponent := Nat.le_max_left _ _
      omega
    have hlt : x.significand < twoPow (1075 - x.exponent) := by
      rw [hone]
      exact Nat.lt_trans x.significand_lt (by decide +kernel)
    exact .inl (Nat.mod_eq_of_lt hlt ▸ h)

/-! ### Rounding what needs no rounding -/

lemma roundHalfEven_mul (n : Nat) {d : Nat} (hd : 0 < d) : roundHalfEven (n * d) d = n := by
  rw [roundHalfEven, Nat.mul_mod_left, Nat.mul_div_cancel n hd, if_pos (.inl hd)]

/-- The magnitude of a whole number with a known leading bit. -/
lemma magnitudeOfNat_eq {n top : Nat} (hlow : twoPow top ≤ n) (hhigh : n < twoPow (top + 1)) :
    magnitudeOfNat n = (1022 + top) * twoPow 52
      + if top ≤ 52 then n * twoPow (52 - top) else roundHalfEven n (twoPow (top - 52)) := by
  have hpos := twoPow_pos top
  have hne : n ≠ 0 := by omega
  have htop : n.log2 = top := (Nat.log2_eq_iff hne).mpr ⟨hlow, hhigh⟩
  rw [magnitudeOfNat, htop, if_neg hne]
  split <;> rfl

/-- Doubles of at least `2 ^ 52` are the multiples of a power of two. -/
lemma magnitudeOfNat_mul {s : Nat} (hlow : twoPow 52 ≤ s) (hhigh : s < twoPow 53) (e : Nat) :
    magnitudeOfNat (s * twoPow e) = (1074 + e) * twoPow 52 + s := by
  have hpos := twoPow_pos e
  have htop : twoPow (52 + e) ≤ s * twoPow e := by
    rw [twoPow_add]
    exact Nat.mul_le_mul_right _ hlow
  have hnext : s * twoPow e < twoPow (52 + e + 1) := by
    rw [Nat.add_right_comm, twoPow_add]
    exact Nat.mul_lt_mul_of_pos_right hhigh hpos
  rw [magnitudeOfNat_eq htop hnext, ← Nat.add_assoc]
  split_ifs with he
  · have hzero : e = 0 := by omega
    subst hzero
    rw [twoPow_zero, Nat.mul_one, Nat.mul_one]
  · rw [Nat.add_sub_cancel_left, roundHalfEven_mul s hpos]

/-- Whole numbers below `2 ^ 52` are shifted until all bits of the significand are there. -/
lemma magnitudeOfNat_of_mul {n d : Nat} (hlow : twoPow 52 ≤ n * twoPow d)
    (hhigh : n * twoPow d < twoPow 53) (hd : d ≤ 52) :
    magnitudeOfNat n = (1074 - d) * twoPow 52 + n * twoPow d := by
  have hpos := twoPow_pos d
  have htop : twoPow (52 - d) ≤ n := by
    refine Nat.le_of_mul_le_mul_right ?_ hpos
    rwa [← twoPow_add, Nat.sub_add_cancel hd]
  have hnext : n < twoPow (52 - d + 1) := by
    refine Nat.lt_of_mul_lt_mul_right (a := twoPow d) ?_
    rwa [← twoPow_add, show 52 - d + 1 + d = 53 by omega]
  have hexponent : 1022 + (52 - d) = 1074 - d := by omega
  rw [magnitudeOfNat_eq htop hnext, if_pos (Nat.sub_le _ _), Nat.sub_sub_self hd, hexponent]

/-- **Rounding the whole number that a double denotes gives the double back.** -/
theorem magnitudeOfNat_truncated (h : x.isIntegral = true) :
    magnitudeOfNat x.truncated = x.magnitude := by
  rw [isIntegral, Bool.and_eq_true, Bool.or_eq_true, decide_eq_true_eq, beq_iff_eq] at h
  rw [x.magnitude_eq, truncated]
  split_ifs with hexponent
  · have hexponent' : 1074 + (x.exponent - 1075) = x.exponent - 1 := by omega
    rw [magnitudeOfNat_mul (le_significand (by omega)) x.significand_lt, hexponent']
  · have hmod := h.2.resolve_left hexponent
    have hdvd : x.significand / twoPow (1075 - x.exponent) * twoPow (1075 - x.exponent)
        = x.significand := Nat.div_mul_cancel (Nat.dvd_of_mod_eq_zero hmod)
    rcases significand_eq_zero_or_le hmod with hzero | hlow
    · have hone : x.exponent = 1 := by
        by_contra hne
        have hpos : 1 ≤ x.exponent := Nat.le_max_left _ _
        have hlow := le_significand (x := x) (by omega)
        rw [hzero, twoPow_52] at hlow
        omega
      rw [hzero, hone, Nat.zero_div]
      rfl
    · have hd : 1075 - x.exponent ≤ 52 := by
        by_contra hgt
        have hlarge : twoPow 53 ≤ twoPow (1075 - x.exponent) :=
          Nat.pow_le_pow_right (by decide) (by omega)
        have hlt := x.significand_lt
        rw [Nat.mod_eq_of_lt (by omega)] at hmod
        rw [hmod, twoPow_52] at hlow
        omega
      have hexponent' : 1074 - (1075 - x.exponent) = x.exponent - 1 := by omega
      rw [magnitudeOfNat_of_mul (by rwa [hdvd]) (by rw [hdvd]; exact x.significand_lt) hd, hdvd,
        hexponent']

/-! ### The whole number of a double -/

lemma isIntegral_of_integral? (h : x.integral? = some n) : x.isIntegral = true := by
  rw [integral?, Option.ite_none_right_eq_some] at h
  exact h.1

lemma eq_of_integral? (h : x.integral? = some n) :
    n = if x.negative then -(x.truncated : Int) else x.truncated := by
  rw [integral?, Option.ite_none_right_eq_some] at h
  exact (Option.some.inj h.2).symm

lemma natAbs_of_integral? (h : x.integral? = some n) : n.natAbs = x.truncated := by
  rw [eq_of_integral? h]
  split <;> omega

/-- Only zero has no whole part among the doubles without a fraction. -/
lemma truncated_eq_zero_iff (h : x.isIntegral = true) : x.truncated = 0 ↔ x.magnitude = 0 := by
  constructor
  · intro hzero
    rw [← magnitudeOfNat_truncated h, hzero]
    rfl
  · intro hzero
    rw [truncated, significand, hzero, if_pos (twoPow_pos 52), Nat.zero_mul, Nat.zero_div, ite_self]

lemma lt_zero_iff_of_integral? (h : x.integral? = some n) : n < 0 ↔ x.key < 0 := by
  have hzero := truncated_eq_zero_iff (isIntegral_of_integral? h)
  rw [eq_of_integral? h, key]
  split <;> omega

/-- The bound on magnitudes is a bound on whole numbers. -/
lemma exactLimit_lt_magnitude_iff (x : Binary64) :
    exactLimit < x.magnitude ↔ twoPow 53 < x.truncated := by
  have hlimit : exactLimit = 1076 * twoPow 52 := rfl
  have hlt := x.significand_lt
  rw [hlimit, x.magnitude_eq, truncated]
  rw [twoPow_53] at hlt
  rw [twoPow_52, twoPow_53]
  split_ifs with hexponent
  · have hlow := le_significand (x := x) (by omega)
    rw [twoPow_52] at hlow
    obtain heq | heq | hbig : x.exponent = 1075 ∨ x.exponent = 1076 ∨ 1077 ≤ x.exponent := by omega
    · rw [heq, Nat.sub_self, twoPow_zero]
      omega
    · rw [heq, show twoPow (1076 - 1075) = 2 from rfl]
      omega
    · have hfour : twoPow 2 ≤ twoPow (x.exponent - 1075) :=
        Nat.pow_le_pow_right (by decide) (by omega)
      have hmul := Nat.mul_le_mul hlow hfour
      have htwo : twoPow 2 = 4 := rfl
      omega
  · have hdiv : x.significand / twoPow (1075 - x.exponent) ≤ x.significand := Nat.div_le_self _ _
    omega

lemma exactLimit_lt_magnitude_iff_natAbs (h : x.integral? = some n) :
    exactLimit < x.magnitude ↔ twoPow 53 < n.natAbs := by
  rw [exactLimit_lt_magnitude_iff, natAbs_of_integral? h]

/-! ### The sign of zero -/

/-- A double without the sign of a zero. -/
def dropZeroSign (x : Binary64) : Binary64 :=
  if x.magnitude = 0 then ⟨false, 0, twoPow_pos 63⟩ else x

@[simp]
lemma key_dropZeroSign (x : Binary64) : x.dropZeroSign.key = x.key := by
  rw [dropZeroSign]
  split_ifs with hzero
  · rw [key, key, hzero]
    cases x.negative <;> rfl
  · rfl

/-- **A whole double is the double nearest to its number, up to the sign of zero.** -/
theorem dropZeroSign_ofInt (h : x.integral? = some n) :
    (ofInt n).dropZeroSign = x.dropZeroSign := by
  have hintegral := isIntegral_of_integral? h
  have hfinite : x.magnitude < infinity := by
    rw [isIntegral, Bool.and_eq_true, isFinite, decide_eq_true_eq] at hintegral
    exact hintegral.1
  have hmagnitude : (ofInt n).magnitude = x.magnitude := by
    rw [ofInt, natAbs_of_integral? h, magnitudeOfNat_truncated hintegral]
    exact Nat.min_eq_right (Nat.le_of_lt hfinite)
  rw [dropZeroSign, dropZeroSign, hmagnitude]
  split_ifs with hzero
  · rfl
  · have hnegative : (ofInt n).negative = x.negative := by
      have hsign := lt_zero_iff_of_integral? h
      rw [key] at hsign
      rw [ofInt, ofMagnitude, Bool.eq_iff_iff, decide_eq_true_eq, hsign]
      cases x.negative with
      | false => simp
      | true =>
        simp only [if_true, iff_true]
        omega
    generalize ofInt n = y at hmagnitude hnegative
    cases x
    cases y
    cases hmagnitude
    cases hnegative
    rfl

end Binary64

/-! ### Numbers of JSON -/

namespace JsonNumber

variable {a b : JsonNumber} {m n : Int}

lemma Denotes.unique (hm : a.Denotes m) (hn : a.Denotes n) : m = n := by
  cases a with
  | int k => exact hm.symm.trans hn
  | double x => exact Option.some.inj (hm.symm.trans hn)

/-- A count is a whole number that is not negative and not above `2 ^ 53`, in either spelling. -/
theorem count?_eq_some_iff {k : Nat} : a.count? = some k ↔ a.Denotes k ∧ k ≤ maxCount := by
  cases a with
  | int m =>
    rw [count?, Option.ite_none_right_eq_some, Option.some.injEq, Denotes]
    omega
  | double x =>
    rw [count?, Option.ite_none_left_eq_some, Option.map_eq_some_iff, not_or]
    constructor
    · rintro ⟨⟨hsign, hlimit⟩, n, hn, rfl⟩
      have hnonneg := Binary64.zero_le_of_integral? hsign hn
      rw [Binary64.exactLimit_lt_magnitude_iff_natAbs hn] at hlimit
      rw [Denotes, hn, Option.some.injEq, maxCount]
      omega
    · rintro ⟨hk, hle⟩
      rw [← Binary64.lt_zero_iff_of_integral? hk,
        Binary64.exactLimit_lt_magnitude_iff_natAbs hk]
      rw [maxCount] at hle
      exact ⟨by omega, k, hk, rfl⟩

/-- The whole numbers that are read as signed integers: all of 64 bits when they are spelled as
integers, and those that doubles count exactly when they are spelled as doubles. -/
def InRange : JsonNumber → Int → Prop
  | .int _, n => -(twoPow 63 : Int) ≤ n ∧ n < twoPow 63
  | .double _, n => n.natAbs ≤ twoPow 53

theorem integer?_eq_some_iff : a.integer? = some n ↔ a.Denotes n ∧ a.InRange n := by
  cases a with
  | int m =>
    rw [integer?, Option.ite_none_right_eq_some, Option.some.injEq, Denotes, InRange]
    constructor
    · rintro ⟨hrange, rfl⟩
      exact ⟨rfl, hrange⟩
    · rintro ⟨rfl, hrange⟩
      exact ⟨hrange, rfl⟩
  | double x =>
    rw [integer?, Option.ite_none_left_eq_some, Denotes, InRange, and_comm]
    refine and_congr_right fun hn => ?_
    rw [Binary64.exactLimit_lt_magnitude_iff_natAbs hn, Nat.not_lt]

/-- As a count, a number is read by what it denotes. -/
lemma count?_congr (ha : a.Denotes n) (hb : b.Denotes n) : a.count? = b.count? := by
  have hdenotes (k : Nat) : a.Denotes k ↔ b.Denotes k :=
    ⟨fun h => ha.unique h ▸ hb, fun h => hb.unique h ▸ ha⟩
  ext k
  rw [count?_eq_some_iff, count?_eq_some_iff, hdenotes]

/-- As a literal, a number is read by what it denotes, up to the sign of zero. -/
lemma dropZeroSign_toBinary64 (ha : a.Denotes n) :
    a.toBinary64.dropZeroSign = (Binary64.ofInt n).dropZeroSign := by
  cases a with
  | int m => rw [toBinary64, ha]
  | double x => exact (Binary64.dropZeroSign_ofInt ha).symm

/-! ### Whole numbers as integers -/

/-- A number, spelled as an integer if it is whole. -/
def asInteger : JsonNumber → JsonNumber
  | .int n => .int n
  | .double x =>
    match x.integral? with
    | some n => .int n
    | none => .double x

lemma asInteger_of_denotes (h : a.Denotes n) : a.asInteger = .int n := by
  cases a with
  | int m => exact congrArg int h
  | double x =>
    have hx : x.integral? = some n := h
    rw [asInteger, hx]

lemma asInteger_cases (a : JsonNumber) :
    (∃ n, a.Denotes n ∧ a.asInteger = .int n) ∨ a.asInteger = a := by
  cases a with
  | int n => exact .inl ⟨n, rfl, rfl⟩
  | double x =>
    cases hx : x.integral? with
    | none =>
      rw [asInteger, hx]
      exact .inr rfl
    | some n => exact .inl ⟨n, hx, asInteger_of_denotes hx⟩

lemma denotes_of_asInteger (h : a.asInteger.Denotes n) : a.Denotes n := by
  obtain ⟨m, hm, heq⟩ | heq := a.asInteger_cases
  · rw [heq] at h
    exact h ▸ hm
  · rwa [heq] at h

/-- Numbers are the same when they are spelled as integers if and only if they are equal or denote
one whole number. -/
lemma asInteger_eq_iff : a.asInteger = b.asInteger ↔ a = b ∨ ∃ n, a.Denotes n ∧ b.Denotes n := by
  constructor
  · intro h
    obtain ⟨n, hn, ha⟩ | ha := a.asInteger_cases
    · have hb : b.asInteger.Denotes n := by
        rw [← h, ha]
        rfl
      exact .inr ⟨n, hn, denotes_of_asInteger hb⟩
    · obtain ⟨n, hn, hb⟩ | hb := b.asInteger_cases
      · rw [ha, hb] at h
        exact .inr ⟨n, h ▸ rfl, hn⟩
      · exact .inl (ha.symm.trans (h.trans hb))
  · rintro (rfl | ⟨n, ha, hb⟩)
    · rfl
    · rw [asInteger_of_denotes ha, asInteger_of_denotes hb]

lemma count?_asInteger (a : JsonNumber) : a.asInteger.count? = a.count? := by
  obtain ⟨n, hn, heq⟩ | heq := a.asInteger_cases
  · rw [heq]
    exact count?_congr rfl hn
  · rw [heq]

lemma dropZeroSign_asInteger (a : JsonNumber) :
    a.asInteger.toBinary64.dropZeroSign = a.toBinary64.dropZeroSign := by
  obtain ⟨n, hn, heq⟩ | heq := a.asInteger_cases
  · rw [heq, dropZeroSign_toBinary64 hn, toBinary64]
  · rw [heq]

/-- Up to `2 ^ 53` a whole number is read as an integer in either spelling. -/
lemma inRange_of_natAbs_le (a : JsonNumber) (h : n.natAbs ≤ twoPow 53) : a.InRange n := by
  cases a with
  | int m =>
    have hmax : twoPow 63 = 9223372036854775808 := rfl
    rw [Binary64.twoPow_53] at h
    rw [InRange, hmax]
    omega
  | double x => exact h

lemma integer?_asInteger (h : a.integer? = some n) : a.asInteger.integer? = some n := by
  rw [integer?_eq_some_iff] at h
  cases a with
  | int m => exact integer?_eq_some_iff.mpr h
  | double x =>
    rw [asInteger_of_denotes h.1, integer?_eq_some_iff]
    exact ⟨rfl, inRange_of_natAbs_le _ h.2⟩

/-- A whole number of 64 bits is refused in one of its spellings only beyond `2 ^ 53`. -/
lemma lt_natAbs_of_integer? (h : a.integer? = none) (hn : a.asInteger.integer? = some n) :
    twoPow 53 < n.natAbs := by
  by_contra hle
  have hdenotes := denotes_of_asInteger (integer?_eq_some_iff.mp hn).1
  have hsome : a.integer? = some n :=
    integer?_eq_some_iff.mpr ⟨hdenotes, inRange_of_natAbs_le a (Nat.not_lt.mp hle)⟩
  cases h.symm.trans hsome

end JsonNumber

/-- An operand of `$mod` is an array of two numbers that are read as integers. -/
lemma FieldTest.divisorAndRemainder?_eq_some_iff {operand : Json} {divisor remainder : Int} :
    divisorAndRemainder? operand = some (divisor, remainder)
      ↔ ∃ first second : JsonNumber, operand = .array [.number first, .number second]
        ∧ first.integer? = some divisor ∧ second.integer? = some remainder := by
  refine ⟨Json.eq_of_divisorAndRemainder?_eq_some, ?_⟩
  rintro ⟨first, second, rfl, hfirst, hsecond⟩
  simp [divisorAndRemainder?, hfirst, hsecond]

end DocQuery
