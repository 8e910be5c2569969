import DocQuery.Proofs.Collation
import DocQuery.Proofs.WholeNumbers

/-!
The order of values is a total preorder on all values, whatever doubles they hold.

* `Binary64.units`: what a double is worth, in units of the smallest positive one;
* `Binary64.numericOrder?` and `Binary64.totalOrder`: the order of numbers, in which a NaN has no
  place, and the order of all doubles by their bits;
* `Binary64.order_eq` (**doubles**): doubles are compared as numbers where that is possible, and by
  their bits where one of them is a NaN;
* `Value.collate_totalPreorder` (**main statement**): the order of values is reflexive, reverses
  when its sides are exchanged, and is transitive, strictly so if one of its steps is strict.
-/

namespace DocQuery

open Std

namespace Binary64

variable {x y : Binary64}

/-! ### Doubles as numbers -/

/-- The absolute value of a double in units of the smallest positive one, `2 ^ -1074`.  An infinity
is worth the next power of two above the finite doubles. -/
def absUnits (x : Binary64) : Nat := x.significand * twoPow (x.exponent - 1)

/-- What a double is worth, in units of the smallest positive one. -/
def units (x : Binary64) : Int := if x.negative then -(x.absUnits : Int) else x.absUnits

/-- The order of two doubles as numbers; a NaN is none. -/
def numericOrder? (x y : Binary64) : Option Ordering :=
  if x.isNaN || y.isNaN then none else some (compare x.units y.units)

/-- The place of a double among all doubles, by its bits: the negative ones run downwards from the
negative zero, which lies below the positive one. -/
def totalKey (x : Binary64) : Int :=
  if x.negative then -(x.magnitude : Int) - 1 else x.magnitude

/-- The order of all doubles by their bits. -/
def totalOrder (x y : Binary64) : Ordering := compare x.totalKey y.totalKey

/-! ### Magnitudes and absolute values -/

lemma exponent_mono (h : x.magnitude ≤ y.magnitude) : x.exponent ≤ y.exponent := by
  have hdiv : x.magnitude / twoPow 52 ≤ y.magnitude / twoPow 52 := Nat.div_le_div_right h
  rw [exponent, exponent]
  omega

/-- A greater magnitude is a greater absolute value: within one exponent the significand grows, and
a greater exponent outweighs every significand. -/
lemma absUnits_lt (h : x.magnitude < y.magnitude) : x.absUnits < y.absUnits := by
  have hx := x.magnitude_eq
  have hy := y.magnitude_eq
  rw [absUnits, absUnits]
  rcases Nat.eq_or_lt_of_le (exponent_mono (Nat.le_of_lt h)) with heq | hlt
  · have hsignificand : x.significand < y.significand := by
      rw [heq] at hx
      omega
    rw [heq]
    exact Nat.mul_lt_mul_of_pos_right hsignificand (twoPow_pos _)
  · have hpos : 1 ≤ x.exponent := Nat.le_max_left _ _
    have hexponent : 53 + (x.exponent - 1) ≤ 52 + (y.exponent - 1) := by omega
    calc
      x.significand * twoPow (x.exponent - 1)
          < twoPow 53 * twoPow (x.exponent - 1) :=
        Nat.mul_lt_mul_of_pos_right x.significand_lt (twoPow_pos _)
      _ = twoPow (53 + (x.exponent - 1)) := (twoPow_add _ _).symm
      _ ≤ twoPow (52 + (y.exponent - 1)) := Nat.pow_le_pow_right (by decide) hexponent
      _ = twoPow 52 * twoPow (y.exponent - 1) := twoPow_add _ _
      _ ≤ y.significand * twoPow (y.exponent - 1) :=
        Nat.mul_le_mul_right _ (le_significand (by omega))

lemma absUnits_lt_iff : x.absUnits < y.absUnits ↔ x.magnitude < y.magnitude := by
  refine ⟨fun h => ?_, absUnits_lt⟩
  by_contra hle
  rcases Nat.eq_or_lt_of_le (Nat.not_lt.mp hle) with heq | hlt
  · have hsame : x.absUnits = y.absUnits := by
      rw [absUnits, absUnits, significand, significand, exponent, exponent, heq]
    omega
  · have hgt := absUnits_lt hlt
    omega

lemma absUnits_eq_zero_iff : x.absUnits = 0 ↔ x.magnitude = 0 := by
  have hpos := twoPow_pos (x.exponent - 1)
  rw [absUnits, Nat.mul_eq_zero, or_iff_left (by omega), significand, twoPow_52]
  split_ifs with h <;> omega

/-! ### Two orders in one -/

lemma compare_congr {a b c d : Int} (hlt : a < b ↔ c < d) (hgt : b < a ↔ d < c) :
    compare a b = compare c d := by
  rcases Int.lt_trichotomy c d with h | h | h
  · rw [Int.compare_eq_lt.mpr h, Int.compare_eq_lt.mpr (hlt.mpr h)]
  · have heq : a = b := by omega
    rw [Int.compare_eq_eq.mpr h, Int.compare_eq_eq.mpr heq]
  · rw [Int.compare_eq_gt.mpr h, Int.compare_eq_gt.mpr (hgt.mpr h)]

lemma key_lt_key_iff_units : x.key < y.key ↔ x.units < y.units := by
  have hlt := absUnits_lt_iff (x := x) (y := y)
  have hgt := absUnits_lt_iff (x := y) (y := x)
  have hx := absUnits_eq_zero_iff (x := x)
  have hy := absUnits_eq_zero_iff (x := y)
  rw [key, key, units, units]
  cases x.negative <;> cases y.negative <;> simp only [if_true, if_false, Bool.false_eq_true] <;>
    omega

/-- Unless both are zeros, two doubles lie by their bits as they lie by their signed magnitudes. -/
lemma key_lt_key_iff_totalKey (h : 0 < x.magnitude ∨ 0 < y.magnitude) :
    x.key < y.key ↔ x.totalKey < y.totalKey := by
  rw [key, key, totalKey, totalKey]
  cases x.negative <;> cases y.negative <;> simp only [if_true, if_false, Bool.false_eq_true] <;>
    omega

/-- **Doubles are compared as numbers, and by their bits if one of them is a NaN.** -/
theorem order_eq (x y : Binary64) : x.order y = (x.numericOrder? y).getD (x.totalOrder y) := by
  rw [numericOrder?]
  by_cases hnan : (x.isNaN || y.isNaN) = true
  · have hmagnitude : 0 < x.magnitude ∨ 0 < y.magnitude := by
      rw [Bool.or_eq_true, isNaN, isNaN, decide_eq_true_eq, decide_eq_true_eq] at hnan
      omega
    rw [if_pos hnan]
    exact compare_congr (key_lt_key_iff_totalKey hmagnitude)
      (key_lt_key_iff_totalKey hmagnitude.symm)
  · rw [if_neg hnan]
    exact compare_congr key_lt_key_iff_units key_lt_key_iff_units

end Binary64

namespace Value

/-! ### Main statement -/

/-- **The order of values is a total preorder.**  Every value compares as equal with itself, the
outcome is reversed when the sides are exchanged, and the order is transitive, strictly so if one
of its two steps is strict.  Doubles are compared as numbers, and a NaN by its bits. -/
theorem collate_totalPreorder (a b c : Value) :
    collate a a = .eq
      ∧ collate a b = (collate b a).swap
      ∧ (collate a b ≠ .gt → collate b c ≠ .gt →
          collate a c ≠ .gt
            ∧ (collate a b = .lt ∨ collate b c = .lt → collate a c = .lt))
      ∧ ∀ x y : Binary64,
          collate (.number x) (.number y) = (x.numericOrder? y).getD (x.totalOrder y) := by
  refine ⟨ReflCmp.compare_self, OrientedCmp.eq_swap, fun hab hbc => ?_, Binary64.order_eq⟩
  have hle : (collate a b).isLE := Ordering.isLE_iff_ne_gt.mpr hab
  have hle' : (collate b c).isLE := Ordering.isLE_iff_ne_gt.mpr hbc
  refine ⟨Ordering.isLE_iff_ne_gt.mp (TransCmp.isLE_trans hle hle'), ?_⟩
  rintro (hlt | hlt)
  · exact TransCmp.lt_of_lt_of_isLE hlt hle'
  · exact TransCmp.lt_of_isLE_of_lt hle hlt

/-- The NaN of negative sign with the least magnitude. -/
def negativeNaN : Binary64 := ⟨true, Binary64.infinity + 1, by decide⟩

/-- A list that starts with a negative NaN lies below one that starts with the negative zero, and
this one below a list that starts with the positive zero and goes on with a larger object. -/
theorem negativeNaN_below_zeros :
    let a : Value := .array [.number negativeNaN, .object [("k", .null)]]
    let b : Value := .array [.number ⟨true, 0, by decide⟩, .object [("k", .null)]]
    let c : Value := .array [.number ⟨false, 0, by decide⟩, .object [("l", .null), ("k", .null)]]
    collate a b = .lt ∧ collate b c ≠ .gt ∧ collate a c = .lt := by
  intro a b c
  have hab : collate a b = .lt := by decide
  have hbc : collate b c ≠ .gt := by decide
  have hab' : collate a b ≠ .gt := by rw [hab]; decide
  exact ⟨hab, hbc, ((collate_totalPreorder a b c).2.2.1 hab' hbc).2 (.inl hab)⟩

end Value

end DocQuery
