import DocQuery.Power

/-!
Binary floating-point numbers of 64 bits, kept as a sign and a magnitude: the 63 bits below the
sign read as one number.  Magnitudes number the non-negative doubles in increasing order, so the
order of two doubles is the order of two integers and no arithmetic on reals is needed.

* `Binary64.key` (**the order**): the signed magnitude; `compare` on keys orders all doubles, the
  two zeros are equal, and NaNs lie beyond the infinities of their sign;
* `Binary64.integral?`: the whole number that a double denotes, when it denotes one;
* `Binary64.ofInt` and `Binary64.ofRatio` (**rounding**): to the nearest double, a tie to the even
  magnitude, and to infinity beyond the largest finite one.
-/

namespace DocQuery

/-- A double: its sign and the 63 bits below the sign bit. -/
structure Binary64 where
  negative : Bool
  magnitude : Nat
  magnitude_lt : magnitude < twoPow 63
deriving DecidableEq

namespace Binary64

/-! ### Bits and classes -/

/-- The magnitude of an infinity; a finite double lies below it and a NaN above. -/
def infinity : Nat := 0x7FF0000000000000

/-- The double with these 64 bits. -/
def ofBits (bits : UInt64) : Binary64 where
  negative := twoPow 63 ≤ bits.toNat
  magnitude := bits.toNat % twoPow 63
  magnitude_lt := Nat.mod_lt _ (by decide)

/-- The 64 bits of a double, as a number. -/
def toBits (x : Binary64) : Nat :=
  (if x.negative then twoPow 63 else 0) + x.magnitude

/-- The double of a sign and a magnitude, which is cut off at infinity. -/
def ofMagnitude (negative : Bool) (magnitude : Nat) : Binary64 where
  negative := negative
  magnitude := min infinity magnitude
  magnitude_lt := Nat.lt_of_le_of_lt (Nat.min_le_left _ _) (by decide)

/-- Neither a number nor an infinity: the magnitudes above that of infinity. -/
def isNaN (x : Binary64) : Bool := infinity < x.magnitude

/-- A number: the magnitudes below that of infinity. -/
def isFinite (x : Binary64) : Bool := x.magnitude < infinity

/-! ### Order and equality -/

/-- The signed magnitude, by which doubles are ordered. -/
def key (x : Binary64) : Int :=
  if x.negative then -(x.magnitude : Int) else x.magnitude

/-- The order of two doubles; NaNs lie beyond the infinities of their sign. -/
def order (x y : Binary64) : Ordering := compare x.key y.key

/-- Numeric equality: the two zeros are equal and a NaN equals nothing. -/
protected def beq (x y : Binary64) : Bool := !x.isNaN && x.key == y.key

instance : BEq Binary64 := ⟨Binary64.beq⟩

/-! ### The value of a finite double

A finite double is its significand times `2 ^ (exponent - 1075)`. -/

/-- The biased exponent; subnormal doubles share that of the smallest normal ones. -/
def exponent (x : Binary64) : Nat := max 1 (x.magnitude / twoPow 52)

/-- The significand, below `2 ^ 53`; it lacks the leading bit in subnormal doubles only. -/
def significand (x : Binary64) : Nat :=
  if x.magnitude < twoPow 52 then x.magnitude else twoPow 52 + x.magnitude % twoPow 52

/-- The absolute value of a finite double without its fraction. -/
def truncated (x : Binary64) : Nat :=
  if 1075 ≤ x.exponent then x.significand * twoPow (x.exponent - 1075)
  else x.significand / twoPow (1075 - x.exponent)

/-- A finite double without a fraction. -/
def isIntegral (x : Binary64) : Bool :=
  x.isFinite && (1075 ≤ x.exponent || x.significand % twoPow (1075 - x.exponent) == 0)

/-- The whole number that a double denotes; none for fractions, infinities and NaNs. -/
def integral? (x : Binary64) : Option Int :=
  if x.isIntegral then some (if x.negative then -(x.truncated : Int) else x.truncated) else none

/-- The magnitude of `2 ^ 53`; up to it every whole number is a double. -/
def exactLimit : Nat := 0x4340000000000000

/-! ### Rounding -/

/-- `n / d` rounded to the nearest whole number, a tie to the even one. -/
def roundHalfEven (n d : Nat) : Nat :=
  if 2 * (n % d) < d ∨ (2 * (n % d) = d ∧ n / d % 2 = 0) then n / d else n / d + 1

/-- The magnitude nearest to a whole number. -/
def magnitudeOfNat (n : Nat) : Nat :=
  let top := n.log2
  if n = 0 then 0
  else if top ≤ 52 then (1022 + top) * twoPow 52 + n * twoPow (52 - top)
  else (1022 + top) * twoPow 52 + roundHalfEven n (twoPow (top - 52))

/-- The double nearest to a whole number. -/
def ofInt (n : Int) : Binary64 := ofMagnitude (n < 0) (magnitudeOfNat n.natAbs)

/-- The magnitude nearest to `n / d` times the smallest positive double, `2 ^ -1074`.  Below
`2 ^ 53` of these units a magnitude is their number; above, each doubling adds `2 ^ 52`. -/
def magnitudeOfUnits (n d : Nat) : Nat :=
  let shift := (n / d).log2 - 52
  shift * twoPow 52 + roundHalfEven n (d * twoPow shift)

/-- The double nearest to `n / d`, for a positive `d`. -/
def ofRatio (negative : Bool) (n d : Nat) : Binary64 :=
  ofMagnitude negative (magnitudeOfUnits (n * twoPow 1074) d)

/-- The numerator and denominator of the absolute value of a finite double. -/
def ratio (x : Binary64) : Nat × Nat :=
  if 1075 ≤ x.exponent then (x.significand * twoPow (x.exponent - 1075), 1)
  else (x.significand, twoPow (1075 - x.exponent))

/-- The rounded product of two finite doubles. -/
def mul (x y : Binary64) : Binary64 :=
  ofRatio (x.negative != y.negative) (x.ratio.1 * y.ratio.1) (x.ratio.2 * y.ratio.2)

/-- The rounded quotient of two finite doubles, of which the second is not zero. -/
def div (x y : Binary64) : Binary64 :=
  ofRatio (x.negative != y.negative) (x.ratio.1 * y.ratio.2) (x.ratio.2 * y.ratio.1)

/-- The double with the opposite sign. -/
def neg (x : Binary64) : Binary64 := { x with negative := !x.negative }

end Binary64

end DocQuery
