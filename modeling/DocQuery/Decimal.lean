import DocQuery.Binary64

/-!
The shortest decimal of a double: of all decimals that read back as the double the one with the
fewest digits, of those the nearest, and of two equally near the one with an even last digit.

* `Decimal.ofBinary64`: the shortest decimal of a positive finite double;
* `Decimal.text`: a decimal as text, positional where that is short and else with an exponent.
-/

namespace DocQuery

/-- `digits` read as a whole number, times `10 ^ exponent`. -/
structure Decimal where
  digits : Nat
  exponent : Int
deriving DecidableEq

namespace Decimal

/-- A range of positive numbers over a common denominator: those that round to one double. -/
structure Rounding where
  low : Nat
  value : Nat
  high : Nat
  denominator : Nat
  inclusive : Bool

/-- The range of numbers that round to a positive finite double.  Its ends lie halfway to the
neighbours and belong to it iff the significand is even; the lower neighbour of a power of two is
only half as far away. -/
def Rounding.ofBinary64 (x : Binary64) : Rounding :=
  let m := x.significand
  let below := if m = twoPow 52 ∧ 1 < x.exponent then 1 else 2
  let scale := if 1077 ≤ x.exponent then twoPow (x.exponent - 1077) else 1
  { low := (4 * m - below) * scale
    value := 4 * m * scale
    high := (4 * m + 2) * scale
    denominator := if 1077 ≤ x.exponent then 1 else twoPow (1077 - x.exponent)
    inclusive := m % 2 = 0 }

/-- The numerators and the denominator when the unit is `10 ^ exponent`. -/
def Rounding.inUnits (r : Rounding) (exponent : Int) : Rounding :=
  if 0 ≤ exponent then { r with denominator := r.denominator * tenPow exponent.toNat }
  else
    let p := tenPow exponent.natAbs
    { r with low := r.low * p, value := r.value * p, high := r.high * p }

/-- A whole number that lies in the range. -/
def Rounding.holds (r : Rounding) (n : Nat) : Bool :=
  let n := n * r.denominator
  if r.inclusive then r.low ≤ n && n ≤ r.high else r.low < n && n < r.high

/-- The whole number nearest to the value, a tie to the even one, of the two neighbours of the
value that lie in the range. -/
def Rounding.nearest? (r : Rounding) : Option Nat :=
  let down := r.value / r.denominator
  match r.holds down, r.holds (down + 1) with
  | true, true => some (Binary64.roundHalfEven r.value r.denominator)
  | true, false => some down
  | false, true => some (down + 1)
  | false, false => none

/-- The number of decimal digits of a number, at least one. -/
def digitCount (n : Nat) : Nat := (Nat.toDigits 10 n).length

/-- The least `j` from `start` on with `d ≤ n * 10 ^ j`, tried `fuel` times. -/
def leadingZeros (n d : Nat) : Nat → Nat → Nat
  | 0, start => start
  | fuel + 1, start => if d ≤ n * tenPow start then start else leadingZeros n d fuel (start + 1)

/-- The exponent of the first power of ten above `n / d`. -/
def magnitude (n d : Nat) : Int :=
  if d ≤ n then digitCount (n / d) else 1 - (leadingZeros n d 400 1 : Int)

/-- Looks for a decimal of `count` digits, then of one more, up to 17. -/
def search (r : Rounding) (top : Int) : Nat → Nat → Decimal
  | 0, count => ⟨0, top - count⟩
  | fuel + 1, count =>
    match (r.inUnits (top - count)).nearest? with
    | some n => if n = tenPow count then ⟨1, top⟩ else ⟨n, top - count⟩
    | none => search r top fuel (count + 1)

/-- The shortest decimal of a positive finite double. -/
def ofBinary64 (x : Binary64) : Decimal :=
  let r := Rounding.ofBinary64 x
  search r (magnitude r.value r.denominator) 17 1

/-! ### Text -/

/-- How decimals are written: positionally from `10 ^ least` and below `10 ^ most`, otherwise with
an exponent that shows its sign. -/
structure Notation where
  least : Int
  most : Int

/-- Numbers have a positional form from `0.00001` and below `10 ^ 16`. -/
def standard : Notation := ⟨-5, 16⟩

/-- The text of a decimal.  The positional form always has a point, with a zero after it if the
number is whole; the other form has a point only between digits. -/
def text (form : Notation) (d : Decimal) : String :=
  let ds := Nat.toDigits 10 d.digits
  let count : Int := ds.length
  let lead := d.exponent + count - 1
  if form.least ≤ lead ∧ lead < form.most then
    if 0 ≤ d.exponent then
      String.ofList (ds ++ List.replicate d.exponent.toNat '0' ++ ['.', '0'])
    else if 0 ≤ lead then
      let whole := (lead + 1).toNat
      String.ofList (ds.take whole ++ ['.'] ++ ds.drop whole)
    else String.ofList (['0', '.'] ++ List.replicate (-lead - 1).toNat '0' ++ ds)
  else
    let body := if ds.length = 1 then ds else ds.take 1 ++ ['.'] ++ ds.drop 1
    let sign := if lead < 0 then "e-" else "e+"
    String.ofList body ++ sign ++ toString lead.natAbs

end Decimal

end DocQuery
