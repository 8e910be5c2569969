import DocQuery.Binary64
import DocQuery.Tree

/-!
JSON trees as they are decoded from text.  A number is a whole number when it is written without
fraction and exponent and fits into 64 bits, signed or not; every other number is a double.

* `JsonNumber.toBinary64`: the double of a number;
* `JsonNumber.count?`: the number as a count, which is at most `2 ^ 53`;
* `JsonNumber.integer?`: the number as a signed 64-bit integer.
-/

namespace DocQuery

/-- A decoded number: a whole number from `-2 ^ 63` up to `2 ^ 64 - 1`, or a finite double. -/
inductive JsonNumber where
  | int (value : Int)
  | double (value : Binary64)
deriving DecidableEq

/-- A decoded JSON text. -/
abbrev Json := Tree JsonNumber

namespace JsonNumber

/-- The double nearest to a number. -/
def toBinary64 : JsonNumber → Binary64
  | .int n => Binary64.ofInt n
  | .double x => x

/-- The largest count. -/
def maxCount : Nat := twoPow 53

/-- The number as a count: whole, not negative and at most `maxCount`. -/
def count? : JsonNumber → Option Nat
  | .int n => if 0 ≤ n ∧ n ≤ maxCount then some n.toNat else none
  | .double x =>
    if x.key < 0 ∨ Binary64.exactLimit < x.magnitude then none
    else x.integral?.map Int.toNat

/-- The number as an integer: a whole number of 64 bits with sign, or a whole double of absolute
value at most `2 ^ 53`. -/
def integer? : JsonNumber → Option Int
  | .int n => if -(twoPow 63 : Int) ≤ n ∧ n < twoPow 63 then some n else none
  | .double x => if Binary64.exactLimit < x.magnitude then none else x.integral?

end JsonNumber

end DocQuery
