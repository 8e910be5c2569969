import DocQuery.Json

/-!
Document values: trees whose numbers are doubles.

* `Value.ofJson` and `Value.toJson`: values as JSON; a whole number below `2 ^ 53` in absolute
  value is written as such, and a number that is not finite as null;
* `Value.beq` (**equality**): numbers by value, arrays item by item, and objects whatever the order
  of their keys.
-/

namespace DocQuery

/-- A value in a document or in a query. -/
abbrev Value := Tree Binary64

namespace Value

/-! ### Values and JSON -/

/-- The value of a JSON tree. -/
def ofJson (json : Json) : Value := json.mapNumbers JsonNumber.toBinary64

/-- The JSON form of a number. -/
def numberToJson (x : Binary64) : Json :=
  match x.integral? with
  | some n => .number (if x.magnitude < Binary64.exactLimit then .int n else .double x)
  | none => if x.isFinite then .number (.double x) else .null

/-- The JSON form of a value. -/
def toJson (value : Value) : Json := value.bindNumbers numberToJson

/-! ### Equality -/

mutual

/-- Equality of values. -/
def beq : Value → Value → Bool
  | .null, .null => true
  | .bool a, .bool b => a == b
  | .number x, .number y => x == y
  | .string s, .string t => s == t
  | .array xs, .array ys => beqItems xs ys
  | .object xs, .object ys => xs.length == ys.length && beqMembers xs ys
  | _, _ => false

/-- Equality of arrays. -/
def beqItems : List Value → List Value → Bool
  | [], [] => true
  | x :: xs, y :: ys => beq x y && beqItems xs ys
  | _, _ => false

/-- Every member of the first object has an equal one in the second. -/
def beqMembers : List (String × Value) → List (String × Value) → Bool
  | [], _ => true
  | (k, x) :: xs, ys =>
    (match Fields.get? ys k with
      | some y => beq x y
      | none => false) && beqMembers xs ys

end

instance : BEq Value := ⟨beq⟩

end Value

end DocQuery
