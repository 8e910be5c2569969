import DocQuery.Document
import DocQuery.Like
import DocQuery.Regex
import DocQuery.Value.Collation

/-!
Selectors: conditions on the fields of a document.

* `FieldTest`: a condition on one field, which may be absent;
* `Selector`: tests of fields combined by logic, and searches through arrays;
* `Selector.holds` (**evaluation**): whether a selector holds, given what is at each path.
-/

namespace DocQuery

/-- The comparisons of a field with a value. -/
inductive Comparison where
  | eq
  | ne
  | gt
  | gte
  | lt
  | lte
deriving DecidableEq

/-- A condition on a field. -/
inductive FieldTest where
  | compare (comparison : Comparison) (operand : Value)
  | isIn (values : List Value)
  | notIn (values : List Value)
  | presence (expected : Bool)
  | hasKind (kind : Kind)
  | hasSize (size : Nat)
  | modulo (divisor remainder : Int)
  | containsAll (values : List Value)
  | like (pattern : LikePattern)
  | regex (pattern : Regex)

/-- A condition on a document, or on an item of an array. -/
inductive Selector where
  /-- Holds of everything. -/
  | always
  | and (children : List Selector)
  | or (children : List Selector)
  | nor (children : List Selector)
  | not (child : Selector)
  | field (path : FieldPath) (test : FieldTest)
  /-- Some item of the array at the path fulfils the child. -/
  | elemMatch (path : FieldPath) (child : Selector)

/-! ### Tests of fields -/

namespace FieldTest

/-- A field that equals a value; an absent field equals null only. -/
def equals (field : Option Value) (operand : Value) : Bool :=
  match field with
  | some v => v == operand
  | none => operand.kind = .null

/-- A field of the same kind as a value that compares with it as wanted. -/
def compares (field : Option Value) (operand : Value) (wanted : Ordering → Bool) : Bool :=
  match field.bind (Value.compareSameKind? · operand) with
  | some order => wanted order
  | none => false

/-- The comparison of a field with a value. -/
def comparesAs (field : Option Value) (operand : Value) : Comparison → Bool
  | .eq => equals field operand
  | .ne => !equals field operand
  | .gt => compares field operand (· == .gt)
  | .gte => compares field operand (· != .lt)
  | .lt => compares field operand (· == .lt)
  | .lte => compares field operand (· != .gt)

/-- The whole number that a value denotes, up to `2 ^ 53` in absolute value. -/
def smallInteger? (value : Value) : Option Int :=
  match value with
  | .number x => if Binary64.exactLimit < x.magnitude then none else x.integral?
  | _ => none

/-- A whole number that leaves a remainder; the remainder has the sign of the number, and no
number leaves one on division by zero. -/
def leaves (divisor remainder : Int) (value : Value) : Bool :=
  match smallInteger? value with
  | some n => divisor ≠ 0 ∧ n.tmod divisor = remainder
  | none => false

/-- Whether a test holds of a field. -/
def holds (test : FieldTest) (field : Option Value) : Bool :=
  match test with
  | .compare comparison operand => comparesAs field operand comparison
  | .isIn values => values.any (equals field)
  | .notIn values => !values.any (equals field)
  | .presence expected => field.isSome == expected
  | .hasKind kind => field.any (·.kind = kind)
  | .hasSize size => (field.bind Tree.asArray?).any (·.length = size)
  | .modulo divisor remainder => field.any (leaves divisor remainder)
  | .containsAll values =>
    !values.isEmpty && (field.bind Tree.asArray?).any fun items =>
      values.all fun wanted => items.any (· == wanted)
  | .like p => (field.bind Tree.asString?).any p.isMatch
  | .regex r => (field.bind Tree.asString?).any r.isMatch

end FieldTest

/-! ### Selectors -/

namespace Selector

/-- The conjunction of some selectors, where none is the selector that always holds and one stands
for itself. -/
def allOf : List Selector → Selector
  | [] => .always
  | [s] => s
  | parts => .and parts

mutual

/-- Whether a selector holds, given what is at each path. -/
def holds : Selector → (FieldPath → Option Value) → Bool
  | .always, _ => true
  | .and children, read => allHold children read
  | .or children, read => anyHolds children read
  | .nor children, read => !anyHolds children read
  | .not child, read => !child.holds read
  | .field path test, read => test.holds (read path)
  | .elemMatch path child, read =>
    match (read path).bind Tree.asArray? with
    | some items => items.any fun item => child.holds fun p => item.lookup p.segments
    | none => false

/-- Whether each of several selectors holds, as it does if there is none. -/
def allHold : List Selector → (FieldPath → Option Value) → Bool
  | [], _ => true
  | s :: rest, read => s.holds read && allHold rest read

/-- Whether at least one of several selectors holds. -/
def anyHolds : List Selector → (FieldPath → Option Value) → Bool
  | [], _ => false
  | s :: rest, read => s.holds read || anyHolds rest read

end

/-- Whether a document fulfils a selector. -/
def isMatch (selector : Selector) (doc : Document) : Bool := selector.holds doc.fieldAt

/-- Whether a value without identifier and revision fulfils a selector. -/
def isMatchValue (selector : Selector) (value : Value) : Bool :=
  selector.holds fun path => value.lookup path.segments

end Selector

end DocQuery
