import DocQuery.Config
import DocQuery.Error
import DocQuery.Selector

/-!
Selectors from JSON.  A selector is an object, of which every entry has to hold: the name of a field
with a condition, or a logical operator with selectors.  A condition is an object of operators and
of further field names, or a value that the field is to equal.  Within `$elemMatch` operators may
stand without a field and then speak of the array item itself.

* `Key`: what a key of a selector or condition stands for;
* `FieldTest.ofOperand`: a test from the operand of its operator;
* `Selector.ofJson` (**reading**): the selector that a tree denotes, or the first fault in it.
-/

namespace DocQuery

/-! ### Keys -/

/-- The operators that combine selectors. -/
inductive Connective where
  | and
  | or
  | nor
deriving DecidableEq

/-- The operators that test one field. -/
inductive TestOperator where
  | compare (comparison : Comparison)
  | isIn
  | notIn
  | containsAll
  | presence
  | kind
  | size
  | modulo
  | like
  | regex
deriving DecidableEq

/-- What a key stands for. -/
inductive Key where
  | connective (connective : Connective)
  | not
  | elemMatch
  | test (operator : TestOperator)
  | unknown
  | field
deriving DecidableEq

/-- What a key stands for; keys with a dollar sign in front are operators. -/
def Key.ofText (text : String) : Key :=
  match text with
  | "$and" => .connective .and
  | "$or" => .connective .or
  | "$nor" => .connective .nor
  | "$not" => .not
  | "$elemMatch" => .elemMatch
  | "$eq" => .test (.compare .eq)
  | "$ne" => .test (.compare .ne)
  | "$gt" => .test (.compare .gt)
  | "$gte" => .test (.compare .gte)
  | "$lt" => .test (.compare .lt)
  | "$lte" => .test (.compare .lte)
  | "$in" => .test .isIn
  | "$nin" => .test .notIn
  | "$all" => .test .containsAll
  | "$exists" => .test .presence
  | "$type" => .test .kind
  | "$size" => .test .size
  | "$mod" => .test .modulo
  | "$like" => .test .like
  | "$regex" => .test .regex
  | text => if text.toList.head? = some '$' then .unknown else .field

/-- The selector that a connective makes of others. -/
def Connective.apply : Connective → List Selector → Selector
  | .and => .and
  | .or => .or
  | .nor => .nor

/-! ### Operands -/

/-- The path that a text denotes; in the fault, the text stands for its own place. -/
def FieldPath.ofText (text : String) : Except QueryError FieldPath :=
  match FieldPath.ofText? text with
  | some path => .ok path
  | none => .error (.invalidShape (.named text) .invalidPath)

/-- The path that a text denotes, within the limit of depth. -/
def FieldPath.ofKey (config : QueryConfig) (text : String) (place : Location) :
    Except QueryError FieldPath :=
  match FieldPath.ofText? text with
  | none => .error (.invalidShape place .invalidPath)
  | some path =>
    if config.maxPathDepth < path.depth then
      .error (.invalidShape place (.pathTooDeep config.maxPathDepth))
    else .ok path

namespace FieldTest

/-- The values that a set operator lists. -/
def valueSet (config : QueryConfig) (operand : Json) (place : Location) :
    Except QueryError (List Value) :=
  match operand with
  | .array items =>
    if config.maxInSet < items.length then
      .error (.invalidShape place (.setTooLarge config.maxInSet))
    else .ok (items.map Value.ofJson)
  | _ => .error (.invalidShape place .operandNotArray)

/-- The divisor and the remainder of an operand. -/
def divisorAndRemainder? : Json → Option (Int × Int)
  | .array [.number d, .number r] => do
    let divisor ← d.integer?
    let remainder ← r.integer?
    some (divisor, remainder)
  | _ => none

/-- The test that an operator makes of its operand. -/
def ofOperand (config : QueryConfig) (operator : TestOperator) (operand : Json)
    (place : Location) : Except QueryError FieldTest :=
  let fault (fault : ShapeFault) : Except QueryError FieldTest :=
    .error (.invalidShape place fault)
  match operator with
  | .compare comparison => .ok (.compare comparison (Value.ofJson operand))
  | .isIn => (valueSet config operand place).map .isIn
  | .notIn => (valueSet config operand place).map .notIn
  | .containsAll => (valueSet config operand place).map .containsAll
  | .presence =>
    match operand with
    | .bool expected => .ok (.presence expected)
    | _ => fault .operandNotBoolean
  | .kind =>
    match operand.asString?.bind Kind.ofName? with
    | some kind => .ok (.hasKind kind)
    | none => fault .operandNotKind
  | .size =>
    match operand.asNumber?.bind JsonNumber.count? with
    | some size => .ok (.hasSize size)
    | none => fault .operandNotCount
  | .modulo =>
    match divisorAndRemainder? operand with
    | some (divisor, remainder) =>
      if divisor = 0 then fault .divisorZero else .ok (.modulo divisor remainder)
    | none => fault .operandNotPair
  | .like =>
    match operand with
    | .string source => .ok (.like ⟨source⟩)
    | _ => fault .operandNotPattern
  | .regex =>
    match operand with
    | .string source =>
      match Regex.ofText source with
      | .ok pattern => .ok (.regex pattern)
      | .error reason => fault (.invalidRegex reason)
    | _ => fault .operandNotPattern

end FieldTest

/-! ### Selectors -/

namespace Selector

/-- Refuses a selector at a depth above the limit. -/
def checkDepth (config : QueryConfig) (depth : Nat) (place : Location) : Except QueryError Unit :=
  if config.maxSelectorDepth < depth then
    .error (.invalidShape place (.selectorTooDeep config.maxSelectorDepth))
  else .ok ()

mutual

/-- The selector that a tree denotes.  With `inItem` set, operators without a field speak of the
array item; `depth` counts the operators around. -/
def ofTree (config : QueryConfig) (inItem : Bool) (place : Location) (depth : Nat) :
    Json → Except QueryError Selector
  | .object members => do
    checkDepth config depth place
    let parts ← ofMembers config inItem place depth members
    return allOf parts
  | _ => do
    checkDepth config depth place
    .error (.invalidShape place .selectorNotObject)

/-- The selectors that the entries of a selector denote. -/
def ofMembers (config : QueryConfig) (inItem : Bool) (place : Location) (depth : Nat) :
    List (String × Json) → Except QueryError (List Selector)
  | [] => .ok []
  | (key, operand) :: rest => do
    let here := place.key key
    let part ←
      match Key.ofText key with
      | .connective connective =>
        match operand with
        | .array [] => .error (.invalidShape here .noSelectors)
        | .array items => (ofItems config inItem here (depth + 1) 0 items).map connective.apply
        | _ => .error (.invalidShape here .notSelectors)
      | .not =>
        match operand with
        | .object members => (do
          checkDepth config (depth + 1) here
          let parts ← ofMembers config inItem here (depth + 1) members
          return .not (allOf parts))
        | _ => .error (.invalidShape here .negationNotObject)
      | .elemMatch =>
        if inItem then (ofTree config true here (depth + 1) operand).map (.elemMatch .root)
        else .error (.invalidShape here (.operatorWithoutField key))
      | .test operator =>
        if inItem then (FieldTest.ofOperand config operator operand here).map (.field .root)
        else .error (.invalidShape here (.operatorWithoutField key))
      | .unknown => .error (.unsupportedOperator key here)
      | .field => (do
        let path ← FieldPath.ofKey config key here
        ofCondition config path here depth operand)
    let parts ← ofMembers config inItem place depth rest
    return part :: parts

/-- The selectors that the items of a logical operator denote, of which the first has the index
`i`. -/
def ofItems (config : QueryConfig) (inItem : Bool) (place : Location) (depth i : Nat) :
    List Json → Except QueryError (List Selector)
  | [] => .ok []
  | item :: rest => do
    let part ← ofTree config inItem (place.index i) depth item
    let parts ← ofItems config inItem place depth (i + 1) rest
    return part :: parts

/-- The selector that the operand of a field name denotes. -/
def ofCondition (config : QueryConfig) (path : FieldPath) (place : Location) (depth : Nat) :
    Json → Except QueryError Selector
  | .object (member :: members) =>
    (ofConditionMembers config path place depth (member :: members)).map allOf
  | operand => .ok (.field path (.compare .eq (Value.ofJson operand)))

/-- The selectors that the entries of a condition denote. -/
def ofConditionMembers (config : QueryConfig) (path : FieldPath) (place : Location)
    (depth : Nat) : List (String × Json) → Except QueryError (List Selector)
  | [] => .ok []
  | (key, operand) :: rest => do
    let here := place.key key
    let part ←
      match Key.ofText key with
      | .connective _ => .error (.invalidShape here (.operatorInField key))
      | .not => (do
        checkDepth config (depth + 1) here
        let child ← ofCondition config path here (depth + 1) operand
        return .not child)
      | .elemMatch => (ofTree config true here (depth + 1) operand).map (.elemMatch path)
      | .test operator => (FieldTest.ofOperand config operator operand here).map (.field path)
      | .unknown => .error (.unsupportedOperator key here)
      | .field => (do
        let child ← FieldPath.ofKey config key here
        let nested := path.child child
        if config.maxPathDepth < nested.depth then
          .error (.invalidShape here (.pathTooDeep config.maxPathDepth))
        ofCondition config nested here depth operand)
    let parts ← ofConditionMembers config path place depth rest
    return part :: parts

end

/-- The place of a whole selector. -/
def place : Location := .named "selector"

/-- The selector that a tree denotes, under the limits of a configuration. -/
def ofJsonWith (config : QueryConfig) (json : Json) : Except QueryError Selector :=
  ofTree config false place 0 json

/-- The selector that a tree denotes, under the standard limits. -/
def ofJson (json : Json) : Except QueryError Selector := ofJsonWith .standard json

end Selector

end DocQuery
