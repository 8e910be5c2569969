import DocQuery.Json.Reader

/-!
Errors of queries and stores: their causes, the places they name and their wording.

* `Location`: the place of a fault in a query, as the steps that lead to it;
* `ShapeFault`: what can be wrong with the shape of a query;
* `QueryError` and `QueryError.message`: every error and its wording;
* `QueryError.isParseError`: the errors that arise before a store is touched.
-/

namespace DocQuery

/-! ### Places -/

/-- A step from a JSON tree to a part of it. -/
inductive Step where
  | key (name : String)
  | index (i : Nat)
deriving DecidableEq

/-- A place in a query: a name for a part of it and the steps from there. -/
structure Location where
  base : String
  steps : List Step
deriving DecidableEq

namespace Location

/-- The place with a name of its own. -/
def named (base : String) : Location := ⟨base, []⟩

/-- The place one key further. -/
def key (place : Location) (name : String) : Location :=
  { place with steps := place.steps ++ [.key name] }

/-- The place one index further. -/
def index (place : Location) (i : Nat) : Location :=
  { place with steps := place.steps ++ [.index i] }

end Location

/-- The text of a step. -/
def Step.text : Step → String
  | .key name => "." ++ name
  | .index i => "[" ++ toString i ++ "]"

/-- The text of a place: its name, then `.key` and `[index]` for its steps. -/
def Location.text (place : Location) : String :=
  place.base ++ String.join (place.steps.map Step.text)

/-! ### Faults of shape -/

/-- What can be wrong with the shape of a query. -/
inductive ShapeFault where
  | queryNotObject
  | unknownTopLevelKey
  | aliases (first second : String)
  | selectorMissing
  | notCount
  | invalidPath
  | pathTooDeep (limit : Nat)
  | fieldsNotArray
  | tooManyFields (limit : Nat)
  | notString
  | invalidDirection
  | sortNotArray
  | tooManySortKeys (limit : Nat)
  | sortNotOneField
  | invalidSortEntry
  | selectorTooDeep (limit : Nat)
  | selectorNotObject
  | negationNotObject
  | operatorWithoutField (operator : String)
  | notSelectors
  | noSelectors
  | operandNotArray
  | setTooLarge (limit : Nat)
  | operandNotBoolean
  | operandNotKind
  | operandNotCount
  | operandNotPair
  | divisorZero
  | operandNotPattern
  | invalidRegex (reason : String)
  | operatorInField (operator : String)
  | documentNotObject
deriving DecidableEq

/-- The wording of a fault. -/
def ShapeFault.message : ShapeFault → String
  | .queryNotObject => "query must be a JSON object"
  | .unknownTopLevelKey => "unknown top-level key"
  | .aliases first second => s!"`{first}` and `{second}` are aliases; give only one"
  | .selectorMissing => "missing required `selector`"
  | .notCount => "must be a non-negative integer"
  | .invalidPath => "field path must be non-empty dotted segments"
  | .pathTooDeep limit => s!"path deeper than {limit} segments"
  | .fieldsNotArray => "must be an array of field paths"
  | .tooManyFields limit => s!"at most {limit} projected fields allowed"
  | .notString => "must be a string"
  | .invalidDirection => "direction must be \"asc\" or \"desc\""
  | .sortNotArray => "must be an array"
  | .tooManySortKeys limit => s!"at most {limit} sort keys allowed"
  | .sortNotOneField => "sort object must name exactly one field"
  | .invalidSortEntry => "sort entry must be a field name or object"
  | .selectorTooDeep limit => s!"selector nested deeper than {limit}"
  | .selectorNotObject => "selector must be a JSON object"
  | .negationNotObject => "$not takes exactly one selector object"
  | .operatorWithoutField operator => s!"operator `{operator}` must be applied to a field"
  | .notSelectors => "expects an array of selectors"
  | .noSelectors => "expects at least one selector"
  | .operandNotArray => "expects an array"
  | .setTooLarge limit => s!"at most {limit} values allowed"
  | .operandNotBoolean => "expects true or false"
  | .operandNotKind => "expects one of null, boolean, number, string, array, object"
  | .operandNotCount => "expects a non-negative integer"
  | .operandNotPair => "expects [divisor, remainder] integers"
  | .divisorZero => "divisor must not be zero"
  | .operandNotPattern => "expects a pattern string"
  | .invalidRegex reason => reason
  | .operatorInField operator => s!"`{operator}` is not allowed inside a field condition"
  | .documentNotObject => "document must be a JSON object"

/-! ### Errors -/

/-- A failure of a store. -/
inductive StoreError where
  | io (message : String)
  | backend (message : String)
  | unavailable (message : String)
deriving DecidableEq

/-- The wording of a failure of a store. -/
def StoreError.message : StoreError → String
  | .io message => "I/O error: " ++ message
  | .backend message => "backend error: " ++ message
  | .unavailable message => "store unavailable: " ++ message

/-- Why a query was cancelled. -/
inductive CancelReason where
  | cancelled
  | deadlineExceeded
deriving DecidableEq

/-- The wording of a reason. -/
def CancelReason.message : CancelReason → String
  | .cancelled => "cancelled"
  | .deadlineExceeded => "deadline exceeded"

/-- An error of a query. -/
inductive QueryError where
  | malformedJson (cause : Json.ReadError) (offset : Nat)
  | invalidShape (place : Location) (fault : ShapeFault)
  | unsupportedOperator (operator : String) (place : Location)
  | storeFailure (cause : StoreError)
  | cancelled (reason : CancelReason)
deriving DecidableEq

namespace QueryError

/-- The error of a text that is no JSON. -/
def malformed (raw : List UInt8) (cause : Json.ReadError) : QueryError :=
  .malformedJson cause (cause.position.byteOffset raw)

/-- The wording of an error. -/
def message : QueryError → String
  | .malformedJson cause offset =>
    s!"malformed JSON at line {cause.position.line}, column {cause.position.column} " ++
      s!"(byte {offset}): {cause.message}"
  | .invalidShape place fault => s!"invalid query shape at `{place.text}`: {fault.message}"
  | .unsupportedOperator operator place => s!"unsupported operator `{operator}` at `{place.text}`"
  | .storeFailure cause => s!"store failure: {cause.message}"
  | .cancelled reason => s!"query cancelled: {reason.message}"

/-- An error that arises before a store is touched. -/
def isParseError : QueryError → Bool
  | .malformedJson .. | .invalidShape .. | .unsupportedOperator .. => true
  | .storeFailure .. | .cancelled .. => false

end QueryError

/-- The tree of a text, or the error of a text that is no JSON. -/
def Json.decode (raw : List UInt8) : Except QueryError Json :=
  (Json.read raw).mapError (QueryError.malformed raw)

end DocQuery
