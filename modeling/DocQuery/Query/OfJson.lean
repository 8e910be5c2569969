import DocQuery.Query
import DocQuery.Selector.OfJson

/-!
Queries from JSON: an object with a selector and, if wanted, a projection, sort keys, a skip and a
limit.  Faults are found in this order, whatever the order of the keys.

* `SortKey.ofJson`: a sort key in one of its forms;
* `Query.ofJson` (**reading**): the query that a tree denotes, or the first fault in it;
* `Query.ofText`: the same for a text.
-/

namespace DocQuery

/-! ### Paths, directions and counts -/

/-- The paths that an array of texts denotes, of which the first has the index `i`. -/
def FieldPath.ofItems (config : QueryConfig) (place : Location) (i : Nat) :
    List Json → Except QueryError (List FieldPath)
  | [] => .ok []
  | .string text :: rest => do
    let path ← FieldPath.ofKey config text (place.index i)
    let paths ← FieldPath.ofItems config place (i + 1) rest
    return path :: paths
  | _ :: _ => .error (.invalidShape (place.index i) .notString)

namespace Direction

/-- The direction that a text names; case is ignored for Latin letters. -/
def ofText? (text : String) : Option Direction :=
  match text.toLower with
  | "asc" => some .ascending
  | "desc" => some .descending
  | _ => none

/-- The direction that a tree names. -/
def ofJson? (json : Json) : Option Direction := json.asString?.bind ofText?

/-- The direction that a tree names, or the fault. -/
def ofJson (json : Json) (place : Location) : Except QueryError Direction :=
  match ofJson? json with
  | some direction => .ok direction
  | none => .error (.invalidShape place .invalidDirection)

end Direction

/-- The count that a tree denotes, or the fault. -/
def countOfJson (json : Json) (place : Location) : Except QueryError Nat :=
  match json.asNumber?.bind JsonNumber.count? with
  | some n => .ok n
  | none => .error (.invalidShape place .notCount)

/-! ### Sort keys -/

namespace SortKey

/-- An object that spells a sort key out under `path` and `direction`.  A lone `path` that names a
direction is a field of that name. -/
def isSpelledOut (members : Fields Json) : Bool :=
  match members.get? "path" with
  | some json =>
    match members.length with
    | 1 => (Direction.ofJson? json).isNone
    | 2 => members.contains "direction"
    | _ => false
  | none => false

/-- The sort key that an object spells out. -/
def ofSpelledOut (config : QueryConfig) (place : Location) (members : Fields Json) :
    Except QueryError SortKey :=
  match (members.get? "path").bind Tree.asString? with
  | none => .error (.invalidShape (place.key "path") .notString)
  | some text => do
    let direction ←
      match members.get? "direction" with
      | some json => Direction.ofJson json (place.key "direction")
      | none => .ok .ascending
    let path ← FieldPath.ofKey config text place
    return ⟨path, direction⟩

/-- The sort key that a tree denotes: a path, an object from a path to a direction, or an object
that spells both out. -/
def ofJson (config : QueryConfig) (place : Location) : Json → Except QueryError SortKey
  | .string text => return ⟨← FieldPath.ofKey config text place, .ascending⟩
  | .object members =>
    if isSpelledOut members then ofSpelledOut config place members
    else
      match members with
      | [(key, json)] => do
        let path ← FieldPath.ofKey config key (place.key key)
        let direction ← Direction.ofJson json (place.key key)
        return ⟨path, direction⟩
      | _ => .error (.invalidShape place .sortNotOneField)
  | _ => .error (.invalidShape place .invalidSortEntry)

/-- The sort keys that an array denotes, of which the first has the index `i`. -/
def ofItems (config : QueryConfig) (place : Location) (i : Nat) :
    List Json → Except QueryError (List SortKey)
  | [] => .ok []
  | item :: rest => do
    let key ← ofJson config (place.index i) item
    let keys ← ofItems config place (i + 1) rest
    return key :: keys

end SortKey

/-! ### Queries -/

namespace Query

/-- The keys of a query. -/
def topLevelKeys : List String :=
  ["selector", "where", "fields", "projection", "sort", "limit", "skip"]

/-- The projection that a tree denotes. -/
def projectionOfJson (config : QueryConfig) (json : Json) :
    Except QueryError (List FieldPath) :=
  let place := Location.named "fields"
  match json with
  | .array items =>
    if config.maxProjectionFields < items.length then
      .error (.invalidShape place (.tooManyFields config.maxProjectionFields))
    else FieldPath.ofItems config place 0 items
  | _ => .error (.invalidShape place .fieldsNotArray)

/-- The sort keys that a tree denotes. -/
def sortOfJson (config : QueryConfig) (json : Json) : Except QueryError (List SortKey) :=
  let place := Location.named "sort"
  match json with
  | .array items =>
    if config.maxSortFields < items.length then
      .error (.invalidShape place (.tooManySortKeys config.maxSortFields))
    else SortKey.ofItems config place 0 items
  | _ => .error (.invalidShape place .sortNotArray)

/-- The value of a key or else of its synonym. -/
def valueOf? (members : Fields Json) (key synonym : String) : Option Json :=
  (members.get? key).or (members.get? synonym)

/-- Refuses a key that no query has. -/
def checkKeys (members : Fields Json) : Except QueryError Unit :=
  match members.keys.find? (· ∉ topLevelKeys) with
  | some key => .error (.invalidShape (.named key) .unknownTopLevelKey)
  | none => .ok ()

/-- Refuses a key that stands beside its synonym. -/
def checkSynonym (members : Fields Json) (key synonym : String) : Except QueryError Unit :=
  if members.contains key && members.contains synonym then
    .error (.invalidShape (.named synonym) (.aliases key synonym))
  else .ok ()

/-- What a reader makes of an optional value. -/
def optional {α : Type} (read : Json → Except QueryError α) :
    Option Json → Except QueryError (Option α)
  | none => .ok none
  | some json => (read json).map some

/-- The query that the members of an object denote. -/
def ofMembers (config : QueryConfig) (members : Fields Json) : Except QueryError Query := do
  checkKeys members
  checkSynonym members "selector" "where"
  checkSynonym members "fields" "projection"
  let selector ←
    match valueOf? members "selector" "where" with
    | some json => Selector.ofJsonWith config json
    | none => .error (.invalidShape Selector.place .selectorMissing)
  let projection ← optional (projectionOfJson config) (valueOf? members "fields" "projection")
  let sort ← optional (sortOfJson config) (members.get? "sort")
  let skip ← optional (countOfJson · (.named "skip")) (members.get? "skip")
  let limit ← optional (countOfJson · (.named "limit")) (members.get? "limit")
  return ⟨selector, projection, sort.getD [], skip.getD 0, limit⟩

/-- The query that a tree denotes, under the limits of a configuration. -/
def ofJsonWith (config : QueryConfig) : Json → Except QueryError Query
  | .object members => ofMembers config members
  | _ => .error (.invalidShape (.named "$") .queryNotObject)

/-- The query that a tree denotes, under the standard limits. -/
def ofJson (json : Json) : Except QueryError Query := ofJsonWith .standard json

/-- The query that a text denotes, under the limits of a configuration. -/
def ofTextWith (config : QueryConfig) (raw : List UInt8) : Except QueryError Query :=
  Json.decode raw >>= ofJsonWith config

/-- The query that a text denotes, under the standard limits. -/
def ofText (raw : List UInt8) : Except QueryError Query := ofTextWith .standard raw

end Query

end DocQuery
