import DocQuery.Query

/-!
Projection: a document restricted to some paths.  Nested fields keep their nesting, absent ones are
left out, and a path through an array keeps the whole array.

* `Value.keptPart?`: the part of a path that is kept of a value, with what is there;
* `Fields.setPath`: puts a value at a path;
* `Document.project` (**projection**): keeps the identifier, the revision when asked for, and the
  kept parts of the paths.
-/

namespace DocQuery

/-- The part of a path that is kept: the whole path, or what leads to the first array on it.  There
is none if the path leads nowhere. -/
def Value.keptPart? : List String → Value → Option (List String × Value)
  | [], v => some ([], v)
  | segment :: rest, .object members =>
    match Fields.get? members segment with
    | some child => (Value.keptPart? rest child).map fun (path, v) => (segment :: path, v)
    | none => none
  | segment :: rest, .array items =>
    if (Tree.lookup (.array items : Value) (segment :: rest)).isSome then some ([], .array items)
    else none
  | _ :: _, _ => none

/-- Puts a value at a path; whatever is in the way and no object gives way to one. -/
def Fields.setPath : Fields Value → List String → Value → Fields Value
  | fields, [], _ => fields
  | fields, [key], value => fields.insert key value
  | fields, key :: next :: rest, value =>
    let inner :=
      match fields.get? key with
      | some (.object members) => members
      | _ => []
    fields.insert key (.object (Fields.setPath inner (next :: rest) value))

namespace Document

/-- Adds the kept part of one path to a projected body; identifier and revision are no part of a
body. -/
def keepPath (body : Value) (kept : Fields Value) (path : FieldPath) : Fields Value :=
  if path.segments = [idField] ∨ path.segments = [revField] then kept
  else
    match Value.keptPart? path.segments body with
    | some (segments, value) => kept.setPath segments value
    | none => kept

/-- The document restricted to some paths. -/
def project (doc : Document) (paths : List FieldPath) : Document where
  id := doc.id
  rev := if paths.any (·.segments = [revField]) then doc.rev else none
  body := .object (paths.foldl (keepPath doc.body) [])

end Document

end DocQuery
