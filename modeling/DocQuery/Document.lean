import DocQuery.FieldPath
import DocQuery.Value

/-!
Documents: a body with an identifier and perhaps a revision.  Both are seen as the top-level
fields `_id` and `_rev`, whatever the body holds under these keys.

* `Document.fieldAt`: the value that queries read at a path;
* `Document.toValue`: the document as it is written out.
-/

namespace DocQuery

/-- What a store knows a document by. -/
abbrev DocumentId := String

/-- A document of a store. -/
structure Document where
  id : DocumentId
  rev : Option String
  body : Value

namespace Document

/-- The key of the identifier. -/
def idField : String := "_id"

/-- The key of the revision. -/
def revField : String := "_rev"

/-- The value at a path.  A top-level `_id` is the identifier; a top-level `_rev` is the revision
if there is one. -/
def fieldAt (doc : Document) (path : FieldPath) : Option Value :=
  match path.segments with
  | [segment] =>
    if segment = idField then some (.string doc.id)
    else
      match doc.rev with
      | some rev => if segment = revField then some (.string rev) else doc.body.lookup [segment]
      | none => doc.body.lookup [segment]
  | segments => doc.body.lookup segments

/-- The fields of the body; a body that is no object stands under the key `value`. -/
def bodyFields (doc : Document) : Fields Value :=
  match doc.body with
  | .object members => members
  | body => [("value", body)]

/-- The document as an object that starts with its identifier and its revision. -/
def toValue (doc : Document) : Value :=
  let fields := doc.bodyFields
  let fields :=
    match doc.rev with
    | some rev => fields.insertFirst revField (.string rev)
    | none => fields
  .object (fields.insertFirst idField (.string doc.id))

/-- The document as JSON. -/
def toJson (doc : Document) : Json := doc.toValue.toJson

end Document

end DocQuery
