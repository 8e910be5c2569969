/-!
Field paths: the segments by which a field is reached, written as text with dots between them.  A
backslash takes the character after it literally, so a segment may hold dots.

* `FieldPath.ofText?`: reads a path; a path has at least one segment and none of them is empty;
* `FieldPath.text`: writes a path, with a backslash before every dot of a segment;
* `FieldPath.child`: the path that goes on from another.
-/

namespace DocQuery

/-- The segments of a path, outermost first; the root path has none. -/
structure FieldPath where
  segments : List String
deriving DecidableEq

namespace FieldPath

/-- The path to the value itself. -/
def root : FieldPath := ⟨[]⟩

/-- The number of segments. -/
def depth (path : FieldPath) : Nat := path.segments.length

/-- The path without segments, which names the whole document. -/
def isRoot (path : FieldPath) : Bool := path.segments.isEmpty

/-- The outermost segment. -/
def first? (path : FieldPath) : Option String := path.segments.head?

/-- The path that goes on with the segments of another. -/
def child (path other : FieldPath) : FieldPath := ⟨path.segments ++ other.segments⟩

/-! ### Reading -/

/-- The pieces of a text between its dots, with escapes resolved; `piece` holds the characters of
the current piece, last first. -/
def pieces (piece : List Char) : List Char → List (List Char)
  | [] => [piece.reverse]
  | ['\\'] => [('\\' :: piece).reverse]
  | '\\' :: c :: rest => pieces (c :: piece) rest
  | '.' :: rest => piece.reverse :: pieces [] rest
  | c :: rest => pieces (c :: piece) rest

/-- The path that a text denotes; none if a segment is empty. -/
def ofText? (text : String) : Option FieldPath :=
  let segments := pieces [] text.toList
  if segments.any List.isEmpty then none else some ⟨segments.map String.ofList⟩

/-! ### Writing -/

/-- The characters of a segment with a backslash before every dot. -/
def escapeDots : List Char → List Char
  | [] => []
  | '.' :: rest => '\\' :: '.' :: escapeDots rest
  | c :: rest => c :: escapeDots rest

/-- The text of a path. -/
def text (path : FieldPath) : String :=
  ".".intercalate (path.segments.map fun segment => String.ofList (escapeDots segment.toList))

end FieldPath

end DocQuery
