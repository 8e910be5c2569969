import DocQuery.Query.Projection
import Mathlib.Data.Option.Basic
import Mathlib.Tactic.SplitIfs

/-!
The value that a query reads at a path beside the value there in the document as it is written out,
before and after a projection onto the path.

* `Document.metadata?`: what a document itself answers for a top-level key;
* `Document.lookup_toValue`: what is written out at a path, in which such answers hide the body;
* `Value.lookup_of_keptPart?` and `Fields.lookup_setPath`: a projected body has at the path what the
  body had;
* `Document.HiddenPart` and `Document.MisprojectedPart`: the parts of a body, below keys of its own
  called `_id` and `_rev`, that queries read or projections keep although the output hides them, or
  that projections lose;
* `Document.reads_and_projects_iff` (**main statement**): at every other path queries read what is
  written out and projections keep it, and at these they do not.
-/

namespace DocQuery

/-! ### Projected bodies -/

lemma Tree.lookup_empty {ν : Type} {segments : List String} (h : segments ≠ []) :
    (Tree.object [] : Tree ν).lookup segments = none := by
  cases segments with
  | nil => exact absurd rfl h
  | cons segment rest => rfl

/-- Nothing is kept of a path that leads nowhere. -/
lemma Value.lookup_of_keptPart?_eq_none {segments : List String} {value : Value}
    (h : Value.keptPart? segments value = none) : value.lookup segments = none := by
  induction segments generalizing value with
  | nil => cases h
  | cons segment rest ih =>
    cases value with
    | object members =>
      rw [keptPart?] at h
      rw [Tree.lookup, Tree.child?]
      cases hchild : Fields.get? members segment with
      | none => rfl
      | some child =>
        rw [hchild] at h
        exact ih (Option.map_eq_none_iff.mp h)
    | array items =>
      rw [keptPart?] at h
      cases hlookup : Tree.lookup (.array items : Value) (segment :: rest) with
      | none => rfl
      | some found => simp [hlookup] at h
    | _ => rfl

/-- The part of a path that is kept leads to what is kept. -/
lemma Value.lookup_of_keptPart? {segments path : List String} {value kept : Value}
    (h : Value.keptPart? segments value = some (path, kept)) :
    ∃ rest, segments = path ++ rest ∧ value.lookup path = some kept := by
  induction segments generalizing value path with
  | nil =>
    cases h
    exact ⟨[], rfl, rfl⟩
  | cons segment rest ih =>
    cases value with
    | object members =>
      rw [keptPart?] at h
      cases hchild : Fields.get? members segment with
      | none => simp [hchild] at h
      | some child =>
        rw [hchild] at h
        obtain ⟨⟨path, found⟩, hpart, hfound⟩ := Option.map_eq_some_iff.mp h
        cases hfound
        obtain ⟨after, hrest, hlookup⟩ := ih hpart
        refine ⟨after, by rw [hrest]; rfl, ?_⟩
        rw [Tree.lookup, Tree.child?, hchild]
        exact hlookup
    | array items =>
      rw [keptPart?] at h
      split at h
      · cases h
        exact ⟨segment :: rest, rfl, rfl⟩
      · cases h
    | _ => cases h

/-- Of an object at least the first segment is kept. -/
lemma Value.ne_nil_of_keptPart? {segments path : List String} {members : Fields Value}
    {kept : Value} (hsegments : segments ≠ [])
    (h : Value.keptPart? segments (.object members) = some (path, kept)) : path ≠ [] := by
  cases segments with
  | nil => exact absurd rfl hsegments
  | cons segment rest =>
    rw [keptPart?] at h
    split at h
    · obtain ⟨part, -, hpart⟩ := Option.map_eq_some_iff.mp h
      cases hpart
      exact List.cons_ne_nil _ _
    · cases h

/-- What is put at a path is found there. -/
lemma Fields.lookup_setPath {path : List String} (h : path ≠ []) (fields : Fields Value)
    (value : Value) : Tree.lookup (.object (fields.setPath path value)) path = some value := by
  induction path generalizing fields with
  | nil => exact absurd rfl h
  | cons key rest ih =>
    cases rest with
    | nil =>
      rw [setPath, Tree.lookup, Tree.child?, get?_insert, if_pos rfl]
      rfl
    | cons next rest =>
      rw [setPath, Tree.lookup, Tree.child?, get?_insert, if_pos rfl, Option.bind_some]
      exact ih (List.cons_ne_nil _ _) _

namespace Document

/-- A body that is restricted to one path has there what it had before; identifier and revision are
no part of it. -/
lemma lookup_keepPath {members : Fields Value} {path : FieldPath} (h : path.segments ≠ []) :
    Tree.lookup (.object (keepPath (.object members) [] path)) path.segments
      = if path.segments = [idField] ∨ path.segments = [revField] then none
        else Tree.lookup (.object members) path.segments := by
  rw [keepPath]
  split_ifs with hmetadata
  · exact Tree.lookup_empty h
  · cases hpart : Value.keptPart? path.segments (.object members) with
    | none =>
      rw [Value.lookup_of_keptPart?_eq_none hpart]
      exact Tree.lookup_empty h
    | some part =>
      obtain ⟨kept, value⟩ := part
      obtain ⟨rest, hsegments, hvalue⟩ := Value.lookup_of_keptPart? hpart
      have hne := Value.ne_nil_of_keptPart? h hpart
      rw [hsegments, Tree.lookup_append, Tree.lookup_append, hvalue, Fields.lookup_setPath hne]

/-! ### Metadata -/

/-- What a document itself answers for a top-level key: its identifier, and its revision if it has
one. -/
def metadata? (doc : Document) (key : String) : Option String :=
  if key = idField then some doc.id
  else if key = revField then doc.rev
  else none

variable {doc : Document} {members : Fields Value} {path : FieldPath}

/-- At a path that starts with a key the output has what the document answers for the key, and the
body only without such an answer. -/
lemma lookup_toValue (hbody : doc.body = .object members) (key : String) (rest : List String) :
    doc.toValue.lookup (key :: rest) = match doc.metadata? key with
      | some text => Tree.lookup (.string text) rest
      | none => doc.body.lookup (key :: rest) := by
  have hne : revField ≠ idField := by decide
  have hget : doc.toValue.child? key = match doc.metadata? key with
      | some text => some (.string text)
      | none => doc.body.child? key := by
    rw [toValue, Tree.child?, Fields.get?_insertFirst, metadata?, bodyFields, hbody]
    by_cases hid : key = idField
    · simp [hid]
    · by_cases hrev : key = revField
      · cases doc.rev <;> simp [hrev, hne, hne.symm, Fields.get?_insertFirst, Tree.child?]
      · cases doc.rev <;>
          simp [hid, hrev, Ne.symm hid, Ne.symm hrev, Fields.get?_insertFirst, Tree.child?]
  rw [Tree.lookup, hget, Tree.lookup]
  cases doc.metadata? key <;> rfl

lemma lookup_string_cons (text next : String) (rest : List String) :
    Tree.lookup (.string text : Value) (next :: rest) = none := rfl

/-- A query reads the answer of the document at a top-level key. -/
lemma fieldAt_of_singleton {key : String} (h : path.segments = [key]) :
    doc.fieldAt path = match doc.metadata? key with
      | some text => some (.string text)
      | none => doc.body.lookup [key] := by
  have hne : revField ≠ idField := by decide
  rw [fieldAt, h, metadata?]
  by_cases hid : key = idField
  · simp [hid]
  · cases doc.rev with
    | none => simp [hid]
    | some rev =>
      by_cases hrev : key = revField
      · simp [hrev, hne]
      · simp [hid, hrev]

/-- Below a top-level key a query reads the body, whatever the key. -/
lemma fieldAt_of_cons_cons {key next : String} {rest : List String}
    (h : path.segments = key :: next :: rest) :
    doc.fieldAt path = doc.body.lookup path.segments := by
  rw [fieldAt, h]

/-! ### Reading -/

/-- A path below a key that the document itself answers for, at which the body has something. -/
def HiddenPart (doc : Document) (path : FieldPath) : Prop :=
  ∃ key next rest, path.segments = key :: next :: rest ∧ (doc.metadata? key).isSome
    ∧ (doc.body.lookup path.segments).isSome

/-- **Queries read what is written out, but for the parts of the body that the output hides.** -/
lemma fieldAt_eq_iff (hbody : doc.body = .object members) (hpath : path.segments ≠ []) :
    doc.fieldAt path = doc.toValue.lookup path.segments ↔ ¬ doc.HiddenPart path := by
  obtain ⟨key, rest, hsegments⟩ := List.exists_cons_of_ne_nil hpath
  cases rest with
  | nil =>
    have hvisible : ¬ doc.HiddenPart path := by
      rintro ⟨_, _, _, hdeep, -⟩
      rw [hsegments] at hdeep
      cases hdeep
    refine iff_of_true ?_ hvisible
    rw [fieldAt_of_singleton hsegments, hsegments, lookup_toValue hbody]
    rfl
  | cons next rest =>
    have hhidden : doc.HiddenPart path
        ↔ (doc.metadata? key).isSome ∧ (doc.body.lookup path.segments).isSome := by
      constructor
      · rintro ⟨_, _, _, hdeep, hpart⟩
        rw [hsegments] at hdeep
        cases hdeep
        exact hpart
      · exact fun hpart => ⟨key, next, rest, hsegments, hpart⟩
    rw [hhidden, fieldAt_of_cons_cons hsegments, hsegments, lookup_toValue hbody]
    cases doc.metadata? key with
    | none => simp
    | some text => simp [lookup_string_cons]

/-! ### Projecting -/

/-- A path at which the body has something under a key `_rev` of its own: that key itself when there
is no revision, or a path below it when there is one. -/
def MisprojectedPart (doc : Document) (path : FieldPath) : Prop :=
  ∃ rest, path.segments = revField :: rest ∧ (rest = [] ↔ doc.rev = none)
    ∧ (doc.body.lookup path.segments).isSome

/-- A projection onto one path keeps the identifier, and the revision on the path `_rev` only. -/
lemma metadata?_project (doc : Document) (path : FieldPath) (key : String) :
    (doc.project [path]).metadata? key
      = if key = revField ∧ path.segments ≠ [revField] then none else doc.metadata? key := by
  have hne : revField ≠ idField := by decide
  by_cases hrev : key = revField
  · by_cases hpath : path.segments = [revField] <;> simp [metadata?, project, hrev, hne, hpath]
  · simp [metadata?, project, hrev]

/-- What is written out of a projection onto a path, there: the answer of the projected document,
and without one the body, unless the path is a metadata field. -/
lemma lookup_toValue_project (hbody : doc.body = .object members) {key : String}
    {rest : List String} (hsegments : path.segments = key :: rest) :
    (doc.project [path]).toValue.lookup path.segments
      = match (doc.project [path]).metadata? key with
        | some text => Tree.lookup (.string text) rest
        | none => if path.segments = [idField] ∨ path.segments = [revField] then none
          else doc.body.lookup path.segments := by
  have hprojected : (doc.project [path]).body = .object (keepPath (.object members) [] path) := by
    rw [project, hbody]
    rfl
  have hpath : path.segments ≠ [] := hsegments ▸ List.cons_ne_nil _ _
  rw [hbody, ← lookup_keepPath hpath, ← hprojected, hsegments]
  exact lookup_toValue hprojected key rest

lemma misprojectedPart_iff {key : String} {rest : List String}
    (hsegments : path.segments = key :: rest) :
    doc.MisprojectedPart path
      ↔ key = revField ∧ (rest = [] ↔ doc.rev = none)
        ∧ (doc.body.lookup path.segments).isSome := by
  constructor
  · rintro ⟨_, hrev, hpart⟩
    cases hsegments.symm.trans hrev
    exact ⟨rfl, hpart⟩
  · rintro ⟨rfl, hpart⟩
    exact ⟨rest, hsegments, hpart⟩

/-- **A projection onto a path keeps what is written out there, but for a revision that only the
body has.** -/
lemma lookup_project_eq_iff (hbody : doc.body = .object members) (hpath : path.segments ≠ []) :
    (doc.project [path]).toValue.lookup path.segments = doc.toValue.lookup path.segments
      ↔ ¬ doc.MisprojectedPart path := by
  obtain ⟨key, rest, hsegments⟩ := List.exists_cons_of_ne_nil hpath
  have hne : revField ≠ idField := by decide
  have hwritten := lookup_toValue hbody key rest
  rw [← hsegments] at hwritten
  rw [misprojectedPart_iff hsegments, lookup_toValue_project hbody hsegments, hwritten,
    metadata?_project]
  by_cases hrev : key = revField
  · have hmetadata : doc.metadata? revField = doc.rev := by rw [metadata?, if_neg hne, if_pos rfl]
    subst hrev
    -- The revision is projected on the path `_rev` itself, and the body on the paths below it.
    cases rest with
    | nil =>
      cases hdocrev : doc.rev with
      | none =>
        simp only [hmetadata, hsegments, hdocrev, ne_eq, not_true, and_false, if_false, or_true,
          if_true, true_and, Bool.not_eq_true, Option.isSome_eq_false_iff,
          Option.isNone_iff_eq_none]
        exact eq_comm
      | some rev => simp [hmetadata, hsegments, hdocrev]
    | cons next rest =>
      cases hdocrev : doc.rev with
      | none => simp [hmetadata, hsegments, hdocrev]
      | some rev => simp [hmetadata, hsegments, hdocrev, lookup_string_cons]
  · cases hmetadata : doc.metadata? key with
    | some text => simp [hrev]
    | none =>
      have hid : key ≠ idField := by
        rintro rfl
        rw [metadata?, if_pos rfl] at hmetadata
        cases hmetadata
      simp [hrev, hsegments, hid]

/-! ### Main statement -/

/-- A body without a key has nothing at or below it. -/
lemma lookup_eq_none_of_get? {key : String} (h : members.get? key = none) (rest : List String) :
    Tree.lookup (.object members) (key :: rest) = none := by
  rw [Tree.lookup, Tree.child?, h]
  rfl

/-- **Queries read what is written out, but for the parts of the body that the output hides;
projections keep it, but for a revision that only the body has.  Without keys `_id` and `_rev` in
the body there are no such parts.** -/
theorem reads_and_projects_iff (hbody : doc.body = .object members) (hpath : path.segments ≠ []) :
    (doc.fieldAt path = doc.toValue.lookup path.segments ↔ ¬ doc.HiddenPart path)
      ∧ ((doc.project [path]).toValue.lookup path.segments = doc.toValue.lookup path.segments
        ↔ ¬ doc.MisprojectedPart path)
      ∧ (members.get? idField = none → members.get? revField = none →
        ¬ doc.HiddenPart path ∧ ¬ doc.MisprojectedPart path) := by
  refine ⟨fieldAt_eq_iff hbody hpath, lookup_project_eq_iff hbody hpath, fun hid hrev => ⟨?_, ?_⟩⟩
  · rintro ⟨key, next, rest, hsegments, hkey, hpart⟩
    rw [hsegments, hbody] at hpart
    rw [metadata?] at hkey
    split_ifs at hkey with hidkey hrevkey
    · rw [lookup_eq_none_of_get? (hidkey ▸ hid)] at hpart
      cases hpart
    · rw [lookup_eq_none_of_get? (hrevkey ▸ hrev)] at hpart
      cases hpart
    · cases hkey
  · rintro ⟨rest, hsegments, -, hpart⟩
    rw [hsegments, hbody, lookup_eq_none_of_get? hrev] at hpart
    cases hpart

/-- A document of a second write, whose body has a stale identifier and a nested list. -/
def listing : Document where
  id := "k1"
  rev := some "2-b"
  body := .object [("_id", .object [("x", .bool true)]),
    ("a", .object [("list", .array [.null, .object [("c", .string "found")]])])]

theorem listing_reads_and_projects :
    listing.fieldAt ⟨["a", "list", "1", "c"]⟩ = some (.string "found")
      ∧ (listing.fieldAt ⟨["a", "list", "1", "c"]⟩
          = listing.toValue.lookup ["a", "list", "1", "c"]
        ↔ ¬ listing.HiddenPart ⟨["a", "list", "1", "c"]⟩)
      ∧ ((listing.project [⟨["a", "list", "1", "c"]⟩]).toValue.lookup ["a", "list", "1", "c"]
          = listing.toValue.lookup ["a", "list", "1", "c"]
        ↔ ¬ listing.MisprojectedPart ⟨["a", "list", "1", "c"]⟩) := by
  have h := @reads_and_projects_iff listing _ ⟨["a", "list", "1", "c"]⟩ rfl (List.cons_ne_nil _ _)
  exact ⟨rfl, h.1, h.2.1⟩

/-- A document without a revision, whose body has one. -/
def unrevised : Document where
  id := "k1"
  rev := none
  body := .object [("_rev", .string "old")]

/-- Below `_id` a query reads a part of the body that the output hides, and a projection onto `_rev`
loses a revision that the output shows. -/
theorem stale_metadata_diverges :
    listing.fieldAt ⟨["_id", "x"]⟩ = some (.bool true)
      ∧ listing.toValue.lookup ["_id", "x"] = none
      ∧ unrevised.toValue.lookup ["_rev"] = some (.string "old")
      ∧ (unrevised.project [⟨["_rev"]⟩]).toValue.lookup ["_rev"] = none :=
  ⟨rfl, rfl, rfl, rfl⟩

end Document

end DocQuery
