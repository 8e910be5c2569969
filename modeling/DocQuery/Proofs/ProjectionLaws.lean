import DocQuery.Proofs.KeptParts
import DocQuery.Proofs.ProjectedBodies
import Mathlib.Tactic.Tauto

/-!
Projections as restrictions: what is in a projected document, and how projections go together.

* `Document.project_minimal` (**main statement**): a projected body is a sub-document of the body,
  and each of its keys lies on the way to a part that was asked for or below one;
* `Document.project_project`: among more paths the same is projected as from the document;
* `Document.project_laws` (**main statement**): so projections can be repeated, they do not see the
  order and repetition of their paths, and more paths keep more.
-/

namespace DocQuery

lemma Tree.allNumbers_true {ν : Type} (t : Tree ν) : t.AllNumbers fun _ => True := by
  induction t using Tree.induction with
  | array items ih => exact allNumbersItems_iff.mpr ih
  | object members ih => exact allNumbersMembers_iff.mpr ih
  | _ => trivial

/-- A path of which something is kept leads to something. -/
lemma Value.IsKeptPart.isSome_lookup {body : Value} {path kept : List String}
    (h : body.IsKeptPart path kept) : (body.lookup path).isSome := by
  obtain ⟨rest, value, rfl, hmember, hend⟩ := h
  rw [Tree.lookup_append, Tree.lookup_of_member? hmember, Option.bind_some]
  rcases hend with rfl | ⟨-, hrest⟩
  · rfl
  · exact hrest

namespace Document

variable {doc : Document} {paths others : List FieldPath} {path : FieldPath} {body : Value}
  {members : Fields Value}

/-! ### What is in a projected document -/

lemma any_revField_iff :
    (paths.any fun path => path.segments = [revField]) = true ↔ ⟨[revField]⟩ ∈ paths := by
  rw [List.any_eq_true]
  constructor
  · rintro ⟨⟨segments⟩, hpath, hsegments⟩
    cases of_decide_eq_true hsegments
    exact hpath
  · exact fun hpath => ⟨_, hpath, decide_eq_true rfl⟩

lemma rev_project (doc : Document) (paths : List FieldPath) :
    (doc.project paths).rev = if ⟨[revField]⟩ ∈ paths then doc.rev else none := by
  rw [project]
  simp only [any_revField_iff]

/-- **A projection is a sub-document with nothing that was not asked for.**  It has the identifier,
and the revision if that was asked for.  Its body is a sub-document of the body, in which a list of
keys leads to something if and only if it does so in the body and meets the kept part of a path that
was asked for and leads to something. -/
theorem project_minimal (hbody : doc.body = .object members)
    (hpaths : ∀ path ∈ paths, path.segments ≠ []) :
    (doc.project paths).id = doc.id
      ∧ (doc.project paths).rev = (if ⟨[revField]⟩ ∈ paths then doc.rev else none)
      ∧ (doc.project paths).body.SubDocument doc.body
      ∧ ∀ keys, keys ≠ [] →
        (((doc.project paths).body.member? keys).isSome
          ↔ (doc.body.member? keys).isSome
            ∧ ∃ path ∈ paths, path ≠ ⟨[idField]⟩ ∧ path ≠ ⟨[revField]⟩
              ∧ (doc.body.lookup path.segments).isSome
              ∧ ∃ kept, doc.body.IsKeptPart path.segments kept ∧ Meets kept keys) := by
  have hobject : doc.body.kind = .object := by rw [hbody]; rfl
  have hrestricted := doc.restrictedTo_project paths
  refine ⟨rfl, rev_project doc paths, hrestricted.subDocument_whole hobject, fun keys hkeys => ?_⟩
  rw [hrestricted.isSome_member?_iff hobject hkeys]
  refine and_congr_right fun _ => ⟨?_, ?_⟩
  · rintro ⟨kept, ⟨path, hpath, -, hid, hrev, hkept⟩, hmeets⟩
    exact ⟨path, hpath, (hid <| · ▸ rfl), (hrev <| · ▸ rfl), hkept.isSome_lookup, kept, hkept,
      hmeets⟩
  · rintro ⟨path, hpath, hid, hrev, -, kept, hkept, hmeets⟩
    obtain ⟨value, hvalue⟩ := Value.isKeptPart_iff.mp hkept
    have hne : kept ≠ [] := Value.ne_nil_of_keptPart? (hpaths path hpath) (hbody ▸ hvalue)
    exact ⟨kept, ⟨path, hpath, hne, (hid <| congrArg FieldPath.mk ·),
      (hrev <| congrArg FieldPath.mk ·), hkept⟩, hmeets⟩

/-- A document with a list in one part, another part with two fields, and a string. -/
def parcel : Document where
  id := "p1"
  rev := some "3-c"
  body := .object [
    ("from", .object [("name", .string "n"),
      ("tags", .array [.object [("k", .null)], .bool true])]),
    ("to", .object [("name", .string "m"), ("zip", .null)]),
    ("note", .string "fragile")]

/-- Paths into the list, to a field of the other part, to that part as a whole and below the
string. -/
def label : List FieldPath :=
  [⟨["from", "tags", "0", "k"]⟩, ⟨["to", "zip"]⟩, ⟨["to"]⟩, ⟨["note", "text"]⟩, ⟨["_rev"]⟩]

theorem parcel_keeps_label :
    (∃ members, parcel.body = .object members)
      ∧ (∀ path ∈ label, path.segments ≠ [])
      ∧ (parcel.project label).rev = some "3-c"
      ∧ (parcel.project label).body.SubDocument parcel.body
      ∧ ((parcel.project label).body.member? ["to", "name"]).isSome
      ∧ ¬ ((parcel.project label).body.member? ["note"]).isSome
      ∧ ∃ path ∈ label, (parcel.body.lookup path.segments).isSome
        ∧ ∃ kept, parcel.body.IsKeptPart path.segments kept ∧ Meets kept ["from", "tags"] := by
  have hpaths : ∀ path ∈ label, path.segments ≠ [] := by decide
  obtain ⟨-, hrev, hbody, hkeys⟩ := @project_minimal parcel label _ rfl hpaths
  have hname : ((parcel.project label).body.member? ["to", "name"]).isSome := rfl
  have htags : ((parcel.project label).body.member? ["from", "tags"]).isSome := rfl
  obtain ⟨-, path, hpath, -, -, hthere, hkept⟩ := (hkeys _ (List.cons_ne_nil _ _)).mp htags
  exact ⟨⟨_, rfl⟩, hpaths, hrev, hbody, hname, Bool.false_ne_true, path, hpath, hthere, hkept⟩

/-! ### Projections of projections -/

/-- Nothing is projected onto the root. -/
lemma keepPath_root (h : path.segments = []) (fields : Fields Value) :
    keepPath body fields path = fields := by
  rw [keepPath, h]
  split
  · rfl
  · cases body <;> rfl

/-- Of a body that is no object nothing is projected. -/
lemma keepPath_of_kind_ne (h : body.kind ≠ .object) (fields : Fields Value) (path : FieldPath) :
    keepPath body fields path = fields := by
  rw [keepPath]
  split
  · rfl
  · cases path.segments with
    | nil => cases body <;> rfl
    | cons segment rest =>
      cases body with
      | object members => exact absurd rfl h
      | array items =>
        rw [Value.keptPart?]
        split_ifs <;> rfl
      | _ => rfl

lemma body_project_of_kind_ne (h : doc.body.kind ≠ .object) (paths : List FieldPath) :
    (doc.project paths).body = .object [] := by
  rw [project, List.foldl_fixed' fun path => keepPath_of_kind_ne h [] path]

/-- A path keeps of a projection onto some paths, of which it is one, what it keeps of the
document. -/
lemma keepPath_project (hpath : path ∈ paths) (fields : Fields Value) :
    keepPath (doc.project paths).body fields path = keepPath doc.body fields path := by
  by_cases hroot : path.segments = []
  · rw [keepPath_root hroot, keepPath_root hroot]
  by_cases hobject : doc.body.kind = .object
  · rw [keepPath, keepPath]
    split_ifs with hmetadata
    · rfl
    · have hasked (kept : List String) (hne : kept ≠ [])
          (hkept : doc.body.IsKeptPart path.segments kept) : doc.Keeps paths kept :=
        ⟨path, hpath, hne, (hmetadata <| .inl ·), (hmetadata <| .inr ·), hkept⟩
      rw [(doc.restrictedTo_project paths).keptPart?_eq hobject hroot hasked]
  · obtain ⟨segment, rest, hsegments⟩ := List.exists_cons_of_ne_nil hroot
    rw [keepPath_of_kind_ne hobject, body_project_of_kind_ne hobject, keepPath, hsegments]
    split_ifs <;> rfl

/-- **Among more paths the same is projected as from the document.** -/
theorem project_project (h : paths ⊆ others) :
    (doc.project others).project paths = doc.project paths := by
  have hrev : ((doc.project others).project paths).rev = (doc.project paths).rev := by
    rw [rev_project, rev_project, rev_project]
    split_ifs with hpaths hothers
    · rfl
    · exact absurd (h hpaths) hothers
    · rfl
  have hfields : paths.foldl (keepPath (doc.project others).body) []
      = paths.foldl (keepPath doc.body) [] :=
    List.foldl_ext _ _ _ fun fields path hpath => keepPath_project (h hpath) fields
  calc (doc.project others).project paths
      = ⟨doc.id, ((doc.project others).project paths).rev,
          .object (paths.foldl (keepPath (doc.project others).body) [])⟩ := rfl
    _ = doc.project paths := by rw [hrev, hfields]; rfl

/-- More paths keep more. -/
lemma subDocument_project (h : paths ⊆ others) :
    (doc.project paths).body.SubDocument (doc.project others).body :=
  (doc.restrictedTo_project paths).subDocument (doc.restrictedTo_project others) fun _ =>
    Keeps.mono h

lemma distinctKeys_project (h : doc.body.DistinctKeys) (paths : List FieldPath) :
    (doc.project paths).body.DistinctKeys :=
  (clean_project ⟨h, Tree.allNumbers_true doc.body⟩ paths).distinct

/-- Projections onto the same paths are equal up to the order of keys. -/
lemma reordered_project (hbody : doc.body.DistinctKeys) (h : paths ⊆ others) (h' : others ⊆ paths) :
    (doc.project paths).Reordered (doc.project others) where
  id := rfl
  rev := by
    rw [rev_project, rev_project]
    exact if_congr ⟨(h ·), (h' ·)⟩ rfl rfl
  body := Tree.reordered_of_subDocument (subDocument_project h) (subDocument_project h')
    (distinctKeys_project hbody paths) (distinctKeys_project hbody others)

/-- **Projections depend on the set of their paths only, and go together.**  Onto some of its paths
a projection is projected like the document, and onto all of them it is left as it is; projections
onto the same paths, in whatever order and however often, are equal up to the order of keys; and a
projection onto some of the paths is a sub-document of one onto all. -/
theorem project_laws (doc : Document) (paths others : List FieldPath) :
    (doc.project (paths ++ others)).project paths = doc.project paths
      ∧ (doc.project paths).project paths = doc.project paths
      ∧ (doc.body.DistinctKeys → (∀ path, path ∈ paths ↔ path ∈ others) →
        (doc.project paths).Reordered (doc.project others))
      ∧ (doc.project paths).body.SubDocument (doc.project (paths ++ others)).body := by
  refine ⟨project_project (List.subset_append_left paths others),
    project_project (List.Subset.refl paths), fun hbody hsame => ?_,
    subDocument_project (List.subset_append_left paths others)⟩
  exact reordered_project hbody (fun _ => (hsame _).mp) fun _ => (hsame _).mpr

theorem parcel_projections :
    parcel.body.DistinctKeys
      ∧ (parcel.project [⟨["to", "zip"]⟩, ⟨["to", "name"]⟩]).body
        = .object [("to", .object [("zip", .null), ("name", .string "m")])]
      ∧ (parcel.project [⟨["to", "name"]⟩, ⟨["to", "zip"]⟩, ⟨["to", "name"]⟩]).body
        = .object [("to", .object [("name", .string "m"), ("zip", .null)])]
      ∧ (parcel.project [⟨["to", "zip"]⟩, ⟨["to", "name"]⟩]).Reordered
        (parcel.project [⟨["to", "name"]⟩, ⟨["to", "zip"]⟩, ⟨["to", "name"]⟩])
      ∧ (parcel.project ([⟨["to", "zip"]⟩] ++ label)).project [⟨["to", "zip"]⟩]
        = parcel.project [⟨["to", "zip"]⟩] := by
  have hbody : parcel.body.DistinctKeys := by
    simp [parcel, Tree.DistinctKeys, Tree.DistinctKeysMembers, Tree.DistinctKeysItems,
      Fields.Distinct, Fields.keys]
  have hsame (path : FieldPath) : path ∈ [⟨["to", "zip"]⟩, ⟨["to", "name"]⟩]
      ↔ path ∈ [⟨["to", "name"]⟩, ⟨["to", "zip"]⟩, ⟨["to", "name"]⟩] := by
    simp only [List.mem_cons, List.not_mem_nil, or_false]
    tauto
  exact ⟨hbody, rfl, rfl, (project_laws parcel _ _).2.2.1 hbody hsame, (project_laws parcel _ _).1⟩

end Document

end DocQuery
