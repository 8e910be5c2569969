import DocQuery.Proofs.FieldEdits
import DocQuery.Proofs.ValueEquality
import DocQuery.Query.Projection

/-!
The bodies that projections put together: they repeat no key, and their numbers are those of the
document.

* `Fields.mem_of_mem_insert`: an insertion adds no member but its own;
* `Tree.Clean.lookup`: parts of clean values are clean;
* `Tree.Clean.keptPart?` and `Tree.Clean.setPath`: what is kept of a body, and what is put into one;
* `Document.clean_project` (**main statement**): clean bodies stay clean under projection.
-/

namespace DocQuery

/-! ### Insertions -/

namespace Fields

variable {α : Type} {fields : Fields α}

lemma mem_of_mem_insert {key : String} {value : α} {member : String × α}
    (h : member ∈ fields.insert key value) : member = (key, value) ∨ member ∈ fields := by
  induction fields with
  | nil => exact .inl (List.mem_singleton.mp h)
  | cons other rest ih =>
    rw [insert] at h
    split_ifs at h with hkey
    · rw [hkey] at h
      exact (List.mem_cons.mp h).imp_right (List.mem_cons_of_mem other)
    · rcases List.mem_cons.mp h with rfl | h
      · exact .inr List.mem_cons_self
      · exact (ih h).imp_right (List.mem_cons_of_mem other)

end Fields

/-! ### Clean bodies -/

namespace Tree

variable {p : Binary64 → Prop} {members : Fields Value} {key : String} {v w : Value}

lemma clean_empty : Clean p (.object []) := clean_object_iff.mpr ⟨List.nodup_nil, by simp⟩

lemma Clean.of_get? (h : Clean p (.object members)) (hv : Fields.get? members key = some v) :
    v.Clean p := by
  obtain ⟨hdistinct, hmembers⟩ := clean_object_iff.mp h
  exact hmembers (key, v) ((Fields.get?_eq_some_iff hdistinct).mp hv)

lemma Clean.child? {segment : String} (h : v.Clean p) (hw : v.child? segment = some w) :
    w.Clean p := by
  cases v with
  | object members => exact h.of_get? hw
  | array items =>
    obtain ⟨i, -, hi⟩ := Option.bind_eq_some_iff.mp hw
    exact h.of_mem_array (List.mem_of_getElem? hi)
  | _ => cases hw

lemma Clean.lookup {segments : List String} (h : v.Clean p) (hw : v.lookup segments = some w) :
    w.Clean p := by
  induction segments generalizing v with
  | nil =>
    cases hw
    exact h
  | cons segment rest ih =>
    obtain ⟨child, hchild, hrest⟩ := Option.bind_eq_some_iff.mp hw
    exact ih (h.child? hchild) hrest

lemma Clean.insert (h : Clean p (.object members)) (hv : v.Clean p) :
    Clean p (.object (Fields.insert members key v)) := by
  rw [clean_object_iff] at h ⊢
  refine ⟨Fields.distinct_insert h.1 key v, fun member hmember => ?_⟩
  rcases Fields.mem_of_mem_insert hmember with rfl | hmember
  · exact hv
  · exact h.2 member hmember

lemma Clean.setPath (h : Clean p (.object members)) (hv : v.Clean p) (path : List String) :
    Clean p (.object (Fields.setPath members path v)) := by
  induction path generalizing members with
  | nil => exact h
  | cons key rest ih =>
    cases rest with
    | nil => exact h.insert hv
    | cons next rest =>
      rw [Fields.setPath]
      refine h.insert (ih ?_)
      cases hchild : Fields.get? members key with
      | none => exact clean_empty
      | some child =>
        have hclean := h.of_get? hchild
        cases child with
        | object inner => exact hclean
        | _ => exact clean_empty

lemma Clean.keptPart? {segments : List String} {part : List String × Value} (h : v.Clean p)
    (hpart : Value.keptPart? segments v = some part) : part.2.Clean p := by
  induction segments generalizing v part with
  | nil =>
    cases hpart
    exact h
  | cons segment rest ih =>
    cases v with
    | object members =>
      rw [Value.keptPart?] at hpart
      cases hchild : Fields.get? members segment with
      | none => simp [hchild] at hpart
      | some child =>
        rw [hchild] at hpart
        obtain ⟨⟨path, kept⟩, hinner, rfl⟩ := Option.map_eq_some_iff.mp hpart
        have hkept := ih (h.of_get? hchild) hinner
        exact hkept
    | array items =>
      rw [Value.keptPart?] at hpart
      split at hpart
      · cases hpart
        exact h
      · cases hpart
    | _ => cases hpart

end Tree

/-- **Clean bodies stay clean under projection.** -/
theorem Document.clean_project {p : Binary64 → Prop} {doc : Document} (h : doc.body.Clean p)
    (paths : List FieldPath) : (doc.project paths).body.Clean p := by
  have hkept (kept : Fields Value) (hclean : Tree.Clean p (.object kept)) :
      Tree.Clean p (.object (paths.foldl (keepPath doc.body) kept)) := by
    induction paths generalizing kept with
    | nil => exact hclean
    | cons path rest ih =>
      rw [List.foldl_cons]
      refine ih _ ?_
      rw [keepPath]
      split_ifs with hmetadata
      · exact hclean
      · cases hpart : Value.keptPart? path.segments doc.body with
        | none => exact hclean
        | some part => exact hclean.setPath (h.keptPart? hpart) part.1
  exact hkept [] Tree.clean_empty

end DocQuery
