import DocQuery.Proofs.BareDocuments
import DocQuery.Proofs.ProjectionLaws

/-!
Queries on projected documents: what a query reads at a path that was asked for is what it reads in
the document.

* `Value.lookup_eq_of_keptPart?_eq`: what is kept of a path decides what is there;
* `Document.fieldAt_project`: a projection answers like the document at every path that was asked
  for, also at those that lead nowhere;
* `Selector.holds_congr` and `Document.order_eq_of_fieldAt`: selectors and sort keys see the fields
  at their own paths only;
* `Document.project_answers` (**main statement**): so what only reads such paths does not see the
  projection.
-/

namespace DocQuery

/-- What is kept of a path decides what is there. -/
lemma Value.lookup_eq_of_keptPart?_eq {path : List String} {value other : Value}
    (h : keptPart? path value = keptPart? path other) : value.lookup path = other.lookup path := by
  cases hpart : keptPart? path value with
  | none =>
    rw [lookup_of_keptPart?_eq_none hpart, lookup_of_keptPart?_eq_none (h.symm.trans hpart)]
  | some part =>
    obtain ⟨rest, hpath, hvalue⟩ := lookup_of_keptPart? hpart
    obtain ⟨rest', hpath', hother⟩ := lookup_of_keptPart? (h.symm.trans hpart)
    obtain rfl : rest = rest' := List.append_cancel_left (hpath.symm.trans hpath')
    rw [hpath, Tree.lookup_append, Tree.lookup_append, hvalue, hother]

/-! ### What selectors and sort keys read -/

/-- A selector sees what is at its own paths only. -/
theorem Selector.holds_congr (selector : Selector) {read seen : FieldPath → Option Value}
    (h : ∀ path ∈ selector.paths, seen path = read path) :
    selector.holds seen = selector.holds read := by
  -- It does not even see the signs of the zeros there.
  calc selector.holds seen
      = selector.holds fun path => (seen path).map Value.dropZeroSigns :=
        (selector.holds_of_map_dropZeroSigns fun _ _ => rfl).symm
    _ = selector.holds read :=
        selector.holds_of_map_dropZeroSigns fun path hpath => by rw [h path hpath]

namespace Document

variable {doc doc' other other' : Document} {paths : List FieldPath} {path : FieldPath}

/-- Sort keys see the identifiers and what is at their own paths only. -/
theorem order_eq_of_fieldAt {keys : List SortKey} (hid : doc.id = doc'.id)
    (hid' : other.id = other'.id)
    (h : ∀ key ∈ keys, doc.fieldAt key.path = doc'.fieldAt key.path
      ∧ other.fieldAt key.path = other'.fieldAt key.path) :
    order keys doc other = order keys doc' other' := by
  induction keys with
  | nil => rw [order, order, hid, hid']
  | cons key rest ih =>
    obtain ⟨⟨hdoc, hother⟩, hrest⟩ := List.forall_mem_cons.mp h
    rw [order, order, SortKey.order, SortKey.order, hdoc, hother, ih hrest]

/-! ### Reading a projection -/

lemma fieldAt_of_idField (h : path.segments = [idField]) :
    doc.fieldAt path = some (.string doc.id) := by
  rw [fieldAt_of_singleton h, metadata?, if_pos rfl]

lemma fieldAt_of_revField (h : path.segments = [revField])
    (hbody : doc.body.lookup [revField] = none) :
    doc.fieldAt path = doc.rev.map .string := by
  rw [fieldAt_of_singleton h, metadata?, if_neg (by decide), if_pos rfl]
  cases doc.rev with
  | none => exact hbody
  | some rev => rfl

/-- At other paths a query reads the body. -/
lemma fieldAt_of_body (hid : path.segments ≠ [idField]) (hrev : path.segments ≠ [revField]) :
    doc.fieldAt path = doc.body.lookup path.segments := by
  match hsegments : path.segments with
  | [] => rw [fieldAt, hsegments]
  | [key] =>
    have hkey : key ≠ idField ∧ key ≠ revField :=
      ⟨fun h => hid (h ▸ hsegments), fun h => hrev (h ▸ hsegments)⟩
    rw [fieldAt_of_singleton hsegments, metadata?, if_neg hkey.1, if_neg hkey.2]
  | key :: next :: rest => rw [fieldAt_of_cons_cons hsegments, hsegments]

/-- The body is an object without keys for identifier and revision, as in memory. -/
def HasPlainBody (doc : Document) : Prop :=
  ∃ members : Fields Value, doc.body = .object members
    ∧ idField ∉ Fields.keys members ∧ revField ∉ Fields.keys members

lemma HasPlainBody.kind_eq (h : doc.HasPlainBody) : doc.body.kind = .object := by
  obtain ⟨members, hbody, -⟩ := h
  rw [hbody]
  rfl

lemma HasPlainBody.lookup_revField (h : doc.HasPlainBody) : doc.body.lookup [revField] = none := by
  obtain ⟨members, hbody, -, hrev⟩ := h
  rw [hbody]
  refine lookup_eq_none_of_get? (Option.eq_none_iff_forall_ne_some.mpr fun value hvalue => ?_) []
  exact hrev (Fields.mem_keys_iff.mpr ⟨value, hvalue⟩)

/-- **At every path that was asked for a projection answers like the document.** -/
theorem fieldAt_project (hdoc : doc.HasPlainBody) (hpath : path ∈ paths)
    (hne : path.segments ≠ []) : (doc.project paths).fieldAt path = doc.fieldAt path := by
  have hrestricted := doc.restrictedTo_project paths
  by_cases hid : path.segments = [idField]
  · rw [fieldAt_of_idField hid, fieldAt_of_idField hid]
    rfl
  by_cases hrev : path.segments = [revField]
  · -- The revision is kept, and neither body has one of its own.
    have hkept : (doc.project paths).rev = doc.rev := by
      rw [rev_project, if_pos ((congrArg FieldPath.mk hrev : path = _) ▸ hpath)]
    have hsub := hrestricted.subDocument_whole hdoc.kind_eq
    have hnone : (doc.project paths).body.lookup [revField] = none := by
      cases hfound : (doc.project paths).body.lookup [revField] with
      | none => rfl
      | some value =>
        have hthere := hsub.isSome_lookup (Option.isSome_iff_exists.mpr ⟨value, hfound⟩)
        rw [hdoc.lookup_revField] at hthere
        cases hthere
    rw [fieldAt_of_revField hrev hnone, fieldAt_of_revField hrev hdoc.lookup_revField, hkept]
  · rw [fieldAt_of_body hid hrev, fieldAt_of_body hid hrev]
    refine Value.lookup_eq_of_keptPart?_eq ?_
    exact hrestricted.keptPart?_eq hdoc.kind_eq hne fun kept hkept hpart =>
      ⟨path, hpath, hkept, hid, hrev, hpart⟩

/-! ### Main statement -/

/-- **What reads only paths that were asked for does not see a projection.**  At each of these a
projection answers like the document, also where that is nothing; a selector with no other paths
matches both or neither; and sort keys with no other paths order two projections like the
documents. -/
theorem project_answers (hdoc : doc.HasPlainBody) (hpaths : ∀ path ∈ paths, path.segments ≠ []) :
    (∀ path ∈ paths, (doc.project paths).fieldAt path = doc.fieldAt path)
      ∧ (∀ selector : Selector, selector.paths ⊆ paths →
        selector.isMatch (doc.project paths) = selector.isMatch doc)
      ∧ ∀ other : Document, other.HasPlainBody → ∀ keys : List SortKey,
        (∀ key ∈ keys, key.path ∈ paths) →
        order keys (doc.project paths) (other.project paths) = order keys doc other := by
  have hfields {doc : Document} (hdoc : doc.HasPlainBody) :
      ∀ path ∈ paths, (doc.project paths).fieldAt path = doc.fieldAt path :=
    fun path hpath => fieldAt_project hdoc hpath (hpaths path hpath)
  refine ⟨hfields hdoc, fun selector hselector => ?_, fun other hother keys hkeys => ?_⟩
  · exact selector.holds_congr fun path hpath => hfields hdoc path (hselector hpath)
  · refine order_eq_of_fieldAt rfl rfl fun key hkey => ?_
    exact ⟨hfields hdoc _ (hkeys key hkey), hfields hother _ (hkeys key hkey)⟩

/-- A document whose list holds objects, and one without a list. -/
def crate (id : DocumentId) (items : Value) : Document where
  id := id
  rev := some "1-a"
  body := .object [("stock", .object [("items", items), ("open", .bool true)]), ("mark", .null)]

/-- Paths twice through the list, beyond its end, to an absent field and to the revision. -/
def shelf : List FieldPath :=
  [⟨["stock", "items", "1", "kind"]⟩, ⟨["stock", "items", "7"]⟩, ⟨["stock", "items", "0"]⟩,
    ⟨["mark", "colour"]⟩, ⟨["_rev"]⟩]

theorem crates_answer :
    let full := crate "c1" (.array [.null, .object [("kind", .string "jar"), ("n", .bool true)]])
    let empty := crate "c2" .null
    let jars : Selector := .and [
      .field ⟨["stock", "items", "1", "kind"]⟩ (.compare .eq (.string "jar")),
      .nor [.field ⟨["stock", "items", "7"]⟩ (.presence true)]]
    full.HasPlainBody ∧ (∀ path ∈ shelf, path.segments ≠ [])
      ∧ (full.project shelf).fieldAt ⟨["stock", "items", "1", "kind"]⟩ = some (.string "jar")
      ∧ (full.project shelf).fieldAt ⟨["stock", "items", "7"]⟩ = none
      ∧ jars.isMatch (full.project shelf) = true
      ∧ order [⟨⟨["stock", "items", "1", "kind"]⟩, .descending⟩] (full.project shelf)
        (empty.project shelf) = .lt := by
  intro full empty jars
  have hfull : full.HasPlainBody := ⟨_, rfl, by decide, by decide⟩
  have hempty : empty.HasPlainBody := ⟨_, rfl, by decide, by decide⟩
  have hpaths : ∀ path ∈ shelf, path.segments ≠ [] := by decide
  obtain ⟨hfields, hmatch, horder⟩ := project_answers hfull hpaths
  refine ⟨hfull, hpaths, ?_, ?_, ?_, ?_⟩
  · exact hfields _ (by decide)
  · exact hfields _ (by decide)
  · rw [hmatch jars (by decide)]
    rfl
  · rw [horder empty hempty _ (by decide)]
    rfl

end Document

end DocQuery
