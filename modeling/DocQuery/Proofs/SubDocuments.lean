import DocQuery.Proofs.Reordering
import Mathlib.Data.List.Infix

/-!
Sub-documents: trees that are left of others when keys are taken out of their objects.

* `Tree.member?`: the subtree at a list of keys, which leads through objects only;
* `Tree.SubDocument` (**sub-documents**): every key of an object is one of the corresponding object,
  and all other trees are the same;
* `Tree.SubDocument.member?` and `Tree.subDocument_of_member?`: what that means at every list of
  keys, in both directions;
* `Tree.reordered_of_subDocument`: two trees that are sub-documents of each other are equal up to
  the order of keys.
-/

namespace DocQuery

/-! ### Fields -/

namespace Fields

variable {α : Type} {fields : Fields α} {key : String} {value : α}

lemma mem_of_get? (h : fields.get? key = some value) : (key, value) ∈ fields := by
  induction fields with
  | nil => cases h
  | cons member rest ih =>
    obtain ⟨k, v⟩ := member
    rw [get?] at h
    split at h
    case isTrue heq =>
      cases h
      exact heq ▸ List.mem_cons_self
    case isFalse => exact List.mem_cons_of_mem _ (ih h)

/-- Giving a key the value that it has already changes nothing. -/
lemma insert_of_get? (h : fields.get? key = some value) : fields.insert key value = fields := by
  induction fields with
  | nil => cases h
  | cons member rest ih =>
    obtain ⟨k, v⟩ := member
    rw [get?] at h
    rw [insert]
    split at h
    case isTrue heq =>
      cases h
      rw [if_pos heq]
    case isFalse hne => rw [if_neg hne, ih h]

end Fields

namespace Tree

variable {ν : Type} {t u v : Tree ν} {path rest : List String}

/-! ### Key paths -/

/-- The subtree at a list of keys, which leads through objects only. -/
def member? : Tree ν → List String → Option (Tree ν)
  | t, [] => some t
  | .object members, key :: rest => (Fields.get? members key).bind (·.member? rest)
  | _, _ :: _ => none

@[simp]
lemma member?_nil (t : Tree ν) : t.member? [] = some t := by
  cases t <;> rfl

lemma member?_object_cons (members : Fields (Tree ν)) (key : String) (rest : List String) :
    (object members).member? (key :: rest) = (members.get? key).bind (·.member? rest) := rfl

/-- Only an object has something below it. -/
lemma exists_object_of_member?_cons {key : String} (h : t.member? (key :: rest) = some u) :
    ∃ members child, t = .object members ∧ Fields.get? members key = some child
      ∧ child.member? rest = some u := by
  cases t with
  | object members =>
    obtain ⟨child, hchild, hrest⟩ := Option.bind_eq_some_iff.mp h
    exact ⟨members, child, rfl, hchild, hrest⟩
  | _ => cases h

lemma member?_append (t : Tree ν) (path rest : List String) :
    t.member? (path ++ rest) = (t.member? path).bind (·.member? rest) := by
  induction path generalizing t with
  | nil => rw [member?_nil]; rfl
  | cons key path ih =>
    cases t with
    | object members =>
      rw [List.cons_append, member?_object_cons, member?_object_cons, Option.bind_assoc]
      exact Option.bind_congr fun child _ => ih child
    | _ => rfl

/-- A list of keys is a path like any other. -/
lemma lookup_of_member? (h : t.member? path = some u) : t.lookup path = some u := by
  induction path generalizing t with
  | nil =>
    rw [member?_nil] at h
    exact h
  | cons key rest ih =>
    obtain ⟨members, child, rfl, hchild, hrest⟩ := exists_object_of_member?_cons h
    rw [lookup, child?, hchild]
    exact ih hrest

/-- On the way to something there is something everywhere. -/
lemma isSome_member?_of_isPrefix {before : List String} (hbefore : before <+: path)
    (h : (t.member? path).isSome) : (t.member? before).isSome := by
  obtain ⟨after, rfl⟩ := hbefore
  rw [member?_append] at h
  cases hmember : t.member? before with
  | none =>
    rw [hmember] at h
    cases h
  | some _ => rfl

/-- Everything on the way to something is an object. -/
lemma kind_of_member?_of_isPrefix {before : List String} (hbefore : before <+: path)
    (hne : before ≠ path) (h : (t.member? path).isSome) (hu : t.member? before = some u) :
    u.kind = .object := by
  obtain ⟨after, rfl⟩ := hbefore
  cases after with
  | nil => exact absurd (List.append_nil before).symm hne
  | cons key after =>
    obtain ⟨v, hv⟩ := Option.isSome_iff_exists.mp h
    rw [member?_append, hu, Option.bind_some] at hv
    obtain ⟨members, _, rfl, -, -⟩ := exists_object_of_member?_cons hv
    rfl

/-! ### Sub-documents -/

/-- A tree is a sub-document of another if the keys of each object in it, at every depth outside
arrays, are keys of the corresponding object of the other, and everything else is the same. -/
inductive SubDocument : Tree ν → Tree ν → Prop
  | same (t : Tree ν) : SubDocument t t
  | object {xs ys : Fields (Tree ν)} (keys : xs.keys ⊆ ys.keys)
      (values : ∀ key x y, xs.get? key = some x → ys.get? key = some y → SubDocument x y) :
      SubDocument (.object xs) (.object ys)

namespace SubDocument

/-- Only objects have sub-documents besides themselves. -/
lemma eq_of_kind_ne (h : t.SubDocument u) (hkind : t.kind ≠ .object) : t = u := by
  cases h with
  | same => rfl
  | object => exact absurd rfl hkind

/-- What a sub-document has at a list of keys is a sub-document of what is there. -/
lemma member? (h : t.SubDocument u) {x : Tree ν} (hx : t.member? path = some x) :
    ∃ y, u.member? path = some y ∧ x.SubDocument y := by
  induction path generalizing t u with
  | nil =>
    rw [member?_nil, Option.some.injEq] at hx
    exact ⟨u, member?_nil u, hx ▸ h⟩
  | cons key rest ih =>
    cases h with
    | same => exact ⟨x, hx, .same x⟩
    | object hkeys hvalues =>
      obtain ⟨child, hchild, hrest⟩ := Option.bind_eq_some_iff.mp hx
      obtain ⟨child', hchild'⟩ :=
        Fields.mem_keys_iff.mp (hkeys (Fields.mem_keys_iff.mpr ⟨child, hchild⟩))
      obtain ⟨y, hy, hsub⟩ := ih (hvalues key child child' hchild hchild') hrest
      refine ⟨y, ?_, hsub⟩
      rw [member?_object_cons, hchild']
      exact hy

/-- A path that leads to something in a sub-document does so in the whole. -/
lemma isSome_lookup (h : t.SubDocument u) (hthere : (t.lookup path).isSome) :
    (u.lookup path).isSome := by
  induction path generalizing t u with
  | nil => rfl
  | cons key rest ih =>
    cases h with
    | same => exact hthere
    | @object xs ys hkeys hvalues =>
      rw [lookup, child?] at hthere ⊢
      cases hchild : Fields.get? xs key with
      | none =>
        rw [hchild] at hthere
        cases hthere
      | some child =>
        obtain ⟨child', hchild'⟩ :=
          Fields.mem_keys_iff.mp (hkeys (Fields.mem_keys_iff.mpr ⟨child, hchild⟩))
        rw [hchild] at hthere
        rw [hchild']
        exact ih (hvalues key child child' hchild hchild') hthere

end SubDocument

/-- A tree is a sub-document of another if at each of its lists of keys the other has the same, or
both have an object. -/
lemma subDocument_of_member?
    (h : ∀ path x, t.member? path = some x →
      ∃ y, u.member? path = some y ∧ (x = y ∨ x.kind = .object ∧ y.kind = .object)) :
    t.SubDocument u := by
  induction t using induction_objects generalizing u with
  | other t hkind _ =>
    obtain ⟨y, hy, hsame⟩ := h [] t (member?_nil t)
    rw [member?_nil, Option.some.injEq] at hy
    subst hy
    rcases hsame with rfl | ⟨hobject, -⟩
    · exact .same t
    · exact absurd hobject hkind
  | object members ih =>
    obtain ⟨y, hy, hsame⟩ := h [] _ (member?_nil _)
    rw [member?_nil, Option.some.injEq] at hy
    subst hy
    have hobject : u.kind = .object := by
      rcases hsame with rfl | ⟨-, hobject⟩
      · rfl
      · exact hobject
    cases u with
    | object members' =>
      refine .object (fun key hkey => ?_) fun key x y hx hy => ?_
      · obtain ⟨x, hx⟩ := Fields.mem_keys_iff.mp hkey
        obtain ⟨y, hy, -⟩ := h [key] x (by rw [member?_object_cons, hx]; exact member?_nil x)
        rw [member?_object_cons] at hy
        obtain ⟨child, hchild, -⟩ := Option.bind_eq_some_iff.mp hy
        exact Fields.mem_keys_iff.mpr ⟨child, hchild⟩
      · refine ih (key, x) (Fields.mem_of_get? hx) fun path z hz => ?_
        have hbelow := h (key :: path) z (by rw [member?_object_cons, hx]; exact hz)
        rwa [member?_object_cons, hy] at hbelow
    | _ => cases hobject

/-- **Two trees that are sub-documents of each other are equal up to the order of keys.** -/
theorem reordered_of_subDocument (h : t.SubDocument u) (h' : u.SubDocument t) (ht : t.DistinctKeys)
    (hu : u.DistinctKeys) : t.Reordered u := by
  induction h with
  | same t => exact reordered_self_iff.mpr ht
  | @object xs ys hkeys hvalues ih =>
    cases h' with
    | same => exact reordered_self_iff.mpr ht
    | object hkeys' hvalues' =>
      have hperm : xs.keys.Perm ys.keys :=
        (List.perm_ext_iff_of_nodup ht.1 hu.1).mpr fun key => ⟨fun h => hkeys h, fun h => hkeys' h⟩
      refine .object ht.1 hperm fun key x y hx hy => ?_
      exact ih key x y hx hy (hvalues' key y x hy hx)
        (distinctKeysMembers_iff.mp ht.2 _ (Fields.mem_of_get? hx))
        (distinctKeysMembers_iff.mp hu.2 _ (Fields.mem_of_get? hy))

end Tree

end DocQuery
