import DocQuery.Proofs.OutputFields
import DocQuery.Proofs.SubDocuments

/-!
What a projection puts together, while it does so and at the end: copies of the parts of a body that
were asked for, and the objects that lead to them.

* `Value.IsKeptPart`: the part of a path that is kept, which ends at the first array that the path
  steps into;
* `Fields.member?_setPath_append` and `Fields.member?_setPath_of_not_meets`: what is put at a path
  shows there and nowhere beside the path;
* `Value.RestrictedTo` (**restriction**): at the paths that were asked for there is what the body
  has there, and everything lies on the way to such a path or below one;
* `Value.RestrictedTo.setPath`: one more part of the body keeps this, also where an earlier part
  contains it or is contained in it;
* `Document.restrictedTo_project`: so a projected body is a restriction;
* `Value.RestrictedTo.keptPart?_eq`: of a restriction the same parts are kept as of the body.
-/

namespace DocQuery

/-- One of two paths leads on from the other. -/
def Meets (path other : List String) : Prop := path <+: other ∨ other <+: path

lemma Meets.of_cons {path other : List String} {key : String} (h : Meets path other) :
    Meets (key :: path) (key :: other) :=
  h.imp (List.prefix_cons_inj key).mpr (List.prefix_cons_inj key).mpr

/-! ### Kept parts -/

namespace Value

variable {body value : Value} {path kept rest : List String}

/-- The part of a path that is kept of a body: a path that leads to something is kept as it is or,
if it steps into an array, as far as to the first one. -/
def IsKeptPart (body : Value) (path kept : List String) : Prop :=
  ∃ rest value, path = kept ++ rest ∧ body.member? kept = some value
    ∧ (rest = [] ∨ value.kind = .array ∧ (value.lookup rest).isSome)

lemma keptPart?_of_array (h : value.kind = .array) (hrest : (value.lookup rest).isSome) :
    keptPart? rest value = some ([], value) := by
  cases rest with
  | nil => rfl
  | cons segment rest =>
    cases value with
    | array items => rw [keptPart?, if_pos hrest]
    | _ => cases h

lemma keptPart?_append (h : body.member? kept = some value) :
    keptPart? (kept ++ rest) body
      = (keptPart? rest value).map fun part => (kept ++ part.1, part.2) := by
  induction kept generalizing body with
  | nil =>
    rw [Tree.member?_nil, Option.some.injEq] at h
    subst h
    rw [List.nil_append]
    cases keptPart? rest body <;> rfl
  | cons key kept ih =>
    obtain ⟨members, child, rfl, hchild, hkept⟩ := Tree.exists_object_of_member?_cons h
    rw [List.cons_append, keptPart?, hchild]
    dsimp only
    rw [ih hkept, Option.map_map]
    rfl

/-- What is kept of a path is a part of it with what the body has there. -/
lemma keptPart?_eq_some_iff :
    keptPart? path body = some (kept, value)
      ↔ ∃ rest, path = kept ++ rest ∧ body.member? kept = some value
        ∧ (rest = [] ∨ value.kind = .array ∧ (value.lookup rest).isSome) := by
  constructor
  · intro h
    induction path generalizing body kept with
    | nil =>
      cases h
      exact ⟨[], rfl, Tree.member?_nil _, .inl rfl⟩
    | cons segment path ih =>
      cases body with
      | object members =>
        rw [keptPart?] at h
        cases hchild : Fields.get? members segment with
        | none => simp [hchild] at h
        | some child =>
          rw [hchild] at h
          obtain ⟨⟨inner, found⟩, hinner, hpart⟩ := Option.map_eq_some_iff.mp h
          cases hpart
          obtain ⟨rest, rfl, hmember, hrest⟩ := ih hinner
          refine ⟨rest, rfl, ?_, hrest⟩
          rw [Tree.member?_object_cons, hchild]
          exact hmember
      | array items =>
        rw [keptPart?] at h
        split at h
        case isTrue hlookup =>
          cases h
          exact ⟨segment :: path, rfl, rfl, .inr ⟨rfl, hlookup⟩⟩
        case isFalse => cases h
      | _ => cases h
  · rintro ⟨rest, rfl, hmember, hrest⟩
    have hvalue : keptPart? rest value = some ([], value) := by
      rcases hrest with rfl | ⟨harray, hlookup⟩
      · cases value <;> rfl
      · exact keptPart?_of_array harray hlookup
    rw [keptPart?_append hmember, hvalue, Option.map_some, List.append_nil]

lemma isKeptPart_iff :
    body.IsKeptPart path kept ↔ ∃ value, keptPart? path body = some (kept, value) := by
  simp only [IsKeptPart, keptPart?_eq_some_iff]
  exact exists_comm

end Value

/-! ### Putting values at paths -/

namespace Fields

variable {fields : Fields Value} {path other rest : List String} {value : Value}

/-- The members of the object that a path goes through next. -/
lemma setPath_cons_cons (fields : Fields Value) (key next : String) (rest : List String)
    (value : Value) :
    ∃ inner : Fields Value, fields.setPath (key :: next :: rest) value
        = fields.insert key (.object (setPath inner (next :: rest) value))
      ∧ (∀ child, fields.get? key = some child → child.kind = .object → child = .object inner)
      ∧ ∀ first later, Tree.member? (.object inner) (first :: later)
        = (fields.get? key).bind (·.member? (first :: later)) := by
  rw [setPath]
  cases hchild : fields.get? key with
  | none => exact ⟨[], rfl, fun _ h => absurd h.symm (Option.some_ne_none _), fun _ _ => rfl⟩
  | some child =>
    cases child with
    | object members =>
      refine ⟨members, rfl, ?_, fun _ _ => rfl⟩
      rintro _ ⟨rfl⟩ -
      rfl
    | _ =>
      refine ⟨[], rfl, ?_, fun _ _ => rfl⟩
      rintro _ ⟨rfl⟩ ⟨⟩

/-- Below a path there is what was put there. -/
lemma member?_setPath_append (h : path ≠ []) (fields : Fields Value) (value : Value)
    (rest : List String) :
    Tree.member? (.object (fields.setPath path value)) (path ++ rest) = value.member? rest := by
  induction path generalizing fields with
  | nil => exact absurd rfl h
  | cons key path ih =>
    cases path with
    | nil =>
      rw [setPath, List.cons_append, Tree.member?_object_cons, get?_insert, if_pos rfl]
      rfl
    | cons next path =>
      obtain ⟨inner, hset, -, -⟩ := setPath_cons_cons fields key next path value
      rw [hset, List.cons_append, Tree.member?_object_cons, get?_insert, if_pos rfl]
      exact ih (List.cons_ne_nil _ _) inner

/-- What is put at a path does not show beside the path. -/
lemma member?_setPath_of_not_meets (h : ¬ Meets path other) (fields : Fields Value)
    (value : Value) :
    Tree.member? (.object (fields.setPath path value)) other
      = Tree.member? (.object fields) other := by
  induction path generalizing fields other with
  | nil => exact absurd (.inl List.nil_prefix) h
  | cons key path ih =>
    cases other with
    | nil => exact absurd (.inr List.nil_prefix) h
    | cons key' other =>
      rw [Tree.member?_object_cons, Tree.member?_object_cons]
      cases path with
      | nil =>
        have hne : key ≠ key' := by
          rintro rfl
          exact h (Meets.of_cons (.inl List.nil_prefix))
        rw [setPath, get?_insert, if_neg hne]
      | cons next path =>
        obtain ⟨inner, hset, -, hinner⟩ := setPath_cons_cons fields key next path value
        rw [hset, get?_insert]
        split
        case isTrue hkey =>
          subst hkey
          have hbeside : ¬ Meets (next :: path) other := fun hmeets => h hmeets.of_cons
          cases other with
          | nil => exact absurd (.inr List.nil_prefix) hbeside
          | cons first later => rw [Option.bind_some, ih hbeside, hinner]
        case isFalse => rfl

/-- Putting a value where it is already changes nothing. -/
lemma setPath_of_member? (h : Tree.member? (.object fields) path = some value) :
    fields.setPath path value = fields := by
  induction path generalizing fields with
  | nil => rfl
  | cons key path ih =>
    obtain ⟨_, child, ⟨rfl⟩, hchild, hpath⟩ := Tree.exists_object_of_member?_cons h
    cases path with
    | nil =>
      rw [Tree.member?_nil, Option.some.injEq] at hpath
      rw [setPath, insert_of_get? (hpath ▸ hchild)]
    | cons next path =>
      obtain ⟨inner, hset, hobject, -⟩ := setPath_cons_cons fields key next path value
      obtain ⟨members, _, rfl, -, -⟩ := Tree.exists_object_of_member?_cons hpath
      cases hobject _ hchild rfl
      rw [hset, ih hpath, insert_of_get? hchild]

end Fields

/-! ### Restrictions -/

namespace Value

variable {whole part part' : Value} {asked asked' : List String → Prop} {path kept : List String}
  {value : Value}

/-- A part of a whole is restricted to some paths: at each of these there is what the whole has
there, and nothing lies beside them. -/
structure RestrictedTo (asked : List String → Prop) (whole part : Value) : Prop where
  object : part.kind = .object
  resolves : ∀ path, asked path → (whole.member? path).isSome
  kept : ∀ path, asked path → part.member? path = whole.member? path
  only : ∀ path, path ≠ [] → (part.member? path).isSome → ∃ other, asked other ∧ Meets other path

namespace RestrictedTo

lemma empty (whole : Value) : RestrictedTo (fun _ => False) whole (.object []) where
  object := rfl
  resolves _ h := h.elim
  kept _ h := h.elim
  only path hpath h := by
    obtain ⟨key, rest, rfl⟩ := List.exists_cons_of_ne_nil hpath
    cases h

/-- An object is restricted to whatever leads to something in it. -/
lemma self (h : whole.kind = .object) :
    RestrictedTo (fun path => (whole.member? path).isSome) whole whole where
  object := h
  resolves _ hpath := hpath
  kept _ _ := rfl
  only path _ hpath := ⟨path, hpath, .inl (List.prefix_refl path)⟩

lemma congr (h : RestrictedTo asked whole part) (hasked : ∀ path, asked' path ↔ asked path) :
    RestrictedTo asked' whole part := by
  have hsame : asked' = asked := funext fun path => propext (hasked path)
  rwa [hsame]

/-- One more part of the whole is copied.  Where an earlier part contains it nothing changes, and
where it contains an earlier part that is copied once more. -/
lemma setPath {fields : Fields Value} (h : RestrictedTo asked whole (.object fields))
    (hpath : path ≠ []) (hvalue : whole.member? path = some value) :
    RestrictedTo (fun other => asked other ∨ other = path) whole
      (.object (fields.setPath path value)) where
  object := rfl
  resolves other hother := by
    rcases hother with hother | rfl
    · exact h.resolves other hother
    · rw [hvalue]
      rfl
  kept other hother := by
    have hbelow (rest : List String) :
        Tree.member? (.object (fields.setPath path value)) (path ++ rest)
          = whole.member? (path ++ rest) := by
      rw [Fields.member?_setPath_append hpath, Tree.member?_append, hvalue, Option.bind_some]
    rcases hother with hother | rfl
    · by_cases hmeets : Meets path other
      · rcases hmeets with ⟨rest, rfl⟩ | ⟨rest, rfl⟩
        · exact hbelow rest
        · have hthere : Tree.member? (.object fields) (other ++ rest) = some value := by
            rw [Tree.member?_append, h.kept other hother, ← Tree.member?_append, hvalue]
          rw [Fields.setPath_of_member? hthere]
          exact h.kept other hother
      · rw [Fields.member?_setPath_of_not_meets hmeets]
        exact h.kept other hother
    · have hthere := hbelow []
      rwa [List.append_nil] at hthere
  only other hne hother := by
    by_cases hmeets : Meets path other
    · exact ⟨path, .inr rfl, hmeets⟩
    · rw [Fields.member?_setPath_of_not_meets hmeets] at hother
      obtain ⟨earlier, hearlier, hmeets⟩ := h.only other hne hother
      exact ⟨earlier, .inl hearlier, hmeets⟩

/-- A restriction to more paths contains one to fewer. -/
lemma subDocument (h : RestrictedTo asked whole part) (h' : RestrictedTo asked' whole part')
    (hasked : ∀ path, asked path → asked' path) : part.SubDocument part' := by
  refine Tree.subDocument_of_member? fun path x hx => ?_
  by_cases hpath : path = []
  · subst hpath
    rw [Tree.member?_nil, Option.some.injEq] at hx
    exact ⟨part', Tree.member?_nil part', .inr ⟨hx ▸ h.object, h'.object⟩⟩
  obtain ⟨other, hother, hmeets⟩ := h.only path hpath (hx ▸ rfl)
  have hsame : part.member? other = part'.member? other := by
    rw [h.kept other hother, h'.kept other (hasked other hother)]
  have hsome : (part.member? other).isSome := h.kept other hother ▸ h.resolves other hother
  rcases hmeets with ⟨rest, rfl⟩ | hbefore
  · refine ⟨x, ?_, .inl rfl⟩
    rw [Tree.member?_append, ← hsame, ← Tree.member?_append, hx]
  · by_cases heq : path = other
    · exact ⟨x, by rw [heq, ← hsame, ← heq, hx], .inl rfl⟩
    · have hsome' : (part'.member? other).isSome := hsame ▸ hsome
      obtain ⟨y, hy⟩ := Option.isSome_iff_exists.mp (Tree.isSome_member?_of_isPrefix hbefore hsome')
      exact ⟨y, hy, .inr ⟨Tree.kind_of_member?_of_isPrefix hbefore heq hsome hx,
        Tree.kind_of_member?_of_isPrefix hbefore heq hsome' hy⟩⟩

/-- A restriction of an object is a sub-document of it. -/
lemma subDocument_whole (h : RestrictedTo asked whole part) (hwhole : whole.kind = .object) :
    part.SubDocument whole :=
  h.subDocument (self hwhole) h.resolves

/-- Something lies in a restriction of an object if it lies in the object, on the way to a path that
was asked for or below one. -/
lemma isSome_member?_iff (h : RestrictedTo asked whole part) (hwhole : whole.kind = .object)
    (hpath : path ≠ []) :
    (part.member? path).isSome
      ↔ (whole.member? path).isSome ∧ ∃ other, asked other ∧ Meets other path := by
  constructor
  · intro hpart
    obtain ⟨x, hx⟩ := Option.isSome_iff_exists.mp hpart
    obtain ⟨y, hy, -⟩ := (h.subDocument_whole hwhole).member? hx
    exact ⟨hy ▸ rfl, h.only path hpath hpart⟩
  · rintro ⟨hthere, other, hother, ⟨rest, rfl⟩ | hbefore⟩
    · rwa [Tree.member?_append, h.kept other hother, ← Tree.member?_append]
    · refine Tree.isSome_member?_of_isPrefix hbefore ?_
      rw [h.kept other hother]
      exact h.resolves other hother

/-- **Of a restriction the same is kept as of the whole**, if what the whole has there was asked
for. -/
lemma keptPart?_eq (h : RestrictedTo asked whole part) (hwhole : whole.kind = .object)
    (hpath : path ≠ []) (hasked : ∀ kept, kept ≠ [] → whole.IsKeptPart path kept → asked kept) :
    keptPart? path part = keptPart? path whole := by
  have hne {body value : Value} {kept : List String} (hbody : body.kind = .object)
      (hkept : keptPart? path body = some (kept, value)) : kept ≠ [] := by
    cases body with
    | object members => exact ne_nil_of_keptPart? hpath hkept
    | _ => cases hbody
  refine Option.ext fun found => ?_
  obtain ⟨kept, value⟩ := found
  constructor
  · intro hkept
    obtain ⟨rest, hrest, hmember, hend⟩ := keptPart?_eq_some_iff.mp hkept
    obtain ⟨y, hy, hsub⟩ := (h.subDocument_whole hwhole).member? hmember
    -- The body has something there, so its own part of the path was asked for and is the same.
    have hwholeEnd : rest = [] ∨ y.kind = .array ∧ (y.lookup rest).isSome := by
      refine hend.imp_right fun ⟨harray, hlookup⟩ => ?_
      rw [← hsub.eq_of_kind_ne (harray ▸ nofun)]
      exact ⟨harray, hlookup⟩
    have hwholeKept : keptPart? path whole = some (kept, y) :=
      keptPart?_eq_some_iff.mpr ⟨rest, hrest, hy, hwholeEnd⟩
    have hsame :=
      h.kept kept (hasked kept (hne h.object hkept) (isKeptPart_iff.mpr ⟨y, hwholeKept⟩))
    rw [hmember, hy, Option.some.injEq] at hsame
    rw [hwholeKept, hsame]
  · intro hkept
    obtain ⟨rest, hrest, hmember, hend⟩ := keptPart?_eq_some_iff.mp hkept
    have hsame := h.kept kept (hasked kept (hne hwhole hkept) (isKeptPart_iff.mpr ⟨value, hkept⟩))
    exact keptPart?_eq_some_iff.mpr ⟨rest, hrest, hsame.trans hmember, hend⟩

end RestrictedTo

end Value

/-! ### Projected bodies -/

namespace Document

variable {doc : Document} {paths others : List FieldPath} {path : FieldPath} {fields : Fields Value}
  {asked : List String → Prop} {kept : List String}

/-- A list of keys at which a projection onto a path copies a part of the body; identifier and
revision are no part of it. -/
def Copies (doc : Document) (path : FieldPath) (kept : List String) : Prop :=
  kept ≠ [] ∧ path.segments ≠ [idField] ∧ path.segments ≠ [revField]
    ∧ doc.body.IsKeptPart path.segments kept

/-- A list of keys at which a projection onto some paths copies a part of the body. -/
def Keeps (doc : Document) (paths : List FieldPath) (kept : List String) : Prop :=
  ∃ path ∈ paths, doc.Copies path kept

lemma keeps_append_singleton :
    doc.Keeps (paths ++ [path]) kept ↔ doc.Keeps paths kept ∨ doc.Copies path kept := by
  simp only [Keeps, List.mem_append, List.mem_singleton, or_and_right, exists_or, exists_eq_left]

lemma Keeps.mono (hpaths : paths ⊆ others) (h : doc.Keeps paths kept) :
    doc.Keeps others kept := by
  obtain ⟨path, hpath, hkept⟩ := h
  exact ⟨path, hpaths hpath, hkept⟩

/-- One more path adds its own part of the body, if it has one. -/
lemma restrictedTo_keepPath (h : Value.RestrictedTo asked doc.body (.object fields)) :
    Value.RestrictedTo (fun kept => asked kept ∨ doc.Copies path kept) doc.body
      (.object (keepPath doc.body fields path)) := by
  have hnone (hcopies : ∀ kept, ¬ doc.Copies path kept) :
      Value.RestrictedTo (fun kept => asked kept ∨ doc.Copies path kept) doc.body
        (.object fields) := by
    refine h.congr fun kept => ?_
    rw [or_iff_left (hcopies kept)]
  rw [keepPath]
  split
  case isTrue hmetadata =>
    refine hnone fun kept hkept => ?_
    exact hmetadata.elim hkept.2.1 hkept.2.2.1
  case isFalse hbody =>
    have hcopies {kept : List String} :
        doc.Copies path kept ↔ kept ≠ [] ∧ doc.body.IsKeptPart path.segments kept :=
      ⟨fun hkept => ⟨hkept.1, hkept.2.2.2⟩,
        fun hkept => ⟨hkept.1, (hbody <| .inl ·), (hbody <| .inr ·), hkept.2⟩⟩
    cases hpart : Value.keptPart? path.segments doc.body with
    | none =>
      refine hnone fun kept hkept => ?_
      obtain ⟨value, hvalue⟩ := Value.isKeptPart_iff.mp (hcopies.mp hkept).2
      rw [hpart] at hvalue
      cases hvalue
    | some part =>
      obtain ⟨there, value⟩ := part
      have honly {kept : List String} (hkept : doc.Copies path kept) : kept = there := by
        obtain ⟨value', hvalue⟩ := Value.isKeptPart_iff.mp (hcopies.mp hkept).2
        rw [hpart] at hvalue
        cases hvalue
        rfl
      by_cases hthere : there = []
      · -- Nothing is put at the root: an array in place of the body is left out.
        subst hthere
        exact hnone fun kept hkept => hkept.1 (honly hkept)
      · obtain ⟨_, -, hmember, -⟩ := Value.keptPart?_eq_some_iff.mp hpart
        refine (h.setPath hthere hmember).congr fun kept => or_congr_right ⟨honly, ?_⟩
        rintro rfl
        exact hcopies.mpr ⟨hthere, Value.isKeptPart_iff.mpr ⟨value, hpart⟩⟩

/-- **A projected body is the restriction of the body to the parts that are copied.** -/
theorem restrictedTo_project (doc : Document) (paths : List FieldPath) :
    Value.RestrictedTo (doc.Keeps paths) doc.body (doc.project paths).body := by
  rw [project]
  induction paths using List.reverseRecOn with
  | nil => exact (Value.RestrictedTo.empty doc.body).congr fun kept => by simp [Keeps]
  | append_singleton paths path ih =>
    rw [List.foldl_append]
    exact (restrictedTo_keepPath ih).congr fun kept => keeps_append_singleton

end Document

end DocQuery
