import DocQuery.Proofs.Answer
import DocQuery.Proofs.JsonRoundTrip
import DocQuery.Proofs.ProjectedBodies
import DocQuery.Proofs.SelectorEntries

/-!
What queries see of documents.  They see neither the signs of zeros nor, unless they read the path
`_rev`, revisions: the answer for documents without these is the answer for the documents, without
these.

* `Document.bare`: a document without its revision, whose zeros are all positive;
* `FieldTest.holds_map_dropZeroSigns`: tests do not see the signs of the zeros in a field;
* `Query.paths`: the paths at which a query reads documents;
* `Document.order_bare` and `Document.project_bare`: the order of documents and their projections;
* `Query.answer_bare`: the answer for bare documents;
* `Query.answers_alike` (**main statement**): documents that are equal when they are bare give the
  same answer, with the same identifiers and equal bodies.
-/

namespace DocQuery

/-! ### A change of numbers -/

namespace Tree

variable {ν μ : Type}

lemma child?_mapNumbers (f : ν → μ) (t : Tree ν) (segment : String) :
    (t.mapNumbers f).child? segment = (t.child? segment).map (mapNumbers f) := by
  cases t with
  | object members =>
    rw [mapNumbers_object]
    exact Fields.get?_map (mapNumbers f) members segment
  | array items =>
    rw [mapNumbers_array, child?, child?]
    cases index? segment with
    | none => rfl
    | some i => exact List.getElem?_map
  | _ => rfl

/-- A change of numbers leaves every subtree where it is. -/
lemma lookup_mapNumbers (f : ν → μ) (t : Tree ν) (segments : List String) :
    (t.mapNumbers f).lookup segments = (t.lookup segments).map (mapNumbers f) := by
  induction segments generalizing t with
  | nil => rfl
  | cons segment rest ih =>
    rw [lookup, lookup, child?_mapNumbers]
    cases t.child? segment with
    | none => rfl
    | some child => exact ih child

end Tree

namespace Fields

variable {α β : Type}

lemma insert_map (f : α → β) (fields : Fields α) (key : String) (value : α) :
    insert (fields.map fun member => (member.1, f member.2)) key (f value)
      = (fields.insert key value).map fun member => (member.1, f member.2) := by
  induction fields with
  | nil => rfl
  | cons member rest ih =>
    rw [List.map_cons, insert, insert, ih]
    split <;> rfl

end Fields

/-! ### Values without the signs of zeros -/

namespace Binary64

variable (x : Binary64)

lemma magnitude_dropZeroSign : x.dropZeroSign.magnitude = x.magnitude := by
  by_cases hzero : x.magnitude = 0
  · rw [dropZeroSign, if_pos hzero, hzero]
  · rw [dropZeroSign_of_ne hzero]

lemma dropZeroSign_dropZeroSign : x.dropZeroSign.dropZeroSign = x.dropZeroSign := by
  by_cases hzero : x.magnitude = 0
  · rw [dropZeroSign, if_pos ((magnitude_dropZeroSign x).trans hzero), dropZeroSign, if_pos hzero]
  · rw [dropZeroSign_of_ne hzero, dropZeroSign_of_ne hzero]

lemma isNaN_dropZeroSign : x.dropZeroSign.isNaN = x.isNaN := by
  rw [isNaN, isNaN, magnitude_dropZeroSign]

lemma integral?_dropZeroSign : x.dropZeroSign.integral? = x.integral? := by
  by_cases hzero : x.magnitude = 0
  · rw [integral?_of_magnitude ((magnitude_dropZeroSign x).trans hzero),
      integral?_of_magnitude hzero]
  · rw [dropZeroSign_of_ne hzero]

end Binary64

namespace Value

lemma dropZeroSigns_dropZeroSigns (v : Value) :
    v.dropZeroSigns.dropZeroSigns = v.dropZeroSigns := by
  have hcomp : Binary64.dropZeroSign ∘ Binary64.dropZeroSign = Binary64.dropZeroSign :=
    funext Binary64.dropZeroSign_dropZeroSign
  rw [dropZeroSigns, dropZeroSigns, Tree.mapNumbers_mapNumbers, hcomp]

lemma beqItems_map_left {xs ys : List Value}
    (h : ∀ x ∈ xs, ∀ y, beq (dropZeroSigns x) y = beq x y) :
    beqItems (xs.map dropZeroSigns) ys = beqItems xs ys := by
  induction xs generalizing ys with
  | nil => rfl
  | cons x xs ih =>
    rw [List.forall_mem_cons] at h
    cases ys with
    | nil => rfl
    | cons y ys => rw [List.map_cons, beqItems, beqItems, h.1, ih h.2]

lemma beqMembers_map_left {xs ys : Fields Value}
    (h : ∀ x ∈ xs, ∀ y, beq (dropZeroSigns x.2) y = beq x.2 y) :
    beqMembers (xs.map fun member => (member.1, member.2.dropZeroSigns)) ys = beqMembers xs ys := by
  induction xs with
  | nil => rfl
  | cons x xs ih =>
    rw [List.forall_mem_cons] at h
    rw [List.map_cons, beqMembers, beqMembers, ih h.2]
    cases Fields.get? ys x.1 with
    | none => rfl
    | some y => simp only [h.1]

/-- Equality does not see the signs of the zeros on its left either. -/
theorem beq_dropZeroSigns_left (v w : Value) : (v.dropZeroSigns == w) = (v == w) := by
  change beq v.dropZeroSigns w = beq v w
  induction v using Tree.induction generalizing w with
  | number x =>
    cases w with
    | number y =>
      change (!x.dropZeroSign.isNaN && x.dropZeroSign.key == y.key) = (!x.isNaN && x.key == y.key)
      rw [Binary64.key_dropZeroSign, Binary64.isNaN_dropZeroSign]
    | _ => rfl
  | array xs ih =>
    cases w with
    | array ys =>
      rw [dropZeroSigns_array, beq, beq]
      exact beqItems_map_left ih
    | _ => rfl
  | object xs ih =>
    cases w with
    | object ys =>
      rw [dropZeroSigns_object, beq, beq, List.length_map]
      exact congrArg (_ && ·) (beqMembers_map_left ih)
    | _ => rfl
  | _ => cases w <;> rfl

theorem collate_dropZeroSigns_left (v w : Value) : collate v.dropZeroSigns w = collate v w := by
  rw [collate, collate, sorted_dropZeroSigns, compareSorted_eq_orderMarks,
    compareSorted_eq_orderMarks, marks_dropZeroSigns]

lemma orderFields_map_dropZeroSigns (a b : Option Value) :
    orderFields (a.map dropZeroSigns) (b.map dropZeroSigns) = orderFields a b := by
  cases a with
  | none => cases b <;> rfl
  | some v =>
    cases b with
    | none => rfl
    | some w =>
      rw [Option.map_some, Option.map_some, orderFields, orderFields, collate_dropZeroSigns,
        collate_dropZeroSigns_left]

end Value

/-! ### Tests of fields -/

namespace FieldTest

variable (field : Option Value)

lemma equals_map_dropZeroSigns (operand : Value) :
    equals (field.map Value.dropZeroSigns) operand = equals field operand := by
  cases field with
  | none => rfl
  | some v => exact Value.beq_dropZeroSigns_left v operand

lemma compares_map_dropZeroSigns (operand : Value) (wanted : Ordering → Bool) :
    compares (field.map Value.dropZeroSigns) operand wanted = compares field operand wanted := by
  cases field with
  | none => rfl
  | some v =>
    simp only [compares, Option.map_some, Option.bind_some, Value.compareSameKind?,
      Value.kind_dropZeroSigns, Value.collate_dropZeroSigns_left]

lemma comparesAs_map_dropZeroSigns (operand : Value) (comparison : Comparison) :
    comparesAs (field.map Value.dropZeroSigns) operand comparison
      = comparesAs field operand comparison := by
  cases comparison with
  | eq => exact equals_map_dropZeroSigns field operand
  | ne => exact congrArg (!·) (equals_map_dropZeroSigns field operand)
  | _ => exact compares_map_dropZeroSigns field operand _

lemma smallInteger?_dropZeroSigns (value : Value) :
    smallInteger? value.dropZeroSigns = smallInteger? value := by
  cases value with
  | number x =>
    change (if Binary64.exactLimit < x.dropZeroSign.magnitude then none
      else x.dropZeroSign.integral?) = if Binary64.exactLimit < x.magnitude then none
      else x.integral?
    rw [Binary64.magnitude_dropZeroSign, Binary64.integral?_dropZeroSign]
  | _ => rfl

lemma asArray?_dropZeroSigns (value : Value) :
    Tree.asArray? value.dropZeroSigns
      = (Tree.asArray? value).map (List.map Value.dropZeroSigns) := by
  cases value with
  | array items => exact congrArg Tree.asArray? (Value.dropZeroSigns_array items)
  | _ => rfl

lemma asString?_dropZeroSigns (value : Value) :
    Tree.asString? value.dropZeroSigns = Tree.asString? value := by
  cases value <;> rfl

/-- A test does not see the signs of the zeros in the field. -/
theorem holds_map_dropZeroSigns (test : FieldTest) :
    test.holds (field.map Value.dropZeroSigns) = test.holds field := by
  have hequals : equals (field.map Value.dropZeroSigns) = equals field :=
    funext (equals_map_dropZeroSigns field)
  cases test with
  | compare comparison operand => exact comparesAs_map_dropZeroSigns field operand comparison
  | isIn values => rw [holds, holds, hequals]
  | notIn values => rw [holds, holds, hequals]
  | presence expected => rw [holds, holds, Option.isSome_map]
  | hasKind kind =>
    cases field with
    | none => rfl
    | some v => simp only [holds, Option.map_some, Option.any_some, Value.kind_dropZeroSigns]
  | hasSize size =>
    cases field with
    | none => rfl
    | some v =>
      rw [holds, holds, Option.map_some, Option.bind_some, Option.bind_some, asArray?_dropZeroSigns,
        Option.any_map]
      simp only [List.length_map]
  | modulo divisor remainder =>
    cases field with
    | none => rfl
    | some v =>
      simp only [holds, Option.map_some, Option.any_some, leaves, smallInteger?_dropZeroSigns]
  | containsAll values =>
    cases field with
    | none => rfl
    | some v =>
      rw [holds, holds, Option.map_some, Option.bind_some, Option.bind_some, asArray?_dropZeroSigns,
        Option.any_map]
      simp only [Function.comp_def, List.any_map, Value.beq_dropZeroSigns_left]
  | like pattern =>
    cases field with
    | none => rfl
    | some v => simp only [holds, Option.map_some, Option.bind_some, asString?_dropZeroSigns]
  | regex pattern =>
    cases field with
    | none => rfl
    | some v => simp only [holds, Option.map_some, Option.bind_some, asString?_dropZeroSigns]

end FieldTest

/-! ### Selectors -/

namespace Selector

mutual

/-- The paths at which a selector reads a document.  What it looks for in the items of an array is
read in these. -/
def paths : Selector → List FieldPath
  | .always => []
  | .and children => pathsAll children
  | .or children => pathsAll children
  | .nor children => pathsAll children
  | .not child => child.paths
  | .field path _ => [path]
  | .elemMatch path _ => [path]

/-- The paths at which some selectors read a document. -/
def pathsAll : List Selector → List FieldPath
  | [] => []
  | s :: rest => s.paths ++ pathsAll rest

end

mutual

/-- A selector does not see the signs of the zeros at its paths. -/
theorem holds_of_map_dropZeroSigns (selector : Selector) {read seen : FieldPath → Option Value}
    (h : ∀ path ∈ selector.paths, seen path = (read path).map Value.dropZeroSigns) :
    selector.holds seen = selector.holds read := by
  match selector with
  | .always => rfl
  | .and children => exact allHold_of_map_dropZeroSigns children h
  | .or children => exact anyHolds_of_map_dropZeroSigns children h
  | .nor children => exact congrArg (!·) (anyHolds_of_map_dropZeroSigns children h)
  | .not child => exact congrArg (!·) (holds_of_map_dropZeroSigns child h)
  | .field path test =>
    rw [holds, holds, h path List.mem_cons_self, FieldTest.holds_map_dropZeroSigns]
  | .elemMatch path child =>
    -- Within an item every path leads to the same value, up to the signs of zeros.
    have hitem (item : Value) :
        (child.holds fun p => item.dropZeroSigns.lookup p.segments)
          = child.holds fun p => item.lookup p.segments :=
      holds_of_map_dropZeroSigns child fun p _ =>
        Tree.lookup_mapNumbers Binary64.dropZeroSign item p.segments
    rw [holds, holds, h path List.mem_cons_self]
    cases read path with
    | none => rfl
    | some v =>
      rw [Option.map_some, Option.bind_some, Option.bind_some, FieldTest.asArray?_dropZeroSigns]
      cases v.asArray? with
      | none => rfl
      | some items =>
        simp only [Option.map_some, List.any_map, Function.comp_def, hitem]

theorem allHold_of_map_dropZeroSigns (children : List Selector)
    {read seen : FieldPath → Option Value}
    (h : ∀ path ∈ pathsAll children, seen path = (read path).map Value.dropZeroSigns) :
    allHold children seen = allHold children read := by
  match children with
  | [] => rfl
  | child :: rest =>
    have h : ∀ path ∈ child.paths ++ pathsAll rest,
      seen path = (read path).map Value.dropZeroSigns := h
    rw [List.forall_mem_append] at h
    rw [allHold, allHold, holds_of_map_dropZeroSigns child h.1,
      allHold_of_map_dropZeroSigns rest h.2]

theorem anyHolds_of_map_dropZeroSigns (children : List Selector)
    {read seen : FieldPath → Option Value}
    (h : ∀ path ∈ pathsAll children, seen path = (read path).map Value.dropZeroSigns) :
    anyHolds children seen = anyHolds children read := by
  match children with
  | [] => rfl
  | child :: rest =>
    have h : ∀ path ∈ child.paths ++ pathsAll rest,
      seen path = (read path).map Value.dropZeroSigns := h
    rw [List.forall_mem_append] at h
    rw [anyHolds, anyHolds, holds_of_map_dropZeroSigns child h.1,
      anyHolds_of_map_dropZeroSigns rest h.2]

end

end Selector

/-! ### Bare documents -/

namespace Document

/-- A document without its revision, whose zeros are all positive. -/
def bare (doc : Document) : Document := ⟨doc.id, none, doc.body.dropZeroSigns⟩

/-- At every path but that of the revision a bare document has what the document has, up to the
signs of zeros. -/
lemma fieldAt_bare (doc : Document) {path : FieldPath} (h : path.segments ≠ [revField]) :
    doc.bare.fieldAt path = (doc.fieldAt path).map Value.dropZeroSigns := by
  have hlookup (segments : List String) :
      doc.bare.body.lookup segments = (doc.body.lookup segments).map Value.dropZeroSigns :=
    Tree.lookup_mapNumbers Binary64.dropZeroSign doc.body segments
  obtain ⟨segments⟩ := path
  match segments with
  | [] => exact hlookup []
  | [segment] =>
    have hrev : segment ≠ revField := fun heq => h (by rw [heq])
    by_cases hid : segment = idField
    · simp only [fieldAt, if_pos hid]
      rfl
    · have hbare : doc.bare.rev = none := rfl
      simp only [fieldAt, if_neg hid, if_neg hrev, hbare, hlookup]
      cases doc.rev <;> rfl
  | first :: second :: rest => exact hlookup (first :: second :: rest)

/-- Documents are ordered alike without their revisions and the signs of zeros, unless a sort key
reads the revision. -/
lemma order_bare {keys : List SortKey} (h : ∀ key ∈ keys, key.path.segments ≠ [revField])
    (a b : Document) : order keys a.bare b.bare = order keys a b := by
  induction keys with
  | nil => rfl
  | cons key rest ih =>
    rw [List.forall_mem_cons] at h
    rw [order, order, ih h.2, SortKey.order, SortKey.order, fieldAt_bare a h.1, fieldAt_bare b h.1,
      Value.orderFields_map_dropZeroSigns]

lemma sortBy_map_bare {keys : List SortKey} (h : ∀ key ∈ keys, key.path.segments ≠ [revField])
    (docs : List Document) : (sortBy keys docs).map bare = sortBy keys (docs.map bare) := by
  refine List.map_mergeSort fun a _ b _ => ?_
  rw [order_bare h]

end Document

/-! ### Projections -/

/-- The part of a path that is kept is kept of a value without the signs of zeros as well. -/
lemma Value.keptPart?_dropZeroSigns (segments : List String) (value : Value) :
    keptPart? segments value.dropZeroSigns
      = (keptPart? segments value).map fun part => (part.1, part.2.dropZeroSigns) := by
  induction segments generalizing value with
  | nil => rfl
  | cons segment rest ih =>
    cases value with
    | object members =>
      rw [dropZeroSigns_object, keptPart?, keptPart?, Fields.get?_map]
      cases Fields.get? members segment with
      | none => rfl
      | some child =>
        rw [Option.map_some]
        dsimp only
        rw [ih, Option.map_map, Option.map_map]
        rfl
    | array items =>
      have hlookup : Tree.lookup (.array (items.map dropZeroSigns)) (segment :: rest)
          = (Tree.lookup (.array items : Value) (segment :: rest)).map dropZeroSigns := by
        rw [← dropZeroSigns_array]
        exact Tree.lookup_mapNumbers Binary64.dropZeroSign (.array items) (segment :: rest)
      rw [dropZeroSigns_array, keptPart?, keptPart?, hlookup, Option.isSome_map]
      split
      · rw [Option.map_some, dropZeroSigns_array]
      · rfl
    | _ => rfl

lemma Fields.setPath_dropZeroSigns (fields : Fields Value) (path : List String) (value : Value) :
    setPath (fields.map fun member => (member.1, member.2.dropZeroSigns)) path value.dropZeroSigns
      = (setPath fields path value).map fun member => (member.1, member.2.dropZeroSigns) := by
  induction path generalizing fields with
  | nil => rfl
  | cons key rest ih =>
    cases rest with
    | nil => exact insert_map Value.dropZeroSigns fields key value
    | cons next rest =>
      rw [setPath, setPath, ← insert_map, Value.dropZeroSigns_object, ← ih, get?_map]
      congr 3
      cases fields.get? key with
      | none => rfl
      | some child =>
        cases child with
        | object members => rw [Option.map_some, Value.dropZeroSigns_object]
        | _ => rfl

namespace Document

lemma keepPath_dropZeroSigns (body : Value) (kept : Fields Value) (path : FieldPath) :
    keepPath body.dropZeroSigns (kept.map fun member => (member.1, member.2.dropZeroSigns)) path
      = (keepPath body kept path).map fun member => (member.1, member.2.dropZeroSigns) := by
  rw [keepPath, keepPath]
  split_ifs with hmetadata
  · rfl
  · rw [Value.keptPart?_dropZeroSigns]
    cases Value.keptPart? path.segments body with
    | none => rfl
    | some part => exact Fields.setPath_dropZeroSigns kept part.1 part.2

/-- Projecting and laying bare can be exchanged. -/
lemma project_bare (doc : Document) (paths : List FieldPath) :
    (doc.project paths).bare = doc.bare.project paths := by
  have hbody (kept : Fields Value) :
      paths.foldl (keepPath doc.bare.body)
          (kept.map fun member => (member.1, member.2.dropZeroSigns))
        = (paths.foldl (keepPath doc.body) kept).map fun member =>
          (member.1, member.2.dropZeroSigns) := by
    induction paths generalizing kept with
    | nil => rfl
    | cons path rest ih =>
      rw [List.foldl_cons, List.foldl_cons, ← ih]
      exact congrArg (rest.foldl _) (keepPath_dropZeroSigns doc.body kept path)
  have hrev : (doc.bare.project paths).rev = none := ite_self none
  have hprojected : (doc.project paths).bare.body = (doc.bare.project paths).body := by
    rw [bare, project, project, Value.dropZeroSigns_object, ← hbody []]
    rfl
  calc
    (doc.project paths).bare = ⟨doc.id, none, (doc.project paths).bare.body⟩ := rfl
    _ = ⟨doc.id, (doc.bare.project paths).rev, (doc.bare.project paths).body⟩ := by
      rw [hrev, hprojected]
    _ = doc.bare.project paths := rfl

end Document

/-! ### Answers -/

lemma page_map {α β : Type} (f : α → β) (skip : Nat) (limit : Option Nat) (items : List α) :
    (page skip limit items).map f = page skip limit (items.map f) := by
  cases limit with
  | none => exact List.map_drop
  | some n => rw [page, page, List.map_take, List.map_drop]

namespace Query

/-- The paths at which a query reads documents, to test and to order them. -/
def paths (query : Query) : List FieldPath := query.selector.paths ++ query.sort.map (·.path)

variable {query : Query}

lemma matching_map_bare (h : ∀ path ∈ query.paths, path.segments ≠ [Document.revField])
    (docs : List Document) :
    (query.matching docs).map Document.bare = query.matching (docs.map Document.bare) := by
  have hmatch (doc : Document) : query.selector.isMatch doc.bare = query.selector.isMatch doc :=
    query.selector.holds_of_map_dropZeroSigns fun path hpath =>
      doc.fieldAt_bare (h path (List.mem_append_left _ hpath))
  rw [matching, matching, List.filter_map]
  exact congrArg (List.map Document.bare)
    (List.filter_congr fun doc _ => (hmatch doc).symm)

lemma ordered_map_bare (h : ∀ path ∈ query.paths, path.segments ≠ [Document.revField])
    (docs : List Document) :
    (query.ordered docs).map Document.bare = query.ordered (docs.map Document.bare) := by
  have hsort : ∀ key ∈ query.sort, key.path.segments ≠ [Document.revField] := fun key hkey =>
    h key.path (List.mem_append_right _ (List.mem_map_of_mem hkey))
  rw [ordered, ordered]
  split
  · rfl
  · exact Document.sortBy_map_bare hsort docs

lemma shown_bare (query : Query) (doc : Document) :
    (query.shown doc).bare = query.shown doc.bare := by
  rw [shown, shown]
  split
  · exact doc.project_bare _
  · rfl

/-- **Queries see neither the signs of zeros nor, unless they read the path `_rev`, revisions.**
Without these, the answer for some documents is the answer for the documents without these. -/
theorem answer_bare (h : ∀ path ∈ query.paths, path.segments ≠ [Document.revField])
    (docs : List Document) :
    (query.answer docs).map Document.bare = query.answer (docs.map Document.bare) := by
  have hshown : Document.bare ∘ query.shown = query.shown ∘ Document.bare :=
    funext query.shown_bare
  rw [answer, answer, List.map_map, hshown, ← List.map_map, page_map, ordered_map_bare h,
    matching_map_bare h]

end Query

/-! ### Answers for equal documents -/

namespace Document

variable {doc doc' : Document}

/-- Two documents of the same identifier with equal bodies. -/
structure SameContent (doc doc' : Document) : Prop where
  id : doc.id = doc'.id
  body : (doc.body == doc'.body) = true

/-- Documents that are equal when they are bare have the same content. -/
lemma SameContent.of_bare (h : doc.bare = doc'.bare) (hregular : doc.body.Regular) :
    doc.SameContent doc' := by
  rw [bare, bare, Document.mk.injEq] at h
  obtain ⟨hid, -, hbody⟩ := h
  refine ⟨hid, ?_⟩
  calc
    (doc.body == doc'.body) = (doc.body == doc'.body.dropZeroSigns) :=
      (Value.beq_dropZeroSigns _ _).symm
    _ = (doc.body == doc.body.dropZeroSigns) := by rw [hbody]
    _ = (doc.body == doc.body) := Value.beq_dropZeroSigns _ _
    _ = true := hregular.beq_self

end Document

namespace Query

variable {query : Query} {docs docs' : List Document}

lemma regular_of_mem_answer (h : ∀ doc ∈ docs, doc.body.Regular) :
    ∀ doc ∈ query.answer docs, doc.body.Regular := by
  intro shown hshown
  obtain ⟨doc, hdoc, rfl⟩ := List.mem_map.mp hshown
  have hordered : doc ∈ query.ordered (query.matching docs) := by
    cases hlimit : query.limit with
    | none =>
      rw [hlimit] at hdoc
      exact List.mem_of_mem_drop hdoc
    | some n =>
      rw [hlimit] at hdoc
      exact List.mem_of_mem_drop (List.mem_of_mem_take hdoc)
  have hmatching : doc ∈ query.matching docs := by
    rw [ordered] at hordered
    split at hordered
    · exact hordered
    · exact List.mem_mergeSort.mp hordered
  have hregular := h doc (List.mem_filter.mp hmatching).1
  rw [Query.shown]
  split
  · exact Document.clean_project hregular _
  · exact hregular

/-- **Documents that differ in their revisions and in the signs of zeros only give the same
answer**, unless the query reads the path `_rev`: the same identifiers in the same order, with equal
bodies. -/
theorem answers_alike (h : ∀ path ∈ query.paths, path.segments ≠ [Document.revField])
    (hbare : docs.map Document.bare = docs'.map Document.bare)
    (hregular : ∀ doc ∈ docs, doc.body.Regular) :
    List.Forall₂ Document.SameContent (query.answer docs) (query.answer docs') := by
  have hanswers :
      (query.answer docs).map Document.bare = (query.answer docs').map Document.bare := by
    rw [answer_bare h, answer_bare h, hbare]
  have hpairs : List.Forall₂ (fun doc doc' : Document => doc.bare = doc'.bare) (query.answer docs)
      (query.answer docs') := by
    refine List.forall₂_map_left_iff.mp (List.forall₂_map_right_iff.mp ?_)
    rw [hanswers]
    exact List.forall₂_same.mpr fun _ _ => rfl
  exact forall₂_imp_of_mem hpairs fun doc hdoc doc' heq =>
    .of_bare heq (regular_of_mem_answer hregular doc hdoc)

end Query

end DocQuery
