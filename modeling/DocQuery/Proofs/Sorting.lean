import DocQuery.Proofs.Collation
import DocQuery.Query.Order

/-!
Sorting documents.  Their order under sort keys is a total preorder, so sorting brings any documents
in this order and leaves those alone that it does not tell apart.

* `Document.transCmp_order`: the order of documents is oriented and transitive;
* `Document.StableSort` (**stable sorting**): the same documents in order, with those that compare
  as equal in the sequence in which they came;
* `Document.StableSort.unique`: there is only one stable sort of some documents;
* `Document.stableSort_sortBy`: `Document.sortBy` finds it.
-/

namespace DocQuery

open Std

/-! ### The order of documents -/

instance : TransCmp Value.orderFields where
  eq_swap := by
    intro a b
    cases a with
    | none => cases b <;> rfl
    | some v =>
      cases b with
      | none => rfl
      | some w =>
        have h : v.collate w = (w.collate v).swap := OrientedCmp.eq_swap
        exact h
  isLE_trans := by
    intro a b c hab hbc
    cases a with
    | none => cases c <;> rfl
    | some v =>
      cases b with
      | none => cases hab
      | some w =>
        cases c with
        | none => cases hbc
        | some u =>
          have hvw : (v.collate w).isLE := hab
          have hwu : (w.collate u).isLE := hbc
          have h : (v.collate u).isLE := TransCmp.isLE_trans hvw hwu
          exact h

namespace SortKey

/-- An order seen in a direction is an order again. -/
lemma transCmp_apply {α : Type} {cmp : α → α → Ordering} [TransCmp cmp] (direction : Direction) :
    TransCmp fun a b => direction.apply (cmp a b) := by
  cases direction with
  | ascending => exact ‹TransCmp cmp›
  | descending =>
    have hswap : (fun a b => Direction.descending.apply (cmp a b)) = fun a b => cmp b a := by
      funext a b
      exact OrientedCmp.eq_swap.symm
    rw [hswap]
    exact TransCmp.opposite

instance (key : SortKey) : TransCmp key.order := by
  have hfields : TransCmp fun a b : Document =>
      Value.orderFields (a.fieldAt key.path) (b.fieldAt key.path) :=
    { eq_swap := OrientedCmp.eq_swap, isLE_trans := TransCmp.isLE_trans }
  exact transCmp_apply key.direction

end SortKey

namespace Document

/-- The order of documents under any sort keys is oriented and transitive. -/
instance transCmp_order (keys : List SortKey) : TransCmp (order keys) := by
  induction keys with
  | nil => exact inferInstanceAs (TransCmp (compareOn Document.id))
  | cons key rest ih => exact inferInstanceAs (TransCmp (compareLex key.order (order rest)))

/-! ### Stable sorting -/

/-- Those of some documents that compare as equal to one, in sequence. -/
def alike (keys : List SortKey) (doc : Document) (docs : List Document) : List Document :=
  docs.filter fun other => order keys doc other = .eq

section Alike

variable {keys : List SortKey} {doc first : Document}

lemma alike_cons_of_eq (h : order keys doc first = .eq) (rest : List Document) :
    alike keys doc (first :: rest) = first :: alike keys doc rest :=
  List.filter_cons_of_pos (by simpa using h)

lemma alike_cons_of_ne (h : order keys doc first ≠ .eq) (rest : List Document) :
    alike keys doc (first :: rest) = alike keys doc rest :=
  List.filter_cons_of_neg (by simpa using h)

lemma order_of_mem_alike {docs : List Document} (h : first ∈ alike keys doc docs) :
    order keys doc first = .eq :=
  of_decide_eq_true (List.mem_filter.mp h).2

lemma alike_alike (keys : List SortKey) (doc : Document) (docs : List Document) :
    alike keys doc (alike keys doc docs) = alike keys doc docs := by
  rw [alike, alike, List.filter_filter]
  simp only [Bool.and_self]

end Alike

/-- Documents in the order of some sort keys.  Those that compare as equal keep their sequence. -/
structure StableSort (keys : List SortKey) (docs sorted : List Document) : Prop where
  perm : sorted.Perm docs
  pairwise : sorted.Pairwise fun a b => (order keys a b).isLE
  stable : ∀ doc, alike keys doc sorted = alike keys doc docs

/-- Sorting is stable: documents that compare as equal are in order already, so their sequence is
found again in the sorted list, and no other document compares as equal to them. -/
theorem stableSort_sortBy (keys : List SortKey) (docs : List Document) :
    StableSort keys docs (sortBy keys docs) := by
  have htrans : ∀ a b c, (order keys a b).isLE = true → (order keys b c).isLE = true →
      (order keys a c).isLE = true := fun a b c => TransCmp.isLE_trans
  have htotal : ∀ a b, ((order keys a b).isLE || (order keys b a).isLE) = true := by
    intro a b
    have hswap : order keys b a = (order keys a b).swap := OrientedCmp.eq_swap
    rw [hswap]
    cases order keys a b <;> rfl
  have hperm : (sortBy keys docs).Perm docs := List.mergeSort_perm docs _
  refine ⟨hperm, List.pairwise_mergeSort htrans htotal docs, fun doc => ?_⟩
  have hpairwise : (alike keys doc docs).Pairwise fun a b => (order keys a b).isLE = true := by
    refine List.pairwise_of_forall_mem_list fun a ha b hb => ?_
    exact Ordering.isLE_of_eq_eq
      (TransCmp.eq_trans (OrientedCmp.eq_symm (order_of_mem_alike ha)) (order_of_mem_alike hb))
  have hsublist : (alike keys doc docs).Sublist (sortBy keys docs) :=
    List.sublist_mergeSort htrans htotal hpairwise List.filter_sublist
  have hfound :
      (alike keys doc (alike keys doc docs)).Sublist (alike keys doc (sortBy keys docs)) :=
    hsublist.filter _
  rw [alike_alike] at hfound
  have hlength : (alike keys doc docs).length = (alike keys doc (sortBy keys docs)).length :=
    (hperm.filter _).length_eq.symm
  exact (hfound.eq_of_length hlength).symm

namespace StableSort

variable {keys : List SortKey} {docs sorted sorted' : List Document}

/-- The first of some sorted documents is not above any of them. -/
lemma isLE_of_mem {first doc : Document} {rest : List Document}
    (h : (first :: rest).Pairwise fun a b => (order keys a b).isLE) (hmem : doc ∈ first :: rest) :
    (order keys first doc).isLE = true := by
  rcases List.mem_cons.mp hmem with rfl | hrest
  · exact Ordering.isLE_of_eq_eq ReflCmp.compare_self
  · exact List.rel_of_pairwise_cons h hrest

/-- Sorted documents are determined by the sequences of those that compare as equal: the first ones
compare as equal, so each of them is the first of the same sequence. -/
lemma eq_of_alike_eq (hperm : sorted.Perm sorted')
    (h : sorted.Pairwise fun a b => (order keys a b).isLE)
    (h' : sorted'.Pairwise fun a b => (order keys a b).isLE)
    (halike : ∀ doc, alike keys doc sorted = alike keys doc sorted') : sorted = sorted' := by
  induction sorted generalizing sorted' with
  | nil => exact hperm.nil_eq
  | cons a rest ih =>
    cases sorted' with
    | nil => exact hperm.eq_nil
    | cons b rest' =>
      have hab := isLE_of_mem h (hperm.mem_iff.mpr List.mem_cons_self)
      have hba := isLE_of_mem h' (hperm.mem_iff.mp List.mem_cons_self)
      have hfirst := halike a
      rw [alike_cons_of_eq ReflCmp.compare_self,
        alike_cons_of_eq (OrientedCmp.isLE_antisymm hab hba)] at hfirst
      obtain ⟨rfl, -⟩ := List.cons.inj hfirst
      refine congrArg (a :: ·) (ih hperm.cons_inv h.of_cons h'.of_cons fun doc => ?_)
      have hdoc := halike doc
      by_cases heq : order keys doc a = .eq
      · rw [alike_cons_of_eq heq, alike_cons_of_eq heq] at hdoc
        exact (List.cons.inj hdoc).2
      · rw [alike_cons_of_ne heq, alike_cons_of_ne heq] at hdoc
        exact hdoc

/-- There is only one stable sort of some documents. -/
theorem unique (h : StableSort keys docs sorted) (h' : StableSort keys docs sorted') :
    sorted = sorted' :=
  eq_of_alike_eq (h.perm.trans h'.perm.symm) h.pairwise h'.pairwise fun doc =>
    (h.stable doc).trans (h'.stable doc).symm

end StableSort

end Document

end DocQuery
