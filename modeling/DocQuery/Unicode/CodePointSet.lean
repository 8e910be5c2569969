/-!
Sets of code points as lists of ranges, in increasing order and with gaps between them.

* `CodePointSet`: a set, whose ranges carry a proof of their order;
* `CodePointSet.ofRanges`: the set of all code points in some ranges, which may overlap;
* `CodePointSet.union`, `CodePointSet.complement`, `CodePointSet.intersection`,
  `CodePointSet.difference` and `CodePointSet.symmetricDifference`: the operations of sets, each
  with what belongs to its result;
* `CodePointSet.ofText`: the set that a table of hexadecimal ranges lists.
-/

namespace DocQuery.Unicode

namespace CodePointSet

/-- The largest code point. -/
def last : Nat := 0x10FFFF

/-- A code point is in one of some ranges, both of whose ends belong to them. -/
def Covered (ranges : List (Nat × Nat)) (code : Nat) : Prop :=
  ∃ range ∈ ranges, range.1 ≤ code ∧ code ≤ range.2

/-- Ranges of code points that are not empty, in increasing order and neither overlapping nor
adjacent. -/
structure Ordered (ranges : List (Nat × Nat)) : Prop where
  nonempty : ∀ range ∈ ranges, range.1 ≤ range.2
  bounded : ∀ range ∈ ranges, range.2 ≤ last
  apart : ranges.Pairwise fun range later => range.2 + 1 < later.1

end CodePointSet

open CodePointSet

/-- A set of code points. -/
structure CodePointSet where
  ranges : List (Nat × Nat)
  isOrdered : Ordered ranges
deriving DecidableEq

namespace CodePointSet

/-- Membership of a code point. -/
def containsCode (s : CodePointSet) (code : Nat) : Bool :=
  s.ranges.any fun (low, high) => low ≤ code && code ≤ high

/-- Membership of a character. -/
def contains (s : CodePointSet) (c : Char) : Bool := s.containsCode c.toNat

variable {s t : CodePointSet} {ranges : List (Nat × Nat)} {low high start code : Nat}

theorem containsCode_iff : s.containsCode code = true ↔ Covered s.ranges code := by
  simp [containsCode, Covered]

theorem toNat_le_last (c : Char) : c.toNat ≤ last := by
  have h := c.valid
  unfold UInt32.isValidChar Nat.isValidChar at h
  have hnat : c.toNat = c.val.toNat := rfl
  unfold last
  omega

/-! ### Ranges -/

theorem covered_nil : ¬ Covered [] code := by simp [Covered]

theorem covered_cons_iff :
    Covered ((low, high) :: ranges) code ↔ (low ≤ code ∧ code ≤ high) ∨ Covered ranges code := by
  simp [Covered]

theorem covered_append_iff {more : List (Nat × Nat)} :
    Covered (ranges ++ more) code ↔ Covered ranges code ∨ Covered more code := by
  simp [Covered, or_and_right, exists_or]

theorem covered_points_iff {codes : List Nat} :
    Covered (codes.map fun code => (code, code)) code ↔ code ∈ codes := by
  simp only [Covered, List.mem_map]
  constructor
  · rintro ⟨-, ⟨n, hn, rfl⟩, hle, hge⟩
    exact Nat.le_antisymm hle hge ▸ hn
  · intro h
    exact ⟨_, ⟨code, h, rfl⟩, Nat.le_refl _, Nat.le_refl _⟩

theorem ordered_nil : Ordered [] := ⟨by simp, by simp, .nil⟩

theorem ordered_cons (h : low ≤ high) (hlast : high ≤ last) (hordered : Ordered ranges)
    (hstart : ∀ range ∈ ranges, high + 1 < range.1) : Ordered ((low, high) :: ranges) where
  nonempty := by simpa using ⟨h, fun a b => hordered.nonempty (a, b)⟩
  bounded := by simpa using ⟨hlast, fun a b => hordered.bounded (a, b)⟩
  apart := .cons hstart hordered.apart

theorem Ordered.tail {range : Nat × Nat} (h : Ordered (range :: ranges)) : Ordered ranges where
  nonempty r hr := h.nonempty r (List.mem_cons_of_mem range hr)
  bounded r hr := h.bounded r (List.mem_cons_of_mem range hr)
  apart := h.apart.of_cons

theorem le_last_of_containsCode (h : s.containsCode code = true) : code ≤ last := by
  obtain ⟨r, hr, -, hle⟩ := containsCode_iff.mp h
  exact Nat.le_trans hle (s.isOrdered.bounded r hr)

/-- The set without code points. -/
def empty : CodePointSet := ⟨[], ordered_nil⟩

@[simp] theorem containsCode_empty : empty.containsCode code = false := rfl

/-- A set without code points. -/
def isEmpty (s : CodePointSet) : Bool := s.ranges.isEmpty

/-- Joins ranges that overlap or touch, starting with the range from `low` to `high`; the ranges
come in the order of their starts. -/
def coalesce (low high : Nat) : List (Nat × Nat) → List (Nat × Nat)
  | [] => [(low, high)]
  | (low', high') :: rest =>
    if low' ≤ high + 1 then coalesce low (max high high') rest
    else (low, high) :: coalesce low' high' rest

/-- Joined ranges are in order, start where the first one does, and cover the same. -/
theorem coalesce_spec (h : low ≤ high) (hlast : high ≤ last)
    (hnonempty : ∀ range ∈ ranges, range.1 ≤ range.2) (hbounded : ∀ range ∈ ranges, range.2 ≤ last)
    (hstarts : ∀ range ∈ ranges, low ≤ range.1)
    (hsorted : ranges.Pairwise fun range later => range.1 ≤ later.1) :
    Ordered (coalesce low high ranges) ∧ (∀ range ∈ coalesce low high ranges, low ≤ range.1)
      ∧ ∀ code, Covered (coalesce low high ranges) code
        ↔ Covered ((low, high) :: ranges) code := by
  induction ranges generalizing low high with
  | nil =>
    exact ⟨ordered_cons h hlast ordered_nil (by simp), by simp [coalesce], fun _ => .rfl⟩
  | cons range rest ih =>
    obtain ⟨low', high'⟩ := range
    have hlow : low ≤ low' := hstarts _ List.mem_cons_self
    have hnext : low' ≤ high' := hnonempty _ List.mem_cons_self
    have hend : high' ≤ last := hbounded _ List.mem_cons_self
    have hrest : ∀ range ∈ rest, range.1 ≤ range.2 := fun r hr =>
      hnonempty r (List.mem_cons_of_mem _ hr)
    have hends : ∀ range ∈ rest, range.2 ≤ last := fun r hr =>
      hbounded r (List.mem_cons_of_mem _ hr)
    obtain ⟨hfirst, hlater⟩ := List.pairwise_cons.mp hsorted
    rw [coalesce]
    split
    · obtain ⟨hordered, hstart, hcovered⟩ := ih (show low ≤ max high high' by omega) (by omega)
        hrest hends (fun r hr => hstarts r (List.mem_cons_of_mem _ hr)) hlater
      refine ⟨hordered, hstart, fun code => (hcovered code).trans ?_⟩
      rw [covered_cons_iff, covered_cons_iff, covered_cons_iff, ← or_assoc]
      refine or_congr_left ?_
      omega
    · obtain ⟨hordered, hstart, hcovered⟩ := ih hnext hend hrest hends hfirst hlater
      refine ⟨ordered_cons h hlast hordered fun r hr => ?_, ?_, fun code => ?_⟩
      · have := hstart r hr
        omega
      · intro r hr
        rcases List.mem_cons.mp hr with rfl | hr
        · exact Nat.le_refl _
        · exact Nat.le_trans hlow (hstart r hr)
      · rw [covered_cons_iff, covered_cons_iff, hcovered]

/-- The ranges that are not empty, up to the last code point and in the order of their starts. -/
def sorted (ranges : List (Nat × Nat)) : List (Nat × Nat) :=
  let clipped := ranges.map fun (low, high) => (low, min high last)
  (clipped.filter fun (low, high) => low ≤ high).mergeSort fun r s => r.1 ≤ s.1

/-- Some ranges brought into order. -/
def merged (ranges : List (Nat × Nat)) : List (Nat × Nat) :=
  match sorted ranges with
  | [] => []
  | (low, high) :: rest => coalesce low high rest

theorem mem_sorted {range : Nat × Nat} (h : range ∈ sorted ranges) :
    range.1 ≤ range.2 ∧ range.2 ≤ last := by
  rw [sorted, List.mem_mergeSort, List.mem_filter] at h
  obtain ⟨hclipped, hle⟩ := h
  obtain ⟨r, -, rfl⟩ := List.mem_map.mp hclipped
  exact ⟨of_decide_eq_true hle, Nat.min_le_right _ _⟩

theorem covered_sorted_iff :
    Covered (sorted ranges) code ↔ code ≤ last ∧ Covered ranges code := by
  simp only [Covered, sorted, List.mem_mergeSort, List.mem_filter, List.mem_map, decide_eq_true_eq]
  constructor
  · rintro ⟨-, ⟨⟨r, hr, rfl⟩, -⟩, hcode⟩
    exact ⟨by omega, r, hr, by omega⟩
  · rintro ⟨hlast, r, hr, hcode⟩
    exact ⟨_, ⟨⟨r, hr, rfl⟩, by omega⟩, by omega⟩

theorem merged_spec (ranges : List (Nat × Nat)) : Ordered (merged ranges)
    ∧ ∀ code, Covered (merged ranges) code ↔ code ≤ last ∧ Covered ranges code := by
  have hmem (range : Nat × Nat) (h : range ∈ sorted ranges) :
      range.1 ≤ range.2 ∧ range.2 ≤ last := mem_sorted h
  have hsorted : (sorted ranges).Pairwise fun range later => range.1 ≤ later.1 := by
    have h : (sorted ranges).Pairwise fun r s => decide (r.1 ≤ s.1) = true := by
      refine List.pairwise_mergeSort (fun r s t hrs hst => ?_) (fun r s => ?_) _
      · simp only [decide_eq_true_eq] at hrs hst ⊢
        omega
      · simp only [Bool.or_eq_true, decide_eq_true_eq]
        omega
    exact h.imp of_decide_eq_true
  have hcovered (code : Nat) :
      Covered (sorted ranges) code ↔ code ≤ last ∧ Covered ranges code := covered_sorted_iff
  unfold merged
  split
  · next hnil =>
    rw [hnil] at hcovered
    exact ⟨ordered_nil, hcovered⟩
  · next low high rest hcons =>
    rw [hcons] at hmem hsorted hcovered
    obtain ⟨hfirst, hlater⟩ := List.pairwise_cons.mp hsorted
    obtain ⟨hordered, -, hjoined⟩ := coalesce_spec (hmem _ List.mem_cons_self).1
      (hmem _ List.mem_cons_self).2 (fun r hr => (hmem r (List.mem_cons_of_mem _ hr)).1)
      (fun r hr => (hmem r (List.mem_cons_of_mem _ hr)).2) hfirst hlater
    exact ⟨hordered, fun code => (hjoined code).trans (hcovered code)⟩

/-- The set of all code points in some ranges. -/
def ofRanges (ranges : List (Nat × Nat)) : CodePointSet := ⟨merged ranges, (merged_spec ranges).1⟩

@[simp] theorem containsCode_ofRanges_iff :
    (ofRanges ranges).containsCode code = true ↔ code ≤ last ∧ Covered ranges code := by
  rw [containsCode_iff]
  exact (merged_spec ranges).2 code

/-- All code points from `low` to `high`. -/
def range (low high : Nat) : CodePointSet := ofRanges [(low, high)]

/-- The set of one character. -/
def singleton (c : Char) : CodePointSet := range c.toNat c.toNat

@[simp] theorem containsCode_range_iff : (range low high).containsCode code = true
    ↔ code ≤ last ∧ low ≤ code ∧ code ≤ high := by
  rw [range, containsCode_ofRanges_iff, covered_cons_iff, or_iff_left covered_nil]

@[simp] theorem containsCode_singleton_iff {c : Char} :
    (singleton c).containsCode code = true ↔ code = c.toNat := by
  have := toNat_le_last c
  rw [singleton, containsCode_range_iff]
  omega

@[simp] theorem contains_singleton_iff {c d : Char} :
    (singleton c).contains d = true ↔ d = c := by
  rw [contains, containsCode_singleton_iff, Char.toNat_inj]

/-! ### Operations -/

/-- All code points in one of two sets. -/
def union (s t : CodePointSet) : CodePointSet := ofRanges (s.ranges ++ t.ranges)

@[simp] theorem containsCode_union_iff : (s.union t).containsCode code = true
    ↔ s.containsCode code = true ∨ t.containsCode code = true := by
  rw [union, containsCode_ofRanges_iff, covered_append_iff, ← containsCode_iff, ← containsCode_iff,
    and_iff_right_iff_imp]
  rintro (h | h) <;> exact le_last_of_containsCode h

/-- The gaps between ranges, from `start` on. -/
def gaps (start : Nat) : List (Nat × Nat) → List (Nat × Nat)
  | [] => if start ≤ last then [(start, last)] else []
  | (low, high) :: rest =>
    if start < low then (start, low - 1) :: gaps (high + 1) rest else gaps (high + 1) rest

/-- The gaps between ranges are in order, do not begin before `start`, and cover what the ranges
leave out. -/
theorem gaps_spec (h : Ordered ranges) (hstart : ∀ range ∈ ranges, start ≤ range.1) :
    Ordered (gaps start ranges) ∧ (∀ range ∈ gaps start ranges, start ≤ range.1)
      ∧ ∀ code, start ≤ code → code ≤ last →
        (Covered (gaps start ranges) code ↔ ¬ Covered ranges code) := by
  induction ranges generalizing start with
  | nil =>
    rw [gaps]
    split
    · next hle =>
      refine ⟨ordered_cons hle (Nat.le_refl _) ordered_nil (by simp), by simp,
        fun code hfirst hlast => ?_⟩
      simp [covered_cons_iff, covered_nil, hfirst, hlast]
    · exact ⟨ordered_nil, by simp, fun code hfirst hlast => by omega⟩
  | cons range rest ih =>
    obtain ⟨low, high⟩ := range
    have hlow : start ≤ low := hstart _ List.mem_cons_self
    have hhigh : low ≤ high := h.nonempty _ List.mem_cons_self
    have hlast : high ≤ last := h.bounded _ List.mem_cons_self
    have happart := (List.pairwise_cons.mp h.apart).1
    obtain ⟨hordered, hfirst, hcovered⟩ := ih h.tail fun r hr =>
      Nat.le_of_lt (happart r hr)
    have hrest (code : Nat) (hcode : code ≤ high) :
        ¬ Covered rest code ∧ ¬ Covered (gaps (high + 1) rest) code := by
      constructor <;> rintro ⟨r, hr, hle, -⟩
      · have := happart r hr
        simp only at this
        omega
      · have := hfirst r hr
        omega
    rw [gaps]
    split
    · next hlt =>
      refine ⟨ordered_cons (by omega) (by omega) hordered fun r hr => ?_, ?_,
        fun code hcode hlast => ?_⟩
      · have := hfirst r hr
        omega
      · intro r hr
        rcases List.mem_cons.mp hr with rfl | hr
        · exact Nat.le_refl _
        · have := hfirst r hr
          omega
      · rw [covered_cons_iff, covered_cons_iff, not_or]
        by_cases hle : code ≤ high
        · obtain ⟨hnone, hgap⟩ := hrest code hle
          simp only [hnone, hgap, or_false, not_false_iff, and_true]
          omega
        · rw [hcovered code (by omega) hlast, or_iff_right (by omega), and_iff_right (by omega)]
    · refine ⟨hordered, fun r hr => ?_, fun code hcode hlast => ?_⟩
      · have := hfirst r hr
        omega
      · rw [covered_cons_iff, not_or]
        by_cases hle : code ≤ high
        · obtain ⟨hnone, hgap⟩ := hrest code hle
          simp only [hnone, hgap, not_false_iff, and_true, false_iff]
          omega
        · rw [hcovered code (by omega) hlast, and_iff_right (by omega)]

/-- All code points outside a set. -/
def complement (s : CodePointSet) : CodePointSet :=
  ⟨gaps 0 s.ranges, (gaps_spec s.isOrdered fun _ _ => Nat.zero_le _).1⟩

theorem containsCode_complement_iff : s.complement.containsCode code = true
    ↔ code ≤ last ∧ ¬ s.containsCode code = true := by
  have hgaps := (gaps_spec s.isOrdered fun _ _ => Nat.zero_le _).2.2 code (Nat.zero_le code)
  rw [containsCode_iff (s := s)]
  constructor
  · intro h
    have hlast := le_last_of_containsCode h
    exact ⟨hlast, (hgaps hlast).mp (containsCode_iff.mp h)⟩
  · rintro ⟨hlast, h⟩
    exact containsCode_iff.mpr ((hgaps hlast).mpr h)

/-- All code points in both of two sets. -/
def intersection (s t : CodePointSet) : CodePointSet :=
  (s.complement.union t.complement).complement

/-- All code points in the first set and not in the second. -/
def difference (s t : CodePointSet) : CodePointSet := s.intersection t.complement

/-- All code points in exactly one of two sets. -/
def symmetricDifference (s t : CodePointSet) : CodePointSet :=
  (s.difference t).union (t.difference s)

/-- A set of ASCII characters alone. -/
def isAscii (s : CodePointSet) : Bool := s.ranges.all fun (_, high) => high < 0x80

@[simp] theorem containsCode_intersection_iff : (s.intersection t).containsCode code = true
    ↔ s.containsCode code = true ∧ t.containsCode code = true := by
  rw [intersection, containsCode_complement_iff, containsCode_union_iff,
    containsCode_complement_iff, containsCode_complement_iff]
  constructor
  · rintro ⟨hlast, h⟩
    simpa [hlast] using h
  · rintro ⟨hs, ht⟩
    simp [hs, ht, le_last_of_containsCode hs]

@[simp] theorem containsCode_difference_iff : (s.difference t).containsCode code = true
    ↔ s.containsCode code = true ∧ ¬ t.containsCode code = true := by
  rw [difference, containsCode_intersection_iff, containsCode_complement_iff]
  refine and_congr_right fun hs => ?_
  rw [and_iff_right (le_last_of_containsCode hs)]

@[simp] theorem containsCode_symmetricDifference_iff :
    (s.symmetricDifference t).containsCode code = true
      ↔ s.containsCode code = true ∧ ¬ t.containsCode code = true
        ∨ t.containsCode code = true ∧ ¬ s.containsCode code = true := by
  rw [symmetricDifference, containsCode_union_iff, containsCode_difference_iff,
    containsCode_difference_iff]

/-! ### Tables -/

/-- The value of a hexadecimal digit, as tables write it. -/
def hexValue (c : Char) : Nat :=
  if c.isDigit then c.toNat - '0'.toNat else c.toNat - 'A'.toNat + 10

/-- The number that hexadecimal digits denote. -/
def hexNumber (digits : List Char) : Nat := digits.foldl (fun n c => 16 * n + hexValue c) 0

/-- The words of a text, which blanks separate. -/
def words (text : String) : List (List Char) :=
  let (last, done) := text.toList.foldl
    (fun (word, done) c => if c.isWhitespace then ([], word.reverse :: done) else (c :: word, done))
    ([], [])
  (last.reverse :: done).reverse.filter (! ·.isEmpty)

/-- The range that a word such as `41-5A` or `AA` denotes. -/
def wordRange (word : List Char) : Nat × Nat :=
  let low := word.takeWhile (· ≠ '-')
  let high := (word.dropWhile (· ≠ '-')).drop 1
  (hexNumber low, hexNumber (if high.isEmpty then low else high))

/-- The set of the ranges that a table lists. -/
def ofText (table : String) : CodePointSet := ofRanges ((words table).map wordRange)

end CodePointSet

end DocQuery.Unicode
