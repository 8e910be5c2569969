import DocQuery.Proofs.RegexSearch
import DocQuery.Proofs.SelectorEntries
import DocQuery.Regex

/-!
Regular expressions mean what is written: the short forms of patterns, in which their size is
counted, match the same as the parts they are made of, and the flags that are set where a part
stands decide what it matches.

* `Pattern.leads_ofSet`, `Pattern.leads_chain`, `Pattern.leads_choose` and
  `Pattern.leads_repeated` (**short forms**);
* `ClassSet.Has` (**members of a class**) and `Pattern.containsCode_classSet_iff`;
* `Ast.Leads` (**meaning**): the places between which a pattern matches as it is written;
* `Pattern.leads_ofPart_iff`: by induction on the parts of a pattern;
* `Regex.isMatch_iff_leads` (**main statement**).
-/

namespace DocQuery.Regex

open Unicode CodePointSet

/-! ### One character -/

/-- A step over a character of which something holds. -/
def Takes (text : List Char) (holds : Nat → Prop) (i j : Nat) : Prop :=
  ∃ c, text[i]? = some c ∧ holds c.toNat ∧ j = i + 1

namespace Pattern

variable {text : List Char} {i j : Nat}

lemma takes_congr {holds holds' : Nat → Prop} (h : ∀ n, holds n ↔ holds' n) :
    Takes text holds i j ↔ Takes text holds' i j := by
  simp only [Takes, h]

lemma leads_literal_singleton {c : Char} :
    (literal [c]).Leads text i j ↔ Takes text (· = c.toNat) i j := by
  rw [Leads, cons_prefix_drop_iff]
  constructor
  · rintro ⟨⟨hc, -⟩, rfl⟩
    exact ⟨c, hc, rfl, rfl⟩
  · rintro ⟨d, hd, heq, rfl⟩
    obtain rfl : d = c := Char.toNat_inj.mp heq
    exact ⟨⟨hd, List.nil_prefix⟩, rfl⟩

/-- The characters in a range of code points are those in its parts beside the surrogates. -/
lemma covered_characterRanges_iff {ranges : List (Nat × Nat)} (c : Char) :
    Covered (ranges.flatMap characterRanges) c.toNat ↔ Covered ranges c.toNat := by
  have hvalid : c.toNat < 0xD800 ∨ 0xDFFF < c.toNat := by
    rcases c.valid with h | h
    · exact .inl h
    · exact .inr h.1
  induction ranges with
  | nil => simp
  | cons range rest ih =>
    rw [List.flatMap_cons, covered_append_iff, covered_cons_iff]
    refine or_congr ?_ ih
    simp only [Covered, characterRanges, List.mem_filter, List.mem_cons, List.not_mem_nil, or_false,
      decide_eq_true_eq]
    constructor
    · rintro ⟨-, ⟨rfl | rfl, -⟩, hlow, hhigh⟩
      · exact ⟨hlow, by omega⟩
      · exact ⟨by omega, hhigh⟩
    · rintro ⟨hlow, hhigh⟩
      rcases hvalid with h | h
      · exact ⟨_, ⟨.inl rfl, by omega⟩, hlow, by omega⟩
      · exact ⟨_, ⟨.inr rfl, by omega⟩, by omega, hhigh⟩

/-- **Sets.**  One character out of a set. -/
lemma leads_ofSet {s : CodePointSet} :
    (ofSet s).Leads text i j ↔ Takes text (fun n => s.containsCode n = true) i j := by
  have hranges (c : Char) :
      Covered (s.ranges.flatMap characterRanges) c.toNat ↔ s.containsCode c.toNat = true := by
    rw [covered_characterRanges_iff, containsCode_iff]
  have hset (ranges : List (Nat × Nat)) (h : s.ranges.flatMap characterRanges = ranges) :
      (oneOf (.ofRanges ranges)).Leads text i j
        ↔ Takes text (fun n => s.containsCode n = true) i j := by
    rw [Leads]
    refine exists_congr fun c => and_congr_right fun _ => and_congr_left' ?_
    rw [contains, containsCode_ofRanges_iff, and_iff_right (toNat_le_last c), ← h, hranges]
  rw [ofSet]
  split
  · next low high hone =>
    split
    · next hchar =>
      obtain ⟨rfl, hvalid⟩ := hchar
      rw [leads_literal_singleton]
      refine exists_congr fun c => and_congr_right fun _ => and_congr_left' ?_
      have hc := hranges c
      rw [hone, covered_cons_iff, or_iff_left covered_nil] at hc
      have hlow : (Char.ofNat low).toNat = low := by
        rw [Char.ofNat, dif_pos hvalid]
        rfl
      rw [hlow]
      exact (Nat.le_antisymm_iff.trans and_comm).trans hc
    · exact hset _ hone
  · exact hset _ rfl

/-! ### Sequences -/

lemma leadThrough_append {ps qs : List Pattern} :
    LeadThrough text (ps ++ qs) i j
      ↔ ∃ k, LeadThrough text ps i k ∧ LeadThrough text qs k j := by
  induction ps generalizing i with
  | nil => simp [LeadThrough]
  | cons p rest ih =>
    simp only [List.cons_append, LeadThrough, ih]
    constructor
    · rintro ⟨m, hp, k, hrest, hqs⟩
      exact ⟨k, ⟨m, hp, hrest⟩, hqs⟩
    · rintro ⟨k, ⟨m, hp, hrest⟩, hqs⟩
      exact ⟨m, hp, k, hrest, hqs⟩

lemma leadThrough_singleton {p : Pattern} : LeadThrough text [p] i j ↔ p.Leads text i j := by
  simp [LeadThrough]

lemma leadThrough_parts (p : Pattern) : LeadThrough text p.parts i j ↔ p.Leads text i j := by
  cases p with
  | seq ps => rfl
  | _ => exact leadThrough_singleton

lemma leadThrough_flatMap_parts {ps : List Pattern} :
    LeadThrough text (ps.flatMap parts) i j ↔ LeadThrough text ps i j := by
  induction ps generalizing i with
  | nil => rfl
  | cons p rest ih =>
    simp only [List.flatMap_cons, leadThrough_append, leadThrough_parts, ih, LeadThrough]

lemma append_prefix_drop_iff {cs ds : List Char} :
    cs ++ ds <+: text.drop i ↔ cs <+: text.drop i ∧ ds <+: text.drop (i + cs.length) := by
  induction cs generalizing i with
  | nil => simp
  | cons c rest ih =>
    rw [List.cons_append, cons_prefix_drop_iff, cons_prefix_drop_iff, ih, List.length_cons,
      and_assoc, Nat.add_right_comm, Nat.add_assoc]

lemma leads_literal_append {cs ds : List Char} :
    (literal (cs ++ ds)).Leads text i j
      ↔ ∃ k, (literal cs).Leads text i k ∧ (literal ds).Leads text k j := by
  simp only [Leads, append_prefix_drop_iff, List.length_append]
  constructor
  · rintro ⟨⟨hcs, hds⟩, rfl⟩
    exact ⟨_, ⟨hcs, rfl⟩, hds, (Nat.add_assoc _ _ _).symm⟩
  · rintro ⟨k, ⟨hcs, rfl⟩, hds, rfl⟩
    exact ⟨⟨hcs, hds⟩, Nat.add_assoc _ _ _⟩

lemma leadThrough_prepend {p : Pattern} {ps : List Pattern} :
    LeadThrough text (prepend p ps) i j ↔ LeadThrough text (p :: ps) i j := by
  fun_cases prepend p ps with
  | case1 => simp [LeadThrough, Leads]
  | case2 cs ds rest =>
    simp only [LeadThrough, leads_literal_append]
    constructor
    · rintro ⟨k, ⟨m, hcs, hds⟩, hrest⟩
      exact ⟨m, hcs, k, hds, hrest⟩
    · rintro ⟨m, hcs, k, hds, hrest⟩
      exact ⟨k, ⟨m, hcs, hds⟩, hrest⟩
  | case3 => rfl

/-- **Sequences.**  Several patterns, one after the other. -/
lemma leads_chain {ps : List Pattern} :
    (chain ps).Leads text i j ↔ LeadThrough text ps i j := by
  have hjoined (qs : List Pattern) (i : Nat) :
      LeadThrough text (qs.foldr prepend []) i j ↔ LeadThrough text qs i j := by
    induction qs generalizing i with
    | nil => rfl
    | cons q rest ih =>
      rw [List.foldr_cons, leadThrough_prepend]
      simp only [LeadThrough, ih]
  rw [← leadThrough_flatMap_parts, ← hjoined, chain]
  split
  · next hnil => rw [hnil, Leads, LeadThrough]
  · next p hone => rw [hone, leadThrough_singleton]
  · rw [Leads]

/-! ### Choices -/

lemma someLeads_iff {ps : List Pattern} :
    SomeLeads text ps i j ↔ ∃ p ∈ ps, p.Leads text i j := by
  induction ps with
  | nil => simp [SomeLeads]
  | cons p rest ih => simp [SomeLeads, ih]

lemma someLeads_append {ps qs : List Pattern} :
    SomeLeads text (ps ++ qs) i j ↔ SomeLeads text ps i j ∨ SomeLeads text qs i j := by
  simp only [someLeads_iff, List.mem_append, or_and_right, exists_or]

lemma someLeads_singleton {p : Pattern} : SomeLeads text [p] i j ↔ p.Leads text i j := by
  simp [SomeLeads]

lemma someLeads_branches (p : Pattern) : SomeLeads text p.branches i j ↔ p.Leads text i j := by
  cases p with
  | choice ps => rfl
  | _ => exact someLeads_singleton

lemma someLeads_flatMap_branches {ps : List Pattern} :
    SomeLeads text (ps.flatMap branches) i j ↔ SomeLeads text ps i j := by
  induction ps with
  | nil => rfl
  | cons p rest ih =>
    rw [List.flatMap_cons, someLeads_append, someLeads_branches, ih, SomeLeads]

/-- Patterns that are all read as something lead where one of the readings leads. -/
lemma someLeads_of_mapM {α : Type} {read : Pattern → Option α} {leads : α → Nat → Nat → Prop}
    (hread : ∀ p a, read p = some a → ∀ i j, p.Leads text i j ↔ leads a i j)
    {ps : List Pattern} {as : List α} (h : ps.mapM read = some as) :
    SomeLeads text ps i j ↔ ∃ a ∈ as, leads a i j := by
  induction ps generalizing as with
  | nil =>
    cases h
    simp [SomeLeads]
  | cons p rest ih =>
    simp only [List.mapM_cons, Option.bind_eq_bind, Option.bind_eq_some_iff, Option.pure_def,
      Option.some.injEq] at h
    obtain ⟨a, ha, as, has, rfl⟩ := h
    rw [SomeLeads, hread p a ha, ih has, List.exists_mem_cons_iff]

lemma leads_of_single? (p : Pattern) (s : CodePointSet) (h : p.single? = some s) (i j : Nat) :
    p.Leads text i j ↔ Takes text (fun n => s.containsCode n = true) i j := by
  unfold single? at h
  split at h
  · next c =>
    obtain rfl := Option.some.inj h
    rw [leads_literal_singleton]
    refine exists_congr fun d => and_congr_right fun _ => and_congr_left' ?_
    exact Char.toNat_inj.trans contains_singleton_iff.symm
  · cases h

lemma leads_of_set? (p : Pattern) (s : CodePointSet) (h : p.set? = some s) (i j : Nat) :
    p.Leads text i j ↔ Takes text (fun n => s.containsCode n = true) i j := by
  unfold set? at h
  split at h
  · obtain rfl := Option.some.inj h
    rw [Leads]
    rfl
  · cases h

lemma leads_of_seq? (p : Pattern) (ps : List Pattern) (h : p.seq? = some ps) (i j : Nat) :
    p.Leads text i j ↔ LeadThrough text ps i j := by
  unfold seq? at h
  split at h
  · obtain rfl := Option.some.inj h
    rw [Leads]
  · cases h

lemma leads_alternatives {ps : List Pattern} :
    (alternatives ps).Leads text i j ↔ SomeLeads text ps i j := by
  rw [alternatives]
  split
  · next sets h =>
    have hsets : SomeLeads text ps i j
        ↔ ∃ s ∈ sets, Takes text (fun n => s.containsCode n = true) i j := by
      rw [Option.orElse_eq_or, Option.or_eq_some_iff] at h
      rcases h with h | ⟨-, h⟩
      · exact someLeads_of_mapM leads_of_single? h
      · exact someLeads_of_mapM leads_of_set? h
    have hmem (c : Char) : (ofRanges (sets.flatMap (·.ranges))).containsCode c.toNat = true
        ↔ ∃ s ∈ sets, s.containsCode c.toNat = true := by
      rw [containsCode_ofRanges_iff, and_iff_right (toNat_le_last c)]
      simp only [containsCode_iff, Covered, List.mem_flatMap]
      constructor
      · rintro ⟨range, ⟨s, hs, hrange⟩, hc⟩
        exact ⟨s, hs, range, hrange, hc⟩
      · rintro ⟨s, hs, range, hrange, hc⟩
        exact ⟨range, ⟨s, hs, hrange⟩, hc⟩
    rw [leads_ofSet, hsets]
    constructor
    · rintro ⟨c, hc, hholds, hj⟩
      obtain ⟨s, hs, hmember⟩ := (hmem c).mp hholds
      exact ⟨s, hs, c, hc, hmember, hj⟩
    · rintro ⟨s, hs, c, hc, hmember, hj⟩
      exact ⟨c, hc, (hmem c).mpr ⟨s, hs, hmember⟩, hj⟩
  · rw [Leads]

mutual

/-- Patterns are only taken for the same if they are. -/
lemma eq_of_same (p q : Pattern) (h : p.same q = true) : p = q := by
  unfold same at h
  split at h
  · rfl
  · rw [of_decide_eq_true h]
  · rw [of_decide_eq_true h]
  · rw [of_decide_eq_true h]
  · next m p n q =>
    obtain ⟨hm, hp⟩ := Bool.and_eq_true_iff.mp h
    rw [of_decide_eq_true hm, eq_of_same p q hp]
  · rw [eq_of_sameParts _ _ h]
  · rw [eq_of_sameParts _ _ h]
  · simp only [Bool.and_eq_true, decide_eq_true_eq] at h
    obtain ⟨⟨⟨rfl, rfl⟩, rfl⟩, hp⟩ := h
    rw [eq_of_same _ _ hp]
  · cases h

lemma eq_of_sameParts (ps qs : List Pattern) (h : sameParts ps qs = true) : ps = qs := by
  unfold sameParts at h
  split at h
  · rfl
  · obtain ⟨hp, hps⟩ := Bool.and_eq_true_iff.mp h
    rw [eq_of_same _ _ hp, eq_of_sameParts _ _ hps]
  · cases h

end

lemma commonParts_prefix (ps qs : List Pattern) :
    commonParts ps qs <+: ps ∧ commonParts ps qs <+: qs := by
  fun_induction commonParts ps qs with
  | case1 p ps q qs hsame ih =>
    obtain rfl := eq_of_same p q hsame
    exact ⟨List.cons_prefix_cons.mpr ⟨rfl, ih.1⟩, List.cons_prefix_cons.mpr ⟨rfl, ih.2⟩⟩
  | case2 => exact ⟨List.nil_prefix, List.nil_prefix⟩
  | case3 => exact ⟨List.nil_prefix, List.nil_prefix⟩

lemma foldl_commonParts_prefix (first : List Pattern) (rest : List (List Pattern)) :
    rest.foldl commonParts first <+: first ∧ ∀ ps ∈ rest, rest.foldl commonParts first <+: ps := by
  induction rest generalizing first with
  | nil => simp
  | cons ps rest ih =>
    obtain ⟨hfirst, hrest⟩ := ih (commonParts first ps)
    obtain ⟨hleft, hright⟩ := commonParts_prefix first ps
    rw [List.foldl_cons, List.forall_mem_cons]
    exact ⟨hfirst.trans hleft, hfirst.trans hright, hrest⟩

/-- What several patterns start with, and what each goes on with, make up the patterns. -/
lemma someLeads_of_commonBeginning? {ps common : List Pattern} {rests : List (List Pattern)}
    (h : commonBeginning? ps = some (common, rests)) : SomeLeads text ps i j
      ↔ ∃ k, LeadThrough text common i k ∧ ∃ rest ∈ rests, LeadThrough text rest k j := by
  unfold commonBeginning? at h
  split at h
  · cases h
  · cases h
  · next first later hseqs =>
    simp only [Option.ite_none_left_eq_some, Option.some.injEq, Prod.mk.injEq] at h
    obtain ⟨-, hcommon, rfl⟩ := h
    obtain ⟨hfirst, hlater⟩ := foldl_commonParts_prefix first later
    rw [hcommon] at hfirst hlater ⊢
    have hbegin : ∀ qs ∈ first :: later, common <+: qs := List.forall_mem_cons.mpr ⟨hfirst, hlater⟩
    rw [someLeads_of_mapM leads_of_seq? hseqs]
    simp only [List.mem_map, exists_exists_and_eq_and]
    constructor
    · rintro ⟨qs, hqs, h⟩
      rw [List.prefix_append_drop (hbegin qs hqs), leadThrough_append] at h
      obtain ⟨k, hk, hrest⟩ := h
      exact ⟨k, hk, qs, hqs, hrest⟩
    · rintro ⟨k, hk, qs, hqs, hrest⟩
      refine ⟨qs, hqs, ?_⟩
      rw [List.prefix_append_drop (hbegin qs hqs), leadThrough_append]
      exact ⟨k, hk, hrest⟩

/-- **Choices.**  One of several patterns. -/
lemma leads_choose {ps : List Pattern} : (choose ps).Leads text i j ↔ SomeLeads text ps i j := by
  rw [← someLeads_flatMap_branches, choose]
  split
  · next p hone => rw [hone, someLeads_singleton]
  · split
    · next common rests h =>
      rw [someLeads_of_commonBeginning? h, leads_chain, leadThrough_append]
      refine exists_congr fun k => and_congr_right fun _ => ?_
      rw [leadThrough_singleton, leads_alternatives, someLeads_iff]
      simp only [List.mem_map, exists_exists_and_eq_and, leads_chain]
    · exact leads_alternatives

/-! ### Repetitions -/

lemma eq_of_rounds {step : Nat → Nat → Prop} (h : ∀ i j, step i j → i = j) {n i j : Nat}
    (hrounds : Rounds step n i j) : i = j := by
  induction n generalizing i with
  | zero => exact hrounds
  | succ n ih =>
    obtain ⟨k, hstep, hrest⟩ := hrounds
    exact (h i k hstep).trans (ih hrest)

mutual

/-- A pattern that takes nothing does not lead anywhere else. -/
lemma eq_of_takesNothing : ∀ (p : Pattern) (i j : Nat), p.takesNothing = true →
    p.Leads text i j → i = j
  | .empty, i, j, _, h => h
  | .condition _, i, j, _, h => h.2
  | .capture _ body, i, j, hnothing, h => eq_of_takesNothing body i j hnothing h
  | .seq ps, i, j, hnothing, h => eq_of_leadThrough ps i j hnothing h
  | .choice ps, i, j, hnothing, h => eq_of_someLeads ps i j hnothing h
  | .repetition least most _ body, i, j, hnothing, ⟨k, n, hleast, _, hmore⟩ => by
    have hbody (i j : Nat) : Leads text body i j → i = j :=
      eq_of_takesNothing body i j (Bool.and_eq_true_iff.mp hnothing).2
    exact (eq_of_rounds hbody hleast).trans (eq_of_rounds hbody hmore)

lemma eq_of_leadThrough : ∀ (ps : List Pattern) (i j : Nat), allTakeNothing ps = true →
    LeadThrough text ps i j → i = j
  | [], i, j, _, h => h
  | p :: ps, i, j, hnothing, ⟨k, hfirst, hrest⟩ => by
    obtain ⟨hp, hps⟩ := Bool.and_eq_true_iff.mp hnothing
    exact (eq_of_takesNothing p i k hp hfirst).trans (eq_of_leadThrough ps k j hps hrest)

lemma eq_of_someLeads : ∀ (ps : List Pattern) (i j : Nat), allTakeNothing ps = true →
    SomeLeads text ps i j → i = j
  | p :: ps, i, j, hnothing, h => by
    obtain ⟨hp, hps⟩ := Bool.and_eq_true_iff.mp hnothing
    rcases h with h | h
    · exact eq_of_takesNothing p i j hp h
    · exact eq_of_someLeads ps i j hps h

end

/-- Rounds that lead nowhere else are possible as soon as one is. -/
lemma rounds_iff_of_stays {step : Nat → Nat → Prop} (h : ∀ i j, step i j → i = j) {n i j : Nat} :
    Rounds step n i j ↔ i = j ∧ (n = 0 ∨ step i i) := by
  constructor
  · intro hrounds
    refine ⟨eq_of_rounds h hrounds, ?_⟩
    cases n with
    | zero => exact .inl rfl
    | succ n =>
      obtain ⟨k, hstep, -⟩ := hrounds
      obtain rfl := h i k hstep
      exact .inr hstep
  · rintro ⟨rfl, hn⟩
    induction n with
    | zero => rfl
    | succ n ih =>
      have hstep := hn.resolve_left (Nat.succ_ne_zero n)
      exact ⟨i, hstep, ih (.inr hstep)⟩

lemma leads_repetition_iff_of_takesNothing {least : Nat} {most : Option Nat} {isGreedy : Bool}
    {body : Pattern} (h : body.takesNothing = true) :
    (repetition least most isGreedy body).Leads text i j
      ↔ i = j ∧ (least = 0 ∨ body.Leads text i i) := by
  have hbody (i j : Nat) : body.Leads text i j → i = j := eq_of_takesNothing body i j h
  rw [Leads]
  constructor
  · rintro ⟨k, n, hleast, -, hmore⟩
    obtain rfl := eq_of_rounds hbody hmore
    exact (rounds_iff_of_stays hbody).mp hleast
  · intro hleast
    exact ⟨j, 0, (rounds_iff_of_stays hbody).mpr hleast, fun _ _ => Nat.zero_le _, rfl⟩

/-- **Repetitions.**  A pattern repeated at least and at most so many times. -/
lemma leads_repeated {least : Nat} {most : Option Nat} {isGreedy : Bool} {body : Pattern} :
    (repeated least most isGreedy body).Leads text i j
      ↔ (repetition least most isGreedy body).Leads text i j := by
  have hshort (least : Nat) (most : Option Nat) :
      (if least = 0 ∧ most = some 0 then .empty
        else if least = 1 ∧ most = some 1 then body
        else repetition least most isGreedy body).Leads text i j
        ↔ (repetition least most isGreedy body).Leads text i j := by
    split
    · next h =>
      obtain ⟨rfl, rfl⟩ := h
      simp [Leads, Rounds]
    · split
      · next h =>
        obtain ⟨rfl, rfl⟩ := h
        simp [Leads, Rounds]
      · rfl
  rw [repeated, hshort]
  split
  · next h =>
    rw [leads_repetition_iff_of_takesNothing h, leads_repetition_iff_of_takesNothing h]
    refine and_congr_right fun _ => or_congr_left ?_
    omega
  · rfl

end Pattern

/-! ### Classes -/

/-- Code points that differ in case alone; without Unicode only ASCII letters do. -/
def Variant (unicode : Bool) (m n : Nat) : Prop :=
  if unicode then CaseFolding.Alike m n
  else m = n ∨ 'A'.toNat ≤ m ∧ m ≤ 'Z'.toNat ∧ n = m + 32
    ∨ 'a'.toNat ≤ m ∧ m ≤ 'z'.toNat ∧ m = n + 32

/-- Something holds of a code point, or of a case variant of it if case does not matter. -/
def Folded (flags : Flags) (holds : Nat → Prop) (n : Nat) : Prop :=
  if flags.caseInsensitive then ∃ m, holds m ∧ Variant flags.unicode m n else holds n

/-- Something holds of a code point under the flags, or does not if it is negated. -/
def Finished (flags : Flags) (negated : Bool) (holds : Nat → Prop) (n : Nat) : Prop :=
  n ≤ last ∧ if negated then ¬ Folded flags holds n else Folded flags holds n

/-- A code point has the property that a name says. -/
def HasProperty (name : ClassName) (n : Nat) : Prop :=
  ∃ s, Pattern.propertyClass name = .ok s ∧ s.containsCode n = true

/-- A code point belongs to a class with a letter of its own. -/
def HasLetter (flags : Flags) (kind : LetterClass) (n : Nat) : Prop :=
  (Pattern.letterClass flags.unicode kind).containsCode n = true

namespace ClassSet

mutual

/-- The members of what stands between brackets. -/
def Has (flags : Flags) : ClassSet → Nat → Prop
  | .empty, _ => False
  | .literal l, n => n = l.char.toNat
  | .range low high, n => low.char.toNat ≤ n ∧ n ≤ high.char.toNat
  | .ascii _ kind negated, n =>
    Finished flags negated (fun m => (Pattern.asciiClass kind).containsCode m = true) n
  | .property _ name negated, n => Finished flags negated (HasProperty name) n
  | .letter _ kind negated, n =>
    Finished { flags with caseInsensitive := false } negated (HasLetter flags kind) n
  | .bracketed _ negated set, n => Finished flags negated (Has flags set) n
  | .union _ items, n => HasOne flags items n
  | .operation _ .intersection left right, n =>
    Folded flags (Has flags left) n ∧ Folded flags (Has flags right) n
  | .operation _ .difference left right, n =>
    Folded flags (Has flags left) n ∧ ¬ Folded flags (Has flags right) n
  | .operation _ .symmetricDifference left right, n =>
    Folded flags (Has flags left) n ∧ ¬ Folded flags (Has flags right) n
      ∨ Folded flags (Has flags right) n ∧ ¬ Folded flags (Has flags left) n

/-- The members of some sets together. -/
def HasOne (flags : Flags) : List ClassSet → Nat → Prop
  | [], _ => False
  | set :: rest, n => Has flags set n ∨ HasOne flags rest n

end

end ClassSet

namespace Pattern

variable {flags : Flags} {s t : CodePointSet} {n : Nat}

/-- The members of a set, moved without leaving the code points. -/
lemma covered_shift_iff {d : Int} (h : ∀ m, s.containsCode m = true → 0 ≤ m + d) :
    Covered (s.ranges.map fun (low, high) => ((low + d).toNat, (high + d).toNat)) n
      ↔ ∃ m, s.containsCode m = true ∧ (n : Int) = m + d := by
  simp only [Covered, List.mem_map, containsCode_iff]
  constructor
  · rintro ⟨-, ⟨range, hrange, rfl⟩, hlow, hhigh⟩
    have hle := s.isOrdered.nonempty range hrange
    have := h range.1 (containsCode_iff.mpr ⟨range, hrange, Nat.le_refl _, hle⟩)
    simp only at hlow hhigh
    exact ⟨((n : Int) - d).toNat, ⟨range, hrange, by omega, by omega⟩, by omega⟩
  · rintro ⟨m, ⟨range, hrange, hlow, hhigh⟩, hn⟩
    exact ⟨_, ⟨range, hrange, rfl⟩, by simp only; omega, by simp only; omega⟩

lemma containsCode_asciiRanges_singleton_iff {low high : Char} :
    (asciiRanges [(low, high)]).containsCode n = true ↔ low.toNat ≤ n ∧ n ≤ high.toNat := by
  have := toNat_le_last high
  rw [asciiRanges, containsCode_ofRanges_iff, List.map_singleton, covered_cons_iff,
    or_iff_left covered_nil]
  omega

lemma containsCode_foldCase_iff {unicode : Bool} : (foldCase unicode s).containsCode n = true
    ↔ ∃ m, s.containsCode m = true ∧ Variant unicode m n := by
  cases unicode with
  | true => simp [foldCase, Variant]
  | false =>
    have hupper (m : Nat) : (s.intersection (asciiRanges [('A', 'Z')])).containsCode m = true
        ↔ s.containsCode m = true ∧ 'A'.toNat ≤ m ∧ m ≤ 'Z'.toNat := by
      rw [containsCode_intersection_iff, containsCode_asciiRanges_singleton_iff]
    have hlower (m : Nat) : (s.intersection (asciiRanges [('a', 'z')])).containsCode m = true
        ↔ s.containsCode m = true ∧ 'a'.toNat ≤ m ∧ m ≤ 'z'.toNat := by
      rw [containsCode_intersection_iff, containsCode_asciiRanges_singleton_iff]
    have ha : 'a'.toNat = 97 := rfl
    have hz : 'z'.toNat = 122 := rfl
    have hA : 'A'.toNat = 65 := rfl
    have hZ : 'Z'.toNat = 90 := rfl
    simp only [foldCase, Bool.false_eq_true, if_false, containsCode_ofRanges_iff]
    rw [covered_append_iff, covered_append_iff, covered_shift_iff, covered_shift_iff,
      ← containsCode_iff]
    · simp only [hupper, hlower, Variant, Bool.false_eq_true, if_false]
      constructor
      · rintro ⟨-, (h | ⟨m, ⟨hm, hfirst, hlast⟩, hn⟩) | ⟨m, ⟨hm, hfirst, hlast⟩, hn⟩⟩
        · exact ⟨n, h, .inl rfl⟩
        · exact ⟨m, hm, .inr (.inl ⟨hfirst, hlast, by omega⟩)⟩
        · exact ⟨m, hm, .inr (.inr ⟨hfirst, hlast, by omega⟩)⟩
      · rintro ⟨m, hm, h⟩
        have hle := le_last_of_containsCode hm
        have hlast : last = 0x10FFFF := rfl
        refine ⟨by omega, ?_⟩
        rcases h with rfl | ⟨hfirst, hlast, hn⟩ | ⟨hfirst, hlast, hn⟩
        · exact .inl (.inl hm)
        · exact .inl (.inr ⟨m, ⟨hm, hfirst, hlast⟩, by omega⟩)
        · exact .inr ⟨m, ⟨hm, hfirst, hlast⟩, by omega⟩
    · intro m hm
      have := (hlower m).mp hm
      omega
    · intro m _
      omega

/-- A set that is closed under case variants if case does not matter. -/
lemma containsCode_folded_iff :
    (if flags.caseInsensitive then foldCase flags.unicode s else s).containsCode n = true
      ↔ Folded flags (fun m => s.containsCode m = true) n := by
  unfold Folded
  split
  · exact containsCode_foldCase_iff
  · rfl

lemma containsCode_finish_iff {span : Span} {negated : Bool}
    (h : finish flags span negated s = .ok t) : t.containsCode n = true
      ↔ Finished flags negated (fun m => s.containsCode m = true) n := by
  have hfolded := @containsCode_folded_iff flags s n
  unfold finish at h
  generalize (if flags.caseInsensitive then foldCase flags.unicode s else s) = folded at h hfolded
  have ht : (if negated then folded.complement else folded) = t := by
    rcases ite_eq_iff.mp h with ⟨-, h⟩ | ⟨-, h⟩
    · exact Except.ok.inj h
    · cases h
  rw [← ht]
  unfold Finished
  split
  · rw [containsCode_complement_iff, hfolded]
  · rw [hfolded]
    exact (and_iff_right_of_imp fun h => le_last_of_containsCode (hfolded.mpr h)).symm

lemma folded_of_iff (flags : Flags) {holds : Nat → Prop}
    (h : ∀ n, s.containsCode n = true ↔ holds n) (n : Nat) :
    (if flags.caseInsensitive then foldCase flags.unicode s else s).containsCode n = true
      ↔ Folded flags holds n := by
  rw [containsCode_folded_iff]
  simp only [Folded, h]

lemma finished_congr {negated : Bool} {holds holds' : Nat → Prop} (h : ∀ n, holds n ↔ holds' n) :
    Finished flags negated holds n ↔ Finished flags negated holds' n := by
  simp only [Finished, Folded, h]

lemma containsCode_property_iff {span : Span} {name : ClassName} {negated : Bool}
    (h : property flags span name negated = .ok t) :
    t.containsCode n = true ↔ Finished flags negated (HasProperty name) n := by
  unfold property at h
  split at h
  · cases h
  · split at h
    · next s hs =>
      rw [containsCode_finish_iff h]
      refine finished_congr fun m => ?_
      simp [HasProperty, hs]
    · cases h
    · cases h

lemma containsCode_letter_iff {span : Span} {kind : LetterClass} {negated : Bool}
    (h : letter flags span kind negated = .ok t) : t.containsCode n = true
      ↔ Finished { flags with caseInsensitive := false } negated (HasLetter flags kind) n :=
  containsCode_finish_iff h

lemma eq_of_character {l : Literal} {c : Char} (h : character flags l = .ok c) : c = l.char := by
  unfold character at h
  split at h
  · cases h
  · exact (Except.ok.inj h).symm

lemma eq_of_member {l : Literal} {c : Char} (h : member flags l = .ok c) : c = l.char := by
  obtain ⟨d, hd, h⟩ := bind_eq_ok_iff.mp h
  split at h
  · cases h
  · exact (Except.ok.inj h).symm.trans (eq_of_character hd)

mutual

/-- **Members of a class.**  What stands between brackets is read as the set of what it says. -/
lemma containsCode_classSet_iff : ∀ (set : ClassSet) (s : CodePointSet),
    classSet flags set = .ok s → ∀ n, (s.containsCode n = true ↔ set.Has flags n)
  | .empty, s, h, n => by
    obtain rfl := Except.ok.inj h
    simp [ClassSet.Has]
  | .literal l, s, h, n => by
    obtain ⟨c, hc, rfl⟩ := map_eq_ok_iff.mp h
    obtain rfl := eq_of_member hc
    rw [ClassSet.Has, containsCode_singleton_iff]
  | .range low high, s, h, n => by
    obtain ⟨c, hc, h⟩ := bind_eq_ok_iff.mp h
    obtain ⟨d, hd, h⟩ := bind_eq_ok_iff.mp h
    obtain rfl := Except.ok.inj h
    obtain rfl := eq_of_member hc
    obtain rfl := eq_of_member hd
    have := toNat_le_last high.char
    rw [ClassSet.Has, containsCode_range_iff]
    omega
  | .ascii span kind negated, s, h, n => by
    rw [ClassSet.Has, containsCode_finish_iff h]
  | .property span name negated, s, h, n => by
    rw [ClassSet.Has, containsCode_property_iff h]
  | .letter span kind negated, s, h, n => by
    rw [ClassSet.Has, containsCode_letter_iff h]
  | .bracketed span negated set, s, h, n => by
    obtain ⟨inner, hinner, h⟩ := bind_eq_ok_iff.mp h
    rw [ClassSet.Has, containsCode_finish_iff h]
    exact finished_congr (containsCode_classSet_iff set inner hinner)
  | .union _ items, s, h, n => by
    rw [ClassSet.Has]
    exact containsCode_classItems_iff items s h n
  | .operation _ kind left right, s, h, n => by
    obtain ⟨l, hl, h⟩ := bind_eq_ok_iff.mp h
    obtain ⟨r, hr, h⟩ := bind_eq_ok_iff.mp h
    have hleft := folded_of_iff flags (containsCode_classSet_iff left l hl) n
    have hright := folded_of_iff flags (containsCode_classSet_iff right r hr) n
    rw [← Except.ok.inj h]
    cases kind with
    | intersection => rw [ClassSet.Has, containsCode_intersection_iff, hleft, hright]
    | difference => rw [ClassSet.Has, containsCode_difference_iff, hleft, hright]
    | symmetricDifference =>
      rw [ClassSet.Has, containsCode_symmetricDifference_iff, hleft, hright]

lemma containsCode_classItems_iff : ∀ (items : List ClassSet) (s : CodePointSet),
    classItems flags items = .ok s → ∀ n, (s.containsCode n = true ↔ ClassSet.HasOne flags items n)
  | [], s, h, n => by
    obtain rfl := Except.ok.inj h
    simp [ClassSet.HasOne]
  | set :: rest, s, h, n => by
    obtain ⟨first, hfirst, h⟩ := bind_eq_ok_iff.mp h
    obtain ⟨later, hlater, h⟩ := bind_eq_ok_iff.mp h
    obtain rfl := Except.ok.inj h
    rw [containsCode_union_iff, ClassSet.HasOne, containsCode_classSet_iff set first hfirst,
      containsCode_classItems_iff rest later hlater]

end

end Pattern

/-! ### Parts of patterns -/

/-- A code point ends a line, as far as the dot stops there. -/
def EndsLine (flags : Flags) (n : Nat) : Prop :=
  flags.dotMatchesNewline = false ∧ (n = 0x0A ∨ flags.crlf = true ∧ n = 0x0D)

namespace Ast

mutual

/-- The flags behind a part of a pattern.  A group keeps those it switches to itself. -/
def flagsAfter (flags : Flags) : Ast → Flags
  | .flags items => flags.switch items
  | .repetition _ _ _ _ body => flagsAfter flags body
  | .alternation _ parts | .concat _ parts => flagsAfterParts flags parts
  | _ => flags

/-- The flags behind some parts. -/
def flagsAfterParts (flags : Flags) : List Ast → Flags
  | [] => flags
  | part :: rest => flagsAfterParts (flagsAfter flags part) rest

end

mutual

/-- The places between which a pattern matches that stands where the flags are set. -/
def Leads (text : List Char) (flags : Flags) : Ast → Nat → Nat → Prop
  | .empty, i, j | .flags _, i, j => i = j
  | .literal l, i, j => Takes text (Folded flags (· = l.char.toNat)) i j
  | .dot _, i, j => Takes text (¬ EndsLine flags ·) i j
  | .assertion kind, i, j => (Pattern.assertion flags kind).HoldsAt text i ∧ i = j
  | .property _ name negated, i, j =>
    Takes text (Finished flags negated (HasProperty name)) i j
  | .letter _ kind negated, i, j =>
    Takes text (Finished { flags with caseInsensitive := false } negated (HasLetter flags kind)) i j
  | .bracketed _ negated set, i, j => Takes text (Finished flags negated (set.Has flags)) i j
  | .repetition _ least most _ body, i, j =>
    ∃ k n, Rounds (Leads text flags body) least i k ∧ (∀ m, most = some m → n ≤ m - least)
      ∧ Rounds (Leads text flags body) n k j
  | .group _ _ items body, i, j => Leads text (flags.switch items) body i j
  | .alternation _ branches, i, j => SomeLeads text flags branches i j
  | .concat _ parts, i, j => LeadThrough text flags parts i j

/-- The places between which some parts match one after the other. -/
def LeadThrough (text : List Char) (flags : Flags) : List Ast → Nat → Nat → Prop
  | [], i, j => i = j
  | part :: rest, i, j =>
    ∃ k, Leads text flags part i k ∧ LeadThrough text (flagsAfter flags part) rest k j

/-- The places between which one of some branches matches. -/
def SomeLeads (text : List Char) (flags : Flags) : List Ast → Nat → Nat → Prop
  | [], _, _ => False
  | branch :: rest, i, j =>
    Leads text flags branch i j ∨ SomeLeads text (flagsAfter flags branch) rest i j

end

end Ast

namespace Pattern

variable {text : List Char}

lemma leads_ofLiteral_iff {flags : Flags} {l : Literal} {p : Pattern}
    (h : ofLiteral flags l = .ok p) (i j : Nat) :
    p.Leads text i j ↔ Takes text (Folded flags (· = l.char.toNat)) i j := by
  obtain ⟨c, hc, h⟩ := bind_eq_ok_iff.mp h
  obtain rfl := eq_of_character hc
  obtain rfl := Except.ok.inj h
  split
  · next hfold =>
    rw [leads_ofSet]
    refine takes_congr fun n => ?_
    rw [containsCode_foldCase_iff, Folded, if_pos hfold]
    simp only [containsCode_singleton_iff]
  · next hfold =>
    rw [leads_literal_singleton]
    refine takes_congr fun n => ?_
    rw [Folded, if_neg hfold]

lemma containsCode_lineEnds_iff {flags : Flags} {n : Nat} :
    (lineEnds flags).containsCode n = true ↔ EndsLine flags n := by
  have hlast : last = 0x10FFFF := rfl
  unfold lineEnds EndsLine
  split
  · next hall => simp [hall]
  · next hall =>
    have hall : flags.dotMatchesNewline = false := eq_false_of_ne_true hall
    split
    · next hcrlf =>
      rw [containsCode_ofRanges_iff, covered_cons_iff, covered_cons_iff, or_iff_left covered_nil]
      simp only [hall, hcrlf, true_and]
      omega
    · next hcrlf =>
      have hnewline : '\n'.toNat = 0x0A := rfl
      rw [containsCode_singleton_iff, hnewline]
      simp [hall, hcrlf]

lemma leads_dot_iff {flags : Flags} {span : Span} {p : Pattern} (h : dot flags span = .ok p)
    (i j : Nat) : p.Leads text i j ↔ Takes text (¬ EndsLine flags ·) i j := by
  unfold dot at h
  split at h
  · cases h
  · obtain rfl := Except.ok.inj h
    rw [leads_ofSet]
    refine exists_congr fun c => and_congr_right fun _ => and_congr_left' ?_
    have hc := @containsCode_complement_iff (lineEnds flags) c.toNat
    rwa [and_iff_right (toNat_le_last c), containsCode_lineEnds_iff] at hc

lemma leads_ofSet_of_iff {s : CodePointSet} {holds : Nat → Prop}
    (h : ∀ n, s.containsCode n = true ↔ holds n) (i j : Nat) :
    (ofSet s).Leads text i j ↔ Takes text holds i j :=
  leads_ofSet.trans (takes_congr h)

lemma rounds_congr {step step' : Nat → Nat → Prop} (h : ∀ i j, step i j ↔ step' i j)
    {n i j : Nat} : Rounds step n i j ↔ Rounds step' n i j := by
  have hsame : step = step' := funext fun i => funext fun j => propext (h i j)
  rw [hsame]

mutual

/-- **Meaning.**  A part of a pattern is read as a pattern that matches the same, under the flags
that are set where the part stands; the flags behind it are those it leaves set. -/
theorem leads_ofPart_iff : ∀ (ast : Ast) (flags flags' : Flags) (p : Pattern),
    ofPart flags ast = .ok (p, flags') →
      flags' = ast.flagsAfter flags ∧ ∀ i j, (p.Leads text i j ↔ ast.Leads text flags i j)
  | .empty, flags, flags', p, h => by
    obtain ⟨rfl, rfl⟩ := Prod.mk.inj (Except.ok.inj h)
    exact ⟨rfl, fun _ _ => .rfl⟩
  | .flags items, flags, flags', p, h => by
    obtain ⟨rfl, rfl⟩ := Prod.mk.inj (Except.ok.inj h)
    exact ⟨rfl, fun _ _ => .rfl⟩
  | .literal l, flags, flags', p, h => by
    obtain ⟨q, hq, h⟩ := map_eq_ok_iff.mp h
    obtain ⟨rfl, rfl⟩ := Prod.mk.inj h
    exact ⟨rfl, leads_ofLiteral_iff hq⟩
  | .dot span, flags, flags', p, h => by
    obtain ⟨q, hq, h⟩ := map_eq_ok_iff.mp h
    obtain ⟨rfl, rfl⟩ := Prod.mk.inj h
    exact ⟨rfl, leads_dot_iff hq⟩
  | .assertion kind, flags, flags', p, h => by
    obtain ⟨rfl, rfl⟩ := Prod.mk.inj (Except.ok.inj h)
    exact ⟨rfl, fun _ _ => .rfl⟩
  | .property span name negated, flags, flags', p, h => by
    obtain ⟨s, hs, h⟩ := map_eq_ok_iff.mp h
    obtain ⟨rfl, rfl⟩ := Prod.mk.inj h
    exact ⟨rfl, leads_ofSet_of_iff fun n => containsCode_property_iff hs⟩
  | .letter span kind negated, flags, flags', p, h => by
    obtain ⟨s, hs, h⟩ := map_eq_ok_iff.mp h
    obtain ⟨rfl, rfl⟩ := Prod.mk.inj h
    exact ⟨rfl, leads_ofSet_of_iff fun n => containsCode_letter_iff hs⟩
  | .bracketed span negated set, flags, flags', p, h => by
    obtain ⟨s, hs, h⟩ := bind_eq_ok_iff.mp h
    obtain ⟨t, ht, h⟩ := bind_eq_ok_iff.mp h
    obtain ⟨rfl, rfl⟩ := Prod.mk.inj (Except.ok.inj h)
    refine ⟨rfl, leads_ofSet_of_iff fun n => ?_⟩
    rw [containsCode_finish_iff ht]
    exact finished_congr (containsCode_classSet_iff set s hs)
  | .repetition span least most isGreedy body, flags, flags', p, h => by
    obtain ⟨⟨q, after⟩, hq, h⟩ := bind_eq_ok_iff.mp h
    obtain ⟨rfl, rfl⟩ := Prod.mk.inj (Except.ok.inj h)
    obtain ⟨rfl, hbody⟩ := leads_ofPart_iff body flags after q hq
    refine ⟨rfl, fun i j => ?_⟩
    rw [leads_repeated, Leads, Ast.Leads]
    simp only [rounds_congr hbody]
  | .group span number items body, flags, flags', p, h => by
    obtain ⟨⟨q, after⟩, hq, h⟩ := bind_eq_ok_iff.mp h
    obtain ⟨rfl, rfl⟩ := Prod.mk.inj (Except.ok.inj h)
    obtain ⟨-, hbody⟩ := leads_ofPart_iff body (flags.switch items) after q hq
    refine ⟨rfl, fun i j => ?_⟩
    rw [Ast.Leads, ← hbody]
    cases number <;> rfl
  | .alternation span branches, flags, flags', p, h => by
    obtain ⟨⟨ps, after⟩, hps, h⟩ := bind_eq_ok_iff.mp h
    obtain ⟨rfl, rfl⟩ := Prod.mk.inj (Except.ok.inj h)
    obtain ⟨rfl, -, hsome⟩ := leads_ofParts_iff branches flags after ps hps
    refine ⟨rfl, fun i j => ?_⟩
    rw [leads_choose, hsome, Ast.Leads]
  | .concat span parts, flags, flags', p, h => by
    obtain ⟨⟨ps, after⟩, hps, h⟩ := bind_eq_ok_iff.mp h
    obtain ⟨rfl, rfl⟩ := Prod.mk.inj (Except.ok.inj h)
    obtain ⟨rfl, hall, -⟩ := leads_ofParts_iff parts flags after ps hps
    refine ⟨rfl, fun i j => ?_⟩
    rw [leads_chain, hall, Ast.Leads]

theorem leads_ofParts_iff : ∀ (asts : List Ast) (flags flags' : Flags) (ps : List Pattern),
    ofParts flags asts = .ok (ps, flags') → flags' = Ast.flagsAfterParts flags asts
      ∧ (∀ i j, (LeadThrough text ps i j ↔ Ast.LeadThrough text flags asts i j))
      ∧ ∀ i j, (SomeLeads text ps i j ↔ Ast.SomeLeads text flags asts i j)
  | [], flags, flags', ps, h => by
    obtain ⟨rfl, rfl⟩ := Prod.mk.inj (Except.ok.inj h)
    exact ⟨rfl, fun _ _ => .rfl, fun _ _ => .rfl⟩
  | part :: rest, flags, flags', ps, h => by
    obtain ⟨⟨p, between⟩, hp, h⟩ := bind_eq_ok_iff.mp h
    obtain ⟨⟨qs, after⟩, hqs, h⟩ := bind_eq_ok_iff.mp h
    obtain ⟨rfl, rfl⟩ := Prod.mk.inj (Except.ok.inj h)
    obtain ⟨rfl, hpart⟩ := leads_ofPart_iff part flags between p hp
    obtain ⟨rfl, hall, hsome⟩ := leads_ofParts_iff rest (part.flagsAfter flags) after qs hqs
    refine ⟨rfl, fun i j => ?_, fun i j => ?_⟩
    · simp only [LeadThrough, Ast.LeadThrough, hpart, hall]
    · rw [SomeLeads, Ast.SomeLeads, hpart, hsome]

end

end Pattern

end DocQuery.Regex

namespace DocQuery

open Regex

/-- **Main statement.**  A text that denotes a regular expression is found to match exactly if the
expression, as it is written, leads from some place of the text to another. -/
theorem Regex.isMatch_iff_leads {source : String} {regex : Regex}
    (h : Regex.ofText source = .ok regex) : ∃ ast, Ast.ofText source = .ok ast
      ∧ ∀ text, regex.isMatch text = true
        ↔ ∃ i j, i ≤ text.toList.length ∧ ast.Leads text.toList .initial i j := by
  unfold Regex.ofText at h
  split at h
  · cases h
  · next p hp =>
    obtain ⟨ast, hast, hpattern⟩ := bind_eq_ok_iff.mp hp
    obtain ⟨⟨q, after⟩, hq, rfl⟩ := map_eq_ok_iff.mp hpattern
    split at h
    · obtain rfl := Except.ok.inj h
      refine ⟨ast, hast, fun text => ?_⟩
      rw [Regex.isMatch, Pattern.isMatch_iff_leads]
      simp only [(Pattern.leads_ofPart_iff ast .initial after q hq).2]
    · cases h

end DocQuery
