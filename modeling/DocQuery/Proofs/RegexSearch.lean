import DocQuery.Regex.Matcher
import Mathlib.Data.Finset.Card
import Mathlib.Data.Nat.Bitwise

/-!
What a regular expression means, and that the search for it finds exactly what it means.

A pattern leads from one place of a text to another: it takes the characters between them.  The
search follows all ways at once, with sets of places, and no repetition needs more rounds than the
text has places.

* `Pattern.Leads` (**meaning**): the places between which a pattern matches;
* `Plan.testBit_upTo_iff` (**rounds**): rounds up to a number of them;
* `Plan.testBit_upTo_all_iff` (**enough rounds**): as many as there are places;
* `Pattern.follows_plan` (**search from places**): by induction on the pattern;
* `Pattern.isMatch_iff_leads` (**main statement**).
-/

namespace DocQuery.Regex

/-! ### Meaning -/

/-- A number of steps, one after the other. -/
def Rounds (step : Nat → Nat → Prop) : Nat → Nat → Nat → Prop
  | 0, i, j => i = j
  | n + 1, i, j => ∃ k, step i k ∧ Rounds step n k j

/-- A condition holds between the characters around a place. -/
def Condition.HoldsAt (condition : Condition) (text : List Char) (i : Nat) : Prop :=
  i ≤ text.length ∧ condition.holds (text.take i).getLast? text[i]? = true

namespace Pattern

mutual

/-- The places between which a pattern matches. -/
def Leads (text : List Char) : Pattern → Nat → Nat → Prop
  | .empty, i, j => i = j
  | .literal cs, i, j => cs <+: text.drop i ∧ j = i + cs.length
  | .oneOf chars, i, j => ∃ c, text[i]? = some c ∧ chars.contains c = true ∧ j = i + 1
  | .condition c, i, j => c.HoldsAt text i ∧ i = j
  | .capture _ body, i, j => Leads text body i j
  | .seq ps, i, j => LeadThrough text ps i j
  | .choice ps, i, j => SomeLeads text ps i j
  | .repetition least most _ body, i, j =>
    ∃ k n, Rounds (Leads text body) least i k ∧ (∀ m, most = some m → n ≤ m - least)
      ∧ Rounds (Leads text body) n k j

/-- The places between which several patterns match one after the other. -/
def LeadThrough (text : List Char) : List Pattern → Nat → Nat → Prop
  | [], i, j => i = j
  | p :: ps, i, j => ∃ k, Leads text p i k ∧ LeadThrough text ps k j

/-- The places between which one of several patterns matches. -/
def SomeLeads (text : List Char) : List Pattern → Nat → Nat → Prop
  | [], _, _ => False
  | p :: ps, i, j => Leads text p i j ∨ SomeLeads text ps i j

end

end Pattern

/-! ### Sets of places -/

lemma Places.testBit_ofList (holds : List Bool) (i : Nat) :
    Nat.testBit (Places.ofList holds) i = (holds[i]?).getD false := by
  induction holds generalizing i with
  | nil => simp [Places.ofList]
  | cons b rest ih =>
    have hcons : Places.ofList (b :: rest) = 2 * Places.ofList rest + b.toNat := rfl
    have hbit := Bool.toNat_lt b
    have hlow (n : Nat) : (2 * n + b.toNat) % 2 = b.toNat := by omega
    have hhalf (n : Nat) : (2 * n + b.toNat) / 2 = n := by omega
    cases i with
    | zero =>
      rw [hcons, Nat.testBit_zero, hlow]
      cases b <;> rfl
    | succ i => rw [hcons, Nat.testBit_succ, hhalf, ih, List.getElem?_cons_succ]

lemma Places.testBit_double (places : Places) (j : Nat) :
    Nat.testBit (2 * places) j = true ↔ ∃ i, Nat.testBit places i = true ∧ j = i + 1 := by
  cases j with
  | zero => simp
  | succ j => simp [Nat.testBit_succ]

/-- What a condition says about each place. -/
lemma Condition.getElem?_atPlaces (condition : Condition) (before : Option Char)
    (text : List Char) (i : Nat) :
    (condition.atPlaces before text)[i]? = if i ≤ text.length
      then some (condition.holds ((text.take i).getLast?.or before) text[i]?) else none := by
  induction text generalizing before i with
  | nil => cases i <;> simp [atPlaces]
  | cons c rest ih =>
    cases i with
    | zero => simp [atPlaces]
    | succ i =>
      have hlast : ((c :: rest.take i).getLast?).or before
          = (rest.take i).getLast?.or (some c) := by
        rw [List.getLast?_cons]
        cases (rest.take i).getLast? <;> rfl
      rw [atPlaces, List.getElem?_cons_succ, ih, List.take_succ_cons, hlast]
      simp

namespace Plan

/-- A function on sets of places follows a step. -/
def Follows (round : Places → Places) (step : Nat → Nat → Prop) : Prop :=
  ∀ places j, Nat.testBit (round places) j = true
    ↔ ∃ i, Nat.testBit places i = true ∧ step i j

variable {round : Places → Places} {step : Nat → Nat → Prop}

lemma testBit_rounds_iff (h : Follows round step) (n : Nat) (places : Places) (j : Nat) :
    Nat.testBit (rounds round n places) j = true
      ↔ ∃ i, Nat.testBit places i = true ∧ Rounds step n i j := by
  induction n generalizing places with
  | zero => simp [rounds, Rounds]
  | succ n ih =>
    rw [rounds]
    split
    · next hnone => simp [hnone]
    · rw [ih]
      constructor
      · rintro ⟨k, hk, hrest⟩
        obtain ⟨i, hi, hstep⟩ := (h places k).mp hk
        exact ⟨i, hi, k, hstep, hrest⟩
      · rintro ⟨i, hi, k, hstep, hrest⟩
        exact ⟨k, (h places k).mpr ⟨i, hi, hstep⟩, hrest⟩

/-- Places that no step leaves are not left by any number of rounds. -/
lemma testBit_of_rounds {places : Places}
    (hclosed : ∀ i j, Nat.testBit places i = true → step i j → Nat.testBit places j = true)
    {n i j : Nat} (hi : Nat.testBit places i = true) (h : Rounds step n i j) :
    Nat.testBit places j = true := by
  induction n generalizing i with
  | zero => exact h ▸ hi
  | succ n ih =>
    obtain ⟨k, hstep, hrest⟩ := h
    exact ih (hclosed i k hi hstep) hrest

lemma testBit_or_round_iff (h : Follows round step) (places : Places) (j : Nat) :
    Nat.testBit (places ||| round places) j = true
      ↔ Nat.testBit places j = true ∨ ∃ i, Nat.testBit places i = true ∧ step i j := by
  rw [Nat.testBit_or, Bool.or_eq_true, h]

/-- Places that a round adds nothing to are not left by a step. -/
lemma closed_of_or_round_eq (h : Follows round step) {places : Places}
    (hsame : places ||| round places = places) (i j : Nat)
    (hi : Nat.testBit places i = true) (hstep : step i j) : Nat.testBit places j = true := by
  rw [← hsame]
  exact (testBit_or_round_iff h places j).mpr (.inr ⟨i, hi, hstep⟩)

/-- **Rounds.**  The places that at most `n` rounds lead to. -/
lemma testBit_upTo_iff (h : Follows round step) (n : Nat) (places : Places) (j : Nat) :
    Nat.testBit (upTo round n places) j = true
      ↔ ∃ i, Nat.testBit places i = true ∧ ∃ m, m ≤ n ∧ Rounds step m i j := by
  induction n generalizing places with
  | zero => simp [upTo, Rounds]
  | succ n ih =>
    rw [upTo]
    split
    · next hsame =>
      constructor
      · intro hj
        exact ⟨j, hj, 0, Nat.zero_le _, rfl⟩
      · rintro ⟨i, hi, m, -, hrounds⟩
        exact testBit_of_rounds (closed_of_or_round_eq h hsame) hi hrounds
    · rw [ih]
      constructor
      · rintro ⟨k, hk, m, hm, hrest⟩
        rcases (testBit_or_round_iff h places k).mp hk with hk | ⟨i, hi, hstep⟩
        · exact ⟨k, hk, m, Nat.le_succ_of_le hm, hrest⟩
        · exact ⟨i, hi, m + 1, Nat.succ_le_succ hm, k, hstep, hrest⟩
      · rintro ⟨i, hi, m, hm, hrest⟩
        cases m with
        | zero =>
          exact ⟨i, (testBit_or_round_iff h places i).mpr (.inl hi), 0, Nat.zero_le _, hrest⟩
        | succ m =>
          obtain ⟨k, hstep, hrest⟩ := hrest
          exact ⟨k, (testBit_or_round_iff h places k).mpr (.inr ⟨i, hi, hstep⟩), m,
            Nat.le_of_succ_le_succ hm, hrest⟩

/-- The places below a bound that are not in a set. -/
def missing (bound : Nat) (places : Places) : Finset Nat :=
  (Finset.range bound).filter fun i => ¬ Nat.testBit places i = true

/-- With a round for each place that is missing at first, no step leaves the places any more. -/
lemma closed_upTo (h : Follows round step) {bound : Nat}
    (hbound : ∀ i j, step i j → i ≠ j → j < bound) (n : Nat) (places : Places)
    (hn : (missing bound places).card ≤ n) (i j : Nat)
    (hi : Nat.testBit (upTo round n places) i = true) (hstep : step i j) :
    Nat.testBit (upTo round n places) j = true := by
  induction n generalizing places with
  | zero =>
    have hall : missing bound places = ∅ := Finset.card_eq_zero.mp (Nat.le_zero.mp hn)
    by_contra hj
    have hne : i ≠ j := fun hsame => hj (hsame ▸ hi)
    have hmem : j ∈ missing bound places :=
      Finset.mem_filter.mpr ⟨Finset.mem_range.mpr (hbound i j hstep hne), hj⟩
    rw [hall] at hmem
    exact Finset.notMem_empty j hmem
  | succ n ih =>
    rw [upTo] at hi ⊢
    split at hi
    · next hsame =>
      rw [if_pos hsame]
      exact closed_of_or_round_eq h hsame i j hi hstep
    · next hmore =>
      rw [if_neg hmore]
      refine ih _ (Nat.le_of_lt_succ (Nat.lt_of_lt_of_le (Finset.card_lt_card ?_) hn)) hi
      -- A round that changes the places adds one that was missing.
      have hsub : missing bound (places ||| round places) ⊆ missing bound places := by
        intro k hk
        obtain ⟨hlt, hnot⟩ := Finset.mem_filter.mp hk
        exact Finset.mem_filter.mpr ⟨hlt, fun hin =>
          hnot ((testBit_or_round_iff h places k).mpr (.inl hin))⟩
      refine (Finset.ssubset_iff_of_subset hsub).mpr ?_
      by_contra hnone
      refine hmore (Nat.eq_of_testBit_eq fun k => ?_)
      rw [Bool.eq_iff_iff, testBit_or_round_iff h]
      constructor
      · rintro (hk | ⟨m, hm, hmk⟩)
        · exact hk
        · by_contra hk
          have hlt : k < bound := hbound m k hmk fun hsame => hk (hsame ▸ hm)
          refine hnone ⟨k, Finset.mem_filter.mpr ⟨Finset.mem_range.mpr hlt, hk⟩, ?_⟩
          intro hin
          exact (Finset.mem_filter.mp hin).2
            ((testBit_or_round_iff h places k).mpr (.inr ⟨m, hm, hmk⟩))
      · exact .inl

/-- **Enough rounds.**  As many rounds as there are places lead as far as any number of them. -/
lemma testBit_upTo_all_iff (h : Follows round step) {bound : Nat}
    (hbound : ∀ i j, step i j → i ≠ j → j < bound) (places : Places) (j : Nat) :
    Nat.testBit (upTo round bound places) j = true
      ↔ ∃ i, Nat.testBit places i = true ∧ ∃ m, Rounds step m i j := by
  constructor
  · intro hj
    obtain ⟨i, hi, m, -, hrounds⟩ := (testBit_upTo_iff h bound places j).mp hj
    exact ⟨i, hi, m, hrounds⟩
  · rintro ⟨i, hi, m, hrounds⟩
    have hcard : (missing bound places).card ≤ bound :=
      (Finset.card_filter_le _ _).trans (Finset.card_range bound).le
    refine testBit_of_rounds (closed_upTo h hbound bound places hcard) ?_ hrounds
    exact (testBit_upTo_iff h bound places i).mpr ⟨i, hi, 0, Nat.zero_le _, rfl⟩

end Plan

/-! ### Searching -/

namespace Pattern

variable {text : List Char}

lemma Rounds.le {step : Nat → Nat → Prop} (h : ∀ i j, step i j → i ≠ j → j ≤ text.length)
    {n i j : Nat} (hrounds : Rounds step n i j) (hne : i ≠ j) : j ≤ text.length := by
  induction n generalizing i with
  | zero => exact absurd hrounds hne
  | succ n ih =>
    obtain ⟨k, hstep, hrest⟩ := hrounds
    by_cases hk : k = j
    · exact h i j (hk ▸ hstep) hne
    · exact ih hrest hk

mutual

/-- A pattern that takes something ends within the text. -/
lemma Leads.le : ∀ (p : Pattern) (i j : Nat), Leads text p i j → i ≠ j → j ≤ text.length
  | .empty, i, j, h, hne => absurd h hne
  | .literal cs, i, j, ⟨hpre, hj⟩, _ => by
    have hlength := hpre.length_le
    rw [List.length_drop] at hlength
    rcases Nat.lt_or_ge text.length i with hlt | hge
    · have hnil : cs.length = 0 := by omega
      omega
    · omega
  | .oneOf chars, i, j, ⟨c, hc, _, hj⟩, _ => by
    rw [hj]
    exact (List.getElem?_eq_some_iff.mp hc).1
  | .condition c, i, j, ⟨_, h⟩, hne => absurd h hne
  | .capture _ body, i, j, h, hne => Leads.le body i j h hne
  | .seq ps, i, j, h, hne => LeadThrough.le ps i j h hne
  | .choice ps, i, j, h, hne => SomeLeads.le ps i j h hne
  | .repetition least most _ body, i, j, ⟨k, n, hleast, _, hmore⟩, hne => by
    by_cases hk : k = j
    · exact Rounds.le (Leads.le body) (hk ▸ hleast) hne
    · exact Rounds.le (Leads.le body) hmore hk

lemma LeadThrough.le : ∀ (ps : List Pattern) (i j : Nat), LeadThrough text ps i j → i ≠ j →
    j ≤ text.length
  | [], i, j, h, hne => absurd h hne
  | p :: ps, i, j, ⟨k, hfirst, hrest⟩, hne => by
    by_cases hk : k = j
    · exact Leads.le p i j (hk ▸ hfirst) hne
    · exact LeadThrough.le ps k j hrest hk

lemma SomeLeads.le : ∀ (ps : List Pattern) (i j : Nat), SomeLeads text ps i j → i ≠ j →
    j ≤ text.length
  | p :: _, i, j, .inl h, hne => Leads.le p i j h hne
  | _ :: ps, i, j, .inr h, hne => SomeLeads.le ps i j h hne

end

lemma follows_step (chars : Char → Bool) :
    Plan.Follows (Plan.reach (.step (Places.ofList (text.map chars))))
      fun i j => ∃ c, text[i]? = some c ∧ chars c = true ∧ j = i + 1 := by
  intro places j
  rw [Plan.reach, Places.testBit_double]
  refine exists_congr fun i => ?_
  rw [Nat.testBit_and, Bool.and_eq_true, Places.testBit_ofList, List.getElem?_map, and_assoc]
  cases hc : text[i]? <;> simp [hc]

lemma cons_prefix_drop_iff {c : Char} {cs : List Char} {i : Nat} :
    c :: cs <+: text.drop i ↔ text[i]? = some c ∧ cs <+: text.drop (i + 1) := by
  rw [← List.head?_drop, ← List.tail_drop]
  cases text.drop i with
  | nil => simp
  | cons d rest => simp [List.cons_prefix_cons, eq_comm]

/-- Characters are taken one by one. -/
lemma follows_literal (cs : List Char) :
    Plan.Follows (Plan.reachSeq (cs.map fun c => .step (Places.ofList (text.map (· == c)))))
      fun i j => cs <+: text.drop i ∧ j = i + cs.length := by
  induction cs with
  | nil => intro places j; simp [Plan.reachSeq]
  | cons c rest ih =>
    intro places j
    rw [List.map_cons, Plan.reachSeq, ih]
    constructor
    · rintro ⟨k, hk, hrest, rfl⟩
      obtain ⟨i, hi, d, hd, heq, rfl⟩ := (follows_step (· == c) places k).mp hk
      obtain rfl : d = c := eq_of_beq heq
      exact ⟨i, hi, cons_prefix_drop_iff.mpr ⟨hd, hrest⟩, by rw [List.length_cons]; omega⟩
    · rintro ⟨i, hi, hpre, rfl⟩
      obtain ⟨hc, hrest⟩ := cons_prefix_drop_iff.mp hpre
      exact ⟨i + 1, (follows_step (· == c) places (i + 1)).mpr
        ⟨i, hi, c, hc, beq_self_eq_true c, rfl⟩, hrest, by rw [List.length_cons]; omega⟩

mutual

/-- **Search from places.**  The plan of a pattern reaches the places to which the pattern
leads. -/
lemma follows_plan : ∀ p : Pattern, Plan.Follows (Plan.reach (plan text p)) (Leads text p)
  | .empty => by intro places j; simp [plan, Plan.reach, Leads]
  | .literal cs => by
    rw [plan]
    exact follows_literal cs
  | .oneOf chars => by
    rw [plan]
    exact follows_step chars.contains
  | .condition c => by
    intro places j
    rw [plan, Plan.reach, Nat.testBit_and, Bool.and_eq_true, Places.testBit_ofList,
      Condition.getElem?_atPlaces, Option.or_none]
    have hholds : (if j ≤ text.length then some (c.holds (text.take j).getLast? text[j]?)
        else none).getD false = true ↔ c.HoldsAt text j := by
      rw [Condition.HoldsAt]
      split <;> simp [*]
    rw [hholds]
    constructor
    · rintro ⟨hj, hc⟩
      exact ⟨j, hj, hc, rfl⟩
    · rintro ⟨i, hi, hc, rfl⟩
      exact ⟨hi, hc⟩
  | .capture _ body => by
    rw [plan]
    exact follows_plan body
  | .seq ps => by
    rw [plan]
    exact follows_plans ps
  | .choice ps => by
    rw [plan]
    exact follows_someplan ps
  | .repetition least most _ body => by
    have hbody := follows_plan body
    intro places j
    -- The rounds that have to be made come first, then those that may be made.
    have hrounds (more : Nat → Prop) :
        (∃ k, Nat.testBit (Plan.rounds (Plan.reach (plan text body)) least places) k = true
            ∧ ∃ n, more n ∧ Rounds (Leads text body) n k j)
          ↔ ∃ i, Nat.testBit places i = true ∧ ∃ k n, Rounds (Leads text body) least i k
            ∧ more n ∧ Rounds (Leads text body) n k j := by
      constructor
      · rintro ⟨k, hk, n, hn, hmore⟩
        obtain ⟨i, hi, hleast⟩ := (Plan.testBit_rounds_iff hbody least places k).mp hk
        exact ⟨i, hi, k, n, hleast, hn, hmore⟩
      · rintro ⟨i, hi, k, n, hleast, hn, hmore⟩
        exact ⟨k, (Plan.testBit_rounds_iff hbody least places k).mpr ⟨i, hi, hleast⟩, n, hn, hmore⟩
    cases most with
    | some m =>
      rw [plan, Plan.reach, Plan.testBit_upTo_iff hbody, hrounds]
      simp [Leads]
    | none =>
      have hbound (i k : Nat) (h : Leads text body i k) (hne : i ≠ k) : k < text.length + 1 :=
        Nat.lt_succ_of_le (Leads.le body i k h hne)
      have hall := hrounds fun _ => True
      simp only [true_and] at hall
      rw [plan, Plan.reach, Plan.testBit_upTo_all_iff hbody hbound, hall]
      simp [Leads]

lemma follows_plans : ∀ ps : List Pattern,
    Plan.Follows (Plan.reachSeq (plans text ps)) (LeadThrough text ps)
  | [] => by intro places j; simp [plans, Plan.reachSeq, LeadThrough]
  | p :: ps => by
    intro places j
    rw [plans, Plan.reachSeq, follows_plans ps]
    constructor
    · rintro ⟨k, hk, hrest⟩
      obtain ⟨i, hi, hfirst⟩ := (follows_plan p places k).mp hk
      exact ⟨i, hi, k, hfirst, hrest⟩
    · rintro ⟨i, hi, k, hfirst, hrest⟩
      exact ⟨k, (follows_plan p places k).mpr ⟨i, hi, hfirst⟩, hrest⟩

lemma follows_someplan : ∀ ps : List Pattern,
    Plan.Follows (Plan.reachChoice (plans text ps)) (SomeLeads text ps)
  | [] => by intro places j; simp [plans, Plan.reachChoice, SomeLeads]
  | p :: ps => by
    intro places j
    rw [plans, Plan.reachChoice, Nat.testBit_or, Bool.or_eq_true, follows_plan p,
      follows_someplan ps, ← exists_or]
    refine exists_congr fun i => ?_
    rw [← and_or_left]
    rfl

end

/-- **Main statement.**  The search finds a match in a text exactly if the pattern leads from some
place of the text to another. -/
theorem isMatch_iff_leads (p : Pattern) (text : String) :
    p.isMatch text = true ↔ ∃ i j, i ≤ text.toList.length ∧ p.Leads text.toList i j := by
  have hplaces (i : Nat) : Nat.testBit (twoPow (text.toList.length + 1) - 1) i = true
      ↔ i ≤ text.toList.length := by
    have hpow : twoPow (text.toList.length + 1) = 2 ^ (text.toList.length + 1) := rfl
    rw [hpow, Nat.testBit_two_pow_sub_one, decide_eq_true_eq, Nat.lt_succ_iff]
  have hsome (places : Places) : places ≠ 0 ↔ ∃ j, Nat.testBit places j = true := by
    constructor
    · exact Nat.exists_testBit_of_ne_zero
    · rintro ⟨j, hj⟩ rfl
      exact Bool.false_ne_true ((Nat.zero_testBit j).symm.trans hj)
  rw [isMatch, decide_eq_true_eq, hsome, exists_comm]
  refine exists_congr fun j => ?_
  rw [follows_plan p]
  exact exists_congr fun i => and_congr_left' (hplaces i)

end Pattern

end DocQuery.Regex
