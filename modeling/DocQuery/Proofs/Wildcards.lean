import DocQuery.Like
import Mathlib.Data.List.Forall2
import Mathlib.Tactic.Common

/-!
The search for a pattern with wildcards finds a match whenever there is one, although it only ever
goes back to the last `%`.

* `LikePattern.Covers` (**meaning**): the texts that a pattern stands for, read from left to right;
* `LikeToken.Split`: a text split among tokens;
* `LikePattern.split_tokens_iff`: the tokens of a pattern split what the pattern covers;
* `LikePattern.Search.Sound` (**invariant**): the tokens since the last `%` fit the characters since
  then, one by one;
* `LikePattern.Search.run?_of_sound`: the search stays within the tokens and loses no match;
* `LikePattern.isMatch_iff_covers` (**main statement**).
-/

namespace DocQuery

/-! ### Texts split among tokens -/

namespace LikeToken

/-- A token that stands for one character, and the character. -/
def Fits : LikeToken → Char → Prop
  | .literal d, c => d = c
  | .one, _ => True
  | .any, _ => False

/-- The run of characters that a token stands for. -/
def Spans : LikeToken → List Char → Prop
  | .any, _ => True
  | token, run => ∃ c, run = [c] ∧ token.Fits c

/-- A text is split among some tokens, in their order. -/
def Split : List LikeToken → List Char → Prop
  | [], text => text = []
  | token :: rest, text => ∃ run later, text = run ++ later ∧ token.Spans run ∧ Split rest later

variable {token : LikeToken} {tokens tokens' : List LikeToken} {text : List Char} {c : Char}

lemma spans_iff_of_ne_any (h : token ≠ .any) (run : List Char) :
    token.Spans run ↔ ∃ c, run = [c] ∧ token.Fits c := by
  cases token with
  | any => exact absurd rfl h
  | _ => rfl

lemma split_append :
    Split (tokens ++ tokens') text
      ↔ ∃ front back, text = front ++ back ∧ Split tokens front ∧ Split tokens' back := by
  induction tokens generalizing text with
  | nil => simp [Split]
  | cons token rest ih =>
    simp only [List.cons_append, Split, ih]
    constructor
    · rintro ⟨run, _, rfl, hrun, front, back, rfl, hfront, hback⟩
      exact ⟨run ++ front, back, (List.append_assoc ..).symm, ⟨run, front, rfl, hrun, hfront⟩,
        hback⟩
    · rintro ⟨_, back, rfl, ⟨run, front, rfl, hrun, hfront⟩, hback⟩
      exact ⟨run, front ++ back, List.append_assoc .., hrun, front, back, rfl, hfront, hback⟩

lemma split_singleton : Split [token] text ↔ token.Spans text := by
  simp [Split]

lemma split_any_cons :
    Split (.any :: tokens) text
      ↔ ∃ skipped later, text = skipped ++ later ∧ Split tokens later := by
  simp [Split, Spans]

/-- With `%` in front, tokens split every text that ends in one they split. -/
lemma split_any_append (h : Split (.any :: tokens) text) (front : List Char) :
    Split (.any :: tokens) (front ++ text) := by
  obtain ⟨skipped, later, rfl, hlater⟩ := split_any_cons.mp h
  exact split_any_cons.mpr ⟨front ++ skipped, later, (List.append_assoc ..).symm, hlater⟩

/-- Either `%` stands for nothing, or for the first character and more. -/
lemma split_any_cons_cons :
    Split (.any :: tokens) (c :: text)
      ↔ Split tokens (c :: text) ∨ Split (.any :: tokens) text := by
  constructor
  · intro h
    obtain ⟨skipped, later, heq, hlater⟩ := split_any_cons.mp h
    cases skipped with
    | nil =>
      cases heq
      exact .inl hlater
    | cons first rest =>
      cases heq
      exact .inr (split_any_cons.mpr ⟨rest, later, rfl, hlater⟩)
  · rintro (h | h)
    · exact split_any_cons.mpr ⟨[], _, rfl, h⟩
    · exact split_any_append h [c]

lemma split_cons_cons_iff (h : token ≠ .any) :
    Split (token :: tokens) (c :: text) ↔ token.Fits c ∧ Split tokens text := by
  simp only [Split, spans_iff_of_ne_any h]
  constructor
  · rintro ⟨_, later, heq, ⟨d, rfl, hfits⟩, hlater⟩
    cases heq
    exact ⟨hfits, hlater⟩
  · rintro ⟨hfits, hlater⟩
    exact ⟨[c], text, rfl, ⟨c, rfl, hfits⟩, hlater⟩

/-- The empty text is split among `%` only. -/
lemma split_nil_iff : Split tokens [] ↔ tokens.all (· == .any) = true := by
  induction tokens with
  | nil => simp [Split]
  | cons token rest ih =>
    rw [List.all_cons, Bool.and_eq_true, beq_iff_eq, ← ih]
    by_cases h : token = .any
    · subst h
      simp [split_any_cons]
    · simp [Split, spans_iff_of_ne_any h, h]

/-! ### Tokens that fit characters one by one -/

variable {segment : List LikeToken} {covered : List Char}

lemma split_append_of_fits (h : List.Forall₂ Fits segment covered) :
    Split (segment ++ tokens) (covered ++ text) ↔ Split tokens text := by
  induction h with
  | nil => rfl
  | @cons token c segment covered hfits _ ih =>
    have hne : token ≠ .any := by
      rintro rfl
      exact hfits
    rw [List.cons_append, List.cons_append, split_cons_cons_iff hne, ih]
    exact and_iff_right hfits

/-- Tokens that fit some characters one by one take as many characters of any text they split. -/
lemma split_append_iff_of_fits (h : List.Forall₂ Fits segment covered) :
    Split (segment ++ tokens) text
      ↔ ∃ front back, text = front ++ back ∧ front.length = covered.length
        ∧ List.Forall₂ Fits segment front ∧ Split tokens back := by
  induction h generalizing text with
  | nil => simp
  | @cons token c segment covered hfits _ ih =>
    have hne : token ≠ .any := by
      rintro rfl
      exact hfits
    cases text with
    | nil => simp [Split, spans_iff_of_ne_any hne]
    | cons d text =>
      rw [List.cons_append, split_cons_cons_iff hne, ih]
      constructor
      · rintro ⟨hd, front, back, rfl, hlength, hsegment, hback⟩
        exact ⟨d :: front, back, rfl, by simpa using hlength, .cons hd hsegment, hback⟩
      · rintro ⟨_, back, heq, hlength, hfront, hback⟩
        cases hfront with
        | cons hd hsegment =>
          cases heq
          exact ⟨hd, _, back, rfl, by simpa using hlength, hsegment, hback⟩

end LikeToken

namespace LikePattern

open LikeToken (Fits Split)

/-! ### The meaning of a pattern -/

/-- The texts that a pattern stands for: `%` covers any run of characters, `_` one character, a
backslash with a character covers that character, a backslash at the end a backslash, and every
other character covers itself. -/
inductive Covers : List Char → List Char → Prop
  | nil : Covers [] []
  | run {pattern text : List Char} (skipped : List Char) (rest : Covers pattern text) :
      Covers ('%' :: pattern) (skipped ++ text)
  | one {pattern text : List Char} (c : Char) (rest : Covers pattern text) :
      Covers ('_' :: pattern) (c :: text)
  | escaped {pattern text : List Char} (c : Char) (rest : Covers pattern text) :
      Covers ('\\' :: c :: pattern) (c :: text)
  | backslash : Covers ['\\'] ['\\']
  | plain {pattern text : List Char} {c : Char} (ordinary : c ≠ '%' ∧ c ≠ '_' ∧ c ≠ '\\')
      (rest : Covers pattern text) : Covers (c :: pattern) (c :: text)

section Covers

variable {pattern text : List Char} {c : Char}

lemma covers_nil_iff : Covers [] text ↔ text = [] :=
  ⟨fun h => by cases h; rfl, fun h => h ▸ .nil⟩

lemma covers_run_iff :
    Covers ('%' :: pattern) text
      ↔ ∃ skipped later, text = skipped ++ later ∧ Covers pattern later := by
  constructor
  · intro h
    cases h with
    | run skipped rest => exact ⟨skipped, _, rfl, rest⟩
    | plain ordinary rest => exact absurd rfl ordinary.1
  · rintro ⟨skipped, later, rfl, hlater⟩
    exact .run skipped hlater

lemma covers_one_iff :
    Covers ('_' :: pattern) text ↔ ∃ c later, text = c :: later ∧ Covers pattern later := by
  constructor
  · intro h
    cases h with
    | one c rest => exact ⟨c, _, rfl, rest⟩
    | plain ordinary rest => exact absurd rfl ordinary.2.1
  · rintro ⟨c, later, rfl, hlater⟩
    exact .one c hlater

lemma covers_backslash_iff : Covers ['\\'] text ↔ text = ['\\'] := by
  constructor
  · intro h
    cases h with
    | backslash => rfl
    | plain ordinary rest => exact absurd rfl ordinary.2.2
  · rintro rfl
    exact .backslash

lemma covers_escaped_iff :
    Covers ('\\' :: c :: pattern) text ↔ ∃ later, text = c :: later ∧ Covers pattern later := by
  constructor
  · intro h
    cases h with
    | escaped _ rest => exact ⟨_, rfl, rest⟩
    | plain ordinary rest => exact absurd rfl ordinary.2.2
  · rintro ⟨later, rfl, hlater⟩
    exact .escaped c hlater

lemma covers_plain_iff (ordinary : c ≠ '%' ∧ c ≠ '_' ∧ c ≠ '\\') :
    Covers (c :: pattern) text ↔ ∃ later, text = c :: later ∧ Covers pattern later := by
  constructor
  · intro h
    cases h with
    | plain _ rest => exact ⟨_, rfl, rest⟩
    | run skipped rest => exact absurd rfl ordinary.1
    | one _ rest => exact absurd rfl ordinary.2.1
    | escaped _ rest => exact absurd rfl ordinary.2.2
    | backslash => exact absurd rfl ordinary.2.2
  · rintro ⟨later, rfl, hlater⟩
    exact .plain ordinary hlater

end Covers

/-! ### Tokens of a pattern -/

section Tokens

variable {tokens : Array LikeToken} {text : List Char} {token : LikeToken}

/-- What follows some tokens may begin with the run of one token more. -/
lemma exists_split_push_iff {P Q : List Char → Prop}
    (h : ∀ text, Q text ↔ ∃ run later, text = run ++ later ∧ token.Spans run ∧ P later) :
    (∃ front back, text = front ++ back ∧ Split (tokens.push token).toList front ∧ P back)
      ↔ ∃ front back, text = front ++ back ∧ Split tokens.toList front ∧ Q back := by
  simp only [Array.toList_push, LikeToken.split_append, LikeToken.split_singleton, h]
  constructor
  · rintro ⟨_, back, rfl, ⟨front, run, rfl, hfront, hrun⟩, hback⟩
    exact ⟨front, run ++ back, List.append_assoc .., hfront, run, back, rfl, hrun, hback⟩
  · rintro ⟨front, _, rfl, hfront, run, back, rfl, hrun, hback⟩
    exact ⟨front ++ run, back, (List.append_assoc ..).symm, ⟨front, run, rfl, hfront, hrun⟩, hback⟩

/-- A single character that fits, and what follows it. -/
lemma exists_spans_iff {P : List Char → Prop} (h : token ≠ .any) :
    (∃ run later, text = run ++ later ∧ token.Spans run ∧ P later)
      ↔ ∃ c later, text = c :: later ∧ token.Fits c ∧ P later := by
  simp only [LikeToken.spans_iff_of_ne_any h]
  constructor
  · rintro ⟨_, later, rfl, ⟨c, rfl, hfits⟩, hlater⟩
    exact ⟨c, later, rfl, hfits, hlater⟩
  · rintro ⟨c, later, rfl, hfits, hlater⟩
    exact ⟨[c], later, rfl, ⟨c, rfl, hfits⟩, hlater⟩

lemma exists_literal_iff {P : List Char → Prop} {d : Char} :
    (∃ run later, text = run ++ later ∧ (LikeToken.literal d).Spans run ∧ P later)
      ↔ ∃ later, text = d :: later ∧ P later := by
  rw [exists_spans_iff (by simp)]
  simp [Fits]

/-- After a `%` at the end of some tokens, their texts may go on at will. -/
lemma split_append_of_back? (hback : tokens.back? = some .any) (h : Split tokens.toList text)
    (skipped : List Char) : Split tokens.toList (text ++ skipped) := by
  obtain ⟨before, rfl⟩ : ∃ before : Array LikeToken, tokens = before.push .any := by
    rw [Array.back?_eq_some_iff] at hback
    exact hback
  rw [Array.toList_push, LikeToken.split_append] at h ⊢
  obtain ⟨front, run, rfl, hfront, _⟩ := h
  exact ⟨front, run ++ skipped, List.append_assoc .., hfront, LikeToken.split_singleton.mpr trivial⟩

/-- Tokens with those of a pattern after them split what they split, followed by what the pattern
covers. -/
lemma split_tokenize_iff (tokens : Array LikeToken) (pattern : List Char) (text : List Char) :
    Split (tokenize tokens pattern).toList text
      ↔ ∃ front back, text = front ++ back ∧ Split tokens.toList front ∧ Covers pattern back := by
  fun_induction tokenize tokens pattern with
  | case1 tokens => simp [covers_nil_iff]
  | case2 tokens rest ih =>
    rw [ih]
    split_ifs with hlast
    · simp only [covers_run_iff]
      constructor
      · rintro ⟨front, back, rfl, hfront, hback⟩
        exact ⟨front, back, rfl, hfront, [], back, rfl, hback⟩
      · rintro ⟨front, _, rfl, hfront, skipped, back, rfl, hback⟩
        exact ⟨front ++ skipped, back, (List.append_assoc ..).symm,
          split_append_of_back? hlast hfront skipped, hback⟩
    · refine exists_split_push_iff fun text => ?_
      simp [covers_run_iff, LikeToken.Spans]
  | case3 tokens rest ih =>
    rw [ih]
    refine exists_split_push_iff fun text => ?_
    rw [covers_one_iff, exists_spans_iff (by simp)]
    simp [Fits]
  | case4 tokens =>
    have hpush : (∃ front back, text = front ++ back
        ∧ Split (tokens.push (.literal '\\')).toList front ∧ back = [])
          ↔ ∃ front back, text = front ++ back ∧ Split tokens.toList front
            ∧ Covers ['\\'] back := by
      refine exists_split_push_iff fun text => ?_
      rw [exists_literal_iff, covers_backslash_iff]
      simp
    rw [← hpush]
    simp
  | case5 tokens c rest ih =>
    rw [ih]
    exact exists_split_push_iff fun text => covers_escaped_iff.trans exists_literal_iff.symm
  | case6 tokens c rest hrun hone hbackslash hescaped ih =>
    have ordinary : c ≠ '%' ∧ c ≠ '_' ∧ c ≠ '\\' := by
      refine ⟨hrun, hone, ?_⟩
      rintro rfl
      cases rest with
      | nil => exact hbackslash rfl rfl
      | cons d rest => exact hescaped d rest rfl rfl
    rw [ih]
    exact exists_split_push_iff fun text =>
      (covers_plain_iff ordinary).trans exists_literal_iff.symm

/-- The tokens of a pattern split the texts that the pattern covers. -/
lemma split_tokens_iff (pattern : LikePattern) (text : List Char) :
    Split pattern.tokens.toList text ↔ Covers pattern.source.toList text := by
  rw [tokens, split_tokenize_iff]
  simp [Split]

end Tokens

/-! ### The search -/

namespace Search

variable {tokens : Array LikeToken} {text : Array Char} {search next : Search}

/-- The tokens and the text match from where a search can still begin: from the last `%` that it has
passed, or from where it stands. -/
def CanMatch (tokens : Array LikeToken) (text : Array Char) (search : Search) : Prop :=
  match search.star with
  | some star => Split (.any :: tokens.toList.drop (star.token + 1)) (text.toList.drop star.text)
  | none => Split (tokens.toList.drop search.token) (text.toList.drop search.text)

/-- The tokens since a `%` fit the characters since then, one by one. -/
def Attempt (tokens : Array LikeToken) (text : Array Char) (search : Search) (star : Star) : Prop :=
  ∃ segment covered,
    tokens.toList.drop (star.token + 1) = segment ++ tokens.toList.drop search.token
      ∧ text.toList.drop star.text = covered ++ text.toList.drop search.text
      ∧ List.Forall₂ Fits segment covered

/-- A search within the tokens and the text whose attempt since the last `%` fits so far. -/
structure Sound (tokens : Array LikeToken) (text : Array Char) (search : Search) : Prop where
  token_le : search.token ≤ tokens.size
  text_le : search.text ≤ text.size
  attempt : ∀ star ∈ search.star, Attempt tokens text search star

lemma sound_start : Sound tokens text .start where
  token_le := Nat.zero_le _
  text_le := Nat.zero_le _
  attempt := nofun

/-- If the tokens match from where the search stands, a match is found from where it can begin. -/
lemma canMatch_of_split (hsound : Sound tokens text search)
    (h : Split (tokens.toList.drop search.token) (text.toList.drop search.text)) :
    CanMatch tokens text search := by
  unfold CanMatch
  split
  next star hstar =>
    obtain ⟨segment, covered, htokens, htext, hfits⟩ := hsound.attempt star hstar
    rw [htokens, htext]
    exact LikeToken.split_any_cons.mpr
      ⟨[], _, rfl, (LikeToken.split_append_of_fits hfits).mpr h⟩
  next => exact h

/-- If a match is found from where the search can begin, the tokens that are left match an end of
the text that is left: an attempt from further on also ends further on. -/
lemma exists_suffix_of_canMatch (hsound : Sound tokens text search)
    (h : CanMatch tokens text search) :
    ∃ back, back <:+ text.toList.drop search.text
      ∧ Split (tokens.toList.drop search.token) back := by
  unfold CanMatch at h
  split at h
  next star hstar =>
    obtain ⟨segment, covered, htokens, hcovered, hfits⟩ := hsound.attempt star hstar
    obtain ⟨skipped, later, hskipped, hlater⟩ := LikeToken.split_any_cons.mp h
    rw [htokens, LikeToken.split_append_iff_of_fits hfits] at hlater
    obtain ⟨front, back, rfl, hlength, -, hback⟩ := hlater
    have hcovered' : text.toList.drop search.text <:+ text.toList.drop star.text :=
      ⟨covered, hcovered.symm⟩
    have hfront : back <:+ text.toList.drop star.text :=
      ⟨skipped ++ front, by rw [hskipped, List.append_assoc]⟩
    have hsize := congrArg List.length (hcovered.symm.trans hskipped)
    simp only [List.length_append] at hsize
    exact ⟨back, List.suffix_of_suffix_length_le hfront hcovered' (by omega), hback⟩
  next => exact ⟨_, List.suffix_rfl, h⟩

lemma drop_text (htext : search.text < text.size) :
    text.toList.drop search.text = text[search.text] :: text.toList.drop (search.text + 1) := by
  rw [List.drop_eq_getElem_cons (by simpa using htext), Array.getElem_toList]

lemma drop_token {token : LikeToken} (htoken : tokens[search.token]? = some token) :
    tokens.toList.drop search.token = token :: tokens.toList.drop (search.token + 1) := by
  obtain ⟨hlt, rfl⟩ := Array.getElem?_eq_some_iff.mp htoken
  rw [List.drop_eq_getElem_cons (by simpa using hlt), Array.getElem_toList]

/-! ### A token that fits -/

lemma sound_advance {token : LikeToken} (hsound : Sound tokens text search)
    (htext : search.text < text.size) (htoken : tokens[search.token]? = some token)
    (hfits : token.Fits text[search.text]) : Sound tokens text search.advance where
  token_le := (Array.getElem?_eq_some_iff.mp htoken).1
  text_le := htext
  attempt star hstar := by
    obtain ⟨segment, covered, htokens, hcovered, hsegment⟩ := hsound.attempt star hstar
    refine ⟨segment ++ [token], covered ++ [text[search.text]], ?_, ?_, ?_⟩
    · rw [htokens, drop_token htoken, List.append_assoc]
      rfl
    · rw [hcovered, drop_text htext, List.append_assoc]
      rfl
    · exact List.rel_append hsegment (.cons hfits .nil)

lemma canMatch_advance {token : LikeToken} (htext : search.text < text.size)
    (htoken : tokens[search.token]? = some token) (hfits : token.Fits text[search.text]) :
    CanMatch tokens text search.advance ↔ CanMatch tokens text search := by
  have hne : token ≠ .any := by
    rintro rfl
    exact hfits
  unfold CanMatch
  simp only [advance]
  cases search.star with
  | some star => rfl
  | none =>
    dsimp only
    rw [drop_token htoken, drop_text htext, LikeToken.split_cons_cons_iff hne]
    exact (and_iff_right hfits).symm

/-! ### A further `%` -/

lemma sound_passStar (hsound : Sound tokens text search)
    (htoken : tokens[search.token]? = some .any) : Sound tokens text search.passStar where
  token_le := (Array.getElem?_eq_some_iff.mp htoken).1
  text_le := hsound.text_le
  attempt star hstar := by
    cases hstar
    exact ⟨[], [], rfl, rfl, .nil⟩

/-- **Earlier `%` need not be gone back to**: what one of them could cover instead, the last one
covers as well. -/
lemma canMatch_passStar (hsound : Sound tokens text search)
    (htoken : tokens[search.token]? = some .any) :
    CanMatch tokens text search.passStar ↔ CanMatch tokens text search := by
  have hpass : CanMatch tokens text search.passStar
      ↔ Split (tokens.toList.drop search.token) (text.toList.drop search.text) := by
    rw [drop_token htoken]
    rfl
  rw [hpass]
  refine ⟨canMatch_of_split hsound, fun h => ?_⟩
  obtain ⟨back, ⟨before, hbefore⟩, hback⟩ := exists_suffix_of_canMatch hsound h
  rw [drop_token htoken] at hback ⊢
  rw [← hbefore]
  exact LikeToken.split_any_append hback before

/-! ### A character that does not fit -/

lemma not_canMatch_of_retreat (hnext : search.retreat? = none)
    (h : ¬ Split (tokens.toList.drop search.token) (text.toList.drop search.text)) :
    ¬ CanMatch tokens text search := by
  have hstar : search.star = none := by simpa [retreat?] using hnext
  unfold CanMatch
  rw [hstar]
  exact h

lemma sound_retreat (hsound : Sound tokens text search) (htext : search.text < text.size)
    (hnext : search.retreat? = some next) : Sound tokens text next := by
  obtain ⟨star, hstar, rfl⟩ := Option.map_eq_some_iff.mp hnext
  have hbehind := search.behind star hstar
  have htoken := hsound.token_le
  refine ⟨by dsimp only; omega, by dsimp only; omega, ?_⟩
  rintro _ ⟨rfl⟩
  exact ⟨[], [], rfl, rfl, .nil⟩

/-- Since the attempt from the last `%` fails, that `%` has to cover one character more. -/
lemma canMatch_retreat (hsound : Sound tokens text search) (htext : search.text < text.size)
    (hnext : search.retreat? = some next)
    (h : ¬ Split (tokens.toList.drop search.token) (text.toList.drop search.text)) :
    CanMatch tokens text next ↔ CanMatch tokens text search := by
  obtain ⟨star, hstar, rfl⟩ := Option.map_eq_some_iff.mp hnext
  have hbehind := search.behind star hstar
  obtain ⟨segment, covered, htokens, hcovered, hfits⟩ := hsound.attempt star hstar
  have hfails : ¬ Split (tokens.toList.drop (star.token + 1)) (text.toList.drop star.text) := by
    rwa [htokens, hcovered, LikeToken.split_append_of_fits hfits]
  unfold CanMatch
  rw [hstar]
  dsimp only
  rw [List.drop_eq_getElem_cons (i := star.text) (by simpa using by omega)] at hfails ⊢
  rw [LikeToken.split_any_cons_cons]
  exact (or_iff_right hfails).symm

/-! ### Steps and runs -/

/-- Where neither the character nor the end of the text fits, nothing matches from there. -/
lemma not_split_of_misfit (htext : search.text < text.size)
    (h : ∀ token, tokens[search.token]? = some token →
      token ≠ .any ∧ ¬ token.Fits text[search.text]) :
    ¬ Split (tokens.toList.drop search.token) (text.toList.drop search.text) := by
  rw [drop_text htext]
  cases htoken : tokens[search.token]? with
  | none =>
    rw [Array.getElem?_eq_none_iff] at htoken
    rw [List.drop_eq_nil_of_le (by simpa using htoken)]
    simp [Split]
  | some token =>
    obtain ⟨hne, hmisfit⟩ := h token htoken
    rw [drop_token htoken, LikeToken.split_cons_cons_iff hne]
    exact fun hsplit => hmisfit hsplit.1

/-- A step keeps the search sound and keeps what it can find; it fails only if there is nothing to
find. -/
def Keeps (tokens : Array LikeToken) (text : Array Char) (search : Search) : Option Search → Prop
  | some next => Sound tokens text next ∧ (CanMatch tokens text next ↔ CanMatch tokens text search)
  | none => ¬ CanMatch tokens text search

lemma keeps_retreat (hsound : Sound tokens text search) (htext : search.text < text.size)
    (h : ¬ Split (tokens.toList.drop search.token) (text.toList.drop search.text)) :
    Keeps tokens text search search.retreat? := by
  cases hnext : search.retreat? with
  | none => exact not_canMatch_of_retreat hnext h
  | some next => exact ⟨sound_retreat hsound htext hnext, canMatch_retreat hsound htext hnext h⟩

lemma keeps_next? (hsound : Sound tokens text search) (htext : search.text < text.size) :
    Keeps tokens text search (next? tokens text[search.text] search) := by
  have hfit {token : LikeToken} (htoken : tokens[search.token]? = some token)
      (hfits : token.Fits text[search.text]) : Keeps tokens text search (some search.advance) :=
    ⟨sound_advance hsound htext htoken hfits, canMatch_advance htext htoken hfits⟩
  cases htoken : tokens[search.token]? with
  | none =>
    simp only [next?, htoken]
    exact keeps_retreat hsound htext (not_split_of_misfit htext (by simp [htoken]))
  | some token =>
    cases token with
    | any =>
      simp only [next?, htoken]
      exact ⟨sound_passStar hsound htoken, canMatch_passStar hsound htoken⟩
    | one =>
      simp only [next?, htoken]
      exact hfit htoken trivial
    | literal d =>
      simp only [next?, htoken]
      split_ifs with hd
      · exact hfit htoken hd
      · exact keeps_retreat hsound htext (not_split_of_misfit htext (by simp [htoken, Fits, hd]))

/-- At the end of the text only `%` may be left. -/
lemma canMatch_iff_of_end (hsound : Sound tokens text search) (htext : ¬ search.text < text.size) :
    CanMatch tokens text search
      ↔ (tokens.toList.drop search.token).all (· == .any) = true := by
  have hend : text.toList.drop search.text = [] := List.drop_eq_nil_of_le (by simpa using htext)
  rw [← LikeToken.split_nil_iff, ← hend]
  refine ⟨fun h => ?_, canMatch_of_split hsound⟩
  obtain ⟨back, hsuffix, hback⟩ := exists_suffix_of_canMatch hsound h
  have hnil : back = [] := List.suffix_nil.mp (hend ▸ hsuffix)
  rwa [hend, ← hnil]

/-- **A sound search never leaves the tokens, and it finds a match exactly when there is one.** -/
theorem run?_of_sound (hsound : Sound tokens text search) :
    ∃ found, run? tokens text search = some found
      ∧ (found = true ↔ CanMatch tokens text search) := by
  fun_induction run? tokens text search with
  | case1 search htext next hnext ih =>
    have hkeeps := keeps_next? hsound htext
    rw [hnext] at hkeeps
    obtain ⟨found, hrun, hfound⟩ := ih hkeeps.1
    exact ⟨found, hrun, hfound.trans hkeeps.2⟩
  | case2 search htext hnext =>
    have hkeeps := keeps_next? hsound htext
    rw [hnext] at hkeeps
    exact ⟨false, rfl, iff_of_false nofun hkeeps⟩
  | case3 search htext =>
    rw [slice?, if_pos hsound.token_le]
    exact ⟨_, rfl, (canMatch_iff_of_end hsound htext).symm⟩

end Search

/-- **A pattern matches exactly the texts that it stands for**, and the search for a match ends
within the tokens of the pattern. -/
theorem isMatch_iff_covers (pattern : LikePattern) (text : String) :
    (∃ found, pattern.search? text = some found)
      ∧ (pattern.isMatch text = true ↔ Covers pattern.source.toList text.toList) := by
  have hstart : Search.Sound pattern.tokens text.toList.toArray .start := Search.sound_start
  obtain ⟨found, hrun, hfound⟩ := Search.run?_of_sound hstart
  have hsearch : pattern.search? text = some found := hrun
  refine ⟨⟨found, hsearch⟩, ?_⟩
  rw [isMatch, hsearch, ← split_tokens_iff]
  simpa [Search.CanMatch, Search.start] using hfound

example : isMatch ⟨"%an%a\\%"⟩ "banana%" = true := by cbv

end LikePattern

end DocQuery
