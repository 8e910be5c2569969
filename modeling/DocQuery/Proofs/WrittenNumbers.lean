import DocQuery.Json.Reader
import DocQuery.Json.Writer
import DocQuery.Proofs.SelectorEntries
import Mathlib.Data.List.TakeWhile

/-!
Numbers that were written are read back.

A number that is no whole one is written as the shortest decimal that lies nearest to it, and read
with a rounding of its own: it need not come back.  Whole numbers of 64 bits always do.

* `Json.Reader.Ends`: what may follow a number inside a text;
* `Json.Reader.unsignedNumber_inside` (**numbers**): what follows does not change a number;
* `Json.Reader.unsignedNumber_repr` (**digits**): a whole number is read from its digits;
* `JsonNumber.ReadsBack` and `JsonNumber.readsBack_int` (**main statement**).
-/

namespace DocQuery

namespace Json.Reader

/-! ### What follows -/

/-- What may follow a value inside a text: nothing, a comma or a closing bracket or brace. -/
def Ends (tail : List UInt8) : Prop :=
  ∀ b ∈ tail.head?, b = 0x2C ∨ b = 0x5D ∨ b = 0x7D

/-- An input with bytes before and behind it. -/
def Input.inside (before : Nat) (tail : List UInt8) (input : Input) : Input :=
  ⟨input.rest ++ tail, before + input.taken⟩

variable {before : Nat} {tail : List UInt8} {input after : Input}

lemma drop_inside {n : Nat} (h : n ≤ input.rest.length) :
    (input.inside before tail).drop n = (input.drop n).inside before tail := by
  simp only [Input.inside, Input.drop, List.drop_append_of_le_length h,
    List.take_append_of_le_length h, Nat.add_assoc]

lemma peek_inside (h : input.rest ≠ []) : (input.inside before tail).peek = input.peek := by
  rw [Input.peek, Input.peek, Input.inside, List.head?_append_of_ne_nil _ h]

lemma peek_eq_none_iff : input.peek = none ↔ input.rest = [] := by
  rw [Input.peek, Option.map_eq_none_iff, List.head?_eq_none_iff]

/-- Behind the end of an input there is nothing that belongs to a number. -/
lemma peek_inside_of_nil (htail : Ends tail) (h : input.rest = []) {c : Char}
    (hc : (input.inside before tail).peek = some c) : c = ',' ∨ c = ']' ∨ c = '\x7d' := by
  rw [Input.peek, Input.inside, h, List.nil_append, Option.map_eq_some_iff] at hc
  obtain ⟨b, hb, rfl⟩ := hc
  rcases htail b hb with rfl | rfl | rfl
  · exact .inl rfl
  · exact .inr (.inl rfl)
  · exact .inr (.inr rfl)

lemma digits_inside (htail : Ends tail) : digits (input.inside before tail) = digits input := by
  have hnone : tail.takeWhile (fun b => decide (0x30 ≤ b ∧ b ≤ 0x39)) = [] := by
    cases tail with
    | nil => rfl
    | cons b rest =>
      rw [List.takeWhile_cons_of_neg]
      rcases htail b rfl with rfl | rfl | rfl <;> decide
  rw [digits, digits, Input.inside, List.takeWhile_append, hnone, List.append_nil]
  split
  · next hall => rw [(List.takeWhile_prefix _).eq_of_length hall]
  · rfl

lemma length_digits_le : (digits input).length ≤ input.rest.length := by
  rw [digits, List.length_map]
  exact (List.takeWhile_prefix _).length_le

/-! ### Numbers -/

section

variable {negative : Bool} {significand : Nat} {exponent : Int} {n : JsonNumber}

lemma scaled_inside (h : scaled negative significand exponent input = .ok (n, after)) :
    scaled negative significand exponent (input.inside before tail)
      = .ok (n, after.inside before tail) := by
  rw [scaled] at h ⊢
  split at h
  · next x hx =>
    cases h
    rfl
  · cases h

lemma digits_of_nil (h : input.rest = []) : digits input = [] := by
  rw [digits, h]
  rfl

lemma exponentPart_inside (htail : Ends tail) (hrest : input.rest ≠ [])
    (h : exponentPart negative significand exponent input = .ok (n, after)) :
    exponentPart negative significand exponent (input.inside before tail)
      = .ok (n, after.inside before tail) := by
  have hlength {input : Input} (h : input.rest ≠ []) : 1 ≤ input.rest.length :=
    List.length_pos_of_ne_nil h
  rw [exponentPart] at h ⊢
  dsimp only at h ⊢
  rw [drop_inside (hlength hrest)]
  generalize input.drop 1 = sign at h ⊢
  by_cases hsign : sign.rest = []
  · -- Without digits there is no number.
    have hpeek : sign.peek = none := peek_eq_none_iff.mpr hsign
    rw [hpeek] at h
    simp [digits_of_nil hsign, hsign, Input.fail] at h
  · rw [peek_inside hsign]
    have hinside : (if sign.peek = some '+' ∨ sign.peek = some '-'
        then (sign.inside before tail).drop 1 else sign.inside before tail)
        = (if sign.peek = some '+' ∨ sign.peek = some '-' then sign.drop 1 else sign).inside
          before tail := by
      split
      · exact drop_inside (hlength hsign)
      · rfl
    rw [hinside]
    generalize (if sign.peek = some '+' ∨ sign.peek = some '-' then sign.drop 1 else sign)
      = first at h ⊢
    rw [digits_inside htail]
    split at h
    · split at h <;> cases h
    · rw [drop_inside length_digits_le]
      split at h
      · next hsmall =>
        simp only [if_pos hsmall]
        exact scaled_inside h
      · next hlarge =>
        simp only [if_neg hlarge]
        split at h
        · cases h
        · next hzero =>
          rw [if_neg hzero]
          cases h
          rfl

/-- Behind the end of an input no number goes on. -/
lemma not_continued (htail : Ends tail) (h : input.rest = []) {c : Char}
    (hc : (input.inside before tail).peek = some c) : c ≠ '.' ∧ c ≠ 'e' ∧ c ≠ 'E' := by
  rcases peek_inside_of_nil htail h hc with rfl | rfl | rfl <;> decide

lemma optionalExponent_inside (htail : Ends tail)
    (h : optionalExponent negative significand exponent input = .ok (n, after)) :
    optionalExponent negative significand exponent (input.inside before tail)
      = .ok (n, after.inside before tail) := by
  rw [optionalExponent] at h ⊢
  by_cases hnil : input.rest = []
  · rw [peek_eq_none_iff.mpr hnil] at h
    split
    · next hc => exact absurd rfl (not_continued htail hnil hc).2.1
    · next hc => exact absurd rfl (not_continued htail hnil hc).2.2
    · exact scaled_inside h
  · rw [peek_inside hnil]
    split at h
    · exact exponentPart_inside htail hnil h
    · exact exponentPart_inside htail hnil h
    · exact scaled_inside h

lemma fraction_inside (htail : Ends tail) (hrest : input.rest ≠ [])
    (h : fraction negative significand exponent input = .ok (n, after)) :
    fraction negative significand exponent (input.inside before tail)
      = .ok (n, after.inside before tail) := by
  rw [fraction] at h ⊢
  dsimp only at h ⊢
  rw [drop_inside (List.length_pos_of_ne_nil hrest), digits_inside htail]
  split at h
  · split at h <;> cases h
  · rw [drop_inside length_digits_le]
    exact optionalExponent_inside htail h

lemma wholeNumber_inside {dropped : Int}
    (h : (if 0 < dropped then scaled negative significand dropped input
      else if !negative then .ok (.int significand, input)
      else if significand = 0 ∨ twoPow 63 < significand then
        .ok (.double (Binary64.ofInt significand).neg, input)
      else .ok (.int (-significand), input)) = .ok (n, after)) :
    (if 0 < dropped then scaled negative significand dropped (input.inside before tail)
      else if !negative then .ok (.int significand, input.inside before tail)
      else if significand = 0 ∨ twoPow 63 < significand then
        .ok (.double (Binary64.ofInt significand).neg, input.inside before tail)
      else .ok (.int (-significand), input.inside before tail))
      = .ok (n, after.inside before tail) := by
  split at h
  · next hmore =>
    rw [if_pos hmore]
    exact scaled_inside h
  · next hmore =>
    rw [if_neg hmore]
    split_ifs at h ⊢ <;> cases h <;> rfl

/-- **Numbers.**  What may follow a number does not change how it is read. -/
lemma unsignedNumber_inside (htail : Ends tail)
    (h : unsignedNumber negative input = .ok (n, after)) :
    unsignedNumber negative (input.inside before tail) = .ok (n, after.inside before tail) := by
  rw [unsignedNumber] at h ⊢
  rw [digits_inside htail]
  split at h
  · split at h <;> cases h
  · cases h
  · next ds _ hshape =>
    rw [drop_inside length_digits_le]
    generalize input.drop (digits input).length = rest at h ⊢
    dsimp only at h ⊢
    by_cases hnil : rest.rest = []
    · rw [peek_eq_none_iff.mpr hnil] at h
      split
      · next hc => exact absurd rfl (not_continued htail hnil hc).1
      · next hc => exact absurd rfl (not_continued htail hnil hc).2.1
      · next hc => exact absurd rfl (not_continued htail hnil hc).2.2
      · exact wholeNumber_inside h
    · rw [peek_inside hnil]
      split at h
      · exact fraction_inside htail hnil h
      · exact exponentPart_inside htail hnil h
      · exact exponentPart_inside htail hnil h
      · exact wholeNumber_inside h

end

/-! ### Whole numbers -/

/-- The bytes of ASCII characters are their codes. -/
lemma utf8EncodeChar_of_ascii {c : Char} (h : c.toNat < 0x80) :
    String.utf8EncodeChar c = [UInt8.ofNat c.toNat] := by
  have hval : c.val.toNat = c.toNat := rfl
  rw [String.utf8EncodeChar, hval, if_pos (by omega)]

lemma toNat_of_isDigit {c : Char} (h : c.isDigit = true) : 0x30 ≤ c.toNat ∧ c.toNat ≤ 0x39 := by
  simpa [Char.isDigit, UInt32.le_iff_toNat_le] using h

lemma encode_of_digits {cs : List Char} (h : ∀ c ∈ cs, c.isDigit = true) :
    Utf8.encode (String.ofList cs) = cs.map fun c => UInt8.ofNat c.toNat := by
  rw [Utf8.encode_ofList]
  induction cs with
  | nil => rfl
  | cons c rest ih =>
    obtain ⟨hc, hrest⟩ := List.forall_mem_cons.mp h
    obtain ⟨-, hle⟩ := toNat_of_isDigit hc
    rw [List.flatMap_cons, ih hrest, utf8EncodeChar_of_ascii (by omega)]
    rfl

/-- Digits are taken as what they stand for. -/
lemma digits_encode {cs : List Char} (h : ∀ c ∈ cs, c.isDigit = true) (taken : Nat) :
    digits ⟨Utf8.encode (String.ofList cs), taken⟩ = cs.map fun c => c.toNat - 0x30 := by
  have hbyte : ∀ n ≤ 0x39, 0x30 ≤ n →
      decide (0x30 ≤ UInt8.ofNat n ∧ UInt8.ofNat n ≤ 0x39) = true
        ∧ (UInt8.ofNat n).toNat = n := by decide
  rw [digits, encode_of_digits h, List.takeWhile_eq_self_iff.mpr, List.map_map]
  · refine List.map_congr_left fun c hc => ?_
    obtain ⟨hlow, hhigh⟩ := toNat_of_isDigit (h c hc)
    exact congrArg (· - 0x30) (hbyte c.toNat hhigh hlow).2
  · intro b hb
    obtain ⟨c, hc, rfl⟩ := List.mem_map.mp hb
    obtain ⟨hlow, hhigh⟩ := toNat_of_isDigit (h c hc)
    exact (hbyte c.toNat hhigh hlow).1

lemma appendDigits_of_lt {cs : List Char} {significand : Nat}
    (h : Nat.ofDigitChars 10 cs significand < twoPow 64) :
    appendDigits significand (cs.map fun c => c.toNat - 0x30)
      = (Nat.ofDigitChars 10 cs significand, cs.length) := by
  induction cs generalizing significand with
  | nil => rfl
  | cons c rest ih =>
    have hzero : '0'.toNat = 0x30 := rfl
    rw [Nat.ofDigitChars_cons, hzero, Nat.mul_comm] at h
    have hlt : significand * 10 + (c.toNat - 0x30) < twoPow 64 := by
      refine Nat.lt_of_le_of_lt ?_ h
      rw [Nat.ofDigitChars_eq_ofDigitChars_zero]
      exact Nat.le_trans (Nat.le_mul_of_pos_left _ (Nat.pow_pos (by decide))) (Nat.le_add_right _ _)
    rw [List.map_cons, appendDigits, if_pos hlt, ih h, Nat.ofDigitChars_cons, hzero,
      Nat.mul_comm 10]
    rfl

lemma eq_zero_of_head?_toDigits {n : Nat} (h : (Nat.toDigits 10 n).head? = some '0') : n = 0 := by
  induction n using Nat.strongRecOn with
  | ind n ih =>
    rcases Nat.lt_or_ge n 10 with hlt | hge
    · rw [Nat.toDigits_of_lt_base hlt] at h
      have hdigit : ∀ n < 10, Nat.digitChar n = '0' → n = 0 := by decide
      exact hdigit n hlt (Option.some.inj h)
    · rw [Nat.toDigits_of_base_le (by decide) hge,
        List.head?_append_of_ne_nil _ Nat.toDigits_ne_nil] at h
      have := ih (n / 10) (by omega) h
      omega

lemma drop_length (bytes tail : List UInt8) (taken : Nat) :
    (⟨bytes ++ tail, taken⟩ : Input).drop bytes.length = ⟨tail, taken + bytes.length⟩ := by
  rw [Input.drop, List.drop_left, List.take_left]

/-- A whole number below `2 ^ 64` is taken from its digits. -/
lemma unsignedNumber_repr {n : Nat} (h : n < twoPow 64) (negative : Bool) (taken : Nat) :
    unsignedNumber negative ⟨Utf8.encode n.repr, taken⟩
      = .ok (if negative then
          if n = 0 ∨ twoPow 63 < n then .double (Binary64.ofInt n).neg else .int (-n)
        else .int n, ⟨[], taken + (Utf8.encode n.repr).length⟩) := by
  have hdigits : ∀ c ∈ Nat.toDigits 10 n, c.isDigit = true := fun c hc =>
    Nat.isDigit_of_mem_toDigits (by decide) (by decide) hc
  have hvalue : Nat.ofDigitChars 10 (Nat.toDigits 10 n) 0 = n := Nat.ofDigitChars_ten_toDigits
  have happend : appendDigits 0 ((Nat.toDigits 10 n).map fun c => c.toNat - 0x30)
      = (n, (Nat.toDigits 10 n).length) := by
    rw [appendDigits_of_lt (hvalue.symm ▸ h), hvalue]
  have hlength : (Utf8.encode n.repr).length = (Nat.toDigits 10 n).length := by
    rw [Nat.repr_eq_ofList_toDigits, encode_of_digits hdigits, List.length_map]
  have hdrop : (⟨Utf8.encode n.repr, taken⟩ : Input).drop (Nat.toDigits 10 n).length
      = ⟨[], taken + (Utf8.encode n.repr).length⟩ := by
    rw [← hlength]
    simpa using drop_length (Utf8.encode n.repr) [] taken
  have hread : digits ⟨Utf8.encode n.repr, taken⟩
      = (Nat.toDigits 10 n).map fun c => c.toNat - 0x30 := by
    rw [Nat.repr_eq_ofList_toDigits, digits_encode hdigits]
  rw [unsignedNumber, hread]
  split
  · next hnil => exact absurd (List.map_eq_nil_iff.mp hnil) Nat.toDigits_ne_nil
  · next d rest hzero =>
    -- A number with a leading zero is zero, which has one digit.
    obtain ⟨c, cs, hcons, hc, hcs⟩ := List.map_eq_cons_iff.mp hzero
    obtain ⟨hlow, -⟩ := toNat_of_isDigit (hdigits c (hcons ▸ List.mem_cons_self))
    obtain rfl : c = '0' := Char.toNat_inj.mp (show c.toNat = 0x30 by omega)
    obtain rfl : n = 0 := eq_zero_of_head?_toDigits (by rw [hcons]; rfl)
    obtain rfl : cs = [] := (List.cons.inj hcons).2.symm
    cases hcs
  · simp only [happend, List.length_map, hdrop, Nat.sub_self]
    cases negative with
    | false => rfl
    | true =>
      exact (apply_ite (fun read => Except.ok (read, _)) _ _ _).symm

/-! ### A number as a value -/

lemma eq_of_word {t result : Json} {cs : List Char} (h : word result cs input = .ok (t, after)) :
    t = result := by
  induction cs generalizing input with
  | nil =>
    cases h
    rfl
  | cons c rest ih =>
    rw [word] at h
    split at h
    · cases h
    · split at h
      · exact ih h
      · cases h

lemma skipBlanks_inside (h : input.skipBlanks.rest ≠ []) :
    (input.inside before tail).skipBlanks = input.skipBlanks.inside before tail := by
  have hlt : (input.rest.takeWhile Input.isBlank).length ≠ input.rest.length := by
    intro hall
    rw [Input.skipBlanks, Input.drop, hall, List.drop_length] at h
    exact h rfl
  rw [Input.skipBlanks, Input.skipBlanks, ← drop_inside (List.takeWhile_prefix _).length_le,
    Input.inside, List.takeWhile_append, if_neg hlt]

/-- A number is taken as a value whatever may follow it. -/
lemma value_number_inside {n : JsonNumber} (htail : Ends tail)
    (h : value 1 0 input = .ok (.number n, after)) (fuel depth : Nat) :
    value (fuel + 1) depth (input.inside before tail)
      = .ok (.number n, after.inside before tail) := by
  rw [value.eq_def] at h ⊢
  dsimp only at h ⊢
  have hrest : input.skipBlanks.rest ≠ [] := by
    intro hnil
    rw [peek_eq_none_iff.mpr hnil] at h
    cases h
  rw [skipBlanks_inside hrest, peek_inside hrest]
  generalize input.skipBlanks = input at h hrest ⊢
  split at h
  · cases h
  · cases eq_of_word h
  · cases eq_of_word h
  · cases eq_of_word h
  · obtain ⟨⟨m, rest⟩, hm, heq⟩ := map_eq_ok_iff.mp h
    cases heq
    rw [drop_inside (List.length_pos_of_ne_nil hrest), unsignedNumber_inside htail hm]
    rfl
  · obtain ⟨⟨s, rest⟩, hs, heq⟩ := map_eq_ok_iff.mp h
    cases heq
  · cases h
  · cases h
  · split at h
    · next hdigit =>
      obtain ⟨⟨m, rest⟩, hm, heq⟩ := map_eq_ok_iff.mp h
      cases heq
      rw [if_pos hdigit, unsignedNumber_inside htail hm]
      rfl
    · cases h

lemma skipBlanks_cons {b : UInt8} (h : Input.isBlank b = false) (rest : List UInt8) (taken : Nat) :
    (⟨b :: rest, taken⟩ : Input).skipBlanks = ⟨b :: rest, taken⟩ := by
  rw [Input.skipBlanks, List.takeWhile_cons_of_neg (by rw [h]; exact Bool.false_ne_true)]
  rfl

/-- What is read as a number without a sign begins with a digit. -/
lemma value_of_unsignedNumber {n : JsonNumber} (h : unsignedNumber false input = .ok (n, after)) :
    value 1 0 input = .ok (.number n, after) := by
  obtain ⟨bytes, taken⟩ := input
  have hdigits : digits ⟨bytes, taken⟩ ≠ [] := by
    intro hnil
    rw [unsignedNumber, hnil] at h
    dsimp only at h
    split at h <;> cases h
  cases bytes with
  | nil => exact absurd (digits_of_nil rfl) hdigits
  | cons b rest =>
    have hb : 0x30 ≤ b ∧ b ≤ 0x39 := by
      by_contra hb
      refine hdigits ?_
      rw [digits, List.takeWhile_cons_of_neg (by simpa using hb)]
      rfl
    have hbyte : ∀ n : Nat, n < 256 → let b := UInt8.ofNat n
        0x30 ≤ b ∧ b ≤ 0x39 → Input.isBlank b = false ∧ (Char.ofNat b.toNat).isDigit = true := by
      decide +kernel
    have hbits := hbyte b.toNat b.toNat_lt
    rw [UInt8.ofNat_toNat] at hbits
    obtain ⟨hblank, hdigit⟩ := hbits hb
    rw [value.eq_def]
    dsimp only
    rw [skipBlanks_cons hblank]
    have hpeek : (⟨b :: rest, taken⟩ : Input).peek = some (Char.ofNat b.toNat) := rfl
    rw [hpeek]
    generalize Char.ofNat b.toNat = c at hdigit
    split
    case h_1 heq => cases heq
    case h_9 d _ _ _ _ _ _ _ heq =>
      cases heq
      rw [if_pos hdigit, h]
      rfl
    all_goals
      rename_i heq
      cases heq
      exact absurd hdigit (by decide)

end Json.Reader

/-! ### Numbers that come back -/

/-- A number is read back from its text. -/
def JsonNumber.ReadsBack (n : JsonNumber) : Prop :=
  Json.Reader.value 1 0 ⟨Utf8.encode n.text, 0⟩ = .ok (.number n, ⟨[], (Utf8.encode n.text).length⟩)

/-- Whole numbers of 64 bits are read back. -/
theorem JsonNumber.readsBack_int {n : Int} (hlow : -(twoPow 63 : Int) ≤ n) (hhigh : n < twoPow 64) :
    ReadsBack (.int n) := by
  have htext : (JsonNumber.int n).text = if 0 ≤ n then n.toNat.repr else "-" ++ (-n).toNat.repr :=
    Int.repr_eq_if
  rw [ReadsBack, htext]
  split
  · next hn =>
    have hread := Json.Reader.unsignedNumber_repr (show n.toNat < twoPow 64 by omega) false 0
    rw [Nat.zero_add, if_neg Bool.false_ne_true, Int.toNat_of_nonneg hn] at hread
    exact Json.Reader.value_of_unsignedNumber hread
  · next hn =>
    have hpos := twoPow_pos 63
    have hpow : twoPow 64 = 2 * twoPow 63 := twoPow_succ 63
    have hread := Json.Reader.unsignedNumber_repr (show (-n).toNat < twoPow 64 by omega) true 1
    have hbranch : ¬ ((-n).toNat = 0 ∨ twoPow 63 < (-n).toNat) := by omega
    rw [if_pos rfl, if_neg hbranch, Int.toNat_of_nonneg (by omega), Int.neg_neg] at hread
    have hbytes : Utf8.encode ("-" ++ (-n).toNat.repr) = 0x2D :: Utf8.encode (-n).toNat.repr := by
      rw [Utf8.encode_append]
      rfl
    rw [hbytes, Json.Reader.value.eq_def]
    dsimp only
    rw [Json.Reader.skipBlanks_cons (by decide)]
    change (Json.Reader.unsignedNumber true ⟨Utf8.encode (-n).toNat.repr, 1⟩).map _ = _
    rw [hread, List.length_cons, Nat.add_comm]
    rfl

end DocQuery
