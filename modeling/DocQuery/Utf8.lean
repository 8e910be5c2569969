/-!
UTF-8, read one character at a time.

* `Utf8.first?`: the character at the start of a byte sequence, with the number of bytes it takes;
  surrogates, overlong forms and values past the last code point are no characters;
* `Utf8.encode`: the bytes of a text;
* `Utf8.first?_utf8EncodeChar_append`: the bytes of a character are read as that character.
-/

namespace DocQuery.Utf8

/-- The six bits that a continuation byte carries. -/
def continuation? (b : UInt8) : Option Nat :=
  if b &&& 0xC0 = 0x80 then some (b.toNat % 64) else none

/-- A code point of at least `least` as a character. -/
def scalar? (least code : Nat) : Option Char :=
  if least ≤ code ∧ code.isValidChar then some (Char.ofNat code) else none

/-- The first character of a byte sequence and its length in bytes. -/
def first? : List UInt8 → Option (Char × Nat)
  | [] => none
  | b :: rest =>
    if b < 0x80 then some (Char.ofNat b.toNat, 1)
    else if b &&& 0xE0 = 0xC0 then
      match rest with
      | c₁ :: _ => do
        let x₁ ← continuation? c₁
        let c ← scalar? 0x80 (b.toNat % 32 * 64 + x₁)
        some (c, 2)
      | _ => none
    else if b &&& 0xF0 = 0xE0 then
      match rest with
      | c₁ :: c₂ :: _ => do
        let x₁ ← continuation? c₁
        let x₂ ← continuation? c₂
        let c ← scalar? 0x800 ((b.toNat % 16 * 64 + x₁) * 64 + x₂)
        some (c, 3)
      | _ => none
    else if b &&& 0xF8 = 0xF0 then
      match rest with
      | c₁ :: c₂ :: c₃ :: _ => do
        let x₁ ← continuation? c₁
        let x₂ ← continuation? c₂
        let x₃ ← continuation? c₃
        let c ← scalar? 0x10000 (((b.toNat % 8 * 64 + x₁) * 64 + x₂) * 64 + x₃)
        some (c, 4)
      | _ => none
    else none

/-- The bytes of a text. -/
def encode (text : String) : List UInt8 := text.toList.flatMap String.utf8EncodeChar

@[simp] theorem encode_append (s t : String) : encode (s ++ t) = encode s ++ encode t := by
  rw [encode, String.toList_append, List.flatMap_append, encode, encode]

theorem encode_ofList (cs : List Char) :
    encode (String.ofList cs) = cs.flatMap String.utf8EncodeChar := by
  rw [encode, String.toList_ofList]

/-! ### Reading what was written -/

theorem scalar?_toNat {least : Nat} {c : Char} (h : least ≤ c.toNat) :
    scalar? least c.toNat = some c := by
  rw [scalar?, if_pos ⟨h, c.valid⟩, Char.ofNat_toNat]

theorem continuation?_ofNat : ∀ n < 64, continuation? (UInt8.ofNat (n + 128)) = some n := by decide

/-! The first byte of a character tells how many bytes it has; each of the others has six bits. -/

theorem first?_one {c : Char} (h : c.toNat < 0x80) (rest : List UInt8) :
    first? (UInt8.ofNat c.toNat :: rest) = some (c, 1) := by
  have hbyte : ∀ n < 128, UInt8.ofNat n < 0x80 ∧ (UInt8.ofNat n).toNat = n := by decide
  obtain ⟨hlow, hcode⟩ := hbyte c.toNat h
  simp only [first?, if_pos hlow, hcode, Char.ofNat_toNat]

theorem first?_two {c : Char} {n₀ n₁ : Nat} (h₀ : n₀ < 32) (h₁ : n₁ < 64)
    (hc : n₀ * 64 + n₁ = c.toNat) (hleast : 0x80 ≤ c.toNat) (rest : List UInt8) :
    first? (UInt8.ofNat (n₀ + 192) :: UInt8.ofNat (n₁ + 128) :: rest) = some (c, 2) := by
  have hbyte : ∀ n < 32, ¬ UInt8.ofNat (n + 192) < 0x80
      ∧ UInt8.ofNat (n + 192) &&& 0xE0 = 0xC0
      ∧ (UInt8.ofNat (n + 192)).toNat % 32 = n := by decide
  obtain ⟨hhigh, hlead, hcode⟩ := hbyte n₀ h₀
  simp only [first?, if_neg hhigh, if_pos hlead, hcode, continuation?_ofNat n₁ h₁,
    Option.bind_eq_bind, Option.bind_some, hc, scalar?_toNat hleast]

theorem first?_three {c : Char} {n₀ n₁ n₂ : Nat} (h₀ : n₀ < 16) (h₁ : n₁ < 64) (h₂ : n₂ < 64)
    (hc : (n₀ * 64 + n₁) * 64 + n₂ = c.toNat) (hleast : 0x800 ≤ c.toNat) (rest : List UInt8) :
    first? (UInt8.ofNat (n₀ + 224) :: UInt8.ofNat (n₁ + 128) :: UInt8.ofNat (n₂ + 128) :: rest)
      = some (c, 3) := by
  have hbyte : ∀ n < 16, ¬ UInt8.ofNat (n + 224) < 0x80
      ∧ UInt8.ofNat (n + 224) &&& 0xE0 ≠ 0xC0 ∧ UInt8.ofNat (n + 224) &&& 0xF0 = 0xE0
      ∧ (UInt8.ofNat (n + 224)).toNat % 16 = n := by decide
  obtain ⟨hhigh, hmore, hlead, hcode⟩ := hbyte n₀ h₀
  simp only [first?, if_neg hhigh, if_neg hmore, if_pos hlead, hcode, continuation?_ofNat n₁ h₁,
    continuation?_ofNat n₂ h₂, Option.bind_eq_bind, Option.bind_some, hc, scalar?_toNat hleast]

theorem first?_four {c : Char} {n₀ n₁ n₂ n₃ : Nat} (h₀ : n₀ < 8) (h₁ : n₁ < 64) (h₂ : n₂ < 64)
    (h₃ : n₃ < 64) (hc : ((n₀ * 64 + n₁) * 64 + n₂) * 64 + n₃ = c.toNat)
    (hleast : 0x10000 ≤ c.toNat) (rest : List UInt8) :
    first? (UInt8.ofNat (n₀ + 240) :: UInt8.ofNat (n₁ + 128) :: UInt8.ofNat (n₂ + 128)
      :: UInt8.ofNat (n₃ + 128) :: rest) = some (c, 4) := by
  have hbyte : ∀ n < 8, ¬ UInt8.ofNat (n + 240) < 0x80
      ∧ UInt8.ofNat (n + 240) &&& 0xE0 ≠ 0xC0 ∧ UInt8.ofNat (n + 240) &&& 0xF0 ≠ 0xE0
      ∧ UInt8.ofNat (n + 240) &&& 0xF8 = 0xF0
      ∧ (UInt8.ofNat (n + 240)).toNat % 8 = n := by decide
  obtain ⟨hhigh, hmore, hmost, hlead, hcode⟩ := hbyte n₀ h₀
  simp only [first?, if_neg hhigh, if_neg hmore, if_neg hmost, if_pos hlead, hcode,
    continuation?_ofNat n₁ h₁, continuation?_ofNat n₂ h₂, continuation?_ofNat n₃ h₃,
    Option.bind_eq_bind, Option.bind_some, hc, scalar?_toNat hleast]

/-- The bytes of a character are read as that character, whatever follows. -/
theorem first?_utf8EncodeChar_append (c : Char) (rest : List UInt8) :
    first? (String.utf8EncodeChar c ++ rest) = some (c, (String.utf8EncodeChar c).length) := by
  have hval : c.val.toNat = c.toNat := rfl
  have hlast : c.toNat < 0x110000 := by
    rcases c.valid with h | h
    · exact Nat.lt_trans h (by decide)
    · exact h.2
  rw [String.utf8EncodeChar, hval]
  split
  · exact first?_one (by omega) rest
  · split
    · exact first?_two (by omega) (by omega) (by omega) (by omega) rest
    · split
      · exact first?_three (by omega) (by omega) (by omega) (by omega) (by omega) rest
      · exact first?_four (by omega) (by omega) (by omega) (by omega) (by omega) (by omega) rest

end DocQuery.Utf8
