import DocQuery.Execution
import DocQuery.Proofs.FieldEdits
import DocQuery.Proofs.JsonRoundTrip
import DocQuery.Proofs.WrittenNumbers

/-!
JSON that was written is read back: the text of a tree is read as that tree, if no object in it
repeats a key, its containers are not nested too deep, and its numbers are read back from their own
texts.

* `Json.Reader.string_quote` (**strings**): by induction on the characters;
* `Json.Reader.items_commaBytes` and `Json.Reader.members_commaBytes` (**lists**);
* `Tree.Writable` and `Json.takesBack` (**trees**): by induction on what can be written;
* `Json.read_text` and `Document.read_listText` (**main statements**): whole texts;
* `Value.writable_toJson`: values whose numbers are whole and small are written so.
-/

namespace DocQuery

namespace Json.Reader

/-! ### Strings -/

/-- The bytes that a character is written as inside quotes. -/
def quoteBytes (c : Char) : List UInt8 := (quoteChar c).flatMap String.utf8EncodeChar

variable {taken : Nat} {tail : List UInt8} {input after : Input}

/-- The first byte of a character is its code or lies above ASCII. -/
lemma exists_utf8EncodeChar (c : Char) : ∃ b bytes, String.utf8EncodeChar c = b :: bytes
    ∧ (b.toNat = c.toNat ∨ 0x80 ≤ b.toNat) := by
  have hval : c.val.toNat = c.toNat := rfl
  have hbyte (n m : Nat) (hlow : 0x80 ≤ m) (hhigh : n + m < 256) :
      0x80 ≤ (UInt8.ofNat (n + m)).toNat := by
    rw [UInt8.toNat_ofNat_of_lt' hhigh]
    omega
  rw [String.utf8EncodeChar, hval]
  split
  · exact ⟨_, _, rfl, .inl (UInt8.toNat_ofNat_of_lt' (show c.toNat < 256 by omega))⟩
  · split
    · exact ⟨_, _, rfl, .inr (hbyte _ _ (by decide) (by omega))⟩
    · split <;> exact ⟨_, _, rfl, .inr (hbyte _ _ (by decide) (by omega))⟩

lemma hexDigit?_digitChar : ∀ n < 16, (Nat.digitChar n).toNat < 0x80
    ∧ hexDigit? (UInt8.ofNat (Nat.digitChar n).toNat) = some n := by decide

lemma drop_one_cons (b : UInt8) (rest : List UInt8) (taken : Nat) :
    (⟨b :: rest, taken⟩ : Input).drop 1 = ⟨rest, taken + 1⟩ := rfl

/-- Four hexadecimal digits stand for a control character. -/
lemma escape_hex {c : Char} (h : c.toNat < 0x20) {x y : UInt8}
    (hx : hexDigit? x = some (c.toNat / 16)) (hy : hexDigit? y = some (c.toNat % 16))
    (rest : List UInt8) (taken : Nat) :
    escape ⟨0x75 :: 0x30 :: 0x30 :: x :: y :: rest, taken⟩ = .ok (c, ⟨rest, taken + 5⟩) := by
  have hquad : hexQuad ⟨0x30 :: 0x30 :: x :: y :: rest, taken + 1⟩
      = .ok (c.toNat, ⟨rest, taken + 5⟩) := by
    have hzero : hexDigit? 0x30 = some 0 := by decide
    have hcode : ((0 * 16 + 0) * 16 + c.toNat / 16) * 16 + c.toNat % 16 = c.toNat := by omega
    simp only [hexQuad, hzero, hx, hy, hcode]
    rfl
  have hlow : ¬ (0xDC00 ≤ c.toNat ∧ c.toNat ≤ 0xDFFF) := by omega
  have hhigh : ¬ (0xD800 ≤ c.toNat ∧ c.toNat ≤ 0xDBFF) := by omega
  change unicodeEscape ⟨0x30 :: 0x30 :: x :: y :: rest, taken + 1⟩ = _
  rw [unicodeEscape, hquad]
  simp only [bind, Except.bind, if_neg hlow, if_neg hhigh, Char.ofNat_toNat]

/-- A control character is taken back from its escape. -/
lemma stringBody_control {c : Char} (h : c.toNat < 0x20) (fuel : Nat) (chars : List Char)
    (rest : List UInt8) :
    let bytes := ['\\', 'u', '0', '0', hexDigit (c.toNat / 16), hexDigit (c.toNat % 16)].flatMap
      String.utf8EncodeChar
    stringBody (fuel + 1) chars none ⟨bytes ++ rest, taken⟩
      = stringBody fuel (c :: chars) none ⟨rest, taken + bytes.length⟩ := by
  intro bytes
  obtain ⟨hfirst, hx⟩ := hexDigit?_digitChar (c.toNat / 16) (by omega)
  obtain ⟨hsecond, hy⟩ := hexDigit?_digitChar (c.toNat % 16) (by omega)
  have hbytes : bytes = [0x5C, 0x75, 0x30, 0x30,
      UInt8.ofNat (Nat.digitChar (c.toNat / 16)).toNat,
      UInt8.ofNat (Nat.digitChar (c.toNat % 16)).toNat] := by
    simp only [bytes, List.flatMap_cons, List.flatMap_nil, hexDigit, utf8EncodeChar_of_ascii hfirst,
      utf8EncodeChar_of_ascii hsecond]
    rfl
  rw [hbytes]
  simp only [List.cons_append, List.nil_append]
  rw [stringBody]
  dsimp only
  rw [if_neg (by decide), if_pos rfl, drop_one_cons, escape_hex h hx hy]
  rfl

/-- A character that needs no escape is taken back from its own bytes. -/
lemma stringBody_printed {c : Char} (h : 0x20 ≤ c.toNat) (hquote : c ≠ '"')
    (hbackslash : c ≠ '\\') (fuel : Nat) (chars : List Char) (rest : List UInt8) :
    stringBody (fuel + 1) chars none ⟨String.utf8EncodeChar c ++ rest, taken⟩
      = stringBody fuel (c :: chars) none
        ⟨rest, taken + (String.utf8EncodeChar c).length⟩ := by
  obtain ⟨b, bytes, hbytes, hb⟩ := exists_utf8EncodeChar c
  have hcontrol : ¬ b < 0x20 := by
    intro hlt
    have hnat : b.toNat < 0x20 := hlt
    omega
  have hplain (d : Char) (hd : d.toNat < 0x80) (hne : c ≠ d) : b.toNat ≠ d.toNat := by
    intro heq
    have hcode : c.toNat ≠ d.toNat := fun h => hne (Char.toNat_inj.mp h)
    omega
  have hquoted : b ≠ 0x22 := fun h => hplain '"' (by decide) hquote (congrArg UInt8.toNat h)
  have hescaped : b ≠ 0x5C := fun h => hplain '\\' (by decide) hbackslash (congrArg UInt8.toNat h)
  have hfirst := Utf8.first?_utf8EncodeChar_append c rest
  have hdrop := drop_length (String.utf8EncodeChar c) rest taken
  rw [hbytes] at hfirst hdrop ⊢
  rw [stringBody]
  simp only [List.cons_append] at hfirst hdrop ⊢
  rw [if_neg hquoted, if_neg hescaped, if_neg hcontrol, hfirst]
  exact congrArg (stringBody fuel (c :: chars) none) hdrop

/-- A character is taken back from inside quotes. -/
lemma stringBody_quoteBytes (fuel : Nat) (chars : List Char) (c : Char) (rest : List UInt8) :
    stringBody (fuel + 1) chars none ⟨quoteBytes c ++ rest, taken⟩
      = stringBody fuel (c :: chars) none ⟨rest, taken + (quoteBytes c).length⟩ := by
  rw [quoteBytes, quoteChar.eq_def]
  split
  · rfl
  · rfl
  · rfl
  · rfl
  · rfl
  · rfl
  · rfl
  · next hquote hbackslash _ _ _ _ _ =>
    split
    · next hcontrol => exact stringBody_control hcontrol fuel chars rest
    · next hprinted =>
      rw [List.flatMap_singleton]
      exact stringBody_printed (Nat.le_of_not_lt hprinted) hquote hbackslash fuel chars rest

lemma stringBody_quoted {fuel : Nat} {cs : List Char} (h : cs.length < fuel) (chars : List Char)
    (tail : List UInt8) (taken : Nat) :
    stringBody fuel chars none ⟨cs.flatMap quoteBytes ++ 0x22 :: tail, taken⟩
      = .ok (String.ofList (chars.reverse ++ cs),
        ⟨tail, taken + (cs.flatMap quoteBytes).length + 1⟩) := by
  induction cs generalizing fuel chars taken with
  | nil =>
    cases fuel with
    | zero => cases h
    | succ fuel =>
      rw [List.append_nil]
      rfl
  | cons c rest ih =>
    cases fuel with
    | zero => cases h
    | succ fuel =>
      rw [List.flatMap_cons, List.append_assoc, stringBody_quoteBytes,
        ih (Nat.lt_of_succ_lt_succ h), List.reverse_cons, List.append_assoc, List.length_append,
        List.singleton_append, Nat.add_assoc taken]

lemma length_le_flatMap_quoteBytes (cs : List Char) :
    cs.length ≤ (cs.flatMap quoteBytes).length := by
  have hpos (c : Char) : 1 ≤ (quoteBytes c).length := by
    obtain ⟨d, ds, hquote⟩ : ∃ d ds, quoteChar c = d :: ds := by
      rw [quoteChar.eq_def]
      split <;> try exact ⟨_, _, rfl⟩
      split <;> exact ⟨_, _, rfl⟩
    obtain ⟨b, bytes, hbytes, -⟩ := exists_utf8EncodeChar d
    rw [quoteBytes, hquote, List.flatMap_cons, hbytes, List.cons_append, List.length_cons]
    omega
  induction cs with
  | nil => exact Nat.zero_le _
  | cons c rest ih =>
    have := hpos c
    rw [List.flatMap_cons, List.length_append, List.length_cons]
    omega

lemma encode_quote (s : String) :
    Utf8.encode (quote s) = 0x22 :: (s.toList.flatMap quoteBytes ++ [0x22]) := by
  rw [quote, Utf8.encode_ofList, List.flatMap_append, List.flatMap_cons, List.flatMap_assoc]
  rfl

/-- **Strings.**  A string is taken back from its quotes. -/
lemma string_quote (s : String) (tail : List UInt8) (taken : Nat) :
    string ⟨Utf8.encode (quote s) ++ tail, taken⟩
      = .ok (s, ⟨tail, taken + (Utf8.encode (quote s)).length⟩) := by
  have hfuel : s.toList.length < (s.toList.flatMap quoteBytes ++ 0x22 :: tail).length + 1 + 1 := by
    have := length_le_flatMap_quoteBytes s.toList
    rw [List.length_append]
    omega
  have hbody := stringBody_quoted hfuel [] tail (taken + 1)
  rw [List.reverse_nil, List.nil_append, String.ofList_toList] at hbody
  rw [encode_quote, List.cons_append, List.append_assoc, List.singleton_append]
  change stringBody ((s.toList.flatMap quoteBytes ++ 0x22 :: tail).length + 1 + 1) [] none
    ⟨s.toList.flatMap quoteBytes ++ 0x22 :: tail, taken + 1⟩ = _
  rw [hbody, List.length_cons, List.length_append, List.length_singleton]
  congr 3
  omega

/-! ### Lists -/

/-- The bytes of texts, each after a comma. -/
def commaBytes (texts : List String) : List UInt8 := texts.flatMap fun s => 0x2C :: Utf8.encode s

lemma encode_intercalate (s : String) (texts : List String) :
    Utf8.encode (",".intercalate (s :: texts)) = Utf8.encode s ++ commaBytes texts := by
  induction texts generalizing s with
  | nil => simp [commaBytes]
  | cons t rest ih =>
    rw [String.intercalate_cons_cons, Utf8.encode_append, Utf8.encode_append, ih, List.append_assoc]
    rfl

lemma takeWhile_drop_takeWhile {α : Type} (p : α → Bool) (as : List α) :
    (as.drop (as.takeWhile p).length).takeWhile p = [] := by
  induction as with
  | nil => rfl
  | cons a rest ih =>
    by_cases ha : p a = true
    · rw [List.takeWhile_cons_of_pos ha]
      exact ih
    · rw [List.takeWhile_cons_of_neg ha, List.length_nil, List.drop_zero,
        List.takeWhile_cons_of_neg ha]

lemma skipBlanks_skipBlanks (input : Input) : input.skipBlanks.skipBlanks = input.skipBlanks := by
  have hnone : input.skipBlanks.rest.takeWhile Input.isBlank = [] := takeWhile_drop_takeWhile _ _
  rw [Input.skipBlanks, hnone]
  rfl

lemma value_skipBlanks (fuel depth : Nat) (input : Input) :
    value (fuel + 1) depth input.skipBlanks = value (fuel + 1) depth input := by
  rw [value.eq_def, value.eq_def (fuel + 1) depth input]
  dsimp only
  rw [skipBlanks_skipBlanks]

/-- A value does not begin with a closing bracket. -/
lemma peek_of_value {fuel depth : Nat} {t : Json} (h : value fuel depth input = .ok (t, after)) :
    ∃ c, input.skipBlanks.peek = some c ∧ c ≠ ']' := by
  rw [value.eq_def] at h
  cases fuel with
  | zero => cases h
  | succ fuel =>
    dsimp only at h
    cases hpeek : input.skipBlanks.peek with
    | none =>
      rw [hpeek] at h
      cases h
    | some c =>
      refine ⟨c, rfl, ?_⟩
      rintro rfl
      rw [hpeek] at h
      cases h

/-- A tree is taken back from its text, whatever may follow it. -/
def TakesBack (depth : Nat) (t : Json) : Prop :=
  ∀ fuel tail taken, Ends tail → 3 * (Utf8.encode t.text).length + 1 ≤ fuel →
    value fuel depth ⟨Utf8.encode t.text ++ tail, taken⟩
      = .ok (t, ⟨tail, taken + (Utf8.encode t.text).length⟩)

variable {depth : Nat}

lemma ends_commaBytes (texts : List String) {b : UInt8} (h : b = 0x5D ∨ b = 0x7D)
    (tail : List UInt8) : Ends (commaBytes texts ++ b :: tail) := by
  cases texts with
  | nil => exact fun _ hb => Option.some.inj hb ▸ .inr h
  | cons s rest => exact fun _ hb => Option.some.inj hb ▸ .inl rfl

lemma itemThenItems_text {t : Json} {rest : List Json} {fuel : Nat} {taken : Nat}
    (ht : TakesBack depth t) (hfuel : 3 * (Utf8.encode t.text).length + 1 ≤ fuel)
    (hrest : ∀ taken, items fuel depth false ⟨commaBytes (itemTexts rest) ++ 0x5D :: tail, taken⟩
      = .ok (rest, ⟨tail, taken + (commaBytes (itemTexts rest)).length + 1⟩)) :
    itemThenItems (fuel + 1) depth (Input.mk
        (Utf8.encode t.text ++ (commaBytes (itemTexts rest) ++ 0x5D :: tail)) taken).skipBlanks
      = .ok (t :: rest, ⟨tail, taken + (Utf8.encode t.text).length
        + (commaBytes (itemTexts rest)).length + 1⟩) := by
  have hvalue := ht fuel _ taken (ends_commaBytes (itemTexts rest) (.inl rfl) tail) hfuel
  obtain ⟨fuel, rfl⟩ : ∃ n, fuel = n + 1 := Nat.exists_eq_succ_of_ne_zero (by omega)
  rw [itemThenItems, value_skipBlanks, hvalue]
  dsimp only
  rw [hrest]
  rfl

lemma items_close (fuel : Nat) (first : Bool) (tail : List UInt8) (taken : Nat) :
    items (fuel + 1) depth first ⟨0x5D :: tail, taken⟩ = .ok ([], ⟨tail, taken + 1⟩) := by
  rw [items, skipBlanks_cons (by decide)]
  rfl

lemma items_first {fuel : Nat} {c : Char} (hc : input.skipBlanks.peek = some c) (hne : c ≠ ']') :
    items (fuel + 1) depth true input = itemThenItems fuel depth input.skipBlanks := by
  rw [items]
  dsimp only
  rw [hc]
  split
  · next heq => cases heq
  · next heq => exact absurd (Option.some.inj heq) hne
  · rfl

lemma items_comma {fuel : Nat} {bytes : List UInt8} {taken : Nat} {c : Char}
    (hc : (⟨bytes, taken + 1⟩ : Input).skipBlanks.peek = some c) (hne : c ≠ ']') :
    items (fuel + 1) depth false ⟨0x2C :: bytes, taken⟩
      = itemThenItems fuel depth (⟨bytes, taken + 1⟩ : Input).skipBlanks := by
  rw [items, skipBlanks_cons (by decide)]
  have hpeek : (⟨0x2C :: bytes, taken⟩ : Input).peek = some ',' := rfl
  rw [hpeek]
  dsimp only
  rw [drop_one_cons, hc]
  split
  · next heq => cases heq
  · next heq => cases heq
  · next heq =>
    cases heq
    rw [if_neg Bool.false_ne_true, if_pos rfl]
    split
    · next heq => cases heq
    · next heq => exact absurd (Option.some.inj heq) hne
    · rfl

/-- Items are taken back from their texts, each behind a comma. -/
lemma items_commaBytes {ts : List Json} (h : ∀ t ∈ ts, TakesBack depth t) {fuel : Nat}
    (hfuel : 3 * (commaBytes (itemTexts ts)).length + 3 ≤ fuel) (tail : List UInt8) (taken : Nat) :
    items fuel depth false ⟨commaBytes (itemTexts ts) ++ 0x5D :: tail, taken⟩
      = .ok (ts, ⟨tail, taken + (commaBytes (itemTexts ts)).length + 1⟩) := by
  induction ts generalizing fuel taken with
  | nil =>
    obtain ⟨fuel, rfl⟩ : ∃ n, fuel = n + 1 := Nat.exists_eq_succ_of_ne_zero (by omega)
    exact items_close fuel false tail taken
  | cons t rest ih =>
    obtain ⟨ht, hrest⟩ := List.forall_mem_cons.mp h
    have hbytes : commaBytes (itemTexts (t :: rest))
        = 0x2C :: (Utf8.encode t.text ++ commaBytes (itemTexts rest)) := rfl
    rw [hbytes] at hfuel ⊢
    rw [List.length_cons, List.length_append] at hfuel ⊢
    obtain ⟨fuel, rfl⟩ : ∃ n, fuel = n + 1 + 1 := ⟨fuel - 2, by omega⟩
    obtain ⟨c, hc, hne⟩ := peek_of_value (ht _ _ (taken + 1)
      (ends_commaBytes (itemTexts rest) (.inl rfl) tail) (Nat.le_refl _))
    rw [List.cons_append, List.append_assoc, items_comma hc hne,
      itemThenItems_text ht (by omega) fun taken => ih hrest (by omega) taken]
    congr 3
    omega

lemma value_array {ts : List Json} (h : ∀ t ∈ ts, TakesBack depth t) :
    TakesBack (depth + 1) (.array ts) := by
  intro fuel tail taken _ hfuel
  have hbytes : Utf8.encode (text (.array ts)) ++ tail
      = 0x5B :: (Utf8.encode (",".intercalate (itemTexts ts)) ++ 0x5D :: tail) := by
    rw [text, Utf8.encode_append, Utf8.encode_append, List.append_assoc, List.append_assoc]
    rfl
  have hlength : (Utf8.encode (text (.array ts))).length
      = (Utf8.encode (",".intercalate (itemTexts ts))).length + 2 := by
    have := congrArg List.length hbytes
    simp only [List.length_append, List.length_cons] at this
    omega
  rw [hlength] at hfuel ⊢
  obtain ⟨fuel, rfl⟩ : ∃ n, fuel = n + 1 + 1 + 1 := ⟨fuel - 3, by omega⟩
  have hitems : items (fuel + 1 + 1) depth true
      ⟨Utf8.encode (",".intercalate (itemTexts ts)) ++ 0x5D :: tail, taken + 1⟩
      = .ok (ts, ⟨tail, taken + (Utf8.encode (",".intercalate (itemTexts ts))).length + 2⟩) := by
    cases ts with
    | nil => exact items_close _ true tail (taken + 1)
    | cons t rest =>
      obtain ⟨ht, hrest⟩ := List.forall_mem_cons.mp h
      rw [itemTexts, encode_intercalate, List.length_append] at hfuel ⊢
      rw [List.append_assoc]
      obtain ⟨c, hc, hne⟩ := peek_of_value (ht _ _ (taken + 1)
        (ends_commaBytes (itemTexts rest) (.inl rfl) tail) (Nat.le_refl _))
      rw [items_first hc hne, itemThenItems_text ht (by omega) fun taken =>
        items_commaBytes hrest (by omega) tail taken]
      congr 3
      omega
  rw [hbytes, value.eq_def]
  dsimp only
  rw [skipBlanks_cons (by decide)]
  change (items (fuel + 1 + 1) depth true ((⟨0x5B :: _, taken⟩ : Input).drop 1)).map _ = _
  rw [drop_one_cons, hitems]
  rfl

lemma members_close (fuel : Nat) (first : Bool) (tail : List UInt8) (taken : Nat) :
    members (fuel + 1) depth first ⟨0x7D :: tail, taken⟩ = .ok ([], ⟨tail, taken + 1⟩) := by
  rw [members, skipBlanks_cons (by decide)]
  rfl

lemma encode_member (k : String) (t : Json) (more : List UInt8) :
    Utf8.encode (quote k ++ ":" ++ t.text) ++ more
      = Utf8.encode (quote k) ++ 0x3A :: (Utf8.encode t.text ++ more) := by
  rw [Utf8.encode_append, Utf8.encode_append, List.append_assoc, List.append_assoc]
  rfl

lemma length_encode_member (k : String) (t : Json) : (Utf8.encode (quote k ++ ":" ++ t.text)).length
    = (Utf8.encode (quote k)).length + 1 + (Utf8.encode t.text).length := by
  have := congrArg List.length (encode_member k t [])
  simp only [List.append_nil, List.length_append, List.length_cons] at this
  omega

/-- A member begins with a quote. -/
lemma exists_encode_member (k : String) (t : Json) (more : List UInt8) :
    ∃ bytes, Utf8.encode (quote k ++ ":" ++ t.text) ++ more = 0x22 :: bytes := by
  rw [encode_member, encode_quote]
  exact ⟨_, rfl⟩

lemma members_first (fuel : Nat) (k : String) (t : Json) (more : List UInt8) (taken : Nat) :
    members (fuel + 1) depth true ⟨Utf8.encode (quote k ++ ":" ++ t.text) ++ more, taken⟩
      = memberThenMembers fuel depth ⟨Utf8.encode (quote k ++ ":" ++ t.text) ++ more, taken⟩ := by
  obtain ⟨bytes, hbytes⟩ := exists_encode_member k t more
  rw [hbytes, members, skipBlanks_cons (by decide)]
  rfl

lemma members_comma (fuel : Nat) (k : String) (t : Json) (more : List UInt8) (taken : Nat) :
    members (fuel + 1) depth false
        ⟨0x2C :: (Utf8.encode (quote k ++ ":" ++ t.text) ++ more), taken⟩
      = memberThenMembers fuel depth
        ⟨Utf8.encode (quote k ++ ":" ++ t.text) ++ more, taken + 1⟩ := by
  obtain ⟨bytes, hbytes⟩ := exists_encode_member k t more
  rw [hbytes, members, skipBlanks_cons (by decide)]
  have hpeek : (⟨0x2C :: 0x22 :: bytes, taken⟩ : Input).peek = some ',' := rfl
  rw [hpeek]
  dsimp only
  rw [drop_one_cons, skipBlanks_cons (by decide)]
  rfl

lemma memberThenMembers_text {k : String} {t : Json} {rest : List (String × Json)} {fuel : Nat}
    {taken : Nat} (ht : TakesBack depth t) (hfuel : 3 * (Utf8.encode t.text).length + 1 ≤ fuel)
    (hrest : ∀ taken, members fuel depth false
        ⟨commaBytes (memberTexts rest) ++ 0x7D :: tail, taken⟩
      = .ok (rest, ⟨tail, taken + (commaBytes (memberTexts rest)).length + 1⟩)) :
    memberThenMembers (fuel + 1) depth
        ⟨Utf8.encode (quote k ++ ":" ++ t.text) ++ (commaBytes (memberTexts rest) ++ 0x7D :: tail),
          taken⟩
      = .ok ((k, t) :: rest, ⟨tail, taken + (Utf8.encode (quote k ++ ":" ++ t.text)).length
        + (commaBytes (memberTexts rest)).length + 1⟩) := by
  have hvalue := ht fuel _ (taken + (Utf8.encode (quote k)).length + 1)
    (ends_commaBytes (memberTexts rest) (.inr rfl) tail) hfuel
  rw [encode_member, length_encode_member, memberThenMembers, string_quote]
  dsimp only
  have hpeek (bytes : List UInt8) (taken : Nat) :
      (⟨0x3A :: bytes, taken⟩ : Input).peek = some ':' := rfl
  rw [skipBlanks_cons (by decide), hpeek, drop_one_cons, hvalue]
  dsimp only
  rw [hrest]
  simp only [Except.map, Nat.add_assoc]

/-- Members are taken back from their texts, each behind a comma. -/
lemma members_commaBytes {ms : List (String × Json)} (h : ∀ m ∈ ms, TakesBack depth m.2)
    {fuel : Nat} (hfuel : 3 * (commaBytes (memberTexts ms)).length + 3 ≤ fuel) (tail : List UInt8)
    (taken : Nat) :
    members fuel depth false ⟨commaBytes (memberTexts ms) ++ 0x7D :: tail, taken⟩
      = .ok (ms, ⟨tail, taken + (commaBytes (memberTexts ms)).length + 1⟩) := by
  induction ms generalizing fuel taken with
  | nil =>
    obtain ⟨fuel, rfl⟩ : ∃ n, fuel = n + 1 := Nat.exists_eq_succ_of_ne_zero (by omega)
    exact members_close fuel false tail taken
  | cons m rest ih =>
    obtain ⟨k, t⟩ := m
    obtain ⟨hfirst, hrest⟩ := List.forall_mem_cons.mp h
    have ht : TakesBack depth t := hfirst
    have hbytes : commaBytes (memberTexts ((k, t) :: rest))
        = 0x2C :: (Utf8.encode (quote k ++ ":" ++ t.text) ++ commaBytes (memberTexts rest)) := rfl
    have hlength := length_encode_member k t
    rw [hbytes] at hfuel ⊢
    rw [List.length_cons, List.length_append] at hfuel ⊢
    obtain ⟨fuel, rfl⟩ : ∃ n, fuel = n + 1 + 1 := ⟨fuel - 2, by omega⟩
    rw [List.cons_append, List.append_assoc, members_comma,
      memberThenMembers_text ht (by omega) fun taken => ih hrest (by omega) taken]
    generalize (Utf8.encode (quote k ++ ":" ++ t.text)).length = first
    generalize (commaBytes (memberTexts rest)).length = more
    have htaken : taken + 1 + first + more + 1 = taken + (first + more + 1) + 1 := by omega
    rw [htaken]

/-- Members with distinct keys stay as they are. -/
lemma ofList_of_distinct {ms : List (String × Json)} (h : Fields.Distinct ms) :
    Fields.ofList ms = ms := by
  induction ms using List.reverseRecOn with
  | nil => rfl
  | append_singleton before m ih =>
    rw [Fields.Distinct, Fields.keys, List.map_append, List.nodup_append] at h
    obtain ⟨hbefore, -, hapart⟩ := h
    have hkey : m.1 ∉ Fields.keys before := fun hmem =>
      hapart _ hmem _ (List.mem_singleton_self _) rfl
    rw [Fields.ofList_concat, ih hbefore]
    simpa [Fields.insert] using Fields.insert_append hkey [] m.2

lemma value_object {ms : List (String × Json)} (hdistinct : Fields.Distinct ms)
    (h : ∀ m ∈ ms, TakesBack depth m.2) : TakesBack (depth + 1) (.object ms) := by
  intro fuel tail taken _ hfuel
  have hbytes : Utf8.encode (text (.object ms)) ++ tail
      = 0x7B :: (Utf8.encode (",".intercalate (memberTexts ms)) ++ 0x7D :: tail) := by
    rw [text, Utf8.encode_append, Utf8.encode_append, List.append_assoc, List.append_assoc]
    rfl
  have hlength : (Utf8.encode (text (.object ms))).length
      = (Utf8.encode (",".intercalate (memberTexts ms))).length + 2 := by
    have := congrArg List.length hbytes
    simp only [List.length_append, List.length_cons] at this
    omega
  rw [hlength] at hfuel ⊢
  obtain ⟨fuel, rfl⟩ : ∃ n, fuel = n + 1 + 1 + 1 := ⟨fuel - 3, by omega⟩
  have hmembers : members (fuel + 1 + 1) depth true
      ⟨Utf8.encode (",".intercalate (memberTexts ms)) ++ 0x7D :: tail, taken + 1⟩
      = .ok (ms, ⟨tail, taken + (Utf8.encode (",".intercalate (memberTexts ms))).length + 2⟩) := by
    cases ms with
    | nil => exact members_close _ true tail (taken + 1)
    | cons m rest =>
      obtain ⟨k, t⟩ := m
      obtain ⟨hfirst, hrest⟩ := List.forall_mem_cons.mp h
      have ht : TakesBack depth t := hfirst
      have hmember := length_encode_member k t
      rw [memberTexts, encode_intercalate, List.length_append] at hfuel ⊢
      rw [List.append_assoc, members_first, memberThenMembers_text ht (by omega) fun taken =>
        members_commaBytes hrest (by omega) tail taken]
      generalize (Utf8.encode (quote k ++ ":" ++ t.text)).length = first
      generalize (commaBytes (memberTexts rest)).length = more
      have htaken : taken + 1 + first + more + 1 = taken + (first + more) + 2 := by omega
      rw [htaken]
  rw [hbytes, value.eq_def]
  dsimp only
  rw [skipBlanks_cons (by decide)]
  change (members (fuel + 1 + 1) depth true ((⟨0x7B :: _, taken⟩ : Input).drop 1)).map _ = _
  rw [drop_one_cons, hmembers]
  simp only [Except.map, ofList_of_distinct hdistinct, Nat.add_assoc]

lemma value_string (s : String) : TakesBack depth (.string s) := by
  intro fuel tail taken _ hfuel
  obtain ⟨fuel, rfl⟩ : ∃ n, fuel = n + 1 := Nat.exists_eq_succ_of_ne_zero (by omega)
  have hread := string_quote s tail taken
  rw [text, value.eq_def]
  dsimp only
  rw [encode_quote, List.cons_append] at hread ⊢
  rw [skipBlanks_cons (by decide)]
  change (string ⟨0x22 :: _, taken⟩).map _ = _
  rw [hread]
  rfl

end Json.Reader

/-! ### Trees -/

namespace Tree

variable {ν μ : Type} {p : ν → Prop} {q : μ → Prop} {depth : Nat}

/-- A tree that can be written and read: its containers are nested at most `depth` deep, none of its
objects repeats a key, and its numbers have a property. -/
inductive Writable (p : ν → Prop) : Nat → Tree ν → Prop
  | null {depth : Nat} : Writable p depth .null
  | bool {depth : Nat} (b : Bool) : Writable p depth (.bool b)
  | number {depth : Nat} {n : ν} (h : p n) : Writable p depth (.number n)
  | string {depth : Nat} (s : String) : Writable p depth (.string s)
  | array {depth : Nat} {ts : List (Tree ν)} (h : ∀ t ∈ ts, Writable p depth t) :
    Writable p (depth + 1) (.array ts)
  | object {depth : Nat} {ms : List (String × Tree ν)} (hdistinct : Fields.Distinct ms)
    (h : ∀ m ∈ ms, Writable p depth m.2) : Writable p (depth + 1) (.object ms)

lemma Writable.bindNumbers {f : ν → Tree μ} (hf : ∀ n, p n → ∀ depth, Writable q depth (f n))
    {t : Tree ν} (h : Writable p depth t) : Writable q depth (t.bindNumbers f) := by
  induction h with
  | null => exact .null
  | bool b => exact .bool b
  | number h => exact hf _ h _
  | string s => exact .string s
  | array _ ih =>
    rw [bindNumbers_array]
    refine .array fun t ht => ?_
    obtain ⟨before, hbefore, rfl⟩ := List.mem_map.mp ht
    exact ih before hbefore
  | object hdistinct _ ih =>
    rw [bindNumbers_object]
    refine .object ?_ fun m hm => ?_
    · rw [Fields.Distinct, Fields.keys_map]
      exact hdistinct
    · obtain ⟨before, hbefore, rfl⟩ := List.mem_map.mp hm
      exact ih before hbefore

end Tree

namespace Json

open Reader

/-- **Trees.**  A tree is taken back from its text, whatever may follow it. -/
lemma takesBack {depth : Nat} {t : Json} (h : t.Writable JsonNumber.ReadsBack depth) :
    TakesBack depth t := by
  induction h with
  | null =>
    intro fuel tail taken _ hfuel
    obtain ⟨fuel, rfl⟩ : ∃ n, fuel = n + 1 := Nat.exists_eq_succ_of_ne_zero (by omega)
    have hbytes : Utf8.encode (text .null) = [0x6E, 0x75, 0x6C, 0x6C] := by decide
    rw [hbytes, value.eq_def]
    dsimp only
    rw [List.cons_append, skipBlanks_cons (by decide)]
    rfl
  | bool b =>
    intro fuel tail taken _ hfuel
    obtain ⟨fuel, rfl⟩ : ∃ n, fuel = n + 1 := Nat.exists_eq_succ_of_ne_zero (by omega)
    cases b with
    | false =>
      have hbytes : Utf8.encode (text (.bool false)) = [0x66, 0x61, 0x6C, 0x73, 0x65] := by decide
      rw [hbytes, value.eq_def]
      dsimp only
      rw [List.cons_append, skipBlanks_cons (by decide)]
      rfl
    | true =>
      have hbytes : Utf8.encode (text (.bool true)) = [0x74, 0x72, 0x75, 0x65] := by decide
      rw [hbytes, value.eq_def]
      dsimp only
      rw [List.cons_append, skipBlanks_cons (by decide)]
      rfl
  | number h =>
    intro fuel tail taken htail hfuel
    obtain ⟨fuel, rfl⟩ : ∃ n, fuel = n + 1 := Nat.exists_eq_succ_of_ne_zero (by omega)
    exact value_number_inside htail h fuel _
  | string s => exact value_string s
  | array _ ih => exact value_array ih
  | object hdistinct _ ih => exact value_object hdistinct ih

/-- **Main statement.**  A tree is read from its text. -/
theorem read_text {t : Json} (h : t.Writable JsonNumber.ReadsBack maxDepth) :
    read (Utf8.encode t.text) = .ok t := by
  have hvalue := takesBack h (3 * (Utf8.encode t.text).length + 3) [] 0 (fun _ hb => by cases hb)
    (by omega)
  rw [List.append_nil] at hvalue
  rw [read, document, hvalue]
  rfl

end Json

/-- The text of a list of documents is read as the list of their trees. -/
theorem Document.read_listText {docs : List Document}
    (h : ∀ doc ∈ docs, doc.toJson.Writable JsonNumber.ReadsBack (Json.Reader.maxDepth - 1)) :
    Json.read (Utf8.encode (listText docs)) = .ok (.array (docs.map toJson)) := by
  refine Json.read_text (.array fun t ht => ?_)
  obtain ⟨doc, hdoc, rfl⟩ := List.mem_map.mp ht
  exact h doc hdoc

/-! ### Values with whole numbers -/

/-- A double that is written as a whole number. -/
def Binary64.IsWhole (x : Binary64) : Prop := ∃ n, x.integral? = some n ∧ n.natAbs < twoPow 53

namespace Value

lemma numberToJson_of_integral? {x : Binary64} {n : Int} (hn : x.integral? = some n)
    (hlimit : n.natAbs < twoPow 53) : numberToJson x = .number (.int n) := by
  have hle : ¬ Binary64.exactLimit < x.magnitude := by
    rw [Binary64.exactLimit_lt_magnitude_iff_natAbs hn]
    omega
  have hne : x.magnitude ≠ Binary64.exactLimit := by
    intro heq
    have htruncated : x.truncated = twoPow 53 := by
      rw [Binary64.truncated, Binary64.exponent, Binary64.significand, heq]
      decide
    rw [Binary64.natAbs_of_integral? hn, htruncated] at hlimit
    exact Nat.lt_irrefl _ hlimit
  rw [numberToJson, hn]
  dsimp only
  rw [if_pos (by omega)]

/-- A value with whole numbers has a text from which its tree is read. -/
theorem writable_toJson {v : Value} {depth : Nat} (h : v.Writable Binary64.IsWhole depth) :
    v.toJson.Writable JsonNumber.ReadsBack depth := by
  refine h.bindNumbers fun x ⟨n, hn, hlimit⟩ depth => ?_
  rw [numberToJson_of_integral? hn hlimit]
  have hpow : twoPow 53 ≤ twoPow 63 := by decide
  have hpow' : twoPow 63 ≤ twoPow 64 := by decide
  exact .number (JsonNumber.readsBack_int (by omega) (by omega))

end Value

end DocQuery
