import DocQuery.Error
import Mathlib

/-!
The index of the byte at a position.  The error of a text names a place in it twice, by line and
column and by index, and both lead to the same byte.

* `Position.ofByte`: the position of the byte at an index;
* `Position.EndsLine` and `Position.lineStart?_append`: a line starts after the text that ends all
  lines before it;
* `Position.searchOffset` (**checked search**): the index as it is found, by one search for a
  newline after the other, where every slice has to start within the text and every sum has to fit a
  word;
* `Position.searchLine_eq`: the search stays within the text and finds the start of the line;
* `Position.byteOffset_points_at_byte` (**main statement**): the byte at a position comes back, no
  position leads out of the text, and the search fails at none.
-/

namespace DocQuery.Position

/-! ### Positions of bytes -/

/-- The position of the byte at an index: its line is one more than the newlines before it, and its
column counts the bytes of that line up to and including it. -/
def ofByte (raw : List UInt8) (index : Nat) : Position where
  line := 1 + (raw.take index).count newline
  column := ((raw.take index).reverse.takeWhile (· ≠ newline)).length + 1

variable {raw rest : List UInt8} {skipped start index : Nat}

/-- A byte that ends no line is at the position that is reached with it. -/
lemma ofIndex_succ (h : index < raw.length) (hbyte : raw[index] ≠ newline) :
    ofIndex raw (index + 1) = ofByte raw index := by
  have htake : raw.take (index + 1) = raw.take index ++ [raw[index]] :=
    List.take_succ_eq_append_getElem h
  have hcount : (raw.take (index + 1)).count newline = (raw.take index).count newline := by
    rw [htake, List.count_append, List.count_singleton, if_neg (by simpa using hbyte), Nat.add_zero]
  rw [ofIndex, ofByte, hcount, htake, List.reverse_append, List.reverse_singleton,
    List.singleton_append, List.takeWhile_cons_of_pos (by simpa using hbyte), List.length_cons,
    Nat.add_comm 1]

/-! ### The start of a line -/

/-- What stands before a line: nothing, or lines that are complete. -/
def EndsLine (before : List UInt8) : Prop := before = [] ∨ before.getLast? = some newline

lemma EndsLine.of_cons {b : UInt8} (h : EndsLine (b :: rest)) : EndsLine rest := by
  rcases h with h | h
  · cases h
  · cases rest with
    | nil => exact .inl rfl
    | cons c rest => exact .inr (by rwa [List.getLast?_cons_cons] at h)

/-- Lines that are complete contain a newline. -/
lemma EndsLine.count_pos (h : EndsLine rest) (hne : rest ≠ []) : 0 < rest.count newline :=
  List.count_pos_iff.mpr (List.mem_of_getLast? (h.resolve_left hne))

/-- A line starts after the text that ends all lines before it. -/
lemma lineStart?_append {before : List UInt8} (h : EndsLine before) (rest : List UInt8) :
    lineStart? (before ++ rest) (before.count newline) = some before.length := by
  induction before with
  | nil => rw [List.count_nil, lineStart?]; rfl
  | cons b before ih =>
    have hstart := ih h.of_cons
    obtain ⟨skipped, hskipped⟩ : ∃ skipped, (b :: before).count newline = skipped + 1 :=
      Nat.exists_eq_add_one.mpr (h.count_pos (List.cons_ne_nil _ _))
    rw [hskipped, List.cons_append, lineStart?]
    by_cases hb : b = newline
    · rw [hb, List.count_cons_self] at hskipped
      rw [if_pos hb, ← Nat.succ.inj hskipped, hstart]
      rfl
    · rw [List.count_cons_of_ne hb] at hskipped
      rw [if_neg hb, ← hskipped, hstart]
      rfl

lemma lineStart?_le (h : lineStart? raw skipped = some start) : start ≤ raw.length := by
  induction raw generalizing skipped start with
  | nil =>
    cases skipped with
    | zero => cases h; exact Nat.le_refl _
    | succ skipped => cases h
  | cons b rest ih =>
    cases skipped with
    | zero => cases h; exact Nat.zero_le _
    | succ skipped =>
      obtain ⟨after, hafter, rfl⟩ := Option.map_eq_some_iff.mp h
      exact Nat.succ_le_succ (ih hafter)

/-- A line further on starts where it does in the text after the next newline. -/
lemma lineStart?_succ (raw : List UInt8) (skipped : Nat) :
    lineStart? raw (skipped + 1) = (raw.findIdx? (· = newline)).bind fun i =>
      (lineStart? (raw.drop (i + 1)) skipped).map (i + 1 + ·) := by
  induction raw with
  | nil => rfl
  | cons b rest ih =>
    rw [lineStart?, List.findIdx?_cons]
    by_cases hb : b = newline
    · simp [hb, Nat.add_comm]
    · rw [if_neg hb, ih, if_neg (by simpa using hb)]
      cases rest.findIdx? (· = newline) with
      | none => rfl
      | some i =>
        simp only [Option.bind_some, Option.map_some, Option.map_map, List.drop_succ_cons]
        exact congrArg (Option.map · _) (funext fun start => Nat.add_right_comm ..)

/-! ### The byte at a position -/

/-- What comes before a byte: complete lines, and the bytes of its own line. -/
lemma exists_lines (before : List UInt8) :
    ∃ lines current, before = lines ++ current ∧ EndsLine lines
      ∧ lines.count newline = before.count newline
      ∧ current.length = (before.reverse.takeWhile (· ≠ newline)).length := by
  have hsplit : before.rdropWhile (· ≠ newline) ++ before.rtakeWhile (· ≠ newline) = before :=
    List.rdropWhile_append_rtakeWhile
  refine ⟨before.rdropWhile (· ≠ newline), before.rtakeWhile (· ≠ newline), hsplit.symm, ?_, ?_,
    List.length_reverse⟩
  · by_cases hne : before.rdropWhile (· ≠ newline) = []
    · exact .inl hne
    · have hlast := List.rdropWhile_last_not _ _ hne
      rw [decide_eq_true_eq, not_not] at hlast
      exact .inr ((List.getLast?_eq_some_getLast hne).trans (congrArg some hlast))
  · have hcurrent : newline ∉ before.rtakeWhile (· ≠ newline) := fun hmem => by
      simpa using List.mem_rtakeWhile_imp hmem
    conv_rhs => rw [← hsplit]
    rw [List.count_append, List.count_eq_zero.mpr hcurrent, Nat.add_zero]

/-- The position of a byte leads to that byte. -/
lemma byteOffset_ofByte (h : index ≤ raw.length) : byteOffset raw (ofByte raw index) = index := by
  obtain ⟨lines, current, hbefore, hlines, hcount, hlength⟩ := exists_lines (raw.take index)
  have hsum : lines.length + current.length = index := by
    rw [← List.length_append, ← hbefore, List.length_take_of_le h]
  have hstart : lineStart? raw ((raw.take index).count newline) = some lines.length := by
    have hraw : raw = lines ++ (current ++ raw.drop index) := by
      rw [← List.append_assoc, ← hbefore, List.take_append_drop]
    conv_lhs => rw [← hcount, hraw]
    exact lineStart?_append hlines _
  have hline : (ofByte raw index).line ≠ 0 := by simp [ofByte]
  rw [byteOffset, if_neg hline]
  simp only [ofByte, Nat.add_sub_cancel_left, Nat.add_sub_cancel, hstart, ← hlength, hsum]
  exact Nat.min_eq_left h

lemma byteOffset_le (raw : List UInt8) (position : Position) :
    byteOffset raw position ≤ raw.length := by
  rw [byteOffset]
  split
  · exact Nat.zero_le _
  · split
    · exact Nat.min_le_right _ _
    · exact Nat.le_refl _

/-! ### The search with checked indices -/

/-- What can go wrong with the indices of a text. -/
inductive IndexFault where
  | outOfRange
  | overflow
deriving DecidableEq

/-- The text from an index on, which has to be at most its length. -/
def slice (raw : List UInt8) (start : Nat) : Except IndexFault (List UInt8) :=
  if start ≤ raw.length then .ok (raw.drop start) else .error .outOfRange

/-- The sum of two indices, which has to be at most the greatest number of a word. -/
def addWithin (limit a b : Nat) : Except IndexFault Nat :=
  if a + b ≤ limit then .ok (a + b) else .error .overflow

/-- The index of the first byte of a line, where the lines before it are `skipped` many from `start`
on: each search for a newline begins after the one that was found before.  There is none if a
newline is missing. -/
def searchLine (limit : Nat) (raw : List UInt8) (start : Nat) :
    Nat → Except IndexFault (Option Nat)
  | 0 => .ok (some start)
  | skipped + 1 => do
    let rest ← slice raw start
    match rest.findIdx? (· = newline) with
    | none => .ok none
    | some i =>
      let length ← addWithin limit i 1
      let next ← addWithin limit start length
      searchLine limit raw next skipped

/-- The index of the byte at a position, by searches for newlines. -/
def searchOffset (limit : Nat) (raw : List UInt8) (position : Position) :
    Except IndexFault Nat :=
  if position.line = 0 then .ok 0
  else do
    match ← searchLine limit raw 0 (position.line - 1) with
    | none => .ok raw.length
    | some start =>
      let index ← addWithin limit start (position.column - 1)
      .ok (min index raw.length)

lemma slice_bind {β : Type} (h : start ≤ raw.length) (f : List UInt8 → Except IndexFault β) :
    (slice raw start >>= f) = f (raw.drop start) := by
  rw [slice, if_pos h]
  rfl

lemma addWithin_bind {β : Type} {limit a b : Nat} (h : a + b ≤ limit)
    (f : Nat → Except IndexFault β) : (addWithin limit a b >>= f) = f (a + b) := by
  rw [addWithin, if_pos h]
  rfl

/-- The invariant of the search is that it has reached an index of the text.  It finds the line that
starts so many newlines further on. -/
lemma searchLine_eq {limit : Nat} (hlimit : raw.length ≤ limit) (hstart : start ≤ raw.length)
    (skipped : Nat) : searchLine limit raw start skipped
      = .ok ((lineStart? (raw.drop start) skipped).map (start + ·)) := by
  induction skipped generalizing start with
  | zero => simp [searchLine, lineStart?]
  | succ skipped ih =>
    rw [searchLine, slice_bind hstart, lineStart?_succ]
    cases hfind : (raw.drop start).findIdx? (· = newline) with
    | none => rfl
    | some i =>
      have hlt : i < raw.length - start := by
        rw [← List.length_drop]
        exact (List.findIdx?_eq_some_iff_getElem.mp hfind).1
      have hlength : i + 1 ≤ limit := by omega
      have hnext : start + (i + 1) ≤ raw.length := by omega
      dsimp only
      rw [addWithin_bind hlength, addWithin_bind (hnext.trans hlimit), ih hnext, Option.bind_some,
        Option.map_map, List.drop_drop]
      exact congrArg (fun f => Except.ok (Option.map f _)) (funext fun _ => Nat.add_assoc ..)

/-- A word that holds twice the length of a text holds every sum of the search. -/
lemma searchOffset_eq {limit : Nat} (hlimit : 2 * raw.length ≤ limit) {position : Position}
    (hcolumn : position.column ≤ raw.length + 1) :
    searchOffset limit raw position = .ok (byteOffset raw position) := by
  rw [searchOffset, byteOffset]
  split
  · rfl
  · rw [searchLine_eq (by omega) (Nat.zero_le _), List.drop_zero]
    cases hstart : lineStart? raw (position.line - 1) with
    | none => rfl
    | some start =>
      have hle : start ≤ raw.length := lineStart?_le hstart
      have hsum : 0 + start + (position.column - 1) ≤ limit := by omega
      change (addWithin limit (0 + start) (position.column - 1) >>= fun index =>
        .ok (min index raw.length)) = _
      rw [addWithin_bind hsum, Nat.zero_add]

/-! ### Main statement -/

/-- **The offset of an error points at the byte of its position.**  The position of a byte leads
back to it.  No position, whether the text has it or not, leads beyond the end of the text, and the
search for it takes no slice out of range, where a word holds twice the length of the text.  So the
error of a text that was read up to a byte which ends no line has the position and the index of that
byte. -/
theorem byteOffset_points_at_byte (raw : List UInt8) :
    (∀ index ≤ raw.length, byteOffset raw (ofByte raw index) = index)
      ∧ (∀ position, byteOffset raw position ≤ raw.length)
      ∧ (∀ limit position, 2 * raw.length ≤ limit → position.column ≤ raw.length + 1 →
        searchOffset limit raw position = .ok (byteOffset raw position))
      ∧ ∀ fault index (h : index < raw.length), raw[index] ≠ newline →
        Json.Reader.document raw = .error ⟨fault, index + 1⟩ →
          Json.decode raw = .error (.malformedJson ⟨fault, ofByte raw index⟩ index) := by
  refine ⟨fun _ => byteOffset_ofByte, byteOffset_le raw,
    fun _ _ hlimit hcolumn => searchOffset_eq hlimit hcolumn, ?_⟩
  intro fault index h hbyte hread
  rw [Json.decode, Json.read, hread]
  change Except.error (QueryError.malformedJson ⟨fault, ofIndex raw (index + 1)⟩
    (byteOffset raw (ofIndex raw (index + 1)))) = _
  rw [ofIndex_succ h hbyte, byteOffset_ofByte h.le]

/-- An object over four lines, one of them empty, with a comma in place of a value. -/
def valueMissing : List UInt8 :=
  [0x7B, 10, 10, 0x20, 0x22, 0x6B, 0x22, 0x3A, 0x20, 0x2C, 10, 0x7D]

theorem valueMissing_points_at_comma :
    valueMissing[9] ≠ newline ∧ ofByte valueMissing 9 = ⟨3, 7⟩
      ∧ byteOffset valueMissing (ofByte valueMissing 9) = 9
      ∧ searchOffset 24 valueMissing ⟨5, 13⟩ = .ok (byteOffset valueMissing ⟨5, 13⟩)
      ∧ Json.decode valueMissing
        = .error (.malformedJson ⟨.expectedValue, ofByte valueMissing 9⟩ 9) := by
  obtain ⟨hbyte, -, hsearch, herror⟩ := byteOffset_points_at_byte valueMissing
  exact ⟨by decide, by decide, hbyte 9 (by decide), hsearch 24 ⟨5, 13⟩ (by decide) (by decide),
    herror .expectedValue 9 (by decide) (by decide) (by cbv)⟩

end DocQuery.Position
