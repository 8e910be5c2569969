import DocQuery.FieldPath
import Mathlib.Data.List.DropRight

/-!
The text of a path, written and read again.  Reading takes whatever follows a backslash as it
stands; writing puts a backslash before every dot of a segment and leaves backslashes alone.

* `FieldPath.signs` and `FieldPath.joined`: what a text stands for, and segments in the same form,
  so that reading a path is one equation (`FieldPath.ofText?_eq_some_iff`);
* `FieldPath.EndsUnpaired` and `FieldPath.ofText?_dotted`: a dot between two texts separates them if
  the first does not end in a backslash of its own;
* `FieldPath.letters`: how a sign is written;
* `FieldPath.signs_flatMap_letters_iff`: signs are read as they were written if and only if no
  backslash has a sign after it;
* `FieldPath.ofText?_text_eq_some_iff` (**main statement**): the paths that come back from their
  text.
-/

namespace DocQuery.FieldPath

/-! ### Signs -/

/-- The characters and the separators that a text stands for, in order.  A separator is `none`, and
what is escaped is a character. -/
def signs : List Char → List (Option Char)
  | [] => []
  | ['\\'] => [some '\\']
  | '\\' :: c :: rest => some c :: signs rest
  | '.' :: rest => none :: signs rest
  | c :: rest => some c :: signs rest

/-- The characters of segments, with a separator between any two of them. -/
def joined (segments : List (List Char)) : List (Option Char) :=
  [none].intercalate (segments.map (·.map some))

variable {segment : List Char} {segments segments' : List (List Char)} {path : FieldPath}
  {text : String}

@[simp]
lemma joined_singleton (segment : List Char) : joined [segment] = segment.map some := by
  simp [joined]

lemma joined_cons (h : segments ≠ []) :
    joined (segment :: segments) = segment.map some ++ none :: joined segments := by
  obtain ⟨other, rest, rfl⟩ := List.exists_cons_of_ne_nil h
  simp [joined, List.intercalate_cons_cons]

lemma joined_ne_nil (h : segment ≠ []) : joined (segment :: segments) ≠ [] := by
  cases segments with
  | nil => simpa using h
  | cons other rest => simp [joined_cons]

/-- Segments are determined by their signs: they are what stands between the separators. -/
lemma joined_inj (h : segments ≠ []) (h' : segments' ≠ []) :
    joined segments = joined segments' ↔ segments = segments' := by
  have hsplit {segments : List (List Char)} (h : segments ≠ []) :
      (joined segments).splitOn none = segments.map (·.map some) := by
    refine List.splitOn_intercalate none ?_ (by simpa using h)
    simp
  have hinjective : Function.Injective fun segment : List Char => segment.map some :=
    List.map_injective_iff.mpr fun _ _ => Option.some.inj
  constructor
  · intro heq
    have hmap := hsplit h
    rw [heq, hsplit h'] at hmap
    exact (List.map_injective_iff.mpr hinjective hmap).symm
  · rintro rfl
    rfl

/-! ### Reading -/

lemma pieces_ne_nil (piece cs : List Char) : pieces piece cs ≠ [] := by
  fun_induction pieces piece cs with
  | case1 => exact List.cons_ne_nil _ _
  | case2 => exact List.cons_ne_nil _ _
  | case3 _ _ _ ih => exact ih
  | case4 => exact List.cons_ne_nil _ _
  | case5 _ _ _ _ _ _ ih => exact ih

/-- The pieces of a text are its signs between the separators, after what the first piece holds
already. -/
lemma joined_pieces (piece cs : List Char) :
    joined (pieces piece cs) = piece.reverse.map some ++ signs cs := by
  fun_induction pieces piece cs with
  | case1 piece => simp [signs]
  | case2 piece => simp [signs]
  | case3 piece c rest ih => simp [signs, ih]
  | case4 piece rest ih => simp [signs, joined_cons (pieces_ne_nil _ _), ih]
  | case5 piece c rest hlast hescape hdot ih => simp [signs.eq_5 c rest hlast hescape hdot, ih]

/-- A text denotes the path whose segments have its signs, if none of them is empty. -/
lemma ofText?_eq_some_iff : ofText? text = some path ↔ path.segments ≠ []
    ∧ (∀ segment ∈ path.segments, segment ≠ "")
    ∧ joined (path.segments.map String.toList) = signs text.toList := by
  have hsigns : joined (pieces [] text.toList) = signs text.toList := joined_pieces [] _
  have hlists : (pieces [] text.toList).map (String.toList ∘ String.ofList)
      = pieces [] text.toList := by simp [Function.comp_def]
  have hempty : (pieces [] text.toList).any List.isEmpty = true
      ↔ ∃ segment ∈ (pieces [] text.toList).map String.ofList, segment = "" := by
    simp
  rw [ofText?, ← hsigns]
  constructor
  · intro h
    split_ifs at h with hany
    cases h
    rw [hempty] at hany
    refine ⟨?_, fun segment hsegment heq => hany ⟨segment, hsegment, heq⟩, ?_⟩
    · simpa using pieces_ne_nil [] text.toList
    · rw [List.map_map, hlists]
  · rintro ⟨hne, hsegments, hjoined⟩
    have hpieces := (joined_inj (by simpa using hne) (pieces_ne_nil _ _)).mp hjoined
    have hpath : (pieces [] text.toList).map String.ofList = path.segments := by
      rw [← hpieces, List.map_map]
      simp [Function.comp_def]
    rw [if_neg, hpath]
    rw [hempty, hpath]
    rintro ⟨segment, hsegment, heq⟩
    exact hsegments segment hsegment heq

/-! ### A dot between two texts -/

/-- The number of backslashes at the end of a text. -/
def trailingBackslashes (cs : List Char) : Nat := (cs.rtakeWhile (· = '\\')).length

/-- The last backslash of a text has nothing to escape: those at the end are odd in number. -/
def EndsUnpaired (text : String) : Prop := trailingBackslashes text.toList % 2 = 1

instance (text : String) : Decidable (EndsUnpaired text) :=
  inferInstanceAs (Decidable (_ = _))

lemma trailingBackslashes_le_length (cs : List Char) : trailingBackslashes cs ≤ cs.length :=
  (List.rtakeWhile_suffix _ cs).length_le

lemma trailingBackslashes_cons (c : Char) (cs : List Char) :
    trailingBackslashes (c :: cs)
      = if c = '\\' ∧ trailingBackslashes cs = cs.length then cs.length + 1
        else trailingBackslashes cs := by
  simp only [trailingBackslashes, List.rtakeWhile, List.reverse_cons, List.takeWhile_append,
    List.length_reverse]
  by_cases hall : (cs.reverse.takeWhile (· = '\\')).length = cs.length
  · by_cases hc : c = '\\'
    · simp [hall, hc]
    · simp [hall, hc]
  · simp [hall]

lemma trailingBackslashes_escape (c : Char) (cs : List Char) :
    trailingBackslashes ('\\' :: c :: cs) % 2 = trailingBackslashes cs % 2 := by
  have hle := trailingBackslashes_le_length cs
  rw [trailingBackslashes_cons, trailingBackslashes_cons, List.length_cons]
  simp only [true_and]
  split_ifs <;> omega

/-- A dot after a text separates what stands before it from what comes after, unless the last
backslash of the text escapes it. -/
lemma pieces_append_dot {cs : List Char} (h : trailingBackslashes cs % 2 ≠ 1)
    (piece rest : List Char) :
    pieces piece (cs ++ '.' :: rest) = pieces piece cs ++ pieces [] rest := by
  fun_induction pieces piece cs with
  | case1 piece => rfl
  | case2 piece => exact absurd (by decide) h
  | case3 piece c cs ih =>
    rw [trailingBackslashes_escape] at h
    exact ih h
  | case4 piece cs ih =>
    rw [trailingBackslashes_cons, if_neg (by simp)] at h
    exact congrArg (piece.reverse :: ·) (ih h)
  | case5 piece c cs hlast hescape hdot ih =>
    have hc : c ≠ '\\' := by
      rintro rfl
      cases cs with
      | nil => exact hlast rfl rfl
      | cons c' cs => exact hescape _ _ rfl rfl
    rw [trailingBackslashes_cons, if_neg (by simp [hc])] at h
    rw [List.cons_append, pieces.eq_5, ih h]
    · exact fun heq _ => hc heq
    · exact fun _ _ heq _ => hc heq
    · exact hdot

/-- The path that two texts denote with a dot between them goes on from the first to the second. -/
lemma ofText?_dotted {other : String} (h : ofText? text = some path)
    (hend : ¬ EndsUnpaired text) :
    ofText? (text ++ "." ++ other) = (ofText? other).map path.child := by
  have hpieces : pieces [] (text ++ "." ++ other).toList
      = pieces [] text.toList ++ pieces [] other.toList := by
    simpa using pieces_append_dot hend [] other.toList
  rw [ofText?] at h
  split_ifs at h with hany
  cases h
  rw [ofText?, hpieces, ofText?, List.any_append, Bool.eq_false_iff.mpr hany, Bool.false_or]
  split_ifs with hother
  · rfl
  · simp [child]

/-! ### Writing -/

/-- How a sign is written. -/
def letters : Option Char → List Char
  | none => ['.']
  | some '.' => ['\\', '.']
  | some c => [c]

lemma flatMap_letters_map_some (segment : List Char) :
    (segment.map some).flatMap letters = escapeDots segment := by
  fun_induction escapeDots segment with
  | case1 => rfl
  | case2 rest ih => simp [letters, ih]
  | case3 c rest hdot ih => simp [letters, ih]

/-- The text of a path is written sign by sign. -/
lemma toList_text (path : FieldPath) :
    path.text.toList = (joined (path.segments.map String.toList)).flatMap letters := by
  rw [text, String.toList_intercalate, List.map_map]
  induction path.segments with
  | nil => rfl
  | cons segment rest ih =>
    cases rest with
    | nil => simp [flatMap_letters_map_some, List.intercalate]
    | cons other rest =>
      rw [List.map_cons, List.map_cons, List.intercalate_cons_cons, List.map_cons,
        joined_cons (by simp), List.flatMap_append, List.flatMap_cons, flatMap_letters_map_some,
        ← ih]
      simp [letters]

/-- A sign that is no backslash is read as it was written. -/
lemma signs_letters_append {sign : Option Char} (h : sign ≠ some '\\') (cs : List Char) :
    signs (letters sign ++ cs) = sign :: signs cs := by
  rcases sign with _ | c
  · rfl
  · by_cases hdot : c = '.'
    · subst hdot
      rfl
    · have hc : c ≠ '\\' := fun heq => h (congrArg some heq)
      rw [letters.eq_3 c hdot, List.singleton_append, signs.eq_5] <;> simp [hc, hdot]

/-- Reading gives no more signs than were written, and after another backslash at most one more. -/
lemma length_signs_le (sequence : List (Option Char)) :
    (signs (sequence.flatMap letters)).length ≤ sequence.length
      ∧ (signs ('\\' :: sequence.flatMap letters)).length ≤ sequence.length + 1 := by
  induction sequence with
  | nil => exact ⟨Nat.le_refl _, Nat.le_refl _⟩
  | cons sign rest ih =>
    obtain ⟨hplain, hescaped⟩ := ih
    rw [List.flatMap_cons, List.length_cons]
    by_cases hbackslash : sign = some '\\'
    · subst hbackslash
      refine ⟨hescaped, ?_⟩
      change (signs (rest.flatMap letters)).length + 1 ≤ rest.length + 1 + 1
      omega
    · have hread := signs_letters_append hbackslash (rest.flatMap letters)
      refine ⟨by rw [hread, List.length_cons]; omega, ?_⟩
      -- The backslash in front escapes the first letter of the sign, which is read as a character.
      rcases sign with _ | c
      · change (signs (rest.flatMap letters)).length + 1 ≤ rest.length + 1 + 1
        omega
      · by_cases hdot : c = '.'
        · subst hdot
          change (signs (rest.flatMap letters)).length + 1 + 1 ≤ rest.length + 1 + 1
          omega
        · rw [letters.eq_3 c hdot]
          change (signs (rest.flatMap letters)).length + 1 ≤ rest.length + 1 + 1
          omega

/-- A backslash with another sign after it is lost: what is read instead is the first letter of that
sign, or, if this is a backslash too, too few signs. -/
lemma signs_backslash_ne (sign : Option Char) (rest : List (Option Char)) :
    signs ('\\' :: (letters sign ++ rest.flatMap letters)) ≠ some '\\' :: sign :: rest := by
  intro heq
  rcases sign with _ | c
  · simp [letters, signs] at heq
  · by_cases hdot : c = '.'
    · subst hdot
      simp [letters, signs] at heq
    · rw [letters.eq_3 c hdot, List.singleton_append, signs, List.cons.injEq] at heq
      obtain ⟨hc, hrest⟩ := heq
      have hlength := (length_signs_le rest).1
      rw [hrest, List.length_cons] at hlength
      omega

/-- **Signs are read as they were written if and only if no backslash has a sign after it.** -/
lemma signs_flatMap_letters_iff (sequence : List (Option Char)) :
    signs (sequence.flatMap letters) = sequence ↔ some '\\' ∉ sequence.dropLast := by
  induction sequence with
  | nil => simp [signs]
  | cons sign rest ih =>
    cases rest with
    | nil =>
      by_cases h : sign = some '\\'
      · subst h
        simp [letters, signs]
      · have hread := signs_letters_append h []
        rw [List.append_nil] at hread
        simp [hread, signs]
    | cons other rest =>
      rw [List.dropLast_cons_cons, List.mem_cons, not_or, ← ih, List.flatMap_cons]
      by_cases h : sign = some '\\'
      · subst h
        exact iff_of_false (signs_backslash_ne other rest) fun hne => hne.1 rfl
      · rw [signs_letters_append h, List.cons_inj_right]
        exact (and_iff_right (Ne.symm h)).symm

/-! ### Paths -/

/-- In segments without an empty one, the backslashes with a sign after them are those with a
character after them, in the same segment or in a later one. -/
lemma mem_dropLast_joined_iff (hne : segments ≠ []) (h : ∀ segment ∈ segments, segment ≠ [])
    (c : Char) : some c ∈ (joined segments).dropLast ↔ c ∈ segments.flatten.dropLast := by
  induction segments with
  | nil => exact absurd rfl hne
  | cons segment rest ih =>
    rw [List.forall_mem_cons] at h
    cases rest with
    | nil => simp [← List.map_dropLast]
    | cons other rest =>
      have hother : other ≠ [] := h.2 other List.mem_cons_self
      have hflatten : (other :: rest).flatten ≠ [] := by simp [hother]
      rw [joined_cons (List.cons_ne_nil _ _), List.flatten_cons,
        List.dropLast_append_of_ne_nil (List.cons_ne_nil _ _),
        List.dropLast_append_of_ne_nil hflatten,
        List.dropLast_cons_of_ne_nil (joined_ne_nil hother)]
      simp [ih (List.cons_ne_nil _ _) h.2]

/-- **A path comes back from its text if and only if it has segments, none of them is empty, and no
character but the very last is a backslash.**  Any other backslash would take what follows it
literally: the character after it, or the separator. -/
theorem ofText?_text_eq_some_iff (path : FieldPath) :
    ofText? path.text = some path ↔ path.segments ≠ []
      ∧ (∀ segment ∈ path.segments, segment ≠ "")
      ∧ '\\' ∉ (path.segments.flatMap String.toList).dropLast := by
  rw [ofText?_eq_some_iff, toList_text, eq_comm (a := joined _), signs_flatMap_letters_iff]
  refine and_congr_right fun hne => and_congr_right fun hsegments => ?_
  rw [mem_dropLast_joined_iff (by simpa using hne) (by simpa using hsegments), List.flatMap_def]

/-- A path that was read from a text is written like another one, because its backslash is not
escaped. -/
theorem text_of_trailing_backslash :
    ofText? "a\\\\.b" = some ⟨["a\\", "b"]⟩ ∧ FieldPath.text ⟨["a\\", "b"]⟩ = "a\\.b"
      ∧ ofText? (FieldPath.text ⟨["a\\", "b"]⟩) = some ⟨["a.b"]⟩ := by
  decide

end DocQuery.FieldPath
