import DocQuery.Proofs.PathText

/-!
Every list of segments has a text, and a text has a path unless one of its pieces is empty.

* `FieldPath.spelled`: segments as a text in which a backslash stands before every dot and every
  backslash of theirs;
* `FieldPath.ofText?_spelled`: that text denotes those segments;
* `FieldPath.writtenPieces`: a text divided at its unescaped dots, which are those with an even
  number of backslashes right before them;
* `FieldPath.unescape`: what a piece stands for;
* `FieldPath.pieces_eq_map_unescape`: reading resolves the escapes while it divides the text, and
  finds the same pieces;
* `FieldPath.spelled_read_and_refused_iff` (**main statement**).
-/

namespace DocQuery.FieldPath

/-! ### Segments as a text -/

/-- The characters of a segment with a backslash before every dot and every backslash. -/
def escape (segment : List Char) : List Char :=
  segment.flatMap fun c => if c = '.' ∨ c = '\\' then ['\\', c] else [c]

/-- The text of segments in which nothing is left to be taken for an escape or a separator. -/
def spelled (segments : List String) : String :=
  ".".intercalate (segments.map fun segment => String.ofList (escape segment.toList))

lemma escape_cons (c : Char) (segment : List Char) :
    escape (c :: segment) = (if c = '.' ∨ c = '\\' then ['\\', c] else [c]) ++ escape segment :=
  List.flatMap_cons

/-- Every character of a segment is read as it was, whatever comes after it. -/
lemma signs_escape_append (segment cs : List Char) :
    signs (escape segment ++ cs) = segment.map some ++ signs cs := by
  induction segment with
  | nil => rfl
  | cons c segment ih =>
    rw [escape_cons, List.append_assoc, List.map_cons, List.cons_append, ← ih]
    split_ifs with hc
    · rfl
    · rw [not_or] at hc
      rw [List.singleton_append, signs.eq_5] <;> simp [hc]

/-- The dots between segments are read as separators. -/
lemma signs_intercalate_escape {segments : List (List Char)} (h : segments ≠ []) :
    signs (['.'].intercalate (segments.map escape)) = joined segments := by
  induction segments with
  | nil => exact absurd rfl h
  | cons segment rest ih =>
    cases rest with
    | nil =>
      have hread := signs_escape_append segment []
      rw [List.append_nil, signs, List.append_nil] at hread
      simpa using hread
    | cons other rest =>
      have hrest := ih (List.cons_ne_nil _ _)
      rw [List.map_cons] at hrest
      rw [List.map_cons, List.map_cons, List.intercalate_cons_cons, List.append_assoc,
        signs_escape_append, joined_cons (List.cons_ne_nil _ _), ← hrest]
      rfl

/-- **Segments are read from their text**, whatever characters they hold. -/
lemma ofText?_spelled {segments : List String} (hne : segments ≠ [])
    (hsegments : ∀ segment ∈ segments, segment ≠ "") :
    ofText? (spelled segments) = some ⟨segments⟩ := by
  have htext : (spelled segments).toList
      = ['.'].intercalate ((segments.map String.toList).map escape) := by
    rw [spelled, String.toList_intercalate, List.map_map, List.map_map]
    simp [Function.comp_def]
  rw [ofText?_eq_some_iff, htext, signs_intercalate_escape (by simpa using hne)]
  exact ⟨hne, hsegments, rfl⟩

/-! ### Pieces of a text -/

/-- The pieces of a text as they are written between its unescaped dots, where it goes on from the
text before it. -/
def writtenPiecesAfter (before cs : List Char) : List (List Char) :=
  ((cs.zipIdx before.length).splitOnP fun (c, i) =>
    c = '.' ∧ trailingBackslashes ((before ++ cs).take i) % 2 = 0).map (·.map Prod.fst)

/-- The pieces of a text as they are written between its unescaped dots, which are those with an
even number of backslashes right before them. -/
def writtenPieces (cs : List Char) : List (List Char) :=
  (cs.zipIdx.splitOnP fun (c, i) =>
    c = '.' ∧ trailingBackslashes (cs.take i) % 2 = 0).map (·.map Prod.fst)

/-- What a piece stands for: a backslash takes the character after it as it is, and one at the very
end stands for itself. -/
def unescape : List Char → List Char
  | [] => []
  | ['\\'] => ['\\']
  | '\\' :: c :: rest => c :: unescape rest
  | c :: rest => c :: unescape rest

/-- A change of the first of several things that can be made before or after a map. -/
lemma map_modifyHead {α β : Type} {f : α → α} {g : α → β} {h : β → β}
    (hfg : ∀ x, g (f x) = h (g x)) (xs : List α) :
    (xs.modifyHead f).map g = (xs.map g).modifyHead h := by
  cases xs with
  | nil => rfl
  | cons x xs => rw [List.modifyHead_cons, List.map_cons, List.map_cons, List.modifyHead_cons, hfg]

@[simp]
lemma writtenPiecesAfter_nil (before : List Char) : writtenPiecesAfter before [] = [[]] := rfl

lemma writtenPiecesAfter_cons (before : List Char) (c : Char) (cs : List Char) :
    writtenPiecesAfter before (c :: cs)
      = if c = '.' ∧ trailingBackslashes before % 2 = 0 then
          [] :: writtenPiecesAfter (before ++ [c]) cs
        else (writtenPiecesAfter (before ++ [c]) cs).modifyHead (c :: ·) := by
  have happend : before ++ [c] ++ cs = before ++ c :: cs := by simp
  rw [writtenPiecesAfter, writtenPiecesAfter, List.zipIdx_cons,
    List.splitOnP_cons_eq_if_modifyHead, happend, List.length_append, List.length_singleton]
  simp only [List.take_left, decide_eq_true_eq]
  split_ifs with hdot
  · rfl
  · exact map_modifyHead (g := List.map Prod.fst) (h := (c :: ·)) (fun _ => rfl) _

lemma trailingBackslashes_concat (cs : List Char) (c : Char) :
    trailingBackslashes (cs ++ [c]) = if c = '\\' then trailingBackslashes cs + 1 else 0 := by
  rw [trailingBackslashes, List.rtakeWhile_concat]
  simp only [decide_eq_true_eq]
  split_ifs with hc
  · rw [List.length_append, List.length_singleton, trailingBackslashes]
  · rfl

/-- **Reading finds the pieces between the unescaped dots**, with their escapes resolved.  The
invariant is that reading stands after an even number of backslashes, so that the next character is
not escaped. -/
lemma pieces_eq_map_unescape {before : List Char} (h : trailingBackslashes before % 2 = 0)
    (piece cs : List Char) :
    pieces piece cs
      = ((writtenPiecesAfter before cs).map unescape).modifyHead (piece.reverse ++ ·) := by
  fun_induction pieces piece cs generalizing before with
  | case1 piece => simp [unescape]
  | case2 piece => simp [writtenPiecesAfter_cons, unescape]
  | case3 piece c rest ih =>
    have hodd : ¬ trailingBackslashes (before ++ ['\\']) % 2 = 0 := by
      rw [trailingBackslashes_concat, if_pos rfl]
      omega
    have heven : trailingBackslashes (before ++ ['\\'] ++ [c]) % 2 = 0 := by
      rw [trailingBackslashes_concat, trailingBackslashes_concat, if_pos rfl]
      split_ifs <;> omega
    rw [writtenPiecesAfter_cons, if_neg (by simp), writtenPiecesAfter_cons,
      if_neg fun hdot => hodd hdot.2, List.modifyHead_modifyHead,
      map_modifyHead (g := unescape) (h := (c :: ·)) fun _ => rfl, List.modifyHead_modifyHead,
      ih heven]
    simp [Function.comp_def]
  | case4 piece rest ih =>
    have heven : trailingBackslashes (before ++ ['.']) % 2 = 0 := by
      rw [trailingBackslashes_concat, if_neg (by decide)]
    rw [writtenPiecesAfter_cons, if_pos ⟨rfl, h⟩, ih heven, List.map_cons, List.modifyHead_cons,
      unescape, List.append_nil]
    exact congrArg (piece.reverse :: ·) (congrFun List.modifyHead_id _)
  | case5 piece c rest hlast hescape hdot ih =>
    have hc : c ≠ '\\' := by
      rintro rfl
      cases rest with
      | nil => exact hlast rfl rfl
      | cons c' rest => exact hescape _ _ rfl rfl
    have heven : trailingBackslashes (before ++ [c]) % 2 = 0 := by
      rw [trailingBackslashes_concat, if_neg hc]
    have hread (p : List Char) : unescape (c :: p) = c :: unescape p :=
      unescape.eq_4 c p (fun heq _ => hc heq) fun _ _ heq _ => hc heq
    rw [writtenPiecesAfter_cons, if_neg fun h => hdot h.1, map_modifyHead hread,
      List.modifyHead_modifyHead, ih heven]
    simp [Function.comp_def]

/-- A text denotes the path of its pieces, and none if one of them stands for nothing. -/
lemma ofText?_eq (text : String) :
    ofText? text = if ∃ piece ∈ writtenPieces text.toList, unescape piece = [] then none
      else some ⟨(writtenPieces text.toList).map fun piece => String.ofList (unescape piece)⟩ := by
  have hnone : trailingBackslashes [] % 2 = 0 := rfl
  have hpieces : pieces [] text.toList = (writtenPieces text.toList).map unescape := calc
    pieces [] text.toList
        = ((writtenPiecesAfter [] text.toList).map unescape).modifyHead ([] ++ ·) :=
      pieces_eq_map_unescape hnone [] text.toList
    _ = (writtenPieces text.toList).map unescape := congrFun List.modifyHead_id _
  rw [ofText?, hpieces]
  simp [Function.comp_def]

/-! ### Main statement -/

/-- **Every key has a text, and only empty pieces are refused.**  Segments that are not empty are
read from the text that escapes their dots and backslashes.  A text is refused if and only if one of
the pieces between its unescaped dots stands for nothing, and denotes what they stand for
otherwise. -/
theorem spelled_read_and_refused_iff :
    (∀ segments : List String, segments ≠ [] → (∀ segment ∈ segments, segment ≠ "") →
      ofText? (spelled segments) = some ⟨segments⟩)
      ∧ (∀ text, ofText? text = none
        ↔ ∃ piece ∈ writtenPieces text.toList, unescape piece = [])
      ∧ ∀ text path, ofText? text = some path → path.segments
        = (writtenPieces text.toList).map fun piece => String.ofList (unescape piece) := by
  refine ⟨fun _ => ofText?_spelled, fun text => ?_, fun text path h => ?_⟩
  · rw [ofText?_eq]
    split_ifs with hempty
    · exact iff_of_true rfl hempty
    · exact iff_of_false nofun hempty
  · rw [ofText?_eq] at h
    split_ifs at h
    cases h
    rfl

/-- Segments of dots and backslashes, some of them right before a separator, and a text with an
empty piece between two dots of which neither is escaped. -/
theorem punctuation_read_from_spelled :
    spelled [".\\", "\\", "a.b"] = "\\.\\\\.\\\\.a\\.b"
      ∧ ofText? (spelled [".\\", "\\", "a.b"]) = some ⟨[".\\", "\\", "a.b"]⟩
      ∧ writtenPieces "\\\\..\\..".toList = ["\\\\".toList, [], "\\.".toList, []]
      ∧ ofText? "\\\\..\\.." = none := by
  obtain ⟨hread, hrefused, -⟩ := spelled_read_and_refused_iff
  exact ⟨by decide, hread [".\\", "\\", "a.b"] (by decide) (by decide), by decide,
    (hrefused "\\\\..\\..").mpr ⟨[], by decide, rfl⟩⟩

end DocQuery.FieldPath
