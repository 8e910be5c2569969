import DocQuery.Diagnostic

/-!
Patterns with wildcards: `%` stands for any run of characters, `_` for exactly one, a backslash
takes the character after it literally, and every other character stands for itself.  A pattern
matches whole texts.

* `LikePattern.tokens`: the pattern as an array of tokens, where a run of `%` is one token;
* `LikePattern.Search`: where a search stands in the text and in the tokens;
* `LikePattern.isMatch` (**matching**): text and tokens are gone through together; where a character
  does not fit, the search goes back to the last `%`, which then covers one character more.
-/

namespace DocQuery

/-- One piece of a pattern. -/
inductive LikeToken where
  | literal (c : Char)
  | one
  | any
deriving DecidableEq

/-- A pattern, kept as its text. -/
structure LikePattern where
  source : String
deriving DecidableEq

namespace LikePattern

/-! ### Tokens -/

/-- Appends the tokens of a pattern's characters to those before them.  A backslash at the end
stands for itself, and `%` adds nothing to a `%` before it. -/
def tokenize (tokens : Array LikeToken) : List Char → Array LikeToken
  | [] => tokens
  | '%' :: rest =>
    tokenize (if tokens.back? = some .any then tokens else tokens.push .any) rest
  | '_' :: rest => tokenize (tokens.push .one) rest
  | ['\\'] => tokens.push (.literal '\\')
  | '\\' :: c :: rest => tokenize (tokens.push (.literal c)) rest
  | c :: rest => tokenize (tokens.push (.literal c)) rest

/-- The tokens of a pattern. -/
def tokens (pattern : LikePattern) : Array LikeToken := tokenize #[] pattern.source.toList

/-! ### Searching -/

/-- A `%` that a search has passed: its index among the tokens, and the index of the first character
that it does not cover. -/
structure Star where
  token : Nat
  text : Nat

/-- Where a search stands: the indices of the next character and of the next token, and the last `%`
that it has passed, which lies behind both. -/
structure Search where
  text : Nat
  token : Nat
  star : Option Star
  behind : ∀ s ∈ star, s.token < token ∧ s.text ≤ text

namespace Search

/-- The beginning of a search. -/
def start : Search := ⟨0, 0, none, nofun⟩

/-- Goes past a token and the character that fits it. -/
def advance (search : Search) : Search where
  text := search.text + 1
  token := search.token + 1
  star := search.star
  behind s hs := by have := search.behind s hs; omega

/-- Goes past a `%`, which covers nothing for the time being. -/
def passStar (search : Search) : Search where
  text := search.text
  token := search.token + 1
  star := some ⟨search.token, search.text⟩
  behind := by simp

/-- Goes back to the last `%`, which covers one character more; none if there is no `%`. -/
def retreat? (search : Search) : Option Search :=
  search.star.map fun star => {
    text := star.text + 1
    token := star.token + 1
    star := some { star with text := star.text + 1 }
    behind := by simp }

/-- One step of a search at a character; none if the text does not match. -/
def next? (tokens : Array LikeToken) (c : Char) (search : Search) : Option Search :=
  match tokens[search.token]? with
  | some .any => some search.passStar
  | some .one => some search.advance
  | some (.literal d) => if d = c then some search.advance else search.retreat?
  | none => search.retreat?

/-! ### Termination -/

section Termination

variable {tokens : Array LikeToken} {text : Array Char} {search next : Search}

/-- How much is left to a search: tokens after the last `%`, then characters after those that it
covers, then characters. -/
def left (tokens : Array LikeToken) (text : Array Char) (search : Search) : Nat × Nat × Nat :=
  (tokens.size - (search.star.map (·.token + 1)).getD 0,
    text.size - (search.star.map (·.text)).getD 0, text.size - search.text)

/-- The order of what is left, by its first part, then by its second, then by its third. -/
def Less : Nat × Nat × Nat → Nat × Nat × Nat → Prop :=
  Prod.Lex (· < ·) (Prod.Lex (· < ·) (· < ·))

theorem left_advance (htext : search.text < text.size) :
    Less (search.advance.left tokens text) (search.left tokens text) := by
  refine .right _ (.right _ ?_)
  show text.size - (search.text + 1) < text.size - search.text
  omega

theorem left_passStar (htoken : search.token < tokens.size) :
    Less (search.passStar.left tokens text) (search.left tokens text) := by
  refine .left _ _ ?_
  cases hstar : search.star with
  | none =>
    simp only [passStar, Option.map_some, Option.map_none, Option.getD_some, Option.getD_none]
    omega
  | some star =>
    have hbehind := search.behind star hstar
    simp only [passStar, Option.map_some, Option.getD_some]
    omega

theorem left_retreat? (htext : search.text < text.size) (hnext : search.retreat? = some next) :
    Less (next.left tokens text) (search.left tokens text) := by
  obtain ⟨star, hstar, rfl⟩ := Option.map_eq_some_iff.mp hnext
  have hbehind := search.behind star hstar
  simp only [left, hstar, Option.map_some, Option.getD_some]
  refine .right _ (.left _ _ ?_)
  omega

/-- Every step leaves less. -/
theorem left_next? {c : Char} (htext : search.text < text.size)
    (hnext : next? tokens c search = some next) :
    Less (next.left tokens text) (search.left tokens text) := by
  unfold next? at hnext
  split at hnext
  next hany =>
    cases hnext
    exact left_passStar (Array.getElem?_eq_some_iff.mp hany).1
  next =>
    cases hnext
    exact left_advance htext
  next =>
    split at hnext
    · cases hnext
      exact left_advance htext
    · exact left_retreat? htext hnext
  next => exact left_retreat? htext hnext

end Termination

/-! ### Results -/

/-- The tokens from an index on; none if the index lies beyond their end. -/
def slice? (tokens : Array LikeToken) (i : Nat) : Option (List LikeToken) :=
  if i ≤ tokens.size then some (tokens.toList.drop i) else none

/-- Continues a search to its end: whether the text matches. -/
def run? (tokens : Array LikeToken) (text : Array Char) (search : Search) : Option Bool :=
  if htext : search.text < text.size then
    match hnext : next? tokens text[search.text] search with
    | some next => run? tokens text next
    | none => some false
  else (slice? tokens search.token).map fun rest => rest.all (· == .any)
termination_by search.left tokens text
decreasing_by exact left_next? htext hnext

end Search

/-- Searches a text for the tokens of a pattern; none if the search leaves the tokens. -/
def search? (pattern : LikePattern) (text : String) : Option Bool :=
  Search.run? pattern.tokens text.toList.toArray .start

/-- A text that the pattern matches as a whole. -/
def isMatch (pattern : LikePattern) (text : String) : Bool := pattern.search? text == some true

/-- The pattern as diagnostics show it. -/
def diagnostic (pattern : LikePattern) : String :=
  "LikePattern(" ++ Diagnostic.quote pattern.source ++ ")"

end LikePattern

end DocQuery
