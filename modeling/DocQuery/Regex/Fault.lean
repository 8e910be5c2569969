import DocQuery.Regex.Ast

/-!
Faults of patterns and how they are shown: the pattern with carets under the stretch at fault.

* `Fault.message`: the wording of each fault;
* `Failure.message`: the pattern, the carets and the wording.
-/

namespace DocQuery.Regex

/-- What can be wrong with a pattern. -/
inductive Fault where
  | classEscapeInvalid
  | classRangeInvalid
  | classRangeLiteral
  | classUnclosed
  | decimalInvalid
  | escapeHexEmpty
  | escapeHexInvalid
  | escapeHexInvalidDigit
  | escapeUnexpectedEnd
  | escapeUnrecognized
  | flagDanglingNegation
  | flagDuplicate (earlier : Span)
  | flagRepeatedNegation (earlier : Span)
  | flagUnexpectedEnd
  | flagUnrecognized
  | groupNameDuplicate (earlier : Span)
  | groupNameEmpty
  | groupNameInvalid
  | groupNameUnexpectedEnd
  | groupUnclosed
  | groupUnopened
  | nestedTooDeep (limit : Nat)
  | repetitionCountInvalid
  | repetitionCountEmpty
  | repetitionCountUnclosed
  | repetitionMissing
  | wordBoundaryUnclosed
  | wordBoundaryUnrecognized
  | wordBoundaryUnexpectedEnd
  | classNameInvalid
  | backreference
  | lookAround
  | unicodeNotAllowed
  | invalidUtf8
  | propertyNotFound
  | propertyValueNotFound
deriving DecidableEq

/-- The wording of a fault. -/
def Fault.message : Fault → String
  | .classEscapeInvalid => "invalid escape sequence found in character class"
  | .classRangeInvalid => "invalid character class range, the start must be <= the end"
  | .classRangeLiteral => "invalid range boundary, must be a literal"
  | .classUnclosed => "unclosed character class"
  | .decimalInvalid => "decimal literal invalid"
  | .escapeHexEmpty => "hexadecimal literal empty"
  | .escapeHexInvalid => "hexadecimal literal is not a Unicode scalar value"
  | .escapeHexInvalidDigit => "invalid hexadecimal digit"
  | .escapeUnexpectedEnd => "incomplete escape sequence, reached end of pattern prematurely"
  | .escapeUnrecognized => "unrecognized escape sequence"
  | .flagDanglingNegation => "dangling flag negation operator"
  | .flagDuplicate _ => "duplicate flag"
  | .flagRepeatedNegation _ => "flag negation operator repeated"
  | .flagUnexpectedEnd => "expected flag but got end of regex"
  | .flagUnrecognized => "unrecognized flag"
  | .groupNameDuplicate _ => "duplicate capture group name"
  | .groupNameEmpty => "empty capture group name"
  | .groupNameInvalid => "invalid capture group character"
  | .groupNameUnexpectedEnd => "unclosed capture group name"
  | .groupUnclosed => "unclosed group"
  | .groupUnopened => "unopened group"
  | .nestedTooDeep limit =>
    s!"exceed the maximum number of nested parentheses/brackets ({limit})"
  | .repetitionCountInvalid =>
    "invalid repetition count range, the start must be <= the end"
  | .repetitionCountEmpty => "repetition quantifier expects a valid decimal"
  | .repetitionCountUnclosed => "unclosed counted repetition"
  | .repetitionMissing => "repetition operator missing expression"
  | .wordBoundaryUnclosed =>
    "special word boundary assertion is either unclosed or contains an invalid character"
  | .wordBoundaryUnrecognized =>
    "unrecognized special word boundary assertion, valid choices are: " ++
      "start, end, start-half or end-half"
  | .wordBoundaryUnexpectedEnd =>
    "found either the beginning of a special word boundary or a bounded repetition on a \\b " ++
      "with an opening brace, but no closing brace"
  | .classNameInvalid => "invalid Unicode character class"
  | .backreference => "backreferences are not supported"
  | .lookAround => "look-around, including look-ahead and look-behind, is not supported"
  | .unicodeNotAllowed => "Unicode not allowed here"
  | .invalidUtf8 => "pattern can match invalid UTF-8"
  | .propertyNotFound => "Unicode property not found"
  | .propertyValueNotFound => "Unicode property value not found"

/-- A second stretch that a fault refers to. -/
def Fault.earlier? : Fault → Option Span
  | .flagDuplicate span | .flagRepeatedNegation span | .groupNameDuplicate span => some span
  | _ => none

/-- A fault and the stretch where it was found. -/
structure Failure where
  span : Span
  fault : Fault
deriving DecidableEq

/-! ### How a fault is shown -/

/-- The lines of a text; a newline at the end starts no further line, and a carriage return before
a newline belongs to it. -/
def lines (text : String) : List String :=
  let parts := text.splitOn "\n"
  let inner := parts.dropLast.map fun line =>
    if line.endsWith "\r" then String.ofList line.toList.dropLast else line
  match parts.getLast? with
  | some "" | none => inner
  | some last => inner ++ [last]

/-- The order in which stretches are shown. -/
def Span.before (s t : Span) : Bool :=
  if s.first.offset = t.first.offset then s.last.offset ≤ t.last.offset
  else s.first.offset ≤ t.first.offset

/-- A line of carets under stretches of one line, with at least one caret for each. -/
def carets (spans : List Span) : String :=
  let (text, _) := spans.foldl
    (fun (text, column) span =>
      let blanks := span.first.column - 1 - column
      let count := max 1 (span.last.column - span.first.column)
      (text ++ List.replicate blanks ' ' ++ List.replicate count '^', column + blanks + count))
    (([] : List Char), 0)
  String.ofList text

/-- The text with its length brought up to `width` by blanks in front. -/
def padLeft (width : Nat) (text : String) : String :=
  String.ofList (List.replicate (width - text.length) ' ') ++ text

/-- The lines of a pattern, numbered if `width` is positive, each with carets under the stretches
in it. -/
def annotated (width : Nat) (spans : List Span) (pattern : String) : List String :=
  let margin := if width = 0 then 4 else width + 2
  (lines pattern).zipIdx.flatMap fun (line, i) =>
    let lead := if width = 0 then "    " else padLeft width (toString (i + 1)) ++ ": "
    let here := spans.filter fun span => span.first.line = i + 1
    (lead ++ line) ::
      if here.isEmpty then []
      else [String.ofList (List.replicate margin ' ') ++ carets here]

/-- A stretch over several lines in words. -/
def Span.describe (span : Span) : String :=
  s!"on line {span.first.line} (column {span.first.column}) through " ++
    s!"line {span.last.line} (column {span.last.column - 1})"

/-- The message of a fault: the pattern with carets, and the wording.  A pattern of several lines
stands between rules and has numbered lines. -/
def Failure.message (pattern : String) (failure : Failure) : String :=
  let spans := (failure.span :: failure.fault.earlier?.toList).mergeSort Span.before
  let isLong := pattern.toList.contains '\n'
  let count := (lines pattern).length + if pattern.endsWith "\n" then 1 else 0
  let width := if count ≤ 1 then 0 else (toString count).length
  let body := annotated width (spans.filter Span.isOneLine) pattern
  let rule := String.ofList (List.replicate 79 '~')
  let wide := spans.filter (! ·.isOneLine)
  let all :=
    if isLong then
      ["regex parse error:", rule] ++ body ++ [rule] ++ wide.map Span.describe
    else "regex parse error:" :: body
  "\n".intercalate (all ++ ["error: " ++ failure.fault.message])

end DocQuery.Regex
