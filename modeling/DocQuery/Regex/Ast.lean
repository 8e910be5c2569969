/-!
Regular expressions as they are written: every part keeps the place where it stands, so that a
fault can be shown under the pattern.

* `Mark` and `Span`: places and stretches of a pattern;
* `Ast`: the parts of a pattern, as nested by groups and repetitions;
* `ClassSet`: what stands between brackets, with unions and set operations.
-/

namespace DocQuery.Regex

/-- A place between two characters of a pattern; lines and columns are counted from 1. -/
structure Mark where
  offset : Nat
  line : Nat
  column : Nat
deriving DecidableEq

/-- The place at the start of a pattern. -/
def Mark.start : Mark := ⟨0, 1, 1⟩

/-- The place after one more character. -/
def Mark.next (mark : Mark) (c : Char) : Mark :=
  if c = '\n' then ⟨mark.offset + 1, mark.line + 1, 1⟩
  else ⟨mark.offset + 1, mark.line, mark.column + 1⟩

/-- A stretch of a pattern. -/
structure Span where
  first : Mark
  last : Mark
deriving DecidableEq

/-- The empty stretch at a place. -/
def Span.at (mark : Mark) : Span := ⟨mark, mark⟩

/-- A stretch within one line. -/
def Span.isOneLine (span : Span) : Bool := span.first.line = span.last.line

/-! ### Flags -/

/-- A switch that changes how a pattern is read or matched. -/
inductive Flag where
  | caseInsensitive
  | multiLine
  | dotMatchesNewline
  | swapGreed
  | unicode
  | crlf
  | ignoreBlanks
deriving DecidableEq

/-- A flag letter, or the minus sign after which flags are switched off. -/
inductive FlagItem where
  | negation
  | flag (flag : Flag)
deriving DecidableEq

/-- The setting of a flag in a list of items, if the list has one. -/
def FlagItem.setting? (items : List FlagItem) (flag : Flag) : Option Bool :=
  if items.contains (.flag flag) then
    some (!(items.takeWhile (· ≠ .flag flag)).contains .negation)
  else none

/-! ### Characters and classes -/

/-- A character of a pattern. -/
structure Literal where
  span : Span
  char : Char
  /-- Whether it is written as two hexadecimal digits after a backslash and an x. -/
  isByte : Bool
deriving DecidableEq

/-- A condition on a place in the text. -/
inductive Assertion where
  | lineStart
  | lineEnd
  | textStart
  | textEnd
  | wordBoundary
  | notWordBoundary
  | wordStart
  | wordEnd
  | wordStartHalf
  | wordEndHalf
deriving DecidableEq

/-- The classes with a letter of their own. -/
inductive LetterClass where
  | digit
  | space
  | word
deriving DecidableEq

/-- The name of a property class: one name, or a property and a value. -/
inductive ClassName where
  | single (name : String)
  | valued (property value : String)
deriving DecidableEq

/-- The classes that are written between `[:` and `:]`. -/
inductive AsciiClass where
  | alnum
  | alpha
  | ascii
  | blank
  | cntrl
  | digit
  | graph
  | lower
  | print
  | punct
  | space
  | upper
  | word
  | xdigit
deriving DecidableEq

/-- The operations on sets within brackets. -/
inductive SetOperation where
  | intersection
  | difference
  | symmetricDifference
deriving DecidableEq

/-- What stands between brackets. -/
inductive ClassSet where
  | empty
  | literal (literal : Literal)
  | range (low high : Literal)
  | ascii (span : Span) (kind : AsciiClass) (negated : Bool)
  | property (span : Span) (name : ClassName) (negated : Bool)
  | letter (span : Span) (kind : LetterClass) (negated : Bool)
  | bracketed (span : Span) (negated : Bool) (set : ClassSet)
  | union (span : Span) (items : List ClassSet)
  | operation (span : Span) (kind : SetOperation) (left right : ClassSet)

/-! ### Patterns -/

/-- A pattern or a part of it. -/
inductive Ast where
  | empty
  | flags (items : List FlagItem)
  | literal (literal : Literal)
  | dot (span : Span)
  | assertion (kind : Assertion)
  | property (span : Span) (name : ClassName) (negated : Bool)
  | letter (span : Span) (kind : LetterClass) (negated : Bool)
  | bracketed (span : Span) (negated : Bool) (set : ClassSet)
  | repetition (span : Span) (least : Nat) (most : Option Nat) (isGreedy : Bool) (body : Ast)
  /-- A group, with its number if it captures what it matches. -/
  | group (span : Span) (number : Option Nat) (flags : List FlagItem) (body : Ast)
  | alternation (span : Span) (branches : List Ast)
  | concat (span : Span) (parts : List Ast)

/-! ### Depth -/

namespace ClassSet

mutual

/-- The first part, in the order in which parts are written, that would be nested deeper than
`room` more levels. -/
def tooDeep? (room : Nat) : ClassSet → Option Span
  | .bracketed span _ set =>
    match room with
    | 0 => some span
    | room + 1 => tooDeep? room set
  | .union span items =>
    match room with
    | 0 => some span
    | room + 1 => tooDeepItems? room items
  | .operation span _ left right =>
    match room with
    | 0 => some span
    | room + 1 => (tooDeep? room left).orElse fun _ => tooDeep? room right
  | _ => none

/-- The first part of several sets that would be nested deeper than `room` more levels. -/
def tooDeepItems? (room : Nat) : List ClassSet → Option Span
  | [] => none
  | set :: rest => (tooDeep? room set).orElse fun _ => tooDeepItems? room rest

end

/-- The stretch of what stands between brackets. -/
def span : ClassSet → Option Span
  | .empty => none
  | .literal l => some l.span
  | .range low high => some ⟨low.span.first, high.span.last⟩
  | .ascii span .. | .property span .. | .letter span .. | .bracketed span .. | .union span _
  | .operation span .. => some span

end ClassSet

namespace Ast

mutual

/-- The first part, in the order in which parts are written, that would be nested deeper than
`room` more levels. -/
def tooDeep? (room : Nat) : Ast → Option Span
  | .bracketed span _ set =>
    match room with
    | 0 => some span
    | room + 1 => set.tooDeep? room
  | .repetition span _ _ _ body | .group span _ _ body =>
    match room with
    | 0 => some span
    | room + 1 => tooDeep? room body
  | .alternation span parts | .concat span parts =>
    match room with
    | 0 => some span
    | room + 1 => tooDeepParts? room parts
  | _ => none

/-- The first part of several patterns that would be nested deeper than `room` more levels. -/
def tooDeepParts? (room : Nat) : List Ast → Option Span
  | [] => none
  | part :: rest => (tooDeep? room part).orElse fun _ => tooDeepParts? room rest

end

end Ast

end DocQuery.Regex
