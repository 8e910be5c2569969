import DocQuery.Regex.Parser
import DocQuery.Unicode.CaseFolding
import DocQuery.Unicode.PropertyName

/-!
Regular expressions as what they match: characters and sets of characters, conditions on places,
sequences, choices and repetitions.  Flags are resolved: what a part of a pattern means depends on
the flags that are set where it stands.

* `Pattern`: a regular expression;
* `Pattern.ofSet`, `Pattern.chain`, `Pattern.choose` and `Pattern.repeated`: patterns in the form in
  which their size is counted, which is often shorter than the one in which they are written;
* `Pattern.ofAst`: what the parts of a pattern mean, or why they have no meaning.

A flag that is switched inside a group holds up to the end of the group, in later branches too.
-/

namespace DocQuery.Regex

open Unicode

/-- A condition on the characters before and after a place. -/
inductive Condition where
  | textStart
  | textEnd
  | lineStart (crlf : Bool)
  | lineEnd (crlf : Bool)
  | wordBoundary (unicode : Bool)
  | notWordBoundary (unicode : Bool)
  | wordStart (unicode : Bool)
  | wordEnd (unicode : Bool)
  | wordStartHalf (unicode : Bool)
  | wordEndHalf (unicode : Bool)
deriving DecidableEq

/-- A regular expression. -/
inductive Pattern where
  | empty
  | literal (chars : List Char)
  | oneOf (chars : CodePointSet)
  | condition (condition : Condition)
  | capture (number : Nat) (body : Pattern)
  | seq (parts : List Pattern)
  | choice (branches : List Pattern)
  /-- A repetition; a greedy one prefers many rounds to few. -/
  | repetition (least : Nat) (most : Option Nat) (isGreedy : Bool) (body : Pattern)

/-- The flags that matter for the meaning of a pattern. -/
structure Flags where
  caseInsensitive : Bool
  multiLine : Bool
  dotMatchesNewline : Bool
  swapGreed : Bool
  unicode : Bool
  crlf : Bool

/-- The flags at the start of a pattern. -/
def Flags.initial : Flags := ⟨false, false, false, false, true, false⟩

/-- The flags after some were switched. -/
def Flags.switch (flags : Flags) (items : List FlagItem) : Flags :=
  let setting (flag : Flag) (old : Bool) := (FlagItem.setting? items flag).getD old
  { caseInsensitive := setting .caseInsensitive flags.caseInsensitive
    multiLine := setting .multiLine flags.multiLine
    dotMatchesNewline := setting .dotMatchesNewline flags.dotMatchesNewline
    swapGreed := setting .swapGreed flags.swapGreed
    unicode := setting .unicode flags.unicode
    crlf := setting .crlf flags.crlf }

namespace Pattern

/-! ### Equality -/

mutual

/-- Whether two patterns are the same. -/
def same : Pattern → Pattern → Bool
  | .empty, .empty => true
  | .literal cs, .literal ds => cs = ds
  | .oneOf s, .oneOf t => s = t
  | .condition c, .condition d => c = d
  | .capture m p, .capture n q => m = n && same p q
  | .seq ps, .seq qs => sameParts ps qs
  | .choice ps, .choice qs => sameParts ps qs
  | .repetition l m g p, .repetition l' m' g' q => l = l' && m = m' && g = g' && same p q
  | _, _ => false

/-- Whether two lists of patterns are the same. -/
def sameParts : List Pattern → List Pattern → Bool
  | [], [] => true
  | p :: ps, q :: qs => same p q && sameParts ps qs
  | _, _ => false

end

/-! ### Short forms -/

/-- The ranges of characters in a range of code points, which may contain surrogates. -/
def characterRanges (range : Nat × Nat) : List (Nat × Nat) :=
  [(range.1, min range.2 0xD7FF), (max range.1 0xE000, range.2)].filter fun (low, high) =>
    low ≤ high

/-- One character out of a set. -/
def ofSet (s : CodePointSet) : Pattern :=
  match s.ranges.flatMap characterRanges with
  | [(low, high)] =>
    if low = high ∧ low.isValidChar then .literal [Char.ofNat low] else .oneOf (.range low high)
  | ranges => .oneOf (.ofRanges ranges)

/-- What a sequence consists of; other patterns are their own only part. -/
def parts : Pattern → List Pattern
  | .seq ps => ps
  | p => [p]

/-- Puts a part in front of others: empty ones are left out, and characters are joined. -/
def prepend : Pattern → List Pattern → List Pattern
  | .empty, ps => ps
  | .literal cs, .literal ds :: ps => .literal (cs ++ ds) :: ps
  | p, ps => p :: ps

/-- Several patterns, one after the other. -/
def chain (ps : List Pattern) : Pattern :=
  match (ps.flatMap parts).foldr prepend [] with
  | [] => .empty
  | [p] => p
  | ps => .seq ps

/-- What a choice consists of; other patterns are their own only branch. -/
def branches : Pattern → List Pattern
  | .choice ps => ps
  | p => [p]

/-- The set of a pattern that is a single character. -/
def single? : Pattern → Option CodePointSet
  | .literal [c] => some (.singleton c)
  | _ => none

/-- The set of a pattern that is a set of characters. -/
def set? : Pattern → Option CodePointSet
  | .oneOf s => some s
  | _ => none

/-- One of several patterns that have no beginning in common; single characters become a set, as
do sets. -/
def alternatives (ps : List Pattern) : Pattern :=
  match (ps.mapM single?).orElse fun _ => ps.mapM set? with
  | some sets => ofSet (.ofRanges (sets.flatMap (·.ranges)))
  | none => .choice ps

/-- The parts of a pattern that is a sequence. -/
def seq? : Pattern → Option (List Pattern)
  | .seq ps => some ps
  | _ => none

/-- What two sequences have in common at their beginnings. -/
def commonParts : List Pattern → List Pattern → List Pattern
  | p :: ps, q :: qs => if p.same q then p :: commonParts ps qs else []
  | _, _ => []

/-- What several patterns have in common at their beginnings, if they are sequences and start with
the same part; then follows what each goes on with. -/
def commonBeginning? (ps : List Pattern) : Option (List Pattern × List (List Pattern)) :=
  match ps.mapM seq? with
  | none | some [] => none
  | some (first :: rest) =>
    let common := rest.foldl commonParts first
    if common.isEmpty then none
    else some (common, (first :: rest).map fun qs => qs.drop common.length)

/-- One of several patterns.  What all of them start with is written once. -/
def choose (ps : List Pattern) : Pattern :=
  match ps.flatMap branches with
  | [p] => p
  | ps =>
    match commonBeginning? ps with
    | some (common, rests) => chain (common ++ [alternatives (rests.map chain)])
    | none => alternatives ps

mutual

/-- A pattern that takes no character, however it matches. -/
def takesNothing : Pattern → Bool
  | .empty | .condition _ => true
  | .literal _ | .oneOf _ => false
  | .capture _ body => takesNothing body
  | .seq ps | .choice ps => allTakeNothing ps
  | .repetition _ most _ body => most.isSome && takesNothing body

/-- Whether several patterns take no character, however they match. -/
def allTakeNothing : List Pattern → Bool
  | [] => true
  | p :: ps => takesNothing p && allTakeNothing ps

end

/-- A pattern repeated at least and at most so many times.  Where it takes no character a second
round does not lead anywhere else. -/
def repeated (least : Nat) (most : Option Nat) (isGreedy : Bool) (body : Pattern) : Pattern :=
  let (least, most) :=
    if takesNothing body then (min least 1, some (min (most.getD 1) 1)) else (least, most)
  if least = 0 ∧ most = some 0 then .empty
  else if least = 1 ∧ most = some 1 then body
  else .repetition least most isGreedy body

/-! ### Classes -/

/-- The set of the ASCII characters in some ranges. -/
def asciiRanges (ranges : List (Char × Char)) : CodePointSet :=
  .ofRanges (ranges.map fun (low, high) => (low.toNat, high.toNat))

/-- The characters of a class that is written between `[:` and `:]`. -/
def asciiClass : AsciiClass → CodePointSet
  | .alnum => asciiRanges [('0', '9'), ('A', 'Z'), ('a', 'z')]
  | .alpha => asciiRanges [('A', 'Z'), ('a', 'z')]
  | .ascii => asciiRanges [('\x00', '\x7f')]
  | .blank => asciiRanges [('\t', '\t'), (' ', ' ')]
  | .cntrl => asciiRanges [('\x00', '\x1f'), ('\x7f', '\x7f')]
  | .digit => asciiRanges [('0', '9')]
  | .graph => asciiRanges [('!', '~')]
  | .lower => asciiRanges [('a', 'z')]
  | .print => asciiRanges [(' ', '~')]
  | .punct => asciiRanges [('!', '/'), (':', '@'), ('[', '`'), ('\x7b', '~')]
  | .space => asciiRanges [('\t', '\r'), (' ', ' ')]
  | .upper => asciiRanges [('A', 'Z')]
  | .word => asciiRanges [('0', '9'), ('A', 'Z'), ('_', '_'), ('a', 'z')]
  | .xdigit => asciiRanges [('0', '9'), ('A', 'F'), ('a', 'f')]

/-- The characters of a class with a letter of its own. -/
def letterClass (unicode : Bool) : LetterClass → CodePointSet
  | .digit => if unicode then Category.ofNames ["Nd"] else asciiClass .digit
  | .space => if unicode then Property.listed "White_Space" else asciiClass .space
  | .word => if unicode then Property.wordCharacters else asciiClass .word

/-- A set with all case variants of its members; without Unicode only those of ASCII letters. -/
def foldCase (unicode : Bool) (s : CodePointSet) : CodePointSet :=
  if unicode then CaseFolding.close s
  else
    let upper := asciiRanges [('A', 'Z')]
    let lower := asciiRanges [('a', 'z')]
    let shift (d : Int) (part : CodePointSet) :=
      part.ranges.map fun (low, high) => ((low + d).toNat, (high + d).toNat)
    .ofRanges (s.ranges ++ shift 32 (s.intersection upper) ++ shift (-32) (s.intersection lower))

/-- A set under the flags and with its negation; without Unicode it has to stay within ASCII. -/
def finish (flags : Flags) (span : Span) (negated : Bool) (s : CodePointSet) :
    Except Failure CodePointSet :=
  let s := if flags.caseInsensitive then foldCase flags.unicode s else s
  let s := if negated then s.complement else s
  if flags.unicode || s.isAscii then .ok s else .error ⟨span, .invalidUtf8⟩

/-- The characters with the property that a name says. -/
def propertyClass : ClassName → Except PropertyName.Missing CodePointSet
  | .single name => PropertyName.named name
  | .valued property value => PropertyName.valued property value

/-- The characters of a property class. -/
def property (flags : Flags) (span : Span) (name : ClassName) (negated : Bool) :
    Except Failure CodePointSet :=
  if !flags.unicode then .error ⟨span, .unicodeNotAllowed⟩
  else
    match propertyClass name with
    | .ok s => finish flags span negated s
    | .error .property => .error ⟨span, .propertyNotFound⟩
    | .error .value => .error ⟨span, .propertyValueNotFound⟩

/-- The characters of a class with a letter of its own; its case variants belong to it anyway. -/
def letter (flags : Flags) (span : Span) (kind : LetterClass) (negated : Bool) :
    Except Failure CodePointSet :=
  finish { flags with caseInsensitive := false } span negated (letterClass flags.unicode kind)

/-- A character of a pattern; without Unicode a byte above ASCII has no meaning. -/
def character (flags : Flags) (l : Literal) : Except Failure Char :=
  if !flags.unicode && l.isByte && 0x7F < l.char.toNat then .error ⟨l.span, .invalidUtf8⟩
  else .ok l.char

/-- A character within brackets; without Unicode it has to be ASCII. -/
def member (flags : Flags) (l : Literal) : Except Failure Char := do
  let c ← character flags l
  if !flags.unicode && 0x7F < c.toNat then .error ⟨l.span, .unicodeNotAllowed⟩ else .ok c

mutual

/-- The characters of a set within brackets. -/
def classSet (flags : Flags) : ClassSet → Except Failure CodePointSet
  | .empty => .ok .empty
  | .literal l => (member flags l).map .singleton
  | .range low high => do
    let l ← member flags low
    let h ← member flags high
    return .range l.toNat h.toNat
  | .ascii span kind negated => finish flags span negated (asciiClass kind)
  | .property span name negated => property flags span name negated
  | .letter span kind negated => letter flags span kind negated
  | .bracketed span negated set => do
    let s ← classSet flags set
    finish flags span negated s
  | .union _ items => classItems flags items
  | .operation _ kind left right => do
    let s ← classSet flags left
    let t ← classSet flags right
    let s := if flags.caseInsensitive then foldCase flags.unicode s else s
    let t := if flags.caseInsensitive then foldCase flags.unicode t else t
    return match kind with
      | .intersection => s.intersection t
      | .difference => s.difference t
      | .symmetricDifference => s.symmetricDifference t

/-- The characters of some members together. -/
def classItems (flags : Flags) : List ClassSet → Except Failure CodePointSet
  | [] => .ok .empty
  | set :: rest => do
    let s ← classSet flags set
    let t ← classItems flags rest
    return s.union t

end

/-! ### Parts of patterns -/

/-- A character, or its case variants if case does not matter. -/
def ofLiteral (flags : Flags) (l : Literal) : Except Failure Pattern := do
  let c ← character flags l
  return if flags.caseInsensitive then ofSet (foldCase flags.unicode (.singleton c))
    else .literal [c]

/-- The characters that the dot does not match. -/
def lineEnds (flags : Flags) : CodePointSet :=
  if flags.dotMatchesNewline then .empty
  else if flags.crlf then .ofRanges [(0x0A, 0x0A), (0x0D, 0x0D)]
  else .singleton '\n'

/-- Any character, or any that does not end a line. -/
def dot (flags : Flags) (span : Span) : Except Failure Pattern :=
  if !flags.unicode then .error ⟨span, .invalidUtf8⟩ else .ok (ofSet (lineEnds flags).complement)

/-- The condition that an assertion states under the flags. -/
def assertion (flags : Flags) : Assertion → Condition
  | .lineStart => if flags.multiLine then .lineStart flags.crlf else .textStart
  | .lineEnd => if flags.multiLine then .lineEnd flags.crlf else .textEnd
  | .textStart => .textStart
  | .textEnd => .textEnd
  | .wordBoundary => .wordBoundary flags.unicode
  | .notWordBoundary => .notWordBoundary flags.unicode
  | .wordStart => .wordStart flags.unicode
  | .wordEnd => .wordEnd flags.unicode
  | .wordStartHalf => .wordStartHalf flags.unicode
  | .wordEndHalf => .wordEndHalf flags.unicode

mutual

/-- The meaning of a part of a pattern, and the flags behind it. -/
def ofPart (flags : Flags) : Ast → Except Failure (Pattern × Flags)
  | .empty => .ok (.empty, flags)
  | .flags items => .ok (.empty, flags.switch items)
  | .literal l => (ofLiteral flags l).map (·, flags)
  | .dot span => (dot flags span).map (·, flags)
  | .assertion kind => .ok (.condition (assertion flags kind), flags)
  | .property span name negated =>
    (property flags span name negated).map fun s => (ofSet s, flags)
  | .letter span kind negated => (letter flags span kind negated).map fun s => (ofSet s, flags)
  | .bracketed span negated set => do
    let s ← classSet flags set
    let s ← finish flags span negated s
    return (ofSet s, flags)
  | .repetition _ least most isGreedy body => do
    let (p, flags) ← ofPart flags body
    return (repeated least most (isGreedy != flags.swapGreed) p, flags)
  | .group _ number items body => do
    let (p, _) ← ofPart (flags.switch items) body
    return (match number with | some n => .capture n p | none => p, flags)
  | .alternation _ branches => do
    let (ps, flags) ← ofParts flags branches
    return (choose ps, flags)
  | .concat _ parts => do
    let (ps, flags) ← ofParts flags parts
    return (chain ps, flags)

/-- The meanings of some parts, each under the flags behind the one before it. -/
def ofParts (flags : Flags) : List Ast → Except Failure (List Pattern × Flags)
  | [] => .ok ([], flags)
  | part :: rest => do
    let (p, flags) ← ofPart flags part
    let (ps, flags) ← ofParts flags rest
    return (p :: ps, flags)

end

/-- The meaning of a pattern. -/
def ofAst (ast : Ast) : Except Failure Pattern := (ofPart .initial ast).map (·.1)

end Pattern

end DocQuery.Regex
