import DocQuery.Power
import DocQuery.Regex.Fault
import DocQuery.Unicode.Property

/-!
Reading a pattern: from characters to the parts that it is made of.

* `Ast.ofText`: the parts of a pattern, or the first fault in it.

Reading goes from left to right and never back, except where a class name between `[:` and `:]`, or
a word boundary with a name in braces, turns out to be something else.  Each function that repeats
itself has a bound on its steps, the number of characters that are left.
-/

namespace DocQuery.Regex

namespace Parser

/-! ### The input -/

/-- What is left of a pattern, where reading stands, and the groups named and counted so far. -/
structure Input where
  rest : List Char
  mark : Mark
  ignoreBlanks : Bool
  names : List (String × Span)
  captures : Nat

/-- A step of reading. -/
abbrev Parse := StateT Input (Except Failure)

/-- Skips blanks and comments; a comment ends with its line. -/
def skip (inComment : Bool) : List Char → Mark → List Char × Mark
  | [], mark => ([], mark)
  | c :: rest, mark =>
    if inComment then skip (c ≠ '\n') rest (mark.next c)
    else if Unicode.Property.isWhiteSpace c then skip false rest (mark.next c)
    else if c = '#' then skip true rest (mark.next c)
    else (c :: rest, mark)

/-- The input after blanks and comments, if these have no meaning. -/
def Input.skipBlanks (input : Input) : Input :=
  if input.ignoreBlanks then
    let (rest, mark) := skip false input.rest input.mark
    { input with rest, mark }
  else input

/-- The input after its next character. -/
def Input.bump (input : Input) : Input :=
  match input.rest with
  | [] => input
  | c :: rest => { input with rest, mark := input.mark.next c }

/-- The input after some characters, if it starts with them. -/
def Input.bumpIf? (input : Input) : List Char → Option Input
  | [] => some input
  | c :: word => if input.rest.head? = some c then input.bump.bumpIf? word else none

/-- The stretch of the next character. -/
def Input.spanChar (input : Input) : Span := ⟨input.mark, input.bump.mark⟩

/-- The character that decides whether a minus sign starts a range: the one after the next, where
blanks without a meaning are passed over. -/
def Input.peekSpace (input : Input) : Option Char :=
  let after := input.rest.tail
  if !input.ignoreBlanks then after.head?
  else
    match after.dropWhile Unicode.Property.isWhiteSpace with
    | [] => after.head?
    | '#' :: comment =>
      match comment.dropWhile Unicode.Property.isWhiteSpace with
      | [] => after.head?
      | c :: _ => some c
    | c :: _ => some c

/-- The next character, which stays unread. -/
def peek : Parse (Option Char) := return (← get).rest.head?

/-- The place where reading stands. -/
def mark : Parse Mark := return (← get).mark

/-- Takes the next character. -/
def bump : Parse Unit := modify Input.bump

/-- Takes the blanks and comments that have no meaning here. -/
def skipBlanks : Parse Unit := modify Input.skipBlanks

/-- Takes a character and the blanks after it. -/
def bumpSpace : Parse Unit := do
  bump
  skipBlanks

/-- The stretch of the next character. -/
def spanChar : Parse Span := return (← get).spanChar

/-- The stretch from a place to where reading stands. -/
def spanFrom (first : Mark) : Parse Span := return ⟨first, ← mark⟩

/-- A fault at a stretch of the pattern. -/
def fail {α : Type} (span : Span) (fault : Fault) : Parse α := throw ⟨span, fault⟩

/-- A fault at the stretch from a place to where reading stands. -/
def failFrom {α : Type} (first : Mark) (fault : Fault) : Parse α := do
  fail (← spanFrom first) fault

/-- A fault at the place where reading stands. -/
def failHere {α : Type} (fault : Fault) : Parse α := do
  fail (.at (← mark)) fault

/-- A fault at the next character. -/
def failChar {α : Type} (fault : Fault) : Parse α := do
  fail (← spanChar) fault

/-- The number of characters that are left, which bounds every loop. -/
def bound : Parse Nat := return (← get).rest.length + 1

/-! ### Escapes -/

/-- What a pattern consists of at the lowest level. -/
inductive Primitive where
  | literal (literal : Literal)
  | assertion (span : Span) (kind : Assertion)
  | dot (span : Span)
  | property (span : Span) (name : ClassName) (negated : Bool)
  | letter (span : Span) (kind : LetterClass) (negated : Bool)

/-- The stretch of a primitive. -/
def Primitive.span : Primitive → Span
  | .literal l => l.span
  | .assertion span _ | .dot span | .property span .. | .letter span .. => span

/-- A primitive as a part of a pattern. -/
def Primitive.toAst : Primitive → Ast
  | .literal l => .literal l
  | .assertion _ kind => .assertion kind
  | .dot span => .dot span
  | .property span name negated => .property span name negated
  | .letter span kind negated => .letter span kind negated

/-- A primitive as a member of a class; assertions and dots are none. -/
def Primitive.toSet (p : Primitive) : Parse ClassSet :=
  match p with
  | .literal l => return .literal l
  | .property span name negated => return .property span name negated
  | .letter span kind negated => return .letter span kind negated
  | .assertion span _ | .dot span => fail span .classEscapeInvalid

/-- A primitive as an end of a range. -/
def Primitive.toLiteral (p : Primitive) : Parse Literal :=
  match p with
  | .literal l => return l
  | p => fail p.span .classRangeLiteral

/-- Characters with a meaning of their own, which a backslash takes away. -/
def isMeta (c : Char) : Bool := "\\.+*?()|[]\x7b\x7d^$#&-~".toList.contains c

/-- Other characters that may stand after a backslash and mean themselves. -/
def isEscapable (c : Char) : Bool :=
  c.toNat < 0x80 && !c.isAlphanum && c ≠ '<' && c ≠ '>'

/-- A hexadecimal digit, in either case. -/
def isHex (c : Char) : Bool :=
  c.isDigit || ('a' ≤ c && c ≤ 'f') || ('A' ≤ c && c ≤ 'F')

/-- The number that hexadecimal digits denote. -/
def hexNumber (digits : List Char) : Nat :=
  Unicode.CodePointSet.hexNumber (digits.map Char.toUpper)

/-- The character with a code. -/
def char? (code : Nat) : Option Char :=
  if code.isValidChar then some (Char.ofNat code) else none

/-- Takes the digits of a hexadecimal escape of fixed length. -/
def hexFixed : Nat → Bool → Parse (List Char)
  | 0, _ => return []
  | count + 1, isFirst => do
    if !isFirst then bumpSpace
    match ← peek with
    | none => failHere .escapeUnexpectedEnd
    | some c =>
      if isHex c then return c :: (← hexFixed count false) else failChar .escapeHexInvalidDigit

/-- Takes the digits of a hexadecimal escape in braces, up to the closing brace. -/
def hexBraced (opening : Mark) : Nat → Parse (List Char)
  | 0 => return []
  | fuel + 1 => do
    bumpSpace
    match ← peek with
    | none => failFrom opening .escapeUnexpectedEnd
    | some '\x7d' => return []
    | some c =>
      if isHex c then return c :: (← hexBraced opening fuel)
      else failChar .escapeHexInvalidDigit

/-- Takes a hexadecimal escape from its letter on. -/
def hexEscape (start : Mark) (letter : Char) : Parse Literal := do
  bumpSpace
  match ← peek with
  | none => failHere .escapeUnexpectedEnd
  | some '\x7b' =>
    let opening ← mark
    let inner := (← spanChar).last
    let digits ← hexBraced opening (← bound)
    let closing ← mark
    bumpSpace
    if digits.isEmpty then failFrom opening .escapeHexEmpty
    match char? (hexNumber digits) with
    | none => fail ⟨inner, closing⟩ .escapeHexInvalid
    | some c => return ⟨← spanFrom start, c, false⟩
  | some _ =>
    let first ← mark
    let digits ← hexFixed (if letter = 'x' then 2 else if letter = 'u' then 4 else 8) true
    bumpSpace
    match char? (hexNumber digits) with
    | none => failFrom first .escapeHexInvalid
    | some c => return ⟨← spanFrom start, c, letter = 'x'⟩

/-- Takes the name of a property class up to the closing brace. -/
def classNameBraced : Nat → Parse (List Char)
  | 0 => return []
  | fuel + 1 => do
    bumpSpace
    match ← peek with
    | none => failHere .escapeUnexpectedEnd
    | some '\x7d' => return []
    | some c => return c :: (← classNameBraced fuel)

/-- Cuts a text at the first place where a word occurs. -/
def cutAt? (word : List Char) : List Char → Option (List Char × List Char)
  | [] => none
  | c :: rest =>
    if word.isPrefixOf (c :: rest) then some ([], (c :: rest).drop word.length)
    else (cutAt? word rest).map fun (before, after) => (c :: before, after)

/-- A name as it stands in braces: property and value are separated by `!=`, `:` or `=`. -/
def classNameOf (text : List Char) : ClassName :=
  let cut := (cutAt? ['!', '='] text).orElse fun _ =>
    (cutAt? [':'] text).orElse fun _ => cutAt? ['='] text
  match cut with
  | some (property, value) => .valued (String.ofList property) (String.ofList value)
  | none => .single (String.ofList text)

/-- Takes a property class from its letter on. -/
def propertyClass (start : Mark) (negated : Bool) : Parse Primitive := do
  bumpSpace
  match ← peek with
  | none => failHere .escapeUnexpectedEnd
  | some '\x7b' =>
    let name ← classNameBraced (← bound)
    bump
    return .property (← spanFrom start) (classNameOf name) negated
  | some '\\' => failChar .classNameInvalid
  | some c =>
    bumpSpace
    return .property (← spanFrom start) (.single c.toString) negated

/-- Takes the letters of a name in braces after a word boundary. -/
def boundaryName : Nat → Parse (List Char)
  | 0 => return []
  | fuel + 1 => do
    match ← peek with
    | some c =>
      if c.isAlpha || c = '-' then
        bumpSpace
        return c :: (← boundaryName fuel)
      else return []
    | none => return []

/-- Takes a name in braces after a word boundary.  Braces that do not start with a letter are not
a name and are left for a repetition. -/
def specialBoundary (start : Mark) : Parse Assertion := do
  let before ← get
  bumpSpace
  match ← peek with
  | none => failFrom start .wordBoundaryUnexpectedEnd
  | some c =>
    if !(c.isAlpha || c = '-') then
      set before
      return .wordBoundary
    let first ← mark
    let name ← boundaryName (← bound)
    if (← peek) ≠ some '\x7d' then failFrom before.mark .wordBoundaryUnclosed
    let last ← mark
    bump
    match String.ofList name with
    | "start" => return .wordStart
    | "end" => return .wordEnd
    | "start-half" => return .wordStartHalf
    | "end-half" => return .wordEndHalf
    | _ => fail ⟨first, last⟩ .wordBoundaryUnrecognized

/-- Takes an escape from its backslash on. -/
def escape : Parse Primitive := do
  let start ← mark
  bump
  match ← peek with
  | none => failFrom start .escapeUnexpectedEnd
  | some c =>
    if c.isDigit then fail ⟨start, (← spanChar).last⟩ .backreference
    if c = 'x' || c = 'u' || c = 'U' then return .literal (← hexEscape start c)
    if c = 'p' || c = 'P' then return ← propertyClass start (c = 'P')
    bump
    let span ← spanFrom start
    let literal (c : Char) : Parse Primitive := return .literal ⟨span, c, false⟩
    let assertion (kind : Assertion) : Parse Primitive := return .assertion span kind
    let letter (kind : LetterClass) (negated : Bool) : Parse Primitive :=
      return .letter span kind negated
    if isMeta c || isEscapable c then literal c
    else
      match c with
      | 'd' => letter .digit false
      | 's' => letter .space false
      | 'w' => letter .word false
      | 'D' => letter .digit true
      | 'S' => letter .space true
      | 'W' => letter .word true
      | 'a' => literal '\x07'
      | 'f' => literal '\x0c'
      | 't' => literal '\t'
      | 'n' => literal '\n'
      | 'r' => literal '\r'
      | 'v' => literal '\x0b'
      | 'A' => assertion .textStart
      | 'z' => assertion .textEnd
      | 'B' => assertion .notWordBoundary
      | '<' => assertion .wordStart
      | '>' => assertion .wordEnd
      | 'b' =>
        if (← peek) = some '\x7b' then
          let kind ← specialBoundary start
          return .assertion (← spanFrom start) kind
        else assertion .wordBoundary
      | _ => fail span .escapeUnrecognized

/-! ### Classes in brackets -/

/-- The classes that are written between `[:` and `:]`. -/
def asciiClass? : String → Option AsciiClass
  | "alnum" => some .alnum
  | "alpha" => some .alpha
  | "ascii" => some .ascii
  | "blank" => some .blank
  | "cntrl" => some .cntrl
  | "digit" => some .digit
  | "graph" => some .graph
  | "lower" => some .lower
  | "print" => some .print
  | "punct" => some .punct
  | "space" => some .space
  | "upper" => some .upper
  | "word" => some .word
  | "xdigit" => some .xdigit
  | _ => none

/-- The input after some number of characters. -/
def Input.bumps (input : Input) : Nat → Input
  | 0 => input
  | n + 1 => input.bump.bumps n

/-- Takes a class such as `[:alpha:]`, if there is one. -/
def asciiClass : Parse (Option ClassSet) := do
  let before ← get
  match before.bumpIf? ['[', ':'] with
  | none => return none
  | some inner =>
    let negated := inner.rest.head? = some '^'
    let inner := if negated then inner.bump else inner
    let name := inner.rest.takeWhile (· ≠ ':')
    match asciiClass? (String.ofList name), (inner.bumps name.length).bumpIf? [':', ']'] with
    | some kind, some after =>
      set after
      return some (.ascii ⟨before.mark, after.mark⟩ kind negated)
    | _, _ => return none

/-- Some members, in order, as one set. -/
def unionOf (here : Mark) : List ClassSet → ClassSet
  | [] => .empty
  | [set] => set
  | set :: sets =>
    let last := ((sets.getLast?.bind ClassSet.span).getD (.at here)).last
    .union ⟨(set.span.getD (.at here)).first, last⟩ (set :: sets)

/-- Takes one character or escape within brackets. -/
def classItem : Parse Primitive := do
  match ← peek with
  | some '\\' => escape
  | some c =>
    let span ← spanChar
    bump
    return .literal ⟨span, c, false⟩
  | none => failHere .classUnclosed

/-- Takes one member of a class: a single one, or a range.  `opening` is the stretch of the
bracket to blame if the pattern ends. -/
def classRange (opening : Span) : Parse ClassSet := do
  let low ← classItem
  skipBlanks
  match ← peek with
  | none => fail opening .classUnclosed
  | some c =>
    let next := (← get).peekSpace
    if c ≠ '-' || next = some ']' || next = some '-' then low.toSet
    else
      bumpSpace
      if (← peek).isNone then fail opening .classUnclosed
      let high ← classItem
      let span : Span := ⟨low.span.first, high.span.last⟩
      let low ← low.toLiteral
      let high ← high.toLiteral
      if high.char < low.char then fail span .classRangeInvalid
      return .range low high

/-- Takes minus signs at the start of a class, which stand for themselves. -/
def leadingMinus (start : Mark) : Nat → Parse (List ClassSet)
  | 0 => return []
  | fuel + 1 => do
    if (← peek) = some '-' then
      let span ← spanChar
      bumpSpace
      if (← peek).isNone then fail (.at start) .classUnclosed
      return .literal ⟨span, '-', false⟩ :: (← leadingMinus start fuel)
    else return []

/-- What an opening bracket starts: whether it is negated, its first members, and the stretch to
blame if it is not closed. -/
structure Opening where
  start : Mark
  negated : Bool
  members : List ClassSet
  span : Span

/-- Takes an opening bracket, a negation and members that stand for themselves only there. -/
def classOpening : Parse Opening := do
  let start ← mark
  bumpSpace
  if (← peek).isNone then failFrom start .classUnclosed
  let negated := (← peek) = some '^'
  if negated then
    bumpSpace
    if (← peek).isNone then failFrom start .classUnclosed
  let minus ← leadingMinus start (← bound)
  if minus.isEmpty && (← peek) = some ']' then
    let span ← spanChar
    bumpSpace
    if (← peek).isNone then failFrom start .classUnclosed
    return ⟨start, negated, [.literal ⟨span, ']', false⟩], ← spanFrom start⟩
  return ⟨start, negated, minus, ← spanFrom start⟩

/-- The operation that two characters denote within brackets. -/
def operation? : List Char → Option SetOperation
  | '&' :: '&' :: _ => some .intersection
  | '-' :: '-' :: _ => some .difference
  | '~' :: '~' :: _ => some .symmetricDifference
  | _ => none

/-- The set on the left of an operation, if there is one, with the operation and a set on its
right. -/
def combine (left : Option (ClassSet × SetOperation)) (right : ClassSet) (here : Mark) :
    ClassSet :=
  match left with
  | none => right
  | some (set, kind) =>
    let first := (set.span.getD (.at here)).first
    let last := (right.span.getD (.at here)).last
    .operation ⟨first, last⟩ kind set right

/-- Takes the rest of a class up to its closing bracket.  `left` is the set before the last
operation, `members` are the members since then, last first. -/
def classBody (fuel : Nat) (opening : Opening) (left : Option (ClassSet × SetOperation))
    (members : List ClassSet) : Parse ClassSet := do
  match fuel with
  | 0 => fail opening.span .classUnclosed
  | fuel + 1 =>
    skipBlanks
    match ← peek with
    | none => fail opening.span .classUnclosed
    | some ']' =>
      let here ← mark
      let set := combine left (unionOf here members.reverse) here
      bump
      return .bracketed (← spanFrom opening.start) opening.negated set
    | some '[' =>
      match ← asciiClass with
      | some set => classBody fuel opening left (set :: members)
      | none =>
        let inner ← classOpening
        let set ← classBody fuel inner none inner.members.reverse
        classBody fuel opening left (set :: members)
    | some _ =>
      match operation? (← get).rest with
      | some kind =>
        let here ← mark
        let set := combine left (unionOf here members.reverse) here
        bump
        bump
        classBody fuel opening (some (set, kind)) []
      | none =>
        let set ← classRange opening.span
        classBody fuel opening left (set :: members)

/-- Takes a class from its opening bracket on. -/
def bracketed : Parse Ast := do
  let opening ← classOpening
  match ← classBody (← bound) opening none opening.members.reverse with
  | .bracketed span negated set => return .bracketed span negated set
  | set => return .bracketed opening.span opening.negated set

/-! ### Repetitions -/

/-- Takes blanks, whether they have a meaning or not. -/
def anyBlanks : Parse Unit :=
  modify fun input =>
    input.bumps (input.rest.takeWhile Unicode.Property.isWhiteSpace).length

/-- Takes decimal digits. -/
def decimalDigits : Nat → Parse (List Char)
  | 0 => return []
  | fuel + 1 => do
    match ← peek with
    | some c =>
      if c.isDigit then
        bumpSpace
        return c :: (← decimalDigits fuel)
      else return []
    | none => return []

/-- Takes a decimal number with blanks around it.  What is wrong with it is said by the caller, if
it is to be said at all. -/
def decimal : Parse (Except Failure Nat) := do
  anyBlanks
  let start ← mark
  let digits ← decimalDigits (← bound)
  let span ← spanFrom start
  anyBlanks
  skipBlanks
  anyBlanks
  if digits.isEmpty then return .error ⟨span, .repetitionCountEmpty⟩
  let n := digits.foldl (fun n c => 10 * n + (c.toNat - '0'.toNat)) 0
  if n < twoPow 32 then return .ok n else return .error ⟨span, .decimalInvalid⟩

/-- The part that a repetition applies to, with the parts before it. -/
def operand (parts : List Ast) : Parse (Ast × List Ast) :=
  match parts with
  | [] | .empty :: _ | .flags _ :: _ => failHere .repetitionMissing
  | part :: rest => return (part, rest)

/-- Where a part starts. -/
def startOf (here : Mark) : Ast → Mark
  | .empty | .flags _ | .assertion _ => here
  | .literal l => l.span.first
  | .dot span | .property span .. | .letter span .. | .bracketed span .. | .repetition span ..
  | .group span .. | .alternation span _ | .concat span _ => span.first

/-- A part repeated; `here` is where its repetition operator starts. -/
def repeated (part : Ast) (here : Mark) (least : Nat) (most : Option Nat) (isGreedy : Bool) :
    Parse Ast := do
  return .repetition (← spanFrom (startOf here part)) least most isGreedy part

/-- Takes the question mark by which a repetition prefers few rounds, and says whether there is
none. -/
def greed : Parse Bool := do
  if (← peek) = some '?' then
    bump
    return false
  return true

/-- Takes an operator such as a star, and a question mark that changes which match is
preferred. -/
def shortRepetition (parts : List Ast) (least : Nat) (most : Option Nat) : Parse (List Ast) := do
  let here ← mark
  let (part, rest) ← operand parts
  bump
  let isGreedy ← greed
  return (← repeated part here least most isGreedy) :: rest

/-- Takes the counts of a repetition in braces, up to the closing brace. -/
def counts (start : Mark) : Parse (Nat × Option Nat) := do
  let least ← decimal
  match ← peek with
  | none => failFrom start .repetitionCountUnclosed
  | some ',' =>
    bumpSpace
    match ← peek with
    | none => failFrom start .repetitionCountUnclosed
    | some '\x7d' =>
      let least ← (least : Parse Nat)
      return (least, none)
    | some _ =>
      let least ← (least : Parse Nat)
      let most ← (← decimal : Parse Nat)
      return (least, some most)
  | some _ =>
    let least ← (least : Parse Nat)
    return (least, some least)

/-- Takes a repetition with counts from its opening brace on. -/
def countedRepetition (parts : List Ast) : Parse (List Ast) := do
  let start ← mark
  let (part, rest) ← operand parts
  bumpSpace
  if (← peek).isNone then failFrom start .repetitionCountUnclosed
  let (least, most) ← counts start
  if (← peek) ≠ some '\x7d' then failFrom start .repetitionCountUnclosed
  bumpSpace
  let isGreedy ← greed
  if most.any (· < least) then failFrom start .repetitionCountInvalid
  return (← repeated part start least most isGreedy) :: rest

/-! ### Groups -/

/-- The flag that a letter stands for. -/
def flag? : Char → Option Flag
  | 'i' => some .caseInsensitive
  | 'm' => some .multiLine
  | 's' => some .dotMatchesNewline
  | 'U' => some .swapGreed
  | 'u' => some .unicode
  | 'R' => some .crlf
  | 'x' => some .ignoreBlanks
  | _ => none

/-- Takes flags up to a colon or a closing parenthesis. -/
def flags (items : List (FlagItem × Span)) : Nat → Parse (List (FlagItem × Span))
  | 0 => return items.reverse
  | fuel + 1 => do
    match ← peek with
    | none => failHere .flagUnexpectedEnd
    | some c =>
      if c = ':' || c = ')' then
        match items with
        | (.negation, span) :: _ => fail span .flagDanglingNegation
        | _ => return items.reverse
      else
        let span ← spanChar
        let item ←
          if c = '-' then pure FlagItem.negation
          else
            match flag? c with
            | some flag => pure (FlagItem.flag flag)
            | none => fail span .flagUnrecognized
        match items.find? (·.1 = item) with
        | some (_, earlier) =>
          fail span (if c = '-' then .flagRepeatedNegation earlier else .flagDuplicate earlier)
        | none => pure ()
        bump
        flags ((item, span) :: items) fuel

/-- A character that may stand in the name of a group. -/
def isNameChar (isFirst : Bool) (c : Char) : Bool :=
  if isFirst then c = '_' || Unicode.Property.isAlphabetic c
  else
    c = '_' || c = '.' || c = '[' || c = ']' || Unicode.Property.isAlphabetic c ||
      Unicode.Property.isNumeric c

/-- Takes the characters of a group name up to the closing angle bracket. -/
def groupName (isFirst : Bool) : Nat → Parse (List Char)
  | 0 => return []
  | fuel + 1 => do
    match ← peek with
    | none => return []
    | some '>' => return []
    | some c =>
      if isNameChar isFirst c then
        bump
        return c :: (← groupName false fuel)
      else failChar .groupNameInvalid

/-- Takes the name of a group and its closing angle bracket; names are not used twice. -/
def captureName : Parse Unit := do
  if (← peek).isNone then failHere .groupNameUnexpectedEnd
  let start ← mark
  let name ← groupName true (← bound)
  let span ← spanFrom start
  if (← peek).isNone then failHere .groupNameUnexpectedEnd
  bump
  if name.isEmpty then fail (.at start) .groupNameEmpty
  let name := String.ofList name
  match (← get).names.lookup name with
  | some earlier => fail span (.groupNameDuplicate earlier)
  | none => modify fun input => { input with names := (name, span) :: input.names }

/-- Counts one more group that captures what it matches, and gives its number. -/
def nextCapture : Parse Nat :=
  modifyGet fun input => (input.captures + 1, { input with captures := input.captures + 1 })

/-- The start of a group: flags that go on behind it, a group that captures what it matches, or one
with flags of its own. -/
inductive GroupStart where
  | switch (items : List FlagItem)
  | group (number : Option Nat) (items : List FlagItem)

/-- Takes the start of a group from its opening parenthesis on. -/
def groupStart : Parse GroupStart := do
  let opening ← spanChar
  bump
  skipBlanks
  let inner ← get
  for word in [['?', '='], ['?', '!'], ['?', '<', '='], ['?', '<', '!']] do
    if let some after := inner.bumpIf? word then
      fail ⟨opening.first, after.mark⟩ .lookAround
  match (inner.bumpIf? ['?', 'P', '<']).orElse fun _ => inner.bumpIf? ['?', '<'] with
  | some after =>
    set after
    let number ← nextCapture
    captureName
    return .group (some number) []
  | none =>
    if (← peek) ≠ some '?' then return .group (some (← nextCapture)) []
    bump
    if (← peek).isNone then fail opening .groupUnclosed
    let items ← flags [] (← bound)
    let ending ← peek
    bump
    if ending = some ')' then
      if items.isEmpty then fail (.at inner.mark) .repetitionMissing
      return .switch (items.map (·.1))
    return .group none (items.map (·.1))

/-! ### Patterns -/

/-- Some parts one after the other. -/
def concatOf (first last : Mark) : List Ast → Ast
  | [] => .empty
  | [part] => part
  | parts => .concat ⟨first, last⟩ parts

/-- Some branches of which one is to match. -/
def alternationOf (first last : Mark) : List Ast → Ast
  | [branch] => branch
  | branches => .alternation ⟨first, last⟩ branches

/-- Takes a pattern up to a closing parenthesis or the end.  `first` is where the pattern starts,
`branches` are the branches before the last bar, last first; `start` is where the current branch
starts, `parts` are its parts, last first. -/
def pattern (fuel : Nat) (first : Mark) (branches : List Ast) (start : Mark) (parts : List Ast) :
    Parse Ast := do
  match fuel with
  | 0 => return .empty
  | fuel + 1 =>
    skipBlanks
    match ← peek with
    | none | some ')' =>
      let here ← mark
      return alternationOf first here (concatOf start here parts.reverse :: branches).reverse
    | some '|' =>
      let here ← mark
      bump
      let next ← mark
      pattern fuel first (concatOf start here parts.reverse :: branches) next []
    | some '(' =>
      let opening ← spanChar
      let ignoreBlanks := (← get).ignoreBlanks
      match ← groupStart with
      | .switch items =>
        let setting := (FlagItem.setting? items .ignoreBlanks).getD ignoreBlanks
        modify fun input => { input with ignoreBlanks := setting }
        pattern fuel first branches start (.flags items :: parts)
      | .group number items =>
        let setting := (FlagItem.setting? items .ignoreBlanks).getD ignoreBlanks
        modify fun input => { input with ignoreBlanks := setting }
        let inner ← mark
        let body ← pattern fuel inner [] inner []
        if (← peek).isNone then fail opening .groupUnclosed
        modify fun input => { input with ignoreBlanks := ignoreBlanks }
        bump
        let group := Ast.group (← spanFrom opening.first) number items body
        pattern fuel first branches start (group :: parts)
    | some '[' =>
      let part ← bracketed
      pattern fuel first branches start (part :: parts)
    | some '?' => pattern fuel first branches start (← shortRepetition parts 0 (some 1))
    | some '*' => pattern fuel first branches start (← shortRepetition parts 0 none)
    | some '+' => pattern fuel first branches start (← shortRepetition parts 1 none)
    | some '\x7b' => pattern fuel first branches start (← countedRepetition parts)
    | some '\\' =>
      let part ← escape
      pattern fuel first branches start (part.toAst :: parts)
    | some c =>
      let span ← spanChar
      bump
      let part :=
        match c with
        | '.' => .dot span
        | '^' => .assertion .lineStart
        | '$' => .assertion .lineEnd
        | c => .literal ⟨span, c, false⟩
      pattern fuel first branches start (part :: parts)

/-- How deep groups, brackets and the like may be nested. -/
def maxDepth : Nat := 250

/-- Takes a whole pattern. -/
def whole : Parse Ast := do
  let ast ← pattern (2 * (← bound)) .start [] .start []
  if (← peek).isSome then failChar .groupUnopened
  match ast.tooDeep? maxDepth with
  | some span => fail span (.nestedTooDeep maxDepth)
  | none => return ast

end Parser

/-- The parts of a pattern. -/
def Ast.ofText (text : String) : Except Failure Ast :=
  Parser.whole.run' ⟨text.toList, .start, false, [], 0⟩

end DocQuery.Regex
