import DocQuery.Json
import DocQuery.Json.Position
import DocQuery.Utf8

/-!
Reading JSON from bytes.  The first fault of a text is reported with the position that reading had
reached; where the fault is a byte that was looked at and not yet taken, the position includes
that byte.

* `Json.read`: the tree of a text, in which the last value of a repeated key stands at the place
  of the first;
* `Json.ReadError`: what is wrong with a text, and where.

Containers may be nested 127 deep.  A number with a fraction or an exponent is read as its first
digits, as many as fit into 64 bits, times or divided by a power of ten in double precision.
-/

namespace DocQuery.Json

/-! ### Faults -/

/-- What can be wrong with a JSON text. -/
inductive Fault where
  | endInList
  | endInObject
  | endInString
  | endInValue
  | expectedColon
  | expectedListCommaOrEnd
  | expectedObjectCommaOrEnd
  | expectedIdent
  | expectedValue
  | invalidEscape
  | invalidNumber
  | numberOutOfRange
  | invalidCodePoint
  | controlCharacter
  | keyNotString
  | loneSurrogate
  | trailingComma
  | trailingCharacters
  | endOfHexEscape
  | nestedTooDeep
deriving DecidableEq

/-- The wording of a fault. -/
def Fault.message : Fault → String
  | .endInList => "EOF while parsing a list"
  | .endInObject => "EOF while parsing an object"
  | .endInString => "EOF while parsing a string"
  | .endInValue => "EOF while parsing a value"
  | .expectedColon => "expected `:`"
  | .expectedListCommaOrEnd => "expected `,` or `]`"
  | .expectedObjectCommaOrEnd => "expected `,` or `\x7d`"
  | .expectedIdent => "expected ident"
  | .expectedValue => "expected value"
  | .invalidEscape => "invalid escape"
  | .invalidNumber => "invalid number"
  | .numberOutOfRange => "number out of range"
  | .invalidCodePoint => "invalid unicode code point"
  | .controlCharacter => "control character (\\u0000-\\u001F) found while parsing a string"
  | .keyNotString => "key must be a string"
  | .loneSurrogate => "lone leading surrogate in hex escape"
  | .trailingComma => "trailing comma"
  | .trailingCharacters => "trailing characters"
  | .endOfHexEscape => "unexpected end of hex escape"
  | .nestedTooDeep => "recursion limit exceeded"

/-- A fault and the number of bytes up to the place where it was found. -/
structure Failure where
  fault : Fault
  index : Nat

/-- A fault at a position of the text. -/
structure ReadError where
  fault : Fault
  position : Position
deriving DecidableEq

/-- The wording of a fault with its position. -/
def ReadError.message (e : ReadError) : String :=
  s!"{e.fault.message} at line {e.position.line} column {e.position.column}"

namespace Reader

/-! ### The input -/

/-- What is left to read and how much was read. -/
structure Input where
  rest : List UInt8
  taken : Nat

namespace Input

/-- The next byte as a character below 256, if there is one. -/
def peek (input : Input) : Option Char := input.rest.head?.map fun b => Char.ofNat b.toNat

/-- The input without its next `n` bytes. -/
def drop (input : Input) (n : Nat) : Input :=
  ⟨input.rest.drop n, input.taken + (input.rest.take n).length⟩

/-- A space, a line feed, a tab or a carriage return. -/
def isBlank (b : UInt8) : Bool := b = 0x20 ∨ b = 0x0A ∨ b = 0x09 ∨ b = 0x0D

/-- The input after blanks. -/
def skipBlanks (input : Input) : Input := input.drop (input.rest.takeWhile isBlank).length

/-- A fault where reading stands. -/
def fail {α : Type} (input : Input) (fault : Fault) : Except Failure α :=
  .error ⟨fault, input.taken⟩

/-- A fault at the byte that comes next. -/
def failAtNext {α : Type} (input : Input) (fault : Fault) : Except Failure α :=
  (input.drop 1).fail fault

end Input

/-! ### Literal words -/

/-- Takes the letters of a word one by one. -/
def word (result : Json) : List Char → Input → Except Failure (Json × Input)
  | [], input => .ok (result, input)
  | c :: rest, input =>
    match input.peek with
    | none => input.fail .endInValue
    | some d => if c = d then word result rest (input.drop 1) else input.failAtNext .expectedIdent

/-! ### Numbers -/

/-- The decimal digits at the start of the input. -/
def digits (input : Input) : List Nat :=
  (input.rest.takeWhile fun b => 0x30 ≤ b ∧ b ≤ 0x39).map fun b => b.toNat - 0x30

/-- `10 ^ n` as a double. -/
def powerOfTen (n : Nat) : Binary64 := Binary64.ofInt (tenPow n)

/-- `x` times `10 ^ exponent`; none if that is beyond the doubles.  A power above `10 ^ 308` is no
double, so for small exponents the division is done in steps. -/
def scale (x : Binary64) (exponent : Int) : Option Binary64 :=
  if x.magnitude = 0 then some x
  else if 308 < exponent then none
  else if 0 ≤ exponent then
    let y := x.mul (powerOfTen exponent.toNat)
    if y.isFinite then some y else none
  else if -308 ≤ exponent then some (x.div (powerOfTen exponent.natAbs))
  else scale (x.div (powerOfTen 308)) (exponent + 308)
termination_by exponent.natAbs

/-- Appends digits to a significand as long as it stays below `2 ^ 64`; also gives the number of
digits that were taken. -/
def appendDigits (significand : Nat) : List Nat → Nat × Nat
  | [] => (significand, 0)
  | d :: rest =>
    if significand * 10 + d < twoPow 64 then
      let (s, n) := appendDigits (significand * 10 + d) rest
      (s, n + 1)
    else (significand, 0)

/-- The double of a sign, a significand and a power of ten. -/
def scaled (negative : Bool) (significand : Nat) (exponent : Int) (input : Input) :
    Except Failure (JsonNumber × Input) :=
  match scale (Binary64.ofInt significand) exponent with
  | some x => .ok (.double (if negative then x.neg else x), input)
  | none => input.fail .numberOutOfRange

/-- The number of leading digits that keep a number of theirs below `2 ^ 31`. -/
def smallExponent (digits : List Nat) : Nat × Nat :=
  digits.foldl (fun (value, count) d =>
    if count = 0 ∨ value * 10 + d < twoPow 31 then (value * 10 + d, count + 1)
    else (twoPow 31, count))
    (0, 0)

/-- Reads an exponent part, with the input at its letter. -/
def exponentPart (negative : Bool) (significand : Nat) (start : Int) (input : Input) :
    Except Failure (JsonNumber × Input) :=
  let input := input.drop 1
  let sign := input.peek
  let input := if sign = some '+' ∨ sign = some '-' then input.drop 1 else input
  match digits input with
  | [] => if input.rest.isEmpty then input.fail .endInValue else input.failAtNext .invalidNumber
  | ds =>
    let (value, count) := smallExponent ds
    if value < twoPow 31 then
      scaled negative significand (if sign = some '-' then start - value else start + value)
        (input.drop ds.length)
    else if significand ≠ 0 ∧ sign ≠ some '-' then (input.drop (count + 1)).fail .numberOutOfRange
    else
      let zero := Binary64.ofInt 0
      .ok (.double (if negative then zero.neg else zero), input.drop ds.length)

/-- Reads what may follow the digits of a number that is a double: an exponent part. -/
def optionalExponent (negative : Bool) (significand : Nat) (exponent : Int) (input : Input) :
    Except Failure (JsonNumber × Input) :=
  match input.peek with
  | some 'e' | some 'E' => exponentPart negative significand exponent input
  | _ => scaled negative significand exponent input

/-- Reads a fraction, with the input at its point. -/
def fraction (negative : Bool) (significand : Nat) (exponent : Int) (input : Input) :
    Except Failure (JsonNumber × Input) :=
  let input := input.drop 1
  match digits input with
  | [] =>
    if input.rest.isEmpty then input.failAtNext .endInValue else input.failAtNext .invalidNumber
  | ds =>
    let (significand, count) := appendDigits significand ds
    optionalExponent negative significand (exponent - count) (input.drop ds.length)

/-- Reads the digits of a number and what follows them. -/
def unsignedNumber (negative : Bool) (input : Input) : Except Failure (JsonNumber × Input) :=
  match digits input with
  | [] => if input.rest.isEmpty then input.fail .endInValue else input.failAtNext .invalidNumber
  | 0 :: _ :: _ => (input.drop 1).failAtNext .invalidNumber
  | ds =>
    let (significand, count) := appendDigits 0 ds
    let after := input.drop ds.length
    let dropped : Int := (ds.length - count : Nat)
    match after.peek with
    | some '.' => fraction negative significand dropped after
    | some 'e' | some 'E' => exponentPart negative significand dropped after
    | _ =>
      if 0 < dropped then scaled negative significand dropped after
      else if !negative then .ok (.int significand, after)
      else if significand = 0 ∨ twoPow 63 < significand then
        .ok (.double (Binary64.ofInt significand).neg, after)
      else .ok (.int (-significand), after)

/-! ### Strings -/

/-- The value of a hexadecimal digit. -/
def hexDigit? (b : UInt8) : Option Nat :=
  if 0x30 ≤ b ∧ b ≤ 0x39 then some (b.toNat - 0x30)
  else if 0x41 ≤ b ∧ b ≤ 0x46 then some (b.toNat - 0x37)
  else if 0x61 ≤ b ∧ b ≤ 0x66 then some (b.toNat - 0x57)
  else none

/-- Takes four hexadecimal digits. -/
def hexQuad (input : Input) : Except Failure (Nat × Input) :=
  match input.rest with
  | a :: b :: c :: d :: _ =>
    match hexDigit? a, hexDigit? b, hexDigit? c, hexDigit? d with
    | some w, some x, some y, some z => .ok (((w * 16 + x) * 16 + y) * 16 + z, input.drop 4)
    | _, _, _, _ => (input.drop 4).fail .invalidEscape
  | _ => (input.drop 4).fail .endInString

/-- Takes a byte that is to follow a leading surrogate. -/
def afterSurrogate (c : Char) (input : Input) : Except Failure Input :=
  match input.peek with
  | none => input.fail .endInString
  | some d => if c = d then .ok (input.drop 1) else input.failAtNext .endOfHexEscape

/-- Takes the digits of a `\u` escape, and a second escape after a leading surrogate. -/
def unicodeEscape (input : Input) : Except Failure (Char × Input) := do
  let (n, input) ← hexQuad input
  if 0xDC00 ≤ n ∧ n ≤ 0xDFFF then input.fail .loneSurrogate
  else if 0xD800 ≤ n ∧ n ≤ 0xDBFF then
    let input ← afterSurrogate '\\' input
    let input ← afterSurrogate 'u' input
    let (m, input) ← hexQuad input
    if 0xDC00 ≤ m ∧ m ≤ 0xDFFF then
      .ok (Char.ofNat (0x10000 + (n - 0xD800) * 0x400 + (m - 0xDC00)), input)
    else input.fail .loneSurrogate
  else .ok (Char.ofNat n, input)

/-- Takes an escape after its backslash. -/
def escape (input : Input) : Except Failure (Char × Input) :=
  match input.peek with
  | none => input.fail .endInString
  | some '"' => .ok ('"', input.drop 1)
  | some '\\' => .ok ('\\', input.drop 1)
  | some '/' => .ok ('/', input.drop 1)
  | some 'b' => .ok ('\x08', input.drop 1)
  | some 'f' => .ok ('\x0c', input.drop 1)
  | some 'n' => .ok ('\n', input.drop 1)
  | some 'r' => .ok ('\r', input.drop 1)
  | some 't' => .ok ('\t', input.drop 1)
  | some 'u' => unicodeEscape (input.drop 1)
  | some _ => input.failAtNext .invalidEscape

/-- Takes a string after its opening quote.  `chars` holds what was read, last first, and `bad` the
index of the first byte that is no UTF-8; each step takes a byte, and `fuel` bounds their number. -/
def stringBody (fuel : Nat) (chars : List Char) (bad : Option Nat) (input : Input) :
    Except Failure (String × Input) :=
  match fuel with
  | 0 => input.fail .endInString
  | fuel + 1 =>
    match input.rest with
    | [] => input.fail .endInString
    | b :: _ =>
      if b = 0x22 then
        match bad with
        | none => .ok (String.ofList chars.reverse, input.drop 1)
        | some index => .error ⟨.invalidCodePoint, index + 1⟩
      else if b = 0x5C then
        match escape (input.drop 1) with
        | .ok (c, input) => stringBody fuel (c :: chars) bad input
        | .error e => .error e
      else if b < 0x20 then input.failAtNext .controlCharacter
      else
        match Utf8.first? input.rest with
        | some (c, n) => stringBody fuel (c :: chars) bad (input.drop n)
        | none => stringBody fuel chars (bad <|> some input.taken) (input.drop 1)

/-- Takes a string, with the input at its opening quote. -/
def string (input : Input) : Except Failure (String × Input) :=
  stringBody (input.rest.length + 1) [] none (input.drop 1)

/-! ### Trees -/

mutual

/-- Takes a value, in which containers may be nested `depth` deep.  `fuel` bounds the number of
steps, each of which takes a byte or ends. -/
def value (fuel depth : Nat) (input : Input) : Except Failure (Json × Input) :=
  match fuel with
  | 0 => input.fail .endInValue
  | fuel + 1 =>
    let input := input.skipBlanks
    match input.peek with
    | none => input.failAtNext .endInValue
    | some 'n' => word .null ['u', 'l', 'l'] (input.drop 1)
    | some 't' => word (.bool true) ['r', 'u', 'e'] (input.drop 1)
    | some 'f' => word (.bool false) ['a', 'l', 's', 'e'] (input.drop 1)
    | some '-' => (unsignedNumber true (input.drop 1)).map fun (n, input) => (.number n, input)
    | some '"' => (string input).map fun (s, input) => (.string s, input)
    | some '[' =>
      match depth with
      | 0 => input.failAtNext .nestedTooDeep
      | depth + 1 =>
        (items fuel depth true (input.drop 1)).map fun (ts, input) => (.array ts, input)
    | some '\x7b' =>
      match depth with
      | 0 => input.failAtNext .nestedTooDeep
      | depth + 1 =>
        (members fuel depth true (input.drop 1)).map fun (ms, input) =>
          (.object (Fields.ofList ms), input)
    | some c =>
      if c.isDigit then (unsignedNumber false input).map fun (n, input) => (.number n, input)
      else input.failAtNext .expectedValue

/-- Takes the items of an array up to its closing bracket. -/
def items (fuel depth : Nat) (first : Bool) (input : Input) :
    Except Failure (List Json × Input) :=
  match fuel with
  | 0 => input.fail .endInList
  | fuel + 1 =>
    let input := input.skipBlanks
    match input.peek with
    | none => input.failAtNext .endInList
    | some ']' => .ok ([], input.drop 1)
    | some c =>
      if first then itemThenItems fuel depth input
      else if c = ',' then
        let input := (input.drop 1).skipBlanks
        match input.peek with
        | none => input.failAtNext .endInValue
        | some ']' => input.failAtNext .trailingComma
        | some _ => itemThenItems fuel depth input
      else input.failAtNext .expectedListCommaOrEnd

/-- Takes an item of an array and the items after it. -/
def itemThenItems (fuel depth : Nat) (input : Input) : Except Failure (List Json × Input) :=
  match fuel with
  | 0 => input.fail .endInList
  | fuel + 1 =>
    match value fuel depth input with
    | .error e => .error e
    | .ok (t, input) => (items fuel depth false input).map fun (ts, input) => (t :: ts, input)

/-- Takes the members of an object up to its closing brace. -/
def members (fuel depth : Nat) (first : Bool) (input : Input) :
    Except Failure (List (String × Json) × Input) :=
  match fuel with
  | 0 => input.fail .endInObject
  | fuel + 1 =>
    let input := input.skipBlanks
    match input.peek with
    | none => input.failAtNext .endInObject
    | some '\x7d' => .ok ([], input.drop 1)
    | some c =>
      if first then
        if c = '"' then memberThenMembers fuel depth input else input.failAtNext .keyNotString
      else if c = ',' then
        let input := (input.drop 1).skipBlanks
        match input.peek with
        | none => input.failAtNext .endInValue
        | some '"' => memberThenMembers fuel depth input
        | some '\x7d' => input.failAtNext .trailingComma
        | some _ => input.failAtNext .keyNotString
      else input.failAtNext .expectedObjectCommaOrEnd

/-- Takes a member of an object and the members after it. -/
def memberThenMembers (fuel depth : Nat) (input : Input) :
    Except Failure (List (String × Json) × Input) :=
  match fuel with
  | 0 => input.fail .endInObject
  | fuel + 1 =>
    match string input with
    | .error e => .error e
    | .ok (key, input) =>
      let input := input.skipBlanks
      match input.peek with
      | none => input.failAtNext .endInObject
      | some ':' =>
        match value fuel depth (input.drop 1) with
        | .error e => .error e
        | .ok (t, input) =>
          (members fuel depth false input).map fun (ms, input) => ((key, t) :: ms, input)
      | some _ => input.failAtNext .expectedColon

end

/-- How deep containers may be nested. -/
def maxDepth : Nat := 127

/-- Takes a whole text: a value and blanks around it. -/
def document (raw : List UInt8) : Except Failure Json := do
  let (t, input) ← value (3 * raw.length + 3) maxDepth ⟨raw, 0⟩
  let input := input.skipBlanks
  if input.rest.isEmpty then .ok t else input.failAtNext .trailingCharacters

end Reader

/-- The tree of a text. -/
def read (raw : List UInt8) : Except ReadError Json :=
  (Reader.document raw).mapError fun e => ⟨e.fault, Position.ofIndex raw e.index⟩

end DocQuery.Json
