import DocQuery.Power
import DocQuery.Regex.Pattern
import DocQuery.Utf8

/-!
The size of the automaton of a regular expression.  Repetitions with counts are written out in it
and characters become bytes, so a short pattern can have a large automaton; patterns above a limit
are refused.

* `Pattern.size`: the number of bytes that the automaton takes, read forward or backward;
* `Pattern.isSmall`: whether the automata that search for a pattern stay within the limit.
-/

namespace DocQuery.Regex

open Unicode

/-! ### Characters as bytes -/

/-- A range of bytes. -/
abbrev ByteRange := Nat × Nat

/-- The bytes of the code points from `low` to `high`, which have `count` bytes each and agree up to
their last ones. -/
def byteRanges (low high : Nat) : List ByteRange :=
  let tail (shift : Nat) : ByteRange := (0x80 + low / shift % 64, 0x80 + high / shift % 64)
  if high < 0x80 then [(low, high)]
  else if high < 0x800 then [(0xC0 + low / 64, 0xC0 + high / 64), tail 1]
  else if high < 0x10000 then [(0xE0 + low / 4096, 0xE0 + high / 4096), tail 64, tail 1]
  else [(0xF0 + low / 262144, 0xF0 + high / 262144), tail 4096, tail 64, tail 1]

/-- The first code point after which a range has to be cut, so that the code points on each side
have equally many bytes. -/
def lengthCut? (low high : Nat) : Option Nat :=
  [0x7F, 0x7FF, 0xFFFF].find? fun last => low ≤ last && last < high

/-- The first code point after which a range has to be cut, so that its bytes vary independently. -/
def blockCut? (low high : Nat) : Option Nat :=
  [64, 4096, 262144].findSome? fun block =>
    if low / block = high / block then none
    else if low % block ≠ 0 then some (low / block * block + (block - 1))
    else if high % block ≠ block - 1 then some (high / block * block - 1)
    else none

/-- The code points from `low` to `high` as sequences of byte ranges, in order. -/
def sequences (fuel low high : Nat) : List (List ByteRange) :=
  match fuel with
  | 0 => []
  | fuel + 1 =>
    if high < low then []
    else if low < 0xE000 ∧ 0xD7FF < high then
      (if low ≤ 0xD7FF then sequences fuel low 0xD7FF else []) ++ sequences fuel 0xE000 high
    else
      match lengthCut? low high with
      | some last => sequences fuel low last ++ sequences fuel (last + 1) high
      | none =>
        if high < 0x80 then [byteRanges low high]
        else
          match blockCut? low high with
          | some last => sequences fuel low last ++ sequences fuel (last + 1) high
          | none => [byteRanges low high]

/-- The members of a set as sequences of byte ranges. -/
def setSequences (s : CodePointSet) : List (List ByteRange) :=
  s.ranges.flatMap fun (low, high) => sequences 64 low high

/-! ### States -/

/-- The size of a state without what it refers to. -/
def stateSize : Nat := 32

/-- The states of the automaton of a set that have been seen, each with its transitions. -/
abbrev States := List (List (ByteRange × Nat))

/-- Adds a state unless one with the same transitions is there, and gives its number; number 0 is
the final state. -/
def addState (states : States) (transitions : List (ByteRange × Nat)) : States × Nat :=
  match states.idxOf? transitions with
  | some i => (states, i + 1)
  | none => (states ++ [transitions], states.length + 1)

/-- The sequences with the same first range brought together; sequences come in order. -/
def groupByFirst : List (List ByteRange) → List (ByteRange × List (List ByteRange))
  | [] => []
  | [] :: rest => groupByFirst rest
  | (range :: tail) :: rest =>
    match groupByFirst rest with
    | (range', tails) :: groups =>
      if range = range' then (range, tail :: tails) :: groups
      else (range, [tail]) :: (range', tails) :: groups
    | [] => [(range, [tail])]

/-- Adds the states for some sequences of at most `depth` ranges, and gives the number of the
first. -/
def addSequences (depth : Nat) (states : States) (seqs : List (List ByteRange)) : States × Nat :=
  match depth with
  | 0 => (states, 0)
  | depth + 1 =>
    if seqs.all List.isEmpty then (states, 0)
    else
      let (states, transitions) := (groupByFirst seqs).foldl
        (fun (states, transitions) (range, tails) =>
          let (states, target) := addSequences depth states tails
          (states, transitions ++ [(range, target)]))
        (states, [])
      addState states transitions

/-- The size of the automaton of a set that is read forward: states with the same transitions are
shared. -/
def forwardSetSize (s : CodePointSet) : Nat :=
  let (states, _) := addSequences 5 [] (setSequences s)
  states.foldl (fun total transitions => total + stateSize + 8 * transitions.length) stateSize

/-- The number of different nonempty beginnings of some sequences. -/
def beginnings : Nat → List (List ByteRange) → Nat
  | 0, _ => 0
  | depth + 1, seqs =>
    ((groupByFirst seqs).map fun (_, tails) => 1 + beginnings depth tails).sum

/-- The size of the automaton of a set that is read backward: common beginnings are shared. -/
def backwardSetSize (s : CodePointSet) : Nat :=
  let seqs := setSequences s
  stateSize * (2 + beginnings 5 seqs) + 4 * seqs.length

/-- The size of the automaton of a set of characters. -/
def setSize (backward : Bool) (s : CodePointSet) : Nat :=
  if s.isAscii then 2 * stateSize + 8 * s.ranges.length
  else if backward then backwardSetSize s
  else forwardSetSize s

/-! ### Words -/

/-- What follows each first byte of some words, in order; empty words have no first byte. -/
def byFirstByte (words : List (List UInt8)) : List (List (List UInt8)) :=
  (words.filterMap List.head?).eraseDups.map fun first =>
    words.filterMap fun word =>
      match word with
      | [] => none
      | b :: tail => if b = first then some tail else none

/-- The words before each empty one, and those after the last. -/
def cutAtEmpty : List (List UInt8) → List (List (List UInt8))
  | [] => [[]]
  | [] :: words => [] :: cutAtEmpty words
  | word :: words =>
    match cutAtEmpty words with
    | [] => [[word]]
    | cut :: cuts => (word :: cut) :: cuts

/-- The size of the automaton of some words of at most `depth` bytes without its last state.  Words
that start in the same way share states as long as no word between them ends there. -/
def wordsSize (depth : Nat) (words : List (List UInt8)) : Nat :=
  match depth with
  | 0 => 0
  | depth + 1 =>
    if words.all List.isEmpty then 0
    else
      -- Several words that end before any other word goes on are one.
      let others := words.dropWhile List.isEmpty
      let cuts := cutAtEmpty (if others.length < words.length then [] :: others else others)
      let groups := (cuts.filter (! ·.isEmpty)).map byFirstByte
      let fork := stateSize + 4 * (groups.length + (cuts.length - 1))
      fork + (groups.map fun tails =>
        stateSize + (if tails.length = 1 then 0 else 8 * tails.length)
          + (tails.map (wordsSize depth)).sum).sum

namespace Pattern

/-! ### Lengths and ends -/

mutual

/-- The least number of characters that a match can take; none where a set without members might
be asked for one. -/
def leastLength? : Pattern → Option Nat
  | .empty | .condition _ => some 0
  | .literal chars => some chars.length
  | .oneOf chars => if chars.isEmpty then none else some 1
  | .capture _ body => leastLength? body
  | .seq ps => do return (← leastLengths? ps).sum
  | .choice ps => do return (← (← leastLengths? ps).min?)
  | .repetition least _ _ body => do return least * (← leastLength? body)

/-- The least numbers of characters that matches of several patterns can take. -/
def leastLengths? : List Pattern → Option (List Nat)
  | [] => some []
  | p :: ps => do return (← leastLength? p) :: (← leastLengths? ps)

end

/-- A pattern that might match without taking a character. -/
def isNullable (p : Pattern) : Bool := (leastLength? p).getD 0 = 0

mutual

/-- A pattern that matches only at the start of a text. -/
def startsText : Pattern → Bool
  | .condition c => c = .textStart
  | .capture _ body => startsText body
  | .seq ps => someStartsText ps
  | .choice ps => allStartText ps
  | .repetition least _ _ body => 0 < least && startsText body
  | .empty | .literal _ | .oneOf _ => false

/-- A sequence that matches only at the start of a text. -/
def someStartsText : List Pattern → Bool
  | [] => false
  | p :: ps => startsText p || (takesNothing p && someStartsText ps)

/-- Whether several patterns match only at the start of a text. -/
def allStartText : List Pattern → Bool
  | [] => true
  | p :: ps => startsText p && allStartText ps

end

mutual

/-- A pattern that matches only at the end of a text. -/
def endsText : Pattern → Bool
  | .condition c => c = .textEnd
  | .capture _ body => endsText body
  | .seq ps => someEndsText ps
  | .choice ps => allEndText ps
  | .repetition least _ _ body => 0 < least && endsText body
  | .empty | .literal _ | .oneOf _ => false

/-- A sequence that matches only at the end of a text. -/
def someEndsText : List Pattern → Bool
  | [] => false
  | p :: ps => someEndsText ps || (allTakeNothing ps && endsText p)

/-- Whether several patterns match only at the end of a text. -/
def allEndText : List Pattern → Bool
  | [] => true
  | p :: ps => endsText p && allEndText ps

end

/-! ### Sizes -/

/-- The characters of a pattern that consists of nothing else. -/
def literal? : Pattern → Option (List Char)
  | .literal chars => some chars
  | _ => none

/-- The bytes of some characters, in the order in which they are read. -/
def bytes (backward : Bool) (chars : List Char) : List UInt8 :=
  let word := Utf8.encode (String.ofList chars)
  if backward then word.reverse else word

/-- The size of a fork between two ways. -/
def forkSize : Nat := stateSize + 8

mutual

/-- The size of the automaton of a pattern. -/
def size (backward : Bool) : Pattern → Nat
  | .empty | .condition _ => stateSize
  | .literal chars => stateSize * (bytes backward chars).length
  | .oneOf chars => setSize backward chars
  | .capture _ body => (if backward then 0 else 2 * stateSize) + size backward body
  | .seq ps => sizes backward ps
  | .choice ps =>
    match ps.mapM literal? with
    | some literals =>
      let words := literals.map (bytes backward)
      let depth := words.foldl (fun depth word => max depth word.length) 0
      stateSize + wordsSize (depth + 1) words
    | none => 2 * stateSize + 4 * ps.length + sizes backward ps
  | .repetition least most _ body =>
    let one := size backward body
    let rounds := if least = 0 then stateSize else least * one
    match most with
    | none =>
      if least ≠ 0 then rounds + forkSize
      else if isNullable body then one + 2 * forkSize + stateSize
      else one + forkSize
    | some most =>
      if least = 0 ∧ most = 1 then one + forkSize + stateSize
      else if most ≤ least then rounds
      else rounds + stateSize + (most - least) * (one + forkSize)

/-- The size of the automata of several patterns together. -/
def sizes (backward : Bool) : List Pattern → Nat
  | [] => 0
  | p :: ps => size backward p + sizes backward ps

end

/-- The size of the states before a pattern: where it can start anywhere any bytes may come
first. -/
def searchSize (isBound : Bool) : Nat :=
  if isBound then stateSize else forkSize + (2 * stateSize + 8)

/-- The size of the automaton that searches for a pattern and notes where the match lies. -/
def forwardSize (p : Pattern) : Nat :=
  searchSize p.startsText + (2 * stateSize + p.size false) + stateSize

/-- The size of the automaton that searches from the end of a text. -/
def backwardSize (p : Pattern) : Nat := searchSize p.endsText + p.size true + stateSize

/-- The largest size that is accepted, 10 MiB. -/
def sizeLimit : Nat := 10 * twoPow 20

/-- So many words that they are searched for without an automaton of this kind. -/
def manyWords : Nat := 3000

/-- A choice between very many words and nothing else. -/
def isWordList : Pattern → Bool
  | .choice ps => manyWords ≤ ps.length && (ps.mapM literal?).isSome
  | _ => false

/-- A pattern whose automaton is not too large in either direction. -/
def isSmall (p : Pattern) : Bool :=
  p.isWordList || (p.forwardSize ≤ sizeLimit && p.backwardSize ≤ sizeLimit)

end Pattern

end DocQuery.Regex
