import DocQuery.Power
import DocQuery.Regex.Pattern

/-!
Matching: which places of a text a regular expression can lead to.

Places are numbered from 0, before the first character, and sets of places are kept as numbers, of
which bit `i` says whether place `i` belongs to the set.  All ways through a pattern are followed at
the same time.

* `Plan`: a pattern for one text, where each set of characters and each condition has become the
  set of the places at which it holds;
* `Plan.reach`: the places to which a plan leads from some places;
* `Pattern.isMatch` (**search**): whether a pattern matches anywhere in a text.
-/

namespace DocQuery.Regex

/-- A set of places. -/
abbrev Places := Nat

/-- The set of the places for which a list, in order, says so. -/
def Places.ofList (holds : List Bool) : Places :=
  holds.foldr (fun b places => 2 * places + b.toNat) 0

/-- A pattern for one text. -/
inductive Plan where
  | empty
  /-- Takes one character, at the places in the set. -/
  | step (places : Places)
  /-- Takes nothing, and only at the places in the set. -/
  | stay (places : Places)
  | seq (parts : List Plan)
  | choice (branches : List Plan)
  | repetition (least : Nat) (most : Nat) (body : Plan)

/-! ### Conditions -/

/-- A character of words. -/
def isWord (unicode : Bool) : Option Char → Bool
  | none => false
  | some c => (Pattern.letterClass unicode .word).contains c

namespace Condition

/-- A condition on the characters before and after a place. -/
def holds (before after : Option Char) : Condition → Bool
  | .textStart => before.isNone
  | .textEnd => after.isNone
  | .lineStart false => before.isNone || before = some '\n'
  | .lineEnd false => after.isNone || after = some '\n'
  | .lineStart true =>
    before.isNone || before = some '\n' || (before = some '\r' && after ≠ some '\n')
  | .lineEnd true =>
    after.isNone || after = some '\r' || (after = some '\n' && before ≠ some '\r')
  | .wordBoundary unicode => isWord unicode before != isWord unicode after
  | .notWordBoundary unicode => isWord unicode before == isWord unicode after
  | .wordStart unicode => !isWord unicode before && isWord unicode after
  | .wordEnd unicode => isWord unicode before && !isWord unicode after
  | .wordStartHalf unicode => !isWord unicode before
  | .wordEndHalf unicode => !isWord unicode after

/-- For each place of a text, whether a condition holds there. -/
def atPlaces (condition : Condition) (before : Option Char) : List Char → List Bool
  | [] => [condition.holds before none]
  | c :: rest => condition.holds before (some c) :: atPlaces condition (some c) rest

end Condition

/-! ### Plans -/

mutual

/-- The plan of a pattern for a text.  No repetition needs more rounds than the text has places. -/
def Pattern.plan (text : List Char) : Pattern → Plan
  | .empty => .empty
  | .literal chars => .seq (chars.map fun c => .step (Places.ofList (text.map (· == c))))
  | .oneOf chars => .step (Places.ofList (text.map chars.contains))
  | .condition c => .stay (Places.ofList (c.atPlaces none text))
  | .capture _ body => Pattern.plan text body
  | .seq parts => .seq (Pattern.plans text parts)
  | .choice branches => .choice (Pattern.plans text branches)
  | .repetition least most _ body =>
    .repetition least (match most with | some n => n - least | none => text.length + 1)
      (Pattern.plan text body)

/-- The plans of several patterns for a text. -/
def Pattern.plans (text : List Char) : List Pattern → List Plan
  | [] => []
  | p :: rest => Pattern.plan text p :: Pattern.plans text rest

end

namespace Plan

/-- Where exactly `n` rounds lead from some places. -/
def rounds (round : Places → Places) : Nat → Places → Places
  | 0, places => places
  | n + 1, places => if places = 0 then 0 else rounds round n (round places)

/-- Where at most `n` rounds lead from some places. -/
def upTo (round : Places → Places) : Nat → Places → Places
  | 0, places => places
  | n + 1, places =>
    let more := places ||| round places
    if more = places then places else upTo round n more

mutual

/-- The places to which a plan leads from some places. -/
def reach : Plan → Places → Places
  | .empty, places => places
  | .step allowed, places => 2 * (places &&& allowed)
  | .stay allowed, places => places &&& allowed
  | .seq parts, places => reachSeq parts places
  | .choice branches, places => reachChoice branches places
  | .repetition least most body, places =>
    upTo (reach body) most (rounds (reach body) least places)

/-- The places to which plans lead that are followed one after the other. -/
def reachSeq : List Plan → Places → Places
  | [], places => places
  | p :: rest, places => reachSeq rest (reach p places)

/-- The places to which at least one of several plans leads. -/
def reachChoice : List Plan → Places → Places
  | [], _ => 0
  | p :: rest, places => reach p places ||| reachChoice rest places

end

end Plan

/-- A pattern that matches some part of a text. -/
def Pattern.isMatch (pattern : Pattern) (text : String) : Bool :=
  let chars := text.toList
  (pattern.plan chars).reach (twoPow (chars.length + 1) - 1) ≠ 0

end DocQuery.Regex
