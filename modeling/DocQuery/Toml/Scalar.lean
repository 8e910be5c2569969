import DocQuery.Binary64

/-!
The scalars of TOML texts that are written without quotes: Booleans, integers, floats, dates and
times.  Settings are whole numbers, so only the value of an integer is kept.

* `TomlValue.ofWord?`: the value of an unquoted word;
* `integer?`, `isFloat`, `isDateTime`: the forms of numbers and of dates and times.
-/

namespace DocQuery

/-- The value of a key. -/
inductive TomlValue where
  | integer (value : Int)
  /-- A value of any other kind, which is checked and not kept. -/
  | other
deriving DecidableEq

namespace TomlValue

/-! ### Digits -/

/-- Digits without the single underscores that may stand between two of them. -/
def digitGroups? (isDigit : Char → Bool) : List Char → Option (List Char)
  | [] => none
  | [c] => if isDigit c then some [c] else none
  | c :: '_' :: rest =>
    if isDigit c then (digitGroups? isDigit rest).map (c :: ·) else none
  | c :: rest => if isDigit c then (digitGroups? isDigit rest).map (c :: ·) else none

/-- The value of a digit. -/
def digitValue (c : Char) : Nat :=
  if c.isDigit then c.toNat - '0'.toNat
  else if 'a' ≤ c ∧ c ≤ 'f' then c.toNat - 'a'.toNat + 10
  else c.toNat - 'A'.toNat + 10

/-- A digit of numbers to a base up to sixteen. -/
def isDigitOf (base : Nat) (c : Char) : Bool :=
  (c.isDigit || ('a' ≤ c && c ≤ 'f') || ('A' ≤ c && c ≤ 'F')) && digitValue c < base

/-- The number that digits denote. -/
def ofDigits (base : Nat) (digits : List Char) : Nat :=
  digits.foldl (fun n c => base * n + digitValue c) 0

/-- The digits of a decimal number, which has no leading zero. -/
def decimalDigits? (cs : List Char) : Option (List Char) :=
  match digitGroups? Char.isDigit cs with
  | some ['0'] => some ['0']
  | some ('0' :: _) => none
  | digits => digits

/-! ### Integers -/

/-- The integer that a word denotes. -/
def anyInteger? : List Char → Option Int
  | '0' :: 'x' :: cs => (digitGroups? (isDigitOf 16) cs).map fun ds => ofDigits 16 ds
  | '0' :: 'o' :: cs => (digitGroups? (isDigitOf 8) cs).map fun ds => ofDigits 8 ds
  | '0' :: 'b' :: cs => (digitGroups? (isDigitOf 2) cs).map fun ds => ofDigits 2 ds
  | '-' :: cs => (decimalDigits? cs).map fun ds => -(ofDigits 10 ds : Int)
  | '+' :: cs => (decimalDigits? cs).map fun ds => ofDigits 10 ds
  | cs => (decimalDigits? cs).map fun ds => ofDigits 10 ds

/-- The integer that a word denotes, if it fits into 128 bits, signed or not. -/
def integer? (cs : List Char) : Option Int :=
  (anyInteger? cs).filter fun n => -(twoPow 127 : Int) ≤ n ∧ n < twoPow 128

/-! ### Floats -/

/-- A number without its sign. -/
def unsigned : List Char → List Char
  | '+' :: cs => cs
  | '-' :: cs => cs
  | cs => cs

/-- A decimal number is below the infinite doubles. -/
def isFiniteDecimal (digits : List Char) (exponent : Int) : Bool :=
  let n := ofDigits 10 digits
  if n = 0 ∨ exponent + digits.length < 300 then true
  else if 310 < exponent + digits.length then false
  else if 0 ≤ exponent then (Binary64.ofRatio false (n * tenPow exponent.toNat) 1).isFinite
  else (Binary64.ofRatio false n (tenPow (-exponent).toNat)).isFinite

/-- The exponent that digits with an optional sign denote. -/
def exponent? : List Char → Option Int
  | '-' :: cs => (digitGroups? Char.isDigit cs).map fun ds => -(ofDigits 10 ds : Int)
  | cs => (digitGroups? Char.isDigit (unsigned cs)).map fun ds => ofDigits 10 ds

/-- What stands before and after the first character of some kind. -/
def splitAtFirst (p : Char → Bool) (cs : List Char) : List Char × Option (List Char) :=
  let before := cs.takeWhile fun c => !p c
  match cs.drop before.length with
  | [] => (before, none)
  | _ :: rest => (before, some rest)

/-- A finite float: a decimal number with a fraction, an exponent or both. -/
def isFiniteFloat (cs : List Char) : Bool :=
  let (mantissa, exponentPart) := splitAtFirst (fun c => c = 'e' || c = 'E') (unsigned cs)
  let (whole, fractionPart) := splitAtFirst (· = '.') mantissa
  let exponent :=
    match exponentPart with
    | some part => exponent? part
    | none => some 0
  let fraction :=
    match fractionPart with
    | some part => digitGroups? Char.isDigit part
    | none => some []
  match decimalDigits? whole, fraction, exponent with
  | some w, some f, some e =>
    (exponentPart.isSome || fractionPart.isSome) && isFiniteDecimal (w ++ f) (e - f.length)
  | _, _, _ => false

/-- A float. -/
def isFloat (cs : List Char) : Bool :=
  unsigned cs = "inf".toList || unsigned cs = "nan".toList || isFiniteFloat cs

/-! ### Dates and times -/

/-- The number that the first `n` characters denote, which have to be digits, and the rest. -/
def fixedNumber? (n : Nat) (cs : List Char) : Option (Nat × List Char) :=
  let digits := cs.take n
  if digits.length = n ∧ digits.all Char.isDigit then some (ofDigits 10 digits, cs.drop n)
  else none

/-- The rest after a given character. -/
def after? (c : Char) : List Char → Option (List Char)
  | d :: rest => if c = d then some rest else none
  | [] => none

/-- The number of days of a month. -/
def daysOfMonth (year month : Nat) : Nat :=
  if month = 2 then
    if year % 4 = 0 ∧ (year % 100 ≠ 0 ∨ year % 400 = 0) then 29 else 28
  else if month = 4 ∨ month = 6 ∨ month = 9 ∨ month = 11 then 30
  else 31

/-- The rest after a date. -/
def afterDate? (cs : List Char) : Option (List Char) := do
  let (year, cs) ← fixedNumber? 4 cs
  let cs ← after? '-' cs
  let (month, cs) ← fixedNumber? 2 cs
  let cs ← after? '-' cs
  let (day, cs) ← fixedNumber? 2 cs
  if 1 ≤ month ∧ month ≤ 12 ∧ 1 ≤ day ∧ day ≤ daysOfMonth year month then some cs else none

/-- The rest after a time; a sixtieth second is a leap second. -/
def afterTime? (cs : List Char) : Option (List Char) := do
  let (hour, cs) ← fixedNumber? 2 cs
  let cs ← after? ':' cs
  let (minute, cs) ← fixedNumber? 2 cs
  let cs ← after? ':' cs
  let (second, cs) ← fixedNumber? 2 cs
  if 23 < hour ∨ 59 < minute ∨ 60 < second then none
  else
    match cs with
    | '.' :: fraction =>
      if (fraction.takeWhile Char.isDigit).isEmpty then none
      else some (fraction.dropWhile Char.isDigit)
    | cs => some cs

/-- An offset from universal time; there may be none. -/
def isOffset : List Char → Bool
  | [] => true
  | ['Z'] => true
  | ['z'] => true
  | sign :: cs =>
    (sign = '+' || sign = '-') &&
      match fixedNumber? 2 cs with
      | some (hours, ':' :: cs) =>
        match fixedNumber? 2 cs with
        | some (minutes, []) => hours ≤ 23 && minutes ≤ 59
        | _ => false
      | _ => false

/-- A date. -/
def isDate (cs : List Char) : Bool := afterDate? cs = some []

/-- A date, a time, or both with an offset if wanted. -/
def isDateTime (cs : List Char) : Bool :=
  match afterDate? cs with
  | some [] => true
  | some (separator :: time) =>
    (separator = 'T' || separator = 't' || separator = ' ') &&
      match afterTime? time with
      | some offset => isOffset offset
      | none => false
  | none => afterTime? cs = some []

/-! ### Words -/

/-- The value of an unquoted word. -/
def ofWord? (cs : List Char) : Option TomlValue :=
  match integer? cs with
  | some n => some (.integer n)
  | none =>
    if cs = "true".toList ∨ cs = "false".toList ∨ isFloat cs ∨ isDateTime cs then some .other
    else none

end TomlValue

end DocQuery
