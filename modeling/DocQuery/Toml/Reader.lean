import DocQuery.Toml.Table

/-!
Reading the lines of TOML texts: keys, values and headers.

* `TomlReader.keys?`: a key, which may be dotted;
* `TomlReader.value?`: a value; arrays and inline tables are read to their end;
* `TomlReader.line?`: one line, which is blank, a header or a key with its value.
-/

namespace DocQuery

/-- A line that says something. -/
inductive TomlLine where
  | table (path : List String)
  | item (path : List String)
  | entry (path : List String) (value : TomlValue)

namespace TomlReader

/-! ### Blanks, comments and line ends -/

/-- The rest after blanks. -/
def skipBlanks (cs : List Char) : List Char := cs.dropWhile fun c => c = ' ' || c = '\t'

/-- A character that may stand in comments and strings of one line. -/
def isPlain (c : Char) : Bool := c = '\t' || (0x20 ≤ c.toNat && c.toNat ≠ 0x7F)

/-- The rest after a comment, which goes to the end of the line. -/
def skipComment : List Char → List Char
  | '#' :: cs => cs.dropWhile isPlain
  | cs => cs

/-- The rest after the end of a line or of the text. -/
def lineEnd? : List Char → Option (List Char)
  | [] => some []
  | '\n' :: cs => some cs
  | '\r' :: '\n' :: cs => some cs
  | _ => none

/-- The rest after the blanks, the comment and the end of a line. -/
def endOfLine? (cs : List Char) : Option (List Char) := lineEnd? (skipComment (skipBlanks cs))

/-- The rest after blanks, comments and line ends, at most `fuel` lines of them. -/
def skipLines : Nat → List Char → List Char
  | 0, cs => cs
  | fuel + 1, cs =>
    match skipComment (skipBlanks cs) with
    | '\n' :: rest => skipLines fuel rest
    | '\r' :: '\n' :: rest => skipLines fuel rest
    | rest => rest

/-- The rest after all blanks, comments and line ends. -/
def skipSpace (cs : List Char) : List Char := skipLines cs.length cs

/-! ### Strings -/

/-- The character with a code point in so many hexadecimal digits, and the rest. -/
def codePoint? (digits : Nat) (cs : List Char) : Option (Char × List Char) :=
  let taken := cs.take digits
  if taken.length = digits ∧ taken.all (TomlValue.isDigitOf 16) then
    let n := TomlValue.ofDigits 16 taken
    if n < 0xD800 ∨ (0xDFFF < n ∧ n < 0x110000) then some (Char.ofNat n, cs.drop digits)
    else none
  else none

/-- The character that an escape stands for, and the rest; the backslash is already taken. -/
def escape? : List Char → Option (Char × List Char)
  | 'b' :: cs => some ('\x08', cs)
  | 't' :: cs => some ('\t', cs)
  | 'n' :: cs => some ('\n', cs)
  | 'f' :: cs => some ('\x0c', cs)
  | 'r' :: cs => some ('\r', cs)
  | '"' :: cs => some ('"', cs)
  | '\\' :: cs => some ('\\', cs)
  | 'u' :: cs => codePoint? 4 cs
  | 'U' :: cs => codePoint? 8 cs
  | _ => none

/-- The rest of a string of one line in double quotes, and what follows it. -/
def basicString? : Nat → List Char → Option (List Char × List Char)
  | 0, _ => none
  | _ + 1, [] => none
  | _ + 1, '"' :: cs => some ([], cs)
  | fuel + 1, '\\' :: cs => do
    let (c, cs) ← escape? cs
    let (later, cs) ← basicString? fuel cs
    return (c :: later, cs)
  | fuel + 1, c :: cs =>
    if isPlain c then (basicString? fuel cs).map fun (later, cs) => (c :: later, cs) else none

/-- The rest of a string of one line in single quotes, and what follows it. -/
def literalString? (cs : List Char) : Option (List Char × List Char) :=
  let content := cs.takeWhile fun c => isPlain c && c ≠ '\''
  match cs.drop content.length with
  | '\'' :: rest => some (content, rest)
  | _ => none

/-- What follows a closing quote of three; up to two quotes before them belong to the string. -/
def afterClosing? (quote : Char) (cs : List Char) : Option (List Char) :=
  let quotes := (cs.takeWhile (· = quote)).length
  if 3 ≤ quotes then some (cs.drop (min quotes 5)) else none

/-- What follows the rest of a string of several lines in double quotes. -/
def skipLongBasic? : Nat → List Char → Option (List Char)
  | 0, _ => none
  | _ + 1, [] => none
  | fuel + 1, '"' :: cs =>
    match afterClosing? '"' ('"' :: cs) with
    | some rest => some rest
    | none => skipLongBasic? fuel cs
  | fuel + 1, '\\' :: cs =>
    match lineEnd? (skipBlanks cs) with
    | some (c :: rest) => skipLongBasic? fuel (c :: rest)
    | _ =>
      match escape? cs with
      | some (_, rest) => skipLongBasic? fuel rest
      | none => none
  | fuel + 1, '\n' :: cs => skipLongBasic? fuel cs
  | fuel + 1, '\r' :: '\n' :: cs => skipLongBasic? fuel cs
  | fuel + 1, c :: cs => if isPlain c then skipLongBasic? fuel cs else none

/-- What follows the rest of a string of several lines in single quotes. -/
def skipLongLiteral? : Nat → List Char → Option (List Char)
  | 0, _ => none
  | _ + 1, [] => none
  | fuel + 1, '\'' :: cs =>
    match afterClosing? '\'' ('\'' :: cs) with
    | some rest => some rest
    | none => skipLongLiteral? fuel cs
  | fuel + 1, '\n' :: cs => skipLongLiteral? fuel cs
  | fuel + 1, '\r' :: '\n' :: cs => skipLongLiteral? fuel cs
  | fuel + 1, c :: cs => if isPlain c then skipLongLiteral? fuel cs else none

/-! ### Keys -/

/-- A character of a key without quotes. -/
def isBare (c : Char) : Bool := c.isAlphanum || c = '_' || c = '-'

/-- One part of a key, and the rest. -/
def keyPart? : List Char → Option (String × List Char)
  | '"' :: cs => (basicString? (cs.length + 1) cs).map fun (key, rest) => (String.ofList key, rest)
  | '\'' :: cs => (literalString? cs).map fun (key, rest) => (String.ofList key, rest)
  | cs =>
    let key := cs.takeWhile isBare
    if key.isEmpty then none else some (String.ofList key, cs.drop key.length)

/-- A key of at most `fuel` parts with dots between them, and the rest after blanks. -/
def keysUpTo? : Nat → List Char → Option (List String × List Char)
  | 0, _ => none
  | fuel + 1, cs => do
    let (key, cs) ← keyPart? (skipBlanks cs)
    match skipBlanks cs with
    | '.' :: cs =>
      let (keys, cs) ← keysUpTo? fuel cs
      return (key :: keys, cs)
    | cs => return ([key], cs)

/-- A key, and the rest after blanks. -/
def keys? (cs : List Char) : Option (List String × List Char) := keysUpTo? (cs.length + 1) cs

/-! ### Values -/

/-- A character of an unquoted value. -/
def isWordChar (c : Char) : Bool :=
  c.isAlphanum || c = '_' || c = '+' || c = '-' || c = '.' || c = ':'

/-- An unquoted value, and the rest.  A date takes the time after a blank along. -/
def word? (cs : List Char) : Option (TomlValue × List Char) :=
  let first := cs.takeWhile isWordChar
  let rest := cs.drop first.length
  let word :=
    match rest with
    | ' ' :: c :: later =>
      if c.isDigit && TomlValue.isDate first then first ++ ' ' :: (c :: later).takeWhile isWordChar
      else first
    | _ => first
  (TomlValue.ofWord? word).map fun value => (value, cs.drop word.length)

mutual

/-- A value of at most `fuel` parts, and the rest. -/
def valueUpTo? : Nat → List Char → Option (TomlValue × List Char)
  | 0, _ => none
  | _ + 1, '"' :: '"' :: '"' :: cs =>
    (skipLongBasic? (cs.length + 1) cs).map fun rest => (.other, rest)
  | _ + 1, '\'' :: '\'' :: '\'' :: cs =>
    (skipLongLiteral? (cs.length + 1) cs).map fun rest => (.other, rest)
  | _ + 1, '"' :: cs =>
    (basicString? (cs.length + 1) cs).map fun (_, rest) => (.other, rest)
  | _ + 1, '\'' :: cs => (literalString? cs).map fun (_, rest) => (.other, rest)
  | fuel + 1, '[' :: cs => (afterArray? fuel cs).map fun rest => (.other, rest)
  | fuel + 1, '\x7b' :: cs =>
    match skipBlanks cs with
    | '\x7d' :: rest => some (.other, rest)
    | rest => (afterInlineTable? fuel [] rest).map fun rest => (.other, rest)
  | _ + 1, cs => word? cs

/-- What follows the rest of an array. -/
def afterArray? : Nat → List Char → Option (List Char)
  | 0, _ => none
  | fuel + 1, cs =>
    match skipSpace cs with
    | ']' :: rest => some rest
    | cs =>
      match valueUpTo? fuel cs with
      | none => none
      | some (_, cs) =>
        match skipSpace cs with
        | ',' :: rest => afterArray? fuel rest
        | ']' :: rest => some rest
        | _ => none

/-- What follows the rest of an inline table that has some members already. -/
def afterInlineTable? : Nat → TomlTable → List Char → Option (List Char)
  | 0, _, _ => none
  | fuel + 1, table, cs =>
    match keys? cs with
    | some (path, '=' :: cs) =>
      match valueUpTo? fuel (skipBlanks cs) with
      | none => none
      | some (value, cs) =>
        match TomlTable.assign value path table with
        | none => none
        | some table =>
          match skipBlanks cs with
          | ',' :: rest => afterInlineTable? fuel table rest
          | '\x7d' :: rest => some rest
          | _ => none
    | _ => none

end

/-- A value, and the rest. -/
def value? (cs : List Char) : Option (TomlValue × List Char) := valueUpTo? (cs.length + 1) cs

/-! ### Lines -/

/-- A header after its opening brackets, up to its closing ones. -/
def header? (closing : List Char) (cs : List Char) : Option (List String × List Char) := do
  let (path, cs) ← keys? cs
  if cs.take closing.length = closing then some (path, cs.drop closing.length) else none

/-- What a line says, if anything, and the rest after the line. -/
def line? (cs : List Char) : Option (Option TomlLine × List Char) :=
  match skipBlanks cs with
  | [] => some (none, [])
  | '\n' :: rest => some (none, rest)
  | '\r' :: rest => (lineEnd? ('\r' :: rest)).map fun rest => (none, rest)
  | '#' :: rest => (endOfLine? ('#' :: rest)).map fun rest => (none, rest)
  | '[' :: '[' :: rest => do
    let (path, rest) ← header? [']', ']'] rest
    let rest ← endOfLine? rest
    return (some (.item path), rest)
  | '[' :: rest => do
    let (path, rest) ← header? [']'] rest
    let rest ← endOfLine? rest
    return (some (.table path), rest)
  | cs => do
    let (path, rest) ← keys? cs
    let rest ← TomlValue.after? '=' rest
    let (value, rest) ← value? (skipBlanks rest)
    let rest ← endOfLine? rest
    return (some (.entry path value), rest)

end TomlReader

end DocQuery
