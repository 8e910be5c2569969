import DocQuery.Toml.Reader

/-!
TOML texts.

* `Toml.read`: the table that a text denotes, or none if the text is not valid.
-/

namespace DocQuery.Toml

/-- Takes one line in: the table so far and the header that is in force. -/
def takeLine (table : TomlTable) (header : List String) :
    TomlLine → Option (TomlTable × List String)
  | .table path => (TomlTable.openTable path table).map fun table => (table, path)
  | .item path => (TomlTable.openItem path table).map fun table => (table, path)
  | .entry path value =>
    (TomlTable.within (TomlTable.assign value path) header table).map fun table => (table, header)

/-- Reads at most `fuel` lines. -/
def readLines : Nat → TomlTable → List String → List Char → Option TomlTable
  | 0, _, _, _ => none
  | _ + 1, table, _, [] => some table
  | fuel + 1, table, header, cs =>
    match TomlReader.line? cs with
    | none => none
    | some (none, rest) => readLines fuel table header rest
    | some (some line, rest) =>
      match takeLine table header line with
      | none => none
      | some (table, header) => readLines fuel table header rest

/-- The characters of a text without a byte order mark in front. -/
def withoutMark (text : String) : List Char :=
  match text.toList with
  | '\uFEFF' :: cs => cs
  | cs => cs

/-- The table that a text denotes. -/
def read (text : String) : Option TomlTable :=
  let cs := withoutMark text
  readLines (cs.length + 1) [] [] cs

end DocQuery.Toml
