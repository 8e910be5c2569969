import DocQuery.Fields
import DocQuery.Toml.Scalar

/-!
The tables of a TOML text.  A table is opened by a header, by dotted keys, or because it holds a
table that a header opens, and this decides what may be added to it later: a header opens a table
once only, and dotted keys add only to tables that dotted keys have opened.

* `TomlTable.openTable` and `TomlTable.openItem`: what a header does;
* `TomlTable.assign`: what a key with a value does.
-/

namespace DocQuery

/-- What has opened a table. -/
inductive TableOrigin where
  | header
  | dottedKey
  /-- A table inside it. -/
  | inner
deriving DecidableEq

/-- What stands under a key. -/
inductive TomlNode where
  | value (value : TomlValue)
  | table (origin : TableOrigin) (members : List (String × TomlNode))
  /-- An array of tables, of which only the last one can still change. -/
  | tables (last : List (String × TomlNode))

/-- A table. -/
abbrev TomlTable := Fields TomlNode

namespace TomlTable

/-- Changes what stands under a path of headers, which may lead through the last items of arrays;
tables on the way are opened. -/
def within (change : TomlTable → Option TomlTable) : List String → TomlTable → Option TomlTable
  | [], table => change table
  | key :: rest, table =>
    match table.get? key with
    | none => (within change rest []).map fun inner => table.insert key (.table .inner inner)
    | some (.table origin members) =>
      (within change rest members).map fun inner => table.insert key (.table origin inner)
    | some (.tables last) =>
      (within change rest last).map fun inner => table.insert key (.tables inner)
    | some (.value _) => none

/-- Opens a table by a header. -/
def openKey (key : String) (table : TomlTable) : Option TomlTable :=
  match table.get? key with
  | none => some (table.insert key (.table .header []))
  | some (.table .inner members) => some (table.insert key (.table .header members))
  | some _ => none

/-- Opens the next item of an array of tables by a header. -/
def openItemKey (key : String) (table : TomlTable) : Option TomlTable :=
  match table.get? key with
  | none => some (table.insert key (.tables []))
  | some (.tables _) => some (table.insert key (.tables []))
  | some _ => none

/-- Opens the table of a header. -/
def openTable (path : List String) (table : TomlTable) : Option TomlTable :=
  match path.getLast? with
  | some key => within (openKey key) path.dropLast table
  | none => none

/-- Opens the next item of the array of tables of a header. -/
def openItem (path : List String) (table : TomlTable) : Option TomlTable :=
  match path.getLast? with
  | some key => within (openItemKey key) path.dropLast table
  | none => none

/-- Gives a dotted key a value, which it must not have yet. -/
def assign (value : TomlValue) : List String → TomlTable → Option TomlTable
  | [], _ => none
  | [key], table => if table.contains key then none else some (table.insert key (.value value))
  | key :: next :: rest, table =>
    match table.get? key with
    | none =>
      (assign value (next :: rest) []).map fun inner => table.insert key (.table .dottedKey inner)
    | some (.table .dottedKey members) =>
      (assign value (next :: rest) members).map fun inner =>
        table.insert key (.table .dottedKey inner)
    | some _ => none

end TomlTable

end DocQuery
