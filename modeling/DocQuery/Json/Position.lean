/-!
Positions in a text of bytes: lines are counted from 1 and end with a newline; columns count the
bytes of a line.

* `Position.ofIndex`: the line and column that are reached after a number of bytes;
* `Position.byteOffset`: the index of the byte at a line and column, at most the length of the
  text.
-/

namespace DocQuery

/-- A line and a column. -/
structure Position where
  line : Nat
  column : Nat
deriving DecidableEq

namespace Position

/-- The byte that ends a line. -/
def newline : UInt8 := 10

/-- The position after the first `index` bytes: one line more than there are newlines among them,
and as many columns as there are bytes after the last newline. -/
def ofIndex (raw : List UInt8) (index : Nat) : Position where
  line := (raw.take index).count newline + 1
  column := ((raw.take index).reverse.takeWhile (· ≠ newline)).length

/-- The index of the first byte of a line, where the lines before it are `skipped` many; none if
there are not so many lines. -/
def lineStart? : List UInt8 → Nat → Option Nat
  | _, 0 => some 0
  | [], _ + 1 => none
  | b :: rest, skipped + 1 =>
    (lineStart? rest (if b = newline then skipped else skipped + 1)).map (· + 1)

/-- The index of the byte at a position.  Line 0 stands for no position and gives 0; a line that
does not exist gives the length of the text. -/
def byteOffset (raw : List UInt8) (position : Position) : Nat :=
  if position.line = 0 then 0
  else
    match lineStart? raw (position.line - 1) with
    | some start => min (start + (position.column - 1)) raw.length
    | none => raw.length

end Position

end DocQuery
