import DocQuery.Unicode.Property

/-!
Texts as diagnostics show them: in quotes, with everything escaped that would not show as a
character of its own.

* `Diagnostic.quote`: a text in quotes;
* `Diagnostic.optional`: a number that may be absent;
* `Diagnostic.isShown`: the characters that are shown as they are.
-/

namespace DocQuery.Diagnostic

open Unicode

/-- Characters without a visible shape: controls, formats, unassigned ones and separators. -/
def invisible : CodePointSet :=
  (Category.ofNames ["Cc", "Cf", "Co", "Zl", "Zp", "Zs"]).union Category.unassigned

/-- A character that is shown as it is: visible, or a plain blank, and not joined to the one before
it. -/
def isShown (c : Char) : Bool :=
  c = ' ' || !(invisible.contains c || Property.graphemeExtend.contains c)

/-- The characters that stand for one character. -/
def quoteChar (c : Char) : List Char :=
  match c with
  | '\x00' => ['\\', '0']
  | '\t' => ['\\', 't']
  | '\r' => ['\\', 'r']
  | '\n' => ['\\', 'n']
  | '"' => ['\\', '"']
  | '\\' => ['\\', '\\']
  | c =>
    if isShown c then [c] else ['\\', 'u', '\x7b'] ++ Nat.toDigits 16 c.toNat ++ ['\x7d']

/-- A text in quotes. -/
def quote (text : String) : String :=
  String.ofList ('"' :: text.toList.flatMap quoteChar ++ ['"'])

/-- A number that may be absent. -/
def optional : Option Nat → String
  | some n => s!"Some({n})"
  | none => "None"

end DocQuery.Diagnostic
