import DocQuery.Decimal
import DocQuery.Json

/-!
Writing JSON as compact text: no blanks, members in their order, and in strings an escape only
where one is needed.

* `Json.text`: the text of a tree;
* `Json.quote`: the text of a string.
-/

namespace DocQuery

/-- The text of a number: a whole number in digits, a double as its shortest decimal, and `null`
for a double that is no number. -/
def JsonNumber.text : JsonNumber → String
  | .int n => toString n
  | .double x =>
    if !x.isFinite then "null"
    else
      let body := if x.magnitude = 0 then "0.0" else (Decimal.ofBinary64 x).text Decimal.standard
      if x.negative then "-" ++ body else body

namespace Json

/-- A hexadecimal digit in lower case. -/
def hexDigit (n : Nat) : Char := Nat.digitChar n

/-- The characters that stand for one character inside quotes: quote, backslash and control
characters are escaped, nothing else is. -/
def quoteChar (c : Char) : List Char :=
  match c with
  | '"' => ['\\', '"']
  | '\\' => ['\\', '\\']
  | '\x08' => ['\\', 'b']
  | '\x0c' => ['\\', 'f']
  | '\n' => ['\\', 'n']
  | '\r' => ['\\', 'r']
  | '\t' => ['\\', 't']
  | c =>
    if c.toNat < 0x20 then
      ['\\', 'u', '0', '0', hexDigit (c.toNat / 16), hexDigit (c.toNat % 16)]
    else [c]

/-- A string in quotes. -/
def quote (s : String) : String :=
  String.ofList ('"' :: s.toList.flatMap quoteChar ++ ['"'])

mutual

/-- The text of a tree. -/
def text : Json → String
  | .null => "null"
  | .bool true => "true"
  | .bool false => "false"
  | .number n => n.text
  | .string s => quote s
  | .array items => "[" ++ ",".intercalate (itemTexts items) ++ "]"
  | .object members => "\x7b" ++ ",".intercalate (memberTexts members) ++ "\x7d"

/-- The texts of the items of an array, in order. -/
def itemTexts : List Json → List String
  | [] => []
  | t :: rest => text t :: itemTexts rest

/-- The texts of the members of an object, each a key and a tree. -/
def memberTexts : List (String × Json) → List String
  | [] => []
  | (k, t) :: rest => (quote k ++ ":" ++ text t) :: memberTexts rest

end

end Json

end DocQuery
