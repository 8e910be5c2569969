import DocQuery.Regex.Matcher
import DocQuery.Regex.Size

/-!
Regular expressions.  They are searched for: a match may lie anywhere in a text.

* `Regex.ofText`: the regular expression that a text denotes, or what is wrong with it;
* `Regex.isMatch`: whether there is a match in a text.
-/

namespace DocQuery

/-- A regular expression with its text. -/
structure Regex where
  source : String
  pattern : Regex.Pattern

namespace Regex

/-- The message for a pattern whose automaton is too large. -/
def tooLarge : String :=
  s!"Compiled regex exceeds size limit of {Pattern.sizeLimit} bytes."

/-- The regular expression that a text denotes. -/
def ofText (source : String) : Except String Regex :=
  match Ast.ofText source >>= Pattern.ofAst with
  | .error failure => .error (failure.message source)
  | .ok pattern => if pattern.isSmall then .ok ⟨source, pattern⟩ else .error tooLarge

/-- Whether a text contains a match. -/
def isMatch (regex : Regex) (text : String) : Bool := regex.pattern.isMatch text

end Regex

end DocQuery
