import DocQuery.Error
import DocQuery.Value

/-!
Values from JSON texts.
-/

namespace DocQuery

/-- The value of a text, or the error of a text that is no JSON. -/
def Value.ofText (raw : List UInt8) : Except QueryError Value :=
  (Json.decode raw).map Value.ofJson

end DocQuery
