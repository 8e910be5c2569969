import DocQuery.Config
import DocQuery.Error

/-!
Cancellation: a query stops when its token is cancelled or its deadline has passed.  Nobody reads a
clock here.  A deadline is a token as well, which time cancels: between two calls, or while an item
is pulled from a scan.

* `Cancellations`: the tokens that are cancelled; none is ever taken back;
* `ExecOptions.refusal?`: why a query may not go on.
-/

namespace DocQuery

/-- A name by which queries are cancelled. -/
abbrev CancelToken := String

/-- The tokens that are cancelled. -/
structure Cancellations where
  tokens : List CancelToken
deriving DecidableEq

namespace Cancellations

/-- No token is cancelled. -/
def empty : Cancellations := ⟨[]⟩

/-- A token that is cancelled. -/
def contains (cancelled : Cancellations) (token : CancelToken) : Bool :=
  token ∈ cancelled.tokens

/-- Cancels a token. -/
def cancel (cancelled : Cancellations) (token : CancelToken) : Cancellations :=
  if cancelled.contains token then cancelled else ⟨token :: cancelled.tokens⟩

/-- Cancels a token if there is one. -/
def cancelAny (cancelled : Cancellations) : Option CancelToken → Cancellations
  | some token => cancelled.cancel token
  | none => cancelled

end Cancellations

/-- How a query is executed. -/
structure ExecOptions where
  token : Option CancelToken
  /-- The token that is cancelled when the deadline passes. -/
  deadline : Option CancelToken
  /-- Executions that take at least so many milliseconds are slow. -/
  slowQueryMs : Nat
deriving DecidableEq

namespace ExecOptions

/-- The options that a configuration stands for: nothing cancels. -/
def ofConfig (config : QueryConfig) : ExecOptions := ⟨none, none, config.slowQueryMs⟩

/-- The options of the standard configuration. -/
def standard : ExecOptions := ofConfig .standard

/-- Why an execution may not go on; a cancelled token comes before a deadline. -/
def refusal? (options : ExecOptions) (cancelled : Cancellations) : Option CancelReason :=
  if options.token.any cancelled.contains then some .cancelled
  else if options.deadline.any cancelled.contains then some .deadlineExceeded
  else none

end ExecOptions

end DocQuery
