/-!
# Calls that may panic
-/

namespace Clamd

/-- What a call came to: it returned, or it panicked. -/
inductive Outcome (α : Type) where
  | returned (value : α)
  | panicked
  deriving DecidableEq, Repr

end Clamd
