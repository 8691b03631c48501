/-!
# Exit statuses

What the program tells its caller when it ends.
-/

namespace Clamd

/-- How a run of the program ends. -/
inductive ExitStatus where
  /-- All went well, and what was scanned is clean. -/
  | success
  /-- Something infected was found. -/
  | infected
  /-- Something went wrong. -/
  | failure
  deriving DecidableEq, Repr

/-- The number of a status. -/
def ExitStatus.code : ExitStatus → Nat
  | success => 0
  | infected => 1
  | failure => 2

end Clamd
