/-!
# The status of a service

A service is created, started and closed. Its status is one cell that several threads share, and
every change is a compare-and-swap: the status is replaced only if it is the expected one, and what
was found otherwise is the answer.
-/

namespace Clamd.Service

/-- Where a service stands. -/
inductive Status where
  /-- It has not been started. -/
  | created
  /-- It has been started and its worker has not begun. -/
  | initialising
  /-- Its worker is at work. -/
  | running
  /-- It has been closed, for good. -/
  | closed
  deriving DecidableEq, Repr

namespace Status

/-- The name of a status. -/
def name : Status → String
  | created => "CREATED"
  | initialising => "INITIALISING"
  | running => "RUNNING"
  | closed => "CLOSED"

/-- A compare-and-swap: `new` replaces `s` if `s` is the expected status. The answer of a failed
swap is what it found. -/
def swap (s expected new : Status) : Except Status Unit × Status :=
  if s = expected then (.ok (), new) else (.error s, s)

@[simp] theorem swap_self (s new : Status) : s.swap s new = (.ok (), new) := by
  simp [swap]

theorem swap_of_ne {s expected : Status} (new : Status) (h : s ≠ expected) :
    s.swap expected new = (.error s, s) := by
  simp [swap, h]

end Status

end Clamd.Service
