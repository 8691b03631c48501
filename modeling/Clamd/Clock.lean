import Clamd.Word

/-!
# Time

Spans of time, and readings of a clock that only goes forward.

* `Instant.after?` adds a span to a reading. The clock counts its seconds in 64 bits with a sign,
  so a span may be too long to be added.
-/

namespace Clamd

/-- A span of time. -/
structure Span where
  /-- Whole seconds. -/
  seconds : Nat := 0
  /-- Nanoseconds beyond the whole seconds. -/
  nanoseconds : Nat := 0
  deriving DecidableEq, Repr

namespace Span

/-- A span of whole seconds. -/
def ofSeconds (n : Nat) : Span := { seconds := n }

/-- A span of milliseconds. -/
def ofMillis (n : Nat) : Span := { seconds := n / 1000, nanoseconds := n % 1000 * 1000000 }

/-- The span in nanoseconds. -/
def inNanos (s : Span) : Nat := s.seconds * 1000000000 + s.nanoseconds

/-- The milliseconds of a span beyond its whole seconds. -/
def millisPart (s : Span) : Nat := s.nanoseconds / 1000000

/-- The whole milliseconds of a span, as an unsigned number of 64 bits: a longer span counts as the
greatest such number. -/
def inMillis (s : Span) : Nat :=
  min (s.seconds * 1000 + s.nanoseconds / 1000000) (Word.end64 - 1)

/-- Whether the span is empty, which stands for no limit where a timeout is meant. -/
def isZero (s : Span) : Bool := s.inNanos == 0

end Span

/-- A reading of the clock, in nanoseconds since it was started. -/
structure Instant where
  /-- Nanoseconds since the clock was started. -/
  nanos : Nat := 0
  deriving DecidableEq, Repr

namespace Instant

/-- The first number of nanoseconds that the clock cannot show: its seconds take 63 bits. -/
def horizon : Nat := Word.end63 * 1000000000

/-- The reading `span` later, if the clock can show it. -/
def after? (now : Instant) (span : Span) : Option Instant :=
  let nanos := now.nanos + span.inNanos
  if nanos < horizon then some { nanos } else none

end Instant

end Clamd
