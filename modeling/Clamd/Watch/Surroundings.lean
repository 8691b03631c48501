import Clamd.Watch.Point

/-!
# What a worker finds around it

The surroundings answer the moves of a worker: a service, a clock, a rota and listeners. They are
given as actions of a monad, so one worker runs in a rehearsal, where time and folders are data, and
in the world.

A listener that panics is the surroundings' own affair: the worker goes on either way.
-/

namespace Clamd.Watch

/-- Answers to the moves of a worker. -/
structure Surroundings (Folder : Type) (m : Type → Type) where
  /-- Marks the service as running and tells whether it is running now. -/
  enter : m Bool
  /-- Tells whether the service is running. -/
  isRunning : m Bool
  /-- Reckons when a span that begins now will be over. -/
  reckon : Span → m (Option Instant)
  /-- Tells whether a deadline is reached, and otherwise lets some time go by. -/
  wait : Instant → m Bool
  /-- Lets the rota look at the root. -/
  refresh : m (Outcome (Except Fault Unit))
  /-- Asks whether the rota is empty. -/
  isEmpty : m (Outcome Bool)
  /-- Lets the rota give out a folder. -/
  next : m (Outcome (Option Folder))
  /-- Asks whether the folder given out last ends the round. -/
  isLast : m (Outcome Bool)
  /-- Announces a folder. -/
  announce : Folder → m Unit
  /-- Reports a trouble. -/
  report : Trouble → m Unit
  /-- Takes notice that the worker is done. -/
  goodbye : m Unit

namespace Point

variable {Folder : Type} {m : Type → Type} [Monad m]

/-- One move of a worker. -/
def step (on : Surroundings Folder m) (pauses : Pauses) (point : Point Folder) :
    m (Point Folder) :=
  match point.move pauses with
  | .enter go => do return go (← on.enter)
  | .check go => do return go (← on.isRunning)
  | .reckon span go => do return go (← on.reckon span)
  | .wait deadline go => do return go (← on.wait deadline)
  | .refresh go => do return go (← on.refresh)
  | .isEmpty go => do return go (← on.isEmpty)
  | .next go => do return go (← on.next)
  | .isLast go => do return go (← on.isLast)
  | .announce folder next => do on.announce folder; return next
  | .report trouble next => do on.report trouble; return next
  | .goodbye next => do on.goodbye; return next
  | .rest => pure point

/-- At most `fuel` moves of a worker. -/
def run (on : Surroundings Folder m) (pauses : Pauses) : Nat → Point Folder → m (Point Folder)
  | 0, point => pure point
  | fuel + 1, point =>
    if point.isFinal then pure point
    else do run on pauses fuel (← point.step on pauses)

end Point

end Clamd.Watch
