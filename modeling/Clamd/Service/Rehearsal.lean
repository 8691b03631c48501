import Clamd.Clock
import Clamd.Service

/-!
# Rehearsals of a service

A rehearsal does scripted acts on one service, one after another, and keeps a trace of them. The
hooks of the service are scripted too: they do acts of their own before they end, so acts nest.
-/

namespace Clamd.Service

/-- What a rehearsed worker does after it has marked its service as running. -/
inductive Work where
  /-- It ends. -/
  | finish
  /-- It sleeps, again and again, until the service is not running. -/
  | untilClosed
  /-- It panics. -/
  | panic
  deriving DecidableEq, Repr

/-- An act of a rehearsal. -/
inductive Act where
  /-- Start or close the service; the hook, if it runs, does the acts `inside` and then fails with
  the text of `failing`, if there is one. -/
  | operate (operation : Operation) (inside : List Act) (failing : Option String)
  /-- Mark the service as running. -/
  | markRunning
  /-- Ask whether the service is running. -/
  | isRunning
  /-- Ask for the name of the service. -/
  | name
  /-- Sleep as a worker does. -/
  | sleep (span : Span)
  /-- Wait for the workers to end. -/
  | await (span : Span)
  /-- Set a worker to work. -/
  | spawn (work : Work)

instance : Inhabited Act := ⟨.name⟩

/-- What an act came to. -/
inductive Result where
  | outcome (result : Except Failure Unit)
  | flag (value : Bool)
  | name (value : String)
  | spawned (marked : Bool)

/-- An entry of the trace. -/
inductive Entry where
  /-- A hook began while the service had the given status. -/
  | hook (operation : Operation) (status : Status)
  /-- An act was done, which left the service with the given status. -/
  | did (act : Act) (result : Result) (status : Status)

/-- How far a rehearsal has come. -/
structure Rehearsal where
  /-- The service. -/
  service : Service
  /-- How many workers have set out to work until the service is closed. -/
  diligent : Nat := 0
  /-- What has happened. -/
  trace : List Entry := []

namespace Rehearsal

/-- Adds an act to the trace. -/
def record (r : Rehearsal) (act : Act) (result : Result) : Rehearsal :=
  { r with trace := r.trace ++ [Entry.did act result r.service.status] }

/-- Whether all workers have ended. -/
def isAtRest (r : Rehearsal) : Bool :=
  r.diligent == 0 || !r.service.isRunning

/-- Sets a worker to work. -/
def spawn (r : Rehearsal) (work : Work) : Bool × Rehearsal :=
  let (marked, service) := r.service.markRunning
  let diligent := if marked && work == .untilClosed then r.diligent + 1 else r.diligent
  (marked, { r with service, diligent })

mutual

/-- Does an act and adds it to the trace. -/
def perform (r : Rehearsal) : Act → Rehearsal
  | act@(.operate operation inside failing) =>
    match r.service.begin operation with
    | (.error failure, service) =>
      { r with service }.record act (.outcome (.error failure))
    | (.ok (), service) =>
      let r := { r with service, trace := r.trace ++ [Entry.hook operation service.status] }
      let r := r.performAll inside
      let outcome : Except String Unit := match failing with
        | none => .ok ()
        | some reason => .error reason
      let (result, service) := r.service.conclude operation outcome
      { r with service }.record act (.outcome result)
  | .markRunning =>
    let (running, service) := r.service.markRunning
    { r with service }.record .markRunning (.flag running)
  | .isRunning => r.record .isRunning (.flag r.service.isRunning)
  | .name => r.record .name (.name r.service.name)
  | .sleep span => r.record (.sleep span) (.flag r.service.isRunning)
  | .await span => r.record (.await span) (.flag r.isAtRest)
  | .spawn work =>
    let (marked, r) := r.spawn work
    r.record (.spawn work) (.spawned marked)

/-- Does one act after another. -/
def performAll (r : Rehearsal) : List Act → Rehearsal
  | [] => r
  | act :: acts => (r.perform act).performAll acts

end

end Rehearsal

end Clamd.Service
