import Clamd.Program.Platform
import Clamd.Rota.Folders
import Clamd.Service
import Clamd.Watch.Surroundings

/-!
# Watching

A vigil is a watch that goes on: the worker scans one folder of a root after another and prints what
is found. The service of the worker is closed when the time of the vigil is over, if it has an end.

* `Vigil.step` is one move of the worker, or the end of the program.

A scan that fails is passed over. A pause whose end the clock cannot show is a programming error
that ends the program at once.
-/

namespace Clamd.Program

/-- A watch that goes on. -/
structure Vigil where
  /-- How to reach the daemon. -/
  settings : Settings
  /-- How folders are scanned. -/
  mode : ScanMode
  /-- The pauses of the worker. -/
  pauses : Watch.Pauses
  /-- The folders. -/
  rota : FolderRota
  /-- The service of the worker. -/
  service : Service := { name := "watch" }
  /-- When the service is to be closed. -/
  limit : Option Instant := none
  /-- Where the worker stands. -/
  point : Watch.Point String := .entering

/-- How far a run of the program has come. -/
inductive Progress where
  | exited (status : ExitStatus)
  | watching (vigil : Vigil)

namespace Vigil

variable {m : Type → Type} [Monad m]

/-- Marks the service as running. -/
def enter : StateT Vigil m Bool := do
  let v ← get
  let (running, service) := v.service.markRunning
  set { v with service }
  return running

/-- Tells whether a deadline is reached, and sleeps for a while if it is not. -/
def wait (on : Platform m) (deadline : Instant) : StateT Vigil m Bool := do
  if deadline.nanos ≤ (← on.now).nanos then return true
  on.sleep deadline
  return false

/-- Lets the rota look at the root. -/
def refresh (on : Platform m) : StateT Vigil m (Outcome (Except Fault Unit)) := do
  let v ← get
  let (result, rota) := v.rota.refresh (← on.folders v.rota.root)
  set { v with rota }
  return .returned result

/-- Lets the rota give out a folder, and keeps its name in the state file. -/
def next (on : Platform m) : StateT Vigil m (Outcome (Option String)) := do
  let v ← get
  let (name, rota) := v.rota.next
  set { v with rota }
  match rota.saving name with
  | some (path, content) => on.writeFile path content
  | none => pure ()
  return .returned name

/-- Scans a folder and prints what is found. -/
def announce (on : Platform m) (folder : String) : StateT Vigil m Unit := do
  let v ← get
  let path := v.rota.path folder
  let answer ← on.call v.settings fun net s => v.settings.client.scan net v.mode path s
  match answer with
  | .ok verdict => verdict.findings.forM fun line => on.print line
  | .error _ => pure ()

/-- Reports a trouble. -/
def report (on : Platform m) (trouble : Watch.Trouble) : StateT Vigil m Unit := do
  on.complain ((← get).service.name ++ ": " ++ trouble.message)

/-- What the worker finds around it. -/
def surroundings (on : Platform m) : Watch.Surroundings String (StateT Vigil m) where
  enter := enter
  isRunning := return (← get).service.isRunning
  reckon span := return (← on.now).after? span
  wait := wait on
  refresh := refresh on
  isEmpty := return .returned (← get).rota.rota.isEmpty
  next := next on
  isLast := return .returned (← get).rota.rota.isLast
  announce := announce on
  report := report on
  goodbye := pure ()

/-- Closes the service if its time is over. -/
def closeIfDue (now : Instant) (v : Vigil) : Vigil :=
  match v.limit with
  | none => v
  | some limit =>
    if limit.nanos ≤ now.nanos then
      { v with service := (v.service.perform .close).2, limit := none }
    else v

/-- One move of the worker, or the end of the program. -/
def step (on : Platform m) (v : Vigil) : m Progress := do
  let now ← on.now
  let v := v.closeIfDue now
  match v.point, v.point.move v.pauses with
  | .ended, _ => return .exited .success
  | .crashed, _ => return .exited .failure
  | _, .reckon span go =>
    match now.after? span with
    | none => return .exited .failure
    | some deadline => return .watching { v with point := go (some deadline) }
  | point, _ => do
    let (point, v) ← (point.step (surroundings on) v.pauses).run v
    return .watching { v with point }

/-- Begins a vigil: looks whether the daemon can be reached, reads the state file and starts the
service. -/
def begin (on : Platform m) (settings : Settings) (mode : ScanMode) (pauses : Watch.Pauses)
    (root : String) (stateFile : Option String) (runFor : Option Nat) : m Vigil := do
  let _ ← on.call settings settings.client.isReachable
  let state ← match stateFile with
    | none => pure none
    | some path => pure (some (path, ← on.readFile path))
  let now ← on.now
  let v : Vigil :=
    { settings, mode, pauses
      rota := .resume root state
      limit := runFor.bind fun seconds => now.after? (.ofSeconds seconds) }
  return { v with service := (v.service.perform .start).2 }

end Vigil

end Clamd.Program
