import Clamd.Rota.Folders
import Clamd.Rota.Scripted
import Clamd.Service
import Clamd.Watch.Surroundings

/-!
# Rehearsals of a watcher

A rehearsal runs the worker of one service in made-up surroundings and keeps a log of what happens.
Its clock jumps over pauses. The service is closed when the log has grown to a planned length: at
once, by the very call that wrote the last entry, or from outside, while the worker is in a pause.
-/

namespace Clamd.Watch

/-- The rota of a rehearsal. -/
inductive Roster where
  /-- A scripted rota, whose calls are logged too. -/
  | scripted (rota : ScriptedRota)
  /-- A rota over the folders of a tree of files. -/
  | folders (rota : FolderRota)

/-- How a rehearsal begins. -/
inductive Opening where
  /-- The service is started, and its hook sets the worker to work. -/
  | start
  /-- The worker is set to work by the hook alone, without a start. -/
  | hookOnly
  /-- The service is started with an empty hook and closed, and then the hook sets the worker to
  work. -/
  | hookAfterClose
  deriving DecidableEq, Repr

/-- What is planned for a rehearsal. -/
structure Plan where
  /-- The name of the service. -/
  name : String
  /-- The pauses of the worker. -/
  pauses : Pauses := {}
  /-- How the rehearsal begins. -/
  opening : Opening := .start
  /-- The length of the log at which the service is closed at once. -/
  closeAt : Option Nat := none
  /-- The length of the log from which on the service is closed during a pause. -/
  closeInPause : Option Nat := none
  /-- Whether troubles are listened to. -/
  hearsTrouble : Bool := true
  /-- Whether the goodbye is listened to. -/
  hearsGoodbye : Bool := true
  /-- Changes to the files while a folder is announced, by the number of the announcement. -/
  changes : List (Nat × List FileTree.Change) := []
  /-- Whether the service is closed once more at the end. -/
  closesAgain : Bool := false

/-- What a call from outside came to. -/
inductive Reaction where
  | start (result : Except Service.Failure Unit)
  | close (result : Except Service.Failure Unit)
  | hook
  | await (complete : Bool)
  | status (status : Service.Status)

/-- How far a rehearsal has come. -/
structure Rehearsal where
  /-- What is planned. -/
  plan : Plan
  /-- The service. -/
  service : Service
  /-- The rota. -/
  roster : Roster
  /-- The files. -/
  files : FileTree := {}
  /-- The clock. -/
  now : Instant := {}
  /-- How many folders have been announced. -/
  announced : Nat := 0
  /-- What has happened. -/
  log : Array String := #[]
  /-- The calls from outside. -/
  reactions : Array Reaction := #[]

namespace Rehearsal

/-- Adds an entry to the log, and closes the service if that was planned for this length. -/
def note (entry : String) (r : Rehearsal) : Rehearsal :=
  let r := { r with log := r.log.push entry }
  if r.plan.closeAt == some r.log.size then { r with service := (r.service.perform .close).2 }
  else r

/-- The text of an answer in the log. -/
def showOutcome {α : Type} (text : α → String) : Outcome α → String
  | .returned value => text value
  | .panicked => "panic"

/-- The text of a truth value. -/
def showBool (b : Bool) : String := if b then "true" else "false"

/-- Marks the service as running. -/
def enter : StateM Rehearsal Bool := fun r =>
  let (running, service) := r.service.markRunning
  (running, { r with service })

/-- Reckons with the clock of the rehearsal. -/
def reckon (span : Span) : StateM Rehearsal (Option Instant) := fun r =>
  (r.now.after? span, r)

/-- Whether the service is now to be closed from outside. -/
def isDueInPause (r : Rehearsal) : Bool :=
  match r.plan.closeInPause with
  | none => false
  | some n => n ≤ r.log.size && r.service.isRunning

/-- Lets time go by up to the deadline, or closes the service if that is due. -/
def wait (deadline : Instant) : StateM Rehearsal Bool := fun r =>
  if deadline.nanos ≤ r.now.nanos then (true, r)
  else if r.isDueInPause then
    let (result, service) := r.service.perform .close
    (false, { r with service, reactions := r.reactions.push (.close result) })
  else (false, { r with now := deadline })

/-- Lets the rota look at the root. -/
def refresh : StateM Rehearsal (Outcome (Except Fault Unit)) := fun r =>
  match r.roster with
  | .scripted rota =>
    let (result, rota) := rota.refresh
    (result, { r with roster := .scripted rota }.note "refresh")
  | .folders rota =>
    let (result, rota) := rota.refreshIn r.files
    (.returned result, { r with roster := .folders rota })

/-- Asks whether the rota is empty. -/
def isEmpty : StateM Rehearsal (Outcome Bool) := fun r =>
  match r.roster with
  | .scripted rota =>
    let (result, rota) := rota.isEmpty
    (result, { r with roster := .scripted rota }.note ("is_empty:" ++ showOutcome showBool result))
  | .folders rota => (.returned rota.rota.isEmpty, r)

/-- Asks whether the round is over. -/
def isLast : StateM Rehearsal (Outcome Bool) := fun r =>
  match r.roster with
  | .scripted rota =>
    let (result, rota) := rota.isLast
    (result, { r with roster := .scripted rota }.note ("is_last:" ++ showOutcome showBool result))
  | .folders rota => (.returned rota.rota.isLast, r)

/-- Lets the rota give out a folder. -/
def next : StateM Rehearsal (Outcome (Option String)) := fun r =>
  match r.roster with
  | .scripted rota =>
    let (result, rota) := rota.next
    let text := showOutcome (fun name : Option String => name.getD "none") result
    (result, { r with roster := .scripted rota }.note ("next_dir:" ++ text))
  | .folders rota =>
    let (name, rota, files) := rota.nextIn r.files
    (.returned name, { r with roster := .folders rota, files })

/-- Announces a folder: first the changes planned for it are made. -/
def announce (folder : String) : StateM Rehearsal Unit := fun r =>
  let announced := r.announced + 1
  let changes := (r.plan.changes.find? (·.1 == announced)).map (·.2)
  let files := r.files.applyAll (changes.getD [])
  ((), { r with announced, files }.note ("scan:" ++ folder))

/-- Reports a trouble. -/
def report (trouble : Trouble) : StateM Rehearsal Unit := fun r =>
  if r.plan.hearsTrouble then
    ((), r.note ("error:" ++ r.service.name ++ ":" ++ trouble.message))
  else ((), r)

/-- Takes notice that the worker is done. -/
def goodbye : StateM Rehearsal Unit := fun r =>
  if r.plan.hearsGoodbye then ((), r.note ("terminated:" ++ r.service.name)) else ((), r)

/-- The surroundings of a rehearsed worker. -/
def surroundings : Surroundings String (StateM Rehearsal) where
  enter := enter
  isRunning := fun r => (r.service.isRunning, r)
  reckon := reckon
  wait := wait
  refresh := refresh
  isEmpty := isEmpty
  next := next
  isLast := isLast
  announce := announce
  report := report
  goodbye := goodbye

/-- A bound on the moves of a rehearsed worker: a round of its loop takes no more than twenty, and
adds to the log. -/
def moveLimit (plan : Plan) : Nat :=
  20 * (plan.closeAt.getD 0 + plan.closeInPause.getD 0 + 10)

/-- Adds what a call from outside came to. -/
def react (r : Rehearsal) (reaction : Reaction) : Rehearsal :=
  { r with reactions := r.reactions.push reaction }

/-- Runs the worker, and tells whether it has ended. -/
def runWorker (r : Rehearsal) : Bool × Rehearsal :=
  let (point, r) := (Point.run surroundings r.plan.pauses (moveLimit r.plan) .entering).run r
  (point.isFinal, r)

/-- Starts or closes the service from outside. -/
def operate (r : Rehearsal) (operation : Service.Operation) : Rehearsal :=
  let (result, service) := r.service.perform operation
  let r := { r with service }
  match operation with
  | .start => r.react (.start result)
  | .close => r.react (.close result)

/-- Opens the rehearsal, up to where the worker is set to work. -/
def begin (r : Rehearsal) : Rehearsal :=
  match r.plan.opening with
  | .start => r.operate .start
  | .hookOnly => r.react .hook
  | .hookAfterClose => ((r.operate .start).operate .close).react .hook

/-- Carries out the rehearsal: the worker runs, and then the service is asked for its status and
started once more. -/
def perform (r : Rehearsal) : Rehearsal :=
  let (complete, r) := r.begin.runWorker
  let r := (r.react (.await complete)).react (.status r.service.status)
  let r := r.operate .start
  if r.plan.closesAgain then r.operate .close else r

end Rehearsal

end Clamd.Watch
