import Clamd.Program
import Clamd.FileTree.Change

/-!
# Rehearsals of the program

A made-up world to run the program in: files are a tree, the network is given, and the clock goes on
by a millisecond with each look at it, and jumps to the end of each sleep.
-/

namespace Clamd.Program

/-- A made-up world. -/
structure World where
  /-- What connections meet. -/
  network : Network
  /-- The history of the program's connections. -/
  session : Session := {}
  /-- The files. -/
  files : FileTree := {}
  /-- The user's home folder. -/
  home : Option String := none
  /-- Standard input. -/
  input : ByteArray := .empty
  /-- The clock, which has been going for a day. -/
  now : Instant := { nanos := 86400 * 1000000000 }
  /-- The lines on standard output. -/
  output : Array String := #[]
  /-- The lines on standard error. -/
  errors : Array String := #[]

namespace World

/-- A source that gives what was opened: the bytes of a file. Reading a folder fails. -/
def source : Option ByteArray → Source
  | some bytes => { bytes }
  | none => { bytes := .empty, ending := some (.system .isADirectory) }

/-- What time it is, which takes a millisecond to find out. -/
def look : StateM World Instant := fun w =>
  (w.now, { w with now := { nanos := w.now.nanos + 1000000 } })

/-- The platform of a made-up world. -/
def platform : Platform (StateM World) where
  call _ f := fun w =>
    let (answer, session) := f w.network w.session
    (answer, { w with session })
  home := return (← get).home
  isFile path := return (← get).files.isFile path
  readFile path := return (← get).files.read path
  openFile path := return ((← get).files.open? path).map source
  writeFile path content :=
    modify fun w => { w with files := w.files.applyAll [.write path content] }
  folders path := return (← get).files.folders path
  input := return (← get).input
  print line := modify fun w => { w with output := w.output.push line }
  printError line := modify fun w => { w with errors := w.errors.push line }
  now := look
  sleep deadline := modify fun w => { w with now := { nanos := max w.now.nanos deadline.nanos } }

/-- Goes on with a run until it exits, for at most `fuel` moves. -/
def finish : Nat → Progress → StateM World Progress
  | 0, progress => pure progress
  | fuel + 1, progress =>
    match progress with
    | .exited status => pure (.exited status)
    | .watching _ => do finish fuel (← resume platform progress)

/-- The greatest number of moves in a rehearsal. -/
def moveLimit : Nat := 1000000

/-- Runs the program. A run that does not end in time comes to no status. -/
def run (invocation : CommandLine.Invocation) (w : World) : Option ExitStatus × World :=
  match (do finish moveLimit (← start platform invocation)).run w with
  | (.exited status, w) => (some status, w)
  | (.watching _, w) => (none, w)

end World

end Clamd.Program
