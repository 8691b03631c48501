import Clamd.Program.Report
import Clamd.Settings

/-!
# What the program runs on

The program meets the rest of the world in a few places: the network, files, the standard streams
and the clock. They are given as actions of a monad, so that one program runs in a rehearsal and in
the world.
-/

namespace Clamd.Program

/-- The world as the program meets it. -/
structure Platform (m : Type → Type) where
  /-- Lets a client with the given settings make calls. -/
  call : {α : Type} → Settings → (Network → Session → α × Session) → m α
  /-- The user's home folder. -/
  home : m (Option String)
  /-- Whether there is a file at a path. -/
  isFile : String → m Bool
  /-- The bytes of the file at a path. -/
  readFile : String → m (Except Fault ByteArray)
  /-- Opens what is at a path, to be read later. -/
  openFile : String → m (Except Fault Source)
  /-- Writes the file at a path, or does nothing if that is not possible. -/
  writeFile : String → ByteArray → m Unit
  /-- The names in the folder at a path that lead to folders. -/
  folders : String → m (Except Fault (List String))
  /-- All of standard input. -/
  input : m ByteArray
  /-- Writes a line to standard output. -/
  print : String → m Unit
  /-- Writes a line to standard error. -/
  printError : String → m Unit
  /-- Looks at the clock. -/
  now : m Instant
  /-- Sleeps for a while, at most up to the given time. -/
  sleep : Instant → m Unit

namespace Platform

variable {m : Type → Type} [Monad m]

/-- The name of the program. -/
def programName : String := "clamwire"

/-- Says on standard error that something went wrong. -/
def complain (on : Platform m) (message : String) : m Unit :=
  on.printError (programName ++ ": " ++ message)

/-- Shows a report. -/
def present (on : Platform m) (report : Report) : m ExitStatus := do
  report.output.forM on.print
  report.trouble.forM on.complain
  return report.status

end Platform

end Clamd.Program
