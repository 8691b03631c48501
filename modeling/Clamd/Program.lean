import Clamd.CommandLine.Invocation
import Clamd.Program.Vigil
import Clamd.Settings.Load

/-!
# The program

A run of the program carries out an invocation. All tasks but watching end with `Program.start`; a
watch goes on with `Program.resume` as long as it is asked to.
-/

namespace Clamd.Program

open CommandLine

variable {m : Type → Type} [Monad m]

/-- The default settings file, inside the home folder. -/
def settingsFile (home : String) : String :=
  [".config", "clamwire", "config.toml"].foldl Path.join home

/-- The path of the settings file. The one named by the user has to be there, the default one need
not. -/
def findSettings (on : Platform m) (overrides : Overrides) : m (Option String) := do
  match overrides.config with
  | some path => return some path
  | none =>
    match (← on.home).map settingsFile with
    | none => return none
    | some path => return if ← on.isFile path then some path else none

/-- The settings of a run: those of the settings file with the user's options above them. -/
def settings (on : Platform m) (overrides : Overrides) :
    m (Except Settings.LoadFailure Settings) := do
  match ← findSettings on overrides with
  | none => return .ok (overrides.apply {})
  | some path => return (Settings.load path (← on.readFile path)).map overrides.apply

/-- The size of the blocks in which standard input is kept. -/
def inputBlock : Nat := 8192

/-- Uploads a file, or what comes from standard input. -/
def upload (on : Platform m) (s : Settings) (file : Option String) (chunkSize : Option Nat)
    (json : Bool) : m Report := do
  let send (label : String) (source : Source) :=
    on.call s (stream s.client label { source, chunkSize := chunkSize.getD s.chunkSize } json)
  match file with
  | none => send "stream" { bytes := ← on.input, blockSize := inputBlock }
  | some path =>
    match ← on.openFile path with
    | .error fault => return .ofTrouble ("cannot open " ++ path ++ ": " ++ fault.message)
    | .ok source => send path source

/-- Carries out a task, or begins it. -/
def perform (on : Platform m) (s : Settings) (task : Task) : m Progress := do
  let done (report : m Report) : m Progress := return .exited (← on.present (← report))
  match task with
  | .ping => done (on.call s (ping s.client))
  | .version => done (on.call s (ask s.client .version id))
  | .commands => done (on.call s (ask s.client .commands "\n".intercalate))
  | .stats => done (on.call s (ask s.client .stats id))
  | .reload => done (on.call s (ask s.client .reload fun _ => "RELOADING"))
  | .shutdown => done (on.call s (ask s.client .shutdown fun _ => "shutdown requested"))
  | .scan paths mode json => done (on.call s (scan s.client mode paths json))
  | .stream file chunkSize json => done (upload on s file chunkSize json)
  | .watch root mode pauses stateFile runFor =>
    return .watching (← Vigil.begin on s mode pauses root stateFile runFor)

/-- Begins a run. -/
def start (on : Platform m) (invocation : Invocation) : m Progress := do
  match ← settings on invocation.overrides with
  | .error failure => return .exited (← on.present (.ofTrouble failure.message))
  | .ok s => perform on s invocation.task

/-- Goes on with a run. -/
def resume (on : Platform m) : Progress → m Progress
  | .exited status => pure (.exited status)
  | .watching vigil => vigil.step on

end Clamd.Program
