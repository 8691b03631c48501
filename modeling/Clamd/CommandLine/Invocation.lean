import Clamd.CommandLine.Reading
import Clamd.Settings.Load
import Clamd.Watch.Point

/-!
# Invocations

An invocation of the program is a task to carry out, with options that stand above the settings
file. `Invocation.ofArgs` reads it from the arguments and the environment.

The arguments before the verb are read first, but what is pending there is taken over only after
the task has been read.
-/

namespace Clamd.CommandLine

/-- What the program is to do. -/
inductive Task where
  | ping
  | version
  | commands
  | stats
  | reload
  | shutdown
  /-- Scan paths that the daemon can see. -/
  | scan (paths : List String) (mode : ScanMode) (json : Bool)
  /-- Upload a file, or what comes from standard input. -/
  | stream (file : Option String) (chunkSize : Option Nat) (json : Bool)
  /-- Scan the folders of a root over and over, for some seconds or without end. -/
  | watch (root : String) (mode : ScanMode) (pauses : Watch.Pauses) (stateFile : Option String)
      (runFor : Option Nat)
  deriving DecidableEq, Repr

/-- Options that stand above the settings file. -/
structure Overrides where
  /-- The settings file itself. -/
  config : Option String := none
  /-- The daemon's host. -/
  host : Option String := none
  /-- The daemon's port. -/
  port : Option Nat := none
  /-- How long to wait for a connection, in milliseconds. -/
  connectTimeoutMs : Option Nat := none
  /-- How long to wait for each read and write, in milliseconds. -/
  readTimeoutMs : Option Nat := none
  /-- How the daemon's host writes paths. -/
  pathStyle : Option PathStyle := none
  deriving DecidableEq, Repr

/-- An invocation of the program. -/
structure Invocation where
  /-- What stands above the settings file. -/
  overrides : Overrides
  /-- What to do. -/
  task : Task
  deriving DecidableEq, Repr

namespace Task

/-- The pauses of a watch, in whole seconds. -/
def pauses (given : Given) : Watch.Pauses :=
  let base : Watch.Pauses := {}
  let pause (seconds : Option Nat) (default : Span) := (seconds.map Span.ofSeconds).getD default
  { idle := pause (given.value? .idle) base.idle
    rollover := pause (given.value? .rollover) base.rollover
    backOff := pause (given.value? .backOff) base.backOff }

/-- The task of a verb with its options and operands. -/
def of (verb : Verb) (given : Given) (operands : List String) : Except UsageError Task :=
  let mode (default : ScanMode) := (given.value? .mode).getD default
  if verb.operands.lacks operands.length then .error (.missingOperand verb.operands.shown)
  else .ok (match verb with
    | .ping => ping
    | .version => version
    | .commands => commands
    | .stats => stats
    | .reload => reload
    | .shutdown => shutdown
    | .scan => scan operands (mode .onward) (given.has .json)
    | .stream => stream operands.head? (given.value? .chunkSize) (given.has .json)
    | .watch =>
      watch (operands.head?.getD "") (mode .pooled) (pauses given) (given.value? .stateFile)
        (given.value? .runFor))

/-- Reads the task of a verb from the arguments behind it. -/
def ofArgs (verb : Verb) (args : List String) : Except UsageError Task := do
  let r ← args.foldlM Reading.take { level := .behind verb }
  let r ← r.settle
  of verb r.given r.operands

end Task

namespace Overrides

/-- The options before the verb. -/
def ofGiven (given : Given) : Overrides :=
  { config := given.value? .config
    host := given.value? .host
    port := given.value? .port
    connectTimeoutMs := given.value? .connectTimeout
    readTimeoutMs := given.value? .readTimeout
    pathStyle := given.value? .separator }

/-- The settings with the options put above them. -/
def apply (o : Overrides) (s : Settings) : Settings :=
  { s with
    host := o.host.getD s.host
    port := o.port.getD s.port
    connectTimeoutMs := o.connectTimeoutMs.getD s.connectTimeoutMs
    readTimeoutMs := o.readTimeoutMs.getD s.readTimeoutMs
    pathStyle := o.pathStyle.getD s.pathStyle }

end Overrides

namespace Invocation

/-- The answer to the word `help` with the words behind it: at most one, which is a verb. -/
def helpOn : List String → UsageError
  | [] => .help .top
  | word :: rest =>
    match Verb.ofName? word, rest with
    | some verb, [] => .help (.behind verb)
    | some _, next :: _ => .unknownCommand next
    | none, _ =>
      if word == "help" then
        match rest with
        | [] => .help .top
        | next :: _ => .unknownCommand next
      else .unknownCommand word

/-- Reads the arguments up to a verb, and the task from those behind it. -/
def readArgs : Reading → List String → Except UsageError (Reading × Option Task)
  | r, [] => .ok (r, none)
  | r, arg :: args =>
    if r.literal || r.awaited?.isSome then do readArgs (← r.take arg) args
    else if arg == "help" then .error (helpOn args)
    else
      match Verb.ofName? arg with
      | some verb => do return (r, some (← Task.ofArgs verb args))
      | none => do readArgs (← r.take arg) args

/-- Reads an invocation. -/
def ofArgs (environment : String → Option String) (args : List String) :
    Except UsageError Invocation := do
  let (r, task) ← readArgs { level := .top } args
  let r ← (← r.settle).takeEnvironment environment
  match task with
  | some task => return { overrides := .ofGiven r.given, task }
  | none => .error (if r.given.isEmpty then .nothingGiven else .missingCommand)

end Invocation

end Clamd.CommandLine
