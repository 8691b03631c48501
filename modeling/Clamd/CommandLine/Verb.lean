import Clamd.CommandLine.Flag

/-!
# Commands of the program

The verbs of the command line, each with the options that it knows and the operands that it takes.
-/

namespace Clamd.CommandLine

/-- The verbs. -/
inductive Verb where
  | ping
  | version
  | commands
  | stats
  | reload
  | shutdown
  | scan
  | stream
  | watch
  deriving DecidableEq, Repr

/-- How many operands a verb takes. -/
inductive Operands where
  | none
  /-- One that may be missing. -/
  | optional (name : String)
  /-- Exactly one. -/
  | one (name : String)
  /-- One or more. -/
  | several (name : String)
  deriving DecidableEq, Repr

/-- How operands are shown. -/
def Operands.shown : Operands → String
  | none => ""
  | optional name => "[" ++ name ++ "]"
  | one name => "<" ++ name ++ ">"
  | several name => "<" ++ name ++ ">..."

/-- Whether one more operand fits behind `n` others. -/
def Operands.admits (n : Nat) : Operands → Bool
  | none => false
  | optional _ => n == 0
  | one _ => n == 0
  | several _ => true

/-- Whether `n` operands are too few. -/
def Operands.lacks (n : Nat) : Operands → Bool
  | none => false
  | optional _ => false
  | one _ => n == 0
  | several _ => n == 0

namespace Verb

/-- All verbs, in the order in which they are listed. -/
def all : List Verb :=
  [ping, version, commands, stats, reload, shutdown, scan, stream, watch]

/-- The word for a verb. -/
def name : Verb → String
  | ping => "ping"
  | version => "version"
  | commands => "commands"
  | stats => "stats"
  | reload => "reload"
  | shutdown => "shutdown"
  | scan => "scan"
  | stream => "stream"
  | watch => "watch"

/-- The verb for a word. -/
def ofName? (word : String) : Option Verb :=
  all.find? (·.name == word)

/-- The options behind a verb. -/
def flags : Verb → List Flag
  | scan => [.mode, .json]
  | stream => [.chunkSize, .json]
  | watch => [.mode, .idle, .rollover, .backOff, .stateFile, .runFor]
  | _ => []

/-- The operands of a verb. -/
def operands : Verb → Operands
  | scan => .several "PATHS"
  | stream => .optional "FILE"
  | watch => .one "ROOT"
  | _ => .none

end Verb

/-- A place among the arguments: before the verb, or behind it. -/
inductive Level where
  | top
  | behind (verb : Verb)
  deriving DecidableEq, Repr

namespace Level

/-- The options that are known at a level. -/
def flags : Level → List Flag
  | top => [.config, .host, .port, .connectTimeout, .readTimeout, .separator]
  | behind verb => verb.flags

/-- The operands that are expected at a level. -/
def operands : Level → Operands
  | top => .none
  | behind verb => verb.operands

/-- The option of a name. -/
def flag? (level : Level) (name : String) : Option Flag :=
  level.flags.find? (·.name == name)

end Level

end Clamd.CommandLine
