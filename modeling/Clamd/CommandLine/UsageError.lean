import Clamd.CommandLine.Verb
import Clamd.ExitStatus

/-!
# Errors of usage

Why the arguments of the program make no invocation. A request for help, or for the version of the
program, ends the reading of the arguments too and is counted here; it is no failure.
-/

namespace Clamd.CommandLine

/-- Why arguments make no invocation. -/
inductive UsageError where
  /-- Help was asked for, on everything or behind a verb. -/
  | help (level : Level)
  /-- The version of the program was asked for. -/
  | version
  /-- Nothing at all was given. -/
  | nothingGiven
  /-- There are options, but no verb. -/
  | missingCommand
  /-- There is no such verb. -/
  | unknownCommand (word : String)
  /-- There is no such option here, or no more operand is expected. -/
  | unknownArgument (arg : String)
  /-- An option that takes no value was given one. -/
  | unexpectedValue (option : String)
  /-- The value of an option or operand is missing, or is not one of those that are possible. -/
  | invalidValue (argument : String)
  /-- An option was given twice. -/
  | repeated (option : String)
  /-- A value cannot be read. -/
  | unreadableValue (argument cause : String)
  /-- A verb lacks an operand. -/
  | missingOperand (operand : String)
  deriving DecidableEq, Repr

namespace UsageError

/-- The error of an option or operand whose value is refused. -/
def ofRefusal (argument : String) : Refusal → UsageError
  | .impossible => .invalidValue argument
  | .unreadable cause => .unreadableValue argument cause

/-- The status with which the program exits. -/
def exitStatus : UsageError → ExitStatus
  | help _ => .success
  | version => .success
  | _ => .failure

/-- What to tell the user. -/
def message : UsageError → String
  | help _ => "help was asked for"
  | version => "the version was asked for"
  | nothingGiven => "nothing was given"
  | missingCommand => "a command is missing"
  | unknownCommand word => "unknown command " ++ word
  | unknownArgument arg => "unexpected argument " ++ arg
  | unexpectedValue option => option ++ " takes no value"
  | invalidValue argument => "no possible value for " ++ argument
  | repeated option => option ++ " is given more than once"
  | unreadableValue argument cause => "invalid value for " ++ argument ++ ": " ++ cause
  | missingOperand operand => operand ++ " is missing"

end UsageError

end Clamd.CommandLine
