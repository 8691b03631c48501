import Clamd.CommandLine.UsageError
import Clamd.Program.Platform

/-!
# Help texts

What the program says of itself: its version, and how it is used, on the whole and for each verb.
-/

namespace Clamd

open CommandLine

/-- What stands for a value of a kind in a help text. -/
def CommandLine.Kind.placeholder : Kind → String
  | .path => " <PATH>"
  | .text => " <TEXT>"
  | .port => " <PORT>"
  | .count => " <NUMBER>"
  | .chunkSize => " <BYTES>"
  | .style => " <STYLE>"
  | .mode => " <MODE>"
  | .presence => ""

/-- What an option is for. -/
def CommandLine.Flag.summary : Flag → String
  | .config => "settings file, in place of the one in the home folder"
  | .host => "host of the daemon"
  | .port => "port of the daemon"
  | .connectTimeout => "how long to wait for a connection, 0 for no limit"
  | .readTimeout => "how long to wait for each read, 0 for no limit"
  | .separator => "how the daemon's host writes paths: native, unix or windows"
  | .mode => ", ".intercalate (Kind.modes.map Kind.modeName)
  | .json => "show the result as JSON"
  | .chunkSize => "size of the chunks of the upload"
  | .idle => "seconds to wait when there are no folders"
  | .rollover => "seconds to wait after each round"
  | .backOff => "seconds to wait after trouble"
  | .stateFile => "where to keep the name of the last folder"
  | .runFor => "seconds after which to stop"

/-- What a verb does. -/
def CommandLine.Verb.summary : Verb → String
  | .ping => "ask whether the daemon is alive"
  | .version => "show the version of the daemon"
  | .commands => "list the commands of the daemon"
  | .stats => "show the statistics of the daemon"
  | .reload => "let the daemon reload its signatures"
  | .shutdown => "let the daemon exit"
  | .scan => "scan paths that the daemon can see"
  | .stream => "upload a file, or standard input, and scan it"
  | .watch => "scan the folders of a root over and over"

namespace Program

/-- The version of the program. -/
def versionText : String := Platform.programName ++ " 0.1.0"

/-- One line of a list. -/
def helpItem (name summary : String) : String :=
  "  " ++ name ++ "".pushn ' ' (34 - name.length) ++ summary

/-- The line that shows how the program is called. -/
def usageLine : Level → String
  | .top => "Usage: " ++ Platform.programName ++ " [OPTIONS] <COMMAND>"
  | .behind verb =>
    "Usage: " ++ Platform.programName ++ " " ++ verb.name ++ " [OPTIONS] " ++ verb.operands.shown

/-- The list of verbs, where one is expected. -/
def verbList : Level → List String
  | .top => "" :: "Commands:" :: Verb.all.map fun v => helpItem v.name v.summary
  | .behind _ => []

/-- The options that show something about the program itself. -/
def ownFlags : Level → List String
  | .top => [helpItem "-h, --help" "show this text", helpItem "-V, --version" "show the version"]
  | .behind _ => [helpItem "-h, --help" "show this text"]

/-- The list of options. -/
def flagList (level : Level) : List String :=
  "" :: "Options:" ::
    (level.flags.map fun f => helpItem (f.written ++ f.kind.placeholder) f.summary) ++
    ownFlags level

/-- How the program is used. -/
def help (level : Level) : String :=
  "\n".intercalate (usageLine level :: (verbList level ++ flagList level))

/-- Shows why there is no invocation. -/
def presentUsage {m : Type → Type} [Monad m] (on : Platform m) (usage : UsageError) :
    m ExitStatus := do
  match usage with
  | .help level => on.print (help level)
  | .version => on.print versionText
  | .nothingGiven => on.printError (help .top)
  | _ => on.printError ("error: " ++ usage.message ++ "\n\n" ++ usageLine .top)
  return usage.exitStatus

end Program

end Clamd
