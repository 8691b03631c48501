import Clamd.Reply

/-!
# Commands

The commands that the daemon understands, each with the request that it sends and the answer that
it reads from the reply. A command is indexed by the type of its answer.
-/

namespace Clamd

/-- How a path is scanned. -/
inductive ScanMode where
  /-- Stop at the first match in each file. -/
  | first
  /-- Go on after a match inside a directory. -/
  | onward
  /-- Scan a directory with the daemon's pool of threads. -/
  | pooled
  /-- Report every signature that matches. -/
  | allMatches
  deriving DecidableEq, Repr

namespace ScanMode

instance : Inhabited ScanMode := ⟨first⟩

/-- The verb that asks for a scan in this mode. -/
def verb : ScanMode → String
  | first => "SCAN"
  | onward => "CONTSCAN"
  | pooled => "MULTISCAN"
  | allMatches => "ALLMATCHSCAN"

end ScanMode

/-- A command, by the type of its answer. -/
inductive Command : Type → Type where
  /-- Ask whether the daemon is alive. -/
  | ping : Command Bool
  /-- Ask for the version of the daemon and its signatures. -/
  | version : Command String
  /-- Ask which commands the daemon knows. -/
  | commands : Command (List String)
  /-- Ask for the daemon's statistics. -/
  | stats : Command String
  /-- Ask the daemon to reload its signatures. -/
  | reload : Command Unit
  /-- Ask the daemon to exit. -/
  | shutdown : Command Unit
  /-- Scan a path that the daemon can see. -/
  | scan (mode : ScanMode) (path : String) : Command Verdict
  /-- Scan the bytes that are uploaded behind the request. -/
  | stream : Command Verdict

namespace Command

/-- The request that a command sends. -/
def request {α : Type} : Command α → Request
  | ping => { verb := "PING" }
  | version => { verb := "VERSION" }
  | commands => { verb := "VERSIONCOMMANDS" }
  | stats => { verb := "STATS" }
  | reload => { verb := "RELOAD" }
  | shutdown => { verb := "SHUTDOWN" }
  | scan mode path => { verb := mode.verb, argument := some path }
  | stream => { verb := "INSTREAM" }

/-- The answer that a reply's body holds. -/
def readBody {α : Type} : Command α → String → Except Failure α
  | ping, body => .ok (Reply.isPong body)
  | version, body => .ok (Text.trimmed body)
  | c@commands, body => Reply.commandNames c.request.verb body
  | stats, body => .ok body
  | c@reload, body => Reply.reloading c.request.verb body
  | shutdown, _ => .ok ()
  | c@(scan _ _), body => Reply.verdict c.request.verb body
  | c@stream, body => Reply.verdict c.request.verb body

/-- The answer that a whole reply holds. -/
def read {α : Type} (c : Command α) (raw : String) : Except Failure α :=
  (Reply.body c.request raw).bind c.readBody

end Command

end Clamd
