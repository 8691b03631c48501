import Clamd.Client
import Clamd.ExitStatus
import Clamd.Verdict.Json

/-!
# What a run of the program shows

Most tasks of the program ask the daemon and end with a report of what it said.

* `Report.ofAnswer`, `Report.ofPing` and `Report.ofScan` say what each answer looks like.
* `scan` and `stream` are the two tasks that find infections; the others go through `ask`.
-/

namespace Clamd.Program

/-- What is shown at the end of a run. -/
structure Report where
  /-- Texts for standard output, each with a line end behind it. -/
  output : List String := []
  /-- What went wrong, for standard error. -/
  trouble : Option String := none
  /-- How the run ends. -/
  status : ExitStatus
  deriving DecidableEq, Repr

namespace Report

/-- The report that something went wrong. -/
def ofTrouble (message : String) : Report :=
  { trouble := some message, status := .failure }

/-- The report of an answer that is shown as a text. -/
def ofAnswer {α : Type} (text : α → String) : Except Failure α → Report
  | .ok answer => { output := [text answer], status := .success }
  | .error failure => ofTrouble failure.message

/-- The report of an answer to a ping. -/
def ofPing : Except Failure Bool → Report
  | .ok true => { output := ["PONG"], status := .success }
  | .ok false => ofTrouble "clamd did not answer PONG"
  | .error failure => ofTrouble failure.message

/-- What is shown of a verdict: JSON, or one line for each detection, or one line that says that
nothing was found. -/
def verdictLines (label : String) (json : Bool) (v : Verdict) : List String :=
  if json then [v.json .indented]
  else if v.isClean then [label ++ ": OK"]
  else v.findings

/-- The report of a scan. -/
def ofScan (label : String) (json : Bool) : Except Failure Verdict → Report
  | .ok v =>
    { output := verdictLines label json v, status := if v.isClean then .success else .infected }
  | .error failure => ofTrouble failure.message

end Report

/-- Asks the daemon for something that is shown as a text. -/
def ask {α : Type} (c : Client) (command : Command α) (text : α → String) (net : Network)
    (s : Session) : Report × Session :=
  let (answer, s) := c.ask net command s
  (.ofAnswer text answer, s)

/-- Asks whether the daemon is alive. -/
def ping (c : Client) (net : Network) (s : Session) : Report × Session :=
  let (answer, s) := c.ask net .ping s
  (.ofPing answer, s)

/-- What stands for scanned paths in a report. -/
def label : List String → String
  | [path] => path
  | paths => toString paths.length ++ " paths"

/-- Scans paths that the daemon can see. -/
def scan (c : Client) (mode : ScanMode) (paths : List String) (json : Bool) (net : Network)
    (s : Session) : Report × Session :=
  let (answer, s) := c.scanAll net mode paths s
  (.ofScan (label paths) json answer, s)

/-- Uploads bytes and shows the verdict on them. -/
def stream (c : Client) (label : String) (payload : Payload) (json : Bool) (net : Network)
    (s : Session) : Report × Session :=
  let (answer, s) := c.scanPayload net payload s
  (.ofScan label json answer, s)

end Clamd.Program
