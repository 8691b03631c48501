import Clamd.Fault
import Clamd.Text.Quoted

/-!
# Failures of an exchange

Why asking the daemon gave no answer: the bytes could not be exchanged, the daemon does not know the
command, its reply has none of the expected shapes, or it reports that a scan failed.
-/

namespace Clamd

/-- Why an exchange with the daemon gave no answer. -/
inductive Failure where
  /-- The exchange itself failed. -/
  | communication (fault : Fault)
  /-- The daemon refused the verb. -/
  | unknownCommand (verb : String)
  /-- The reply to `verb` has none of the shapes it may have. -/
  | invalidReply (verb reply : String)
  /-- The daemon could not scan. -/
  | scanFailed (text : String)
  deriving DecidableEq, Repr

namespace Failure

/-- The text of a failure. -/
def message : Failure → String
  | communication fault => "clamd communication failed: " ++ fault.message
  | unknownCommand verb => "clamd does not know the command " ++ verb
  | invalidReply verb reply => "invalid response to " ++ verb ++ ": " ++ Text.quoted reply
  | scanFailed text => "scan failed: " ++ text

/-- Whether the exchange itself failed, so that nothing is known of the daemon's answer. -/
def isCommunication : Failure → Bool
  | communication _ => true
  | _ => false

end Failure

end Clamd
