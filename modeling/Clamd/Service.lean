import Clamd.Service.Call

/-!
# Services

A service has a name and a status. Starting and closing it runs a hook, which may itself use the
service; so each of the two comes in two halves, before the hook and after it.
-/

namespace Clamd

/-- A service. -/
structure Service where
  /-- Its name. -/
  name : String
  /-- Where it stands. -/
  status : Service.Status := .created
  deriving DecidableEq, Repr

namespace Service

/-- Why a service could not be started or closed. -/
inductive Failure where
  /-- The status does not allow it. -/
  | refused (service : String) (operation : Operation) (found : Status)
  /-- The hook failed. -/
  | hook (service : String) (operation : Operation) (reason : String)
  deriving DecidableEq, Repr

/-- The text of a failure. -/
def Failure.message : Failure → String
  | refused service operation found =>
    "service " ++ service ++ ": cannot " ++ operation.name ++ " while " ++ found.name
  | hook service operation reason =>
    "service " ++ service ++ ": " ++ operation.name ++ " failed: " ++ reason

/-- The call with which an operation begins. -/
def Operation.call : Operation → Call
  | .start => .start
  | .close => .closing

/-- The step that runs the hook of an operation. -/
def Operation.hookCall : Operation → Call
  | .start => .startHook
  | .close => .closeHook

/-- What a call that ended says to its caller. -/
def report (s : Service) : Answer → Except Failure Unit
  | .done => .ok ()
  | .marked _ => .ok ()
  | .refused operation found => .error (.refused s.name operation found)
  | .hookFailed operation reason => .error (.hook s.name operation reason)

/-- Carries a call on, up to its hook or its end. It has succeeded if the hook is due or nothing is
left to do. -/
def advance (s : Service) (call : Call) : Except Failure Unit × Service :=
  let (call, status) := call.settle s.status
  let s := { s with status }
  match call with
  | .ended answer => (s.report answer, s)
  | _ => (.ok (), s)

/-- The first half of an operation. If it succeeds the hook is due. -/
def begin (s : Service) (operation : Operation) : Except Failure Unit × Service :=
  s.advance operation.call

/-- The second half of an operation, after the hook came to `outcome`. -/
def conclude (s : Service) (operation : Operation) (outcome : Except String Unit) :
    Except Failure Unit × Service :=
  let (call, status) := operation.hookCall.step outcome s.status
  { s with status }.advance call

/-- An operation whose hook does nothing. -/
def perform (s : Service) (operation : Operation) : Except Failure Unit × Service :=
  match s.begin operation with
  | (.error failure, s) => (.error failure, s)
  | (.ok (), s) => s.conclude operation (.ok ())

/-- Marks an initialising service as running, and tells whether the service is running now. -/
def markRunning (s : Service) : Bool × Service :=
  match Call.mark.step (.ok ()) s.status with
  | (.ended (.marked running), status) => (running, { s with status })
  | (_, status) => (false, { s with status })

/-- Whether the service is running. A sleep of its worker ends early once it is not. -/
def isRunning (s : Service) : Bool :=
  s.status == .running

end Service

end Clamd
