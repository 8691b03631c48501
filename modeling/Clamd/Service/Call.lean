import Clamd.Service.Status

/-!
# Calls on a service

Starting, closing and marking a service as running are calls that many threads may make at once. A
call is a small machine: each of its steps does one swap on the shared status, or runs a hook, and
between any two steps other calls may do theirs.

* `Closing` is the part that closes an active service from either of its two active statuses; it
  tries again when the worker has moved on in between.
* `Call.step` is one step of a call.
* `Closing.finish` and `Call.settle` carry out the steps of a call that is left alone.
-/

namespace Clamd.Service

/-- The swap that a closing call does next. -/
inductive Closing where
  /-- Close a running service. -/
  | fromRunning
  /-- Close a service that is still initialising. -/
  | fromInitialising
  deriving DecidableEq, Repr

namespace Closing

/-- What one swap of a closing call comes to: the status that was left, or a status from which the
service cannot be closed, or another swap to try. -/
inductive Progress where
  | ended (result : Except Status Status)
  | again (next : Closing)

/-- One swap of a closing call. -/
def step : Closing → Status → Progress × Status
  | fromRunning, s =>
    match s.swap .running .closed with
    | (.ok (), s) => (.ended (.ok .running), s)
    | (.error .initialising, s) => (.again fromInitialising, s)
    | (.error found, s) => (.ended (.error found), s)
  | fromInitialising, s =>
    match s.swap .initialising .closed with
    | (.ok (), s) => (.ended (.ok .initialising), s)
    | (.error .running, s) => (.again fromRunning, s)
    | (.error found, s) => (.ended (.error found), s)

/-- The number of swaps that a closing call does in vain if nothing else happens. -/
def vain : Closing → Status → Nat
  | fromRunning, .initialising => 1
  | fromInitialising, .running => 1
  | _, _ => 0

/-- A swap to be tried again is the only one done in vain. -/
theorem vain_lt {c next : Closing} {s s' : Status} (h : c.step s = (.again next, s')) :
    next.vain s' < c.vain s := by
  cases c <;> cases s <;> simp [step, Status.swap] at h
  all_goals
    obtain ⟨rfl, rfl⟩ := h
    decide

/-- The outcome of a closing call that is left alone. -/
def finish (c : Closing) (s : Status) : Except Status Status × Status :=
  match h : c.step s with
  | (.ended result, s') => (result, s')
  | (.again next, s') =>
    have := vain_lt h
    next.finish s'
termination_by c.vain s

end Closing

/-- The calls that the life of a service consists of. -/
inductive Operation where
  | start
  | close
  deriving DecidableEq, Repr

/-- The name of an operation. -/
def Operation.name : Operation → String
  | start => "start"
  | close => "close"

/-- How a call ended. -/
inductive Answer where
  /-- The call did what it was for. -/
  | done
  /-- The status did not allow the operation; nothing was done. -/
  | refused (operation : Operation) (found : Status)
  /-- The hook of the operation failed. -/
  | hookFailed (operation : Operation) (reason : String)
  /-- Whether the service is running now. -/
  | marked (running : Bool)
  deriving DecidableEq, Repr

/-- What a call does next. -/
inductive Call where
  /-- A start: claim the created service. -/
  | start
  /-- A start: run the hook. -/
  | startHook
  /-- A start whose hook failed: close the service. -/
  | abandon (reason : String) (closing : Closing)
  /-- A close: close the service. -/
  | close (closing : Closing)
  /-- A close: run the hook. -/
  | closeHook
  /-- Mark the service as running. -/
  | mark
  /-- Nothing, the call has ended. -/
  | ended (answer : Answer)
  deriving DecidableEq, Repr

namespace Call

/-- The first step of a close. -/
def closing : Call := close .fromRunning

/-- The hook that a call is about to run. -/
def hook? : Call → Option Operation
  | startHook => some .start
  | closeHook => some .close
  | _ => none

/-- Whether the next step is a swap. -/
def isSwap : Call → Bool
  | start | abandon _ _ | close _ | mark => true
  | startHook | closeHook | ended _ => false

/-- One step of a call on a service with status `s`. A step that runs a hook has `outcome` as what
the hook came to. -/
def step (outcome : Except String Unit) : Call → Status → Call × Status
  | start, s =>
    match s.swap .created .initialising with
    | (.ok (), s) => (startHook, s)
    | (.error found, s) => (ended (.refused .start found), s)
  | startHook, s =>
    match outcome with
    | .ok () => (ended .done, s)
    | .error reason => (abandon reason .fromRunning, s)
  | abandon reason c, s =>
    match c.step s with
    | (.ended _, s) => (ended (.hookFailed .start reason), s)
    | (.again next, s) => (abandon reason next, s)
  | close c, s =>
    match c.step s with
    | (.ended (.ok _), s) => (closeHook, s)
    | (.ended (.error found), s) => (ended (.refused .close found), s)
    | (.again next, s) => (close next, s)
  | closeHook, s =>
    match outcome with
    | .ok () => (ended .done, s)
    | .error reason => (ended (.hookFailed .close reason), s)
  | mark, s =>
    match s.swap .initialising .running with
    | (.ok (), s) => (ended (.marked true), s)
    | (.error found, s) => (ended (.marked (found == .running)), s)
  | ended answer, s => (ended answer, s)

/-- Carries out the swaps of a call that is left alone, up to its hook or its end. -/
def settle : Call → Status → Call × Status
  | abandon reason c, s => (ended (.hookFailed .start reason), (c.finish s).2)
  | close c, s =>
    match c.finish s with
    | (.ok _, s) => (closeHook, s)
    | (.error found, s) => (ended (.refused .close found), s)
  | call, s => if call.isSwap then call.step (.ok ()) s else (call, s)

end Call

end Clamd.Service
