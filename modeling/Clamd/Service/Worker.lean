/-!
# Workers

The threads that do a service's work have names of their own: the name of the service and a number
that a register gives out once.
-/

namespace Clamd.Service

/-- A worker thread that has ended. -/
structure Worker where
  /-- The name of the thread. -/
  name : String
  /-- How it ended: of itself, or in a panic with the given text. -/
  ending : Except String Unit

/-- Gives out numbers for workers. -/
structure Register where
  /-- The number of the next worker. -/
  next : Nat := 1
  deriving DecidableEq, Repr

namespace Register

/-- A name for a worker of `service`. -/
def nextName (r : Register) (service : String) : String × Register :=
  (service ++ "-" ++ toString r.next, { next := r.next + 1 })

/-- Runs `work` on a thread of its own until it ends. -/
def spawn (r : Register) (service : String) (work : Except String Unit) : Worker × Register :=
  let (name, r) := r.nextName service
  ({ name, ending := work }, r)

@[simp] theorem next_nextName (r : Register) (service : String) :
    (r.nextName service).2.next = r.next + 1 := rfl

end Register

end Clamd.Service
