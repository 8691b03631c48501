import Clamd.Program.Rehearsal

/-!
# Runs in a made-up world

A run begins by looking for its settings, and all tasks but watching end with a report.

* `World.onlyLooks_settings`: looking for the settings leaves the world as it is;
* `World.fst_run_of_exited`: a run that exits at once comes to the status it exits with.
-/

namespace Clamd.Program.World

open CommandLine

variable {α β : Type}

/-! ### Actions that only look -/

/-- An action only looks at the world if it leaves the world as it is. -/
def OnlyLooks (x : StateM World α) : Prop :=
  ∀ w, (x.run w).2 = w

theorem OnlyLooks.pure (a : α) : OnlyLooks (pure a) := fun _ => rfl

theorem OnlyLooks.get : OnlyLooks get := fun _ => rfl

/-- Actions that only look do so one after another. -/
theorem OnlyLooks.bind {x : StateM World α} {f : α → StateM World β} (hx : OnlyLooks x)
    (hf : ∀ a, OnlyLooks (f a)) : OnlyLooks (x >>= f) := by
  intro w
  show ((f (x.run w).1).run (x.run w).2).2 = w
  rw [hf, hx]

theorem onlyLooks_findSettings (overrides : Overrides) :
    OnlyLooks (findSettings platform overrides) := by
  rw [findSettings]
  split
  next path => exact .pure _
  next =>
    refine .bind (.bind .get fun _ => .pure _) fun home => ?_
    split
    next => exact .pure _
    next path _ => exact .bind (.bind .get fun _ => .pure _) fun _ => .pure _

/-- **Looking for the settings** leaves the world as it is. -/
theorem onlyLooks_settings (overrides : Overrides) :
    OnlyLooks (settings platform overrides) := by
  rw [settings]
  refine .bind (onlyLooks_findSettings overrides) fun found => ?_
  split
  next => exact .pure _
  next path => exact .bind (.bind .get fun _ => .pure _) fun _ => .pure _

/-! ### Runs that exit at once -/

/-- A run goes on from its settings with its task. -/
theorem run_start_of_loaded {overrides : Overrides} {s : Settings} {w : World}
    (hload : ((settings platform overrides).run w).1 = .ok s) (task : Task) :
    (start platform { overrides, task }).run w = (perform platform s task).run w := by
  have hsettings : (settings platform overrides).run w = (.ok s, w) :=
    Prod.ext hload (onlyLooks_settings overrides w)
  rw [start, StateT.run_bind, hsettings]
  rfl

theorem finish_exited (fuel : Nat) (status : ExitStatus) :
    finish fuel (.exited status) = pure (.exited status) := by
  cases fuel <;> rfl

/-- **A run that exits at once** comes to the status it exits with. -/
theorem fst_run_of_exited {invocation : Invocation} {w : World} {status : ExitStatus}
    (h : ((start platform invocation).run w).1 = .exited status) :
    (run invocation w).1 = some status := by
  -- the number of moves stays as it is: nothing is computed from it
  have hfinish : (do finish moveLimit (← start platform invocation)).run w =
      (.exited status, ((start platform invocation).run w).2) := by
    show (finish moveLimit ((start platform invocation).run w).1).run _ = _
    rw [h, finish_exited]
    rfl
  rw [run, hfinish]

end Clamd.Program.World
