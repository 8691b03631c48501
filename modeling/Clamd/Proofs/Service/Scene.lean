import Clamd.Proofs.Service.Step

/-!
# Interleaved calls

Any number of calls are made on one service, and the threads that make them take turns in any order.
A call is named by an index; a thread that makes several calls has an index for each of them. At
every turn one call takes one step, which is a swap on the shared status, or the hook of the call
with whatever it comes to. A scene keeps what has been done so far.

* `Scene.run`: what a schedule of turns makes of a scene;
* `Scene.run_induction`: what holds at the beginning and is kept by each step holds after any
  schedule;
* `Scene.run_alone`: calls that are carried on one at a time follow one of the schedules.
-/

namespace Clamd.Service

/-- What a call on a service is for. -/
inductive Purpose where
  | start
  | close
  | mark

/-- Where a call begins. -/
def Purpose.call : Purpose → Call
  | start => .start
  | close => .closing
  | mark => .mark

/-- One step of a call, as it is kept in the history of a scene. -/
structure Move (ι : Type) where
  /-- The call that took the step. -/
  caller : ι
  /-- Where the call stood. -/
  before : Call
  /-- Where it stands afterwards. -/
  after : Call
  /-- The status that it found. -/
  found : Status
  /-- The status that it left. -/
  left : Status

namespace Move

variable {ι : Type}

/-- Whether the step moved the service to `status`. -/
def enters (status : Status) (m : Move ι) : Bool :=
  m.found != status && m.left == status

/-- Whether the step was a start that found the created service and claimed it. -/
def wins (m : Move ι) : Bool :=
  m.before == .start && m.after == .startHook

/-- Whether the step ran the hook of an operation. -/
def runs (operation : Operation) (m : Move ι) : Bool :=
  m.before.hook? == some operation

/-- Whether the hook of an operation became due with the step. -/
def claims (operation : Operation) (m : Move ι) : Bool :=
  m.after.hook? == some operation

/-- The step ran the hook of a start, which failed. -/
def FailsStart (reason : String) (m : Move ι) : Prop :=
  m.before = .startHook ∧ m.after = .abandon reason .fromRunning

variable {m : Move ι}

theorem enters_iff {status : Status} :
    m.enters status = true ↔ m.found ≠ status ∧ m.left = status := by
  rw [enters, Bool.and_eq_true, bne_iff_ne, beq_iff_eq]

theorem wins_iff : m.wins = true ↔ m.before = .start ∧ m.after = .startHook := by
  rw [wins, Bool.and_eq_true, beq_iff_eq, beq_iff_eq]

theorem runs_iff {operation : Operation} :
    m.runs operation = true ↔ m.before.hook? = some operation :=
  beq_iff_eq

theorem claims_iff {operation : Operation} :
    m.claims operation = true ↔ m.after.hook? = some operation :=
  beq_iff_eq

end Move

/-- Calls on one service, at some time. -/
structure Scene (ι : Type) where
  /-- The status of the service. -/
  status : Status := .created
  /-- Where each call stands. -/
  calls : ι → Call
  /-- The steps that have been taken, in their order. -/
  trace : List (Move ι) := []

namespace Scene

variable {ι : Type} [DecidableEq ι]

/-- The calls before their first step, on a service that has not been started. -/
def begin (purposes : ι → Purpose) : Scene ι :=
  { calls := fun i => (purposes i).call }

/-- The step that a call takes next. -/
def move (s : Scene ι) (i : ι) (outcome : Except String Unit) : Move ι :=
  let (after, left) := (s.calls i).step outcome s.status
  { caller := i, before := s.calls i, after, found := s.status, left }

/-- What a step makes of a scene. -/
def push (s : Scene ι) (m : Move ι) : Scene ι :=
  { status := m.left
    calls := fun j => if j = m.caller then m.after else s.calls j
    trace := s.trace ++ [m] }

/-- A turn of one call. -/
def step (s : Scene ι) (i : ι) (outcome : Except String Unit) : Scene ι :=
  s.push (s.move i outcome)

/-- One turn after another, each with the call whose turn it is and with what its hook comes to if
the turn is one that runs it. -/
def run (s : Scene ι) (schedule : List (ι × Except String Unit)) : Scene ι :=
  schedule.foldl (fun s turn => s.step turn.1 turn.2) s

/-- The callers of the steps of a certain kind, in their order. -/
def callers (s : Scene ι) (kind : Move ι → Bool) : List ι :=
  (s.trace.filter kind).map Move.caller

/-! ### Turns -/

section Turns

variable (s : Scene ι) (i : ι) (outcome : Except String Unit)

@[simp] theorem trace_step : (s.step i outcome).trace = s.trace ++ [s.move i outcome] := rfl

@[simp] theorem status_step : (s.step i outcome).status = (s.move i outcome).left := rfl

@[simp] theorem calls_step_self : (s.step i outcome).calls i = (s.move i outcome).after :=
  if_pos rfl

theorem calls_step_of_ne {j : ι} (h : j ≠ i) : (s.step i outcome).calls j = s.calls j :=
  if_neg h

omit [DecidableEq ι] in
/-- The step of a call follows one of the rules. -/
theorem rule_move : Call.Rule (s.calls i) s.status (s.move i outcome).after
    (s.move i outcome).left :=
  Call.step_rule outcome (s.calls i) s.status

end Turns

/-! ### Callers -/

omit [DecidableEq ι] in
/-- A call is among the callers of a kind of steps if it took one of them. -/
theorem mem_callers {s : Scene ι} {kind : Move ι → Bool} {i : ι} :
    i ∈ s.callers kind ↔ ∃ m ∈ s.trace, m.caller = i ∧ kind m = true := by
  rw [callers, List.mem_map]
  constructor
  · rintro ⟨m, hm, rfl⟩
    obtain ⟨hmem, hkind⟩ := List.mem_filter.1 hm
    exact ⟨m, hmem, rfl, hkind⟩
  · rintro ⟨m, hmem, rfl, hkind⟩
    exact ⟨m, List.mem_filter.2 ⟨hmem, hkind⟩, rfl⟩

omit [DecidableEq ι] in
/-- There are as many callers as steps. -/
theorem length_callers (s : Scene ι) (kind : Move ι → Bool) :
    (s.callers kind).length = s.trace.countP kind := by
  rw [callers, List.length_map, ← List.countP_eq_length_filter]

/-- A step adds its caller to the callers of its kinds. -/
theorem callers_step (s : Scene ι) (i : ι) (outcome : Except String Unit)
    (kind : Move ι → Bool) :
    (s.step i outcome).callers kind =
      s.callers kind ++ if kind (s.move i outcome) then [i] else [] := by
  rw [callers, trace_step, List.filter_append, List.map_append, List.filter_cons]
  split <;> rfl

/-! ### Schedules -/

/-- **What holds at the beginning and is kept by each step** holds after any schedule. -/
theorem run_induction {P : Scene ι → Prop} {s : Scene ι} (hbegin : P s)
    (hstep : ∀ s i outcome, P s → P (s.step i outcome))
    (schedule : List (ι × Except String Unit)) : P (s.run schedule) := by
  induction schedule generalizing s with
  | nil => exact hbegin
  | cons turn schedule ih => exact ih (hstep s turn.1 turn.2 hbegin)

/-! ### A call that is left alone -/

/-- **A call that is carried on alone**, up to its hook or its end, follows a schedule in which all
turns are its own. -/
theorem run_alone (s : Scene ι) (i : ι) :
    ∃ n, let t := s.run (List.replicate n (i, .ok ()))
      (t.calls i, t.status) = (s.calls i).settle s.status ∧ ∀ j, j ≠ i → t.calls j = s.calls j := by
  refine ⟨(s.calls i).swaps s.status, ?_⟩
  -- on the number of swaps that are still to be done
  generalize hn : (s.calls i).swaps s.status = n
  induction n generalizing s with
  | zero =>
    rw [Call.settle_eq_self (Call.swaps_eq_zero_iff.1 hn)]
    exact ⟨rfl, fun j _ => rfl⟩
  | succ n ih =>
    have hswap : (s.calls i).isSwap = true := by
      rw [← Bool.not_eq_false, ← Call.swaps_eq_zero_iff (s := s.status)]
      omega
    have hcalls := s.calls_step_self i (.ok ())
    have hrest : ((s.step i (.ok ())).calls i).swaps (s.step i (.ok ())).status = n := by
      have hswaps := Call.swaps_step hswap s.status
      rw [hcalls]
      show ((s.calls i).step (.ok ()) s.status).1.swaps ((s.calls i).step (.ok ()) s.status).2 = n
      omega
    obtain ⟨hself, hothers⟩ := ih (s.step i (.ok ())) hrest
    rw [List.replicate_succ]
    refine ⟨?_, fun j hj => (hothers j hj).trans (s.calls_step_of_ne i (.ok ()) hj)⟩
    rw [Call.settle_step hswap]
    refine hself.trans ?_
    rw [hcalls]
    rfl

end Scene

end Clamd.Service
