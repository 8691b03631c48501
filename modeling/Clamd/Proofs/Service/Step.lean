import Clamd.Service.Call

/-!
# What one step of a call can do

The steps of calls, written out as rules: for each step, where the call stood and what it found, and
where it stands afterwards and what it left. All that is shown of interleaved calls rests on the
rules.

* `Call.step_rule`: each step of a call follows one of the rules;
* `Status.Next`: the four moves of the status, and `Call.Rule.status_next`: there are no others;
* `Call.Rule.of_start_due` and `Call.Rule.of_close_due`: how a hook becomes due;
* `Call.Rule.of_harmless`: a call that has been refused never did anything;
* `Call.settle_step`: a call that is left alone does one swap after another.
-/

namespace Clamd.Service

/-! ### Moves of the status -/

namespace Status

/-- The moves of the status. -/
inductive Next : Status → Status → Prop where
  | start : Next created initialising
  | run : Next initialising running
  | abort : Next initialising closed
  | close : Next running closed

/-- An active status is one from which a service can be closed. -/
inductive Active : Status → Prop where
  | initialising : Active initialising
  | running : Active running

/-- How far a service has come. -/
def rank : Status → Nat
  | created => 0
  | initialising => 1
  | running => 2
  | closed => 3

/-- A service never comes back. -/
theorem Next.rank_lt {a b : Status} (h : Next a b) : a.rank < b.rank := by
  cases h <;> decide

theorem Active.next_closed {s : Status} (h : Active s) : Next s closed := by
  cases h
  · exact .abort
  · exact .close

theorem not_active_iff {s : Status} : ¬ Active s ↔ s = created ∨ s = closed := by
  constructor
  · intro h
    cases s with
    | created => exact .inl rfl
    | initialising => exact absurd .initialising h
    | running => exact absurd .running h
    | closed => exact .inr rfl
  · rintro (rfl | rfl) h <;> cases h

end Status

/-! ### The rules -/

/-- A closing call that is left alone does one swap, and another one if the first was in vain. -/
theorem Closing.finish_eq (c : Closing) (s : Status) :
    c.finish s =
      match c.step s with
      | (.ended result, s') => (result, s')
      | (.again next, s') => next.finish s' := by
  rw [finish]
  split
  next hstep => rw [hstep]
  next hstep => simp only [hstep]

/-- A swap of a closing call closes an active service, or finds one that is not active, or is to be
tried again. -/
theorem Closing.step_cases (c : Closing) (s : Status) :
    (s.Active ∧ c.step s = (.ended (.ok s), .closed)) ∨
      (¬ s.Active ∧ c.step s = (.ended (.error s), s)) ∨
        ∃ next, c.step s = (.again next, s) := by
  rw [Status.not_active_iff]
  cases c with
  | fromRunning =>
    cases s with
    | created => exact .inr (.inl ⟨.inl rfl, rfl⟩)
    | initialising => exact .inr (.inr ⟨.fromInitialising, rfl⟩)
    | running => exact .inl ⟨.running, rfl⟩
    | closed => exact .inr (.inl ⟨.inr rfl, rfl⟩)
  | fromInitialising =>
    cases s with
    | created => exact .inr (.inl ⟨.inl rfl, rfl⟩)
    | initialising => exact .inl ⟨.initialising, rfl⟩
    | running => exact .inr (.inr ⟨.fromRunning, rfl⟩)
    | closed => exact .inr (.inl ⟨.inr rfl, rfl⟩)

namespace Call

/-- The steps of calls: where a call stood and what status it found, and where it stands afterwards
and what status it left. -/
inductive Rule : Call → Status → Call → Status → Prop where
  /-- A start claims the created service. -/
  | claim : Rule start .created startHook .initialising
  /-- A start comes too late. -/
  | late {s : Status} (h : s ≠ .created) : Rule start s (ended (.refused .start s)) s
  /-- The hook of a start succeeds. -/
  | started (s : Status) : Rule startHook s (ended .done) s
  /-- The hook of a start fails. -/
  | failed (reason : String) (s : Status) : Rule startHook s (abandon reason .fromRunning) s
  /-- A start whose hook failed closes the service. -/
  | abandoned {s : Status} (reason : String) (c : Closing) (h : s.Active) :
      Rule (abandon reason c) s (ended (.hookFailed .start reason)) .closed
  /-- A start whose hook failed finds a service that is not active. -/
  | forsaken {s : Status} (reason : String) (c : Closing) (h : ¬ s.Active) :
      Rule (abandon reason c) s (ended (.hookFailed .start reason)) s
  /-- A start whose hook failed has to try another swap. -/
  | abandonAgain (reason : String) (c next : Closing) (s : Status) :
      Rule (abandon reason c) s (abandon reason next) s
  /-- A close closes the service. -/
  | shut {s : Status} (c : Closing) (h : s.Active) : Rule (close c) s closeHook .closed
  /-- A close finds a service that is not active. -/
  | inactive {s : Status} (c : Closing) (h : ¬ s.Active) :
      Rule (close c) s (ended (.refused .close s)) s
  /-- A close has to try another swap. -/
  | closeAgain (c next : Closing) (s : Status) : Rule (close c) s (close next) s
  /-- The hook of a close ends. -/
  | closed (answer : Answer) (s : Status) (h : ∀ operation found, answer ≠ .refused operation found)
      (h' : ∀ reason, answer ≠ .hookFailed .start reason) : Rule closeHook s (ended answer) s
  /-- The service is marked as running. -/
  | mark : Rule mark .initialising (ended (.marked true)) .running
  /-- There is nothing to be marked. -/
  | unmarked (s : Status) : Rule mark s (ended (.marked (s == .running))) s
  /-- A call that has ended does nothing. -/
  | rest (answer : Answer) (s : Status) : Rule (ended answer) s (ended answer) s

/-- **Each step of a call follows one of the rules.** -/
theorem step_rule (outcome : Except String Unit) (call : Call) (s : Status) :
    Rule call s (call.step outcome s).1 (call.step outcome s).2 := by
  cases call with
  | start =>
    by_cases hs : s = .created
    · subst hs
      exact .claim
    · rw [step, Status.swap_of_ne _ hs]
      exact .late hs
  | startHook =>
    cases outcome with
    | ok done => exact .started s
    | error reason => exact .failed reason s
  | abandon reason c =>
    rw [step]
    obtain ⟨hactive, hstep⟩ | ⟨hinactive, hstep⟩ | ⟨next, hstep⟩ := c.step_cases s
    · rw [hstep]
      exact .abandoned reason c hactive
    · rw [hstep]
      exact .forsaken reason c hinactive
    · rw [hstep]
      exact .abandonAgain reason c next s
  | close c =>
    rw [step]
    obtain ⟨hactive, hstep⟩ | ⟨hinactive, hstep⟩ | ⟨next, hstep⟩ := c.step_cases s
    · rw [hstep]
      exact .shut c hactive
    · rw [hstep]
      exact .inactive c hinactive
    · rw [hstep]
      exact .closeAgain c next s
  | closeHook =>
    cases outcome with
    | ok done => exact .closed .done s nofun nofun
    | error reason => exact .closed (.hookFailed .close reason) s nofun nofun
  | mark =>
    by_cases hs : s = .initialising
    · subst hs
      exact .mark
    · rw [step, Status.swap_of_ne _ hs]
      exact .unmarked s
  | ended answer => exact .rest answer s

/-! ### What follows from the rules -/

/-- A call is harmless if it has not got beyond its swaps: it may still succeed, or it has been
refused. -/
inductive Harmless : Call → Prop where
  | start : Harmless start
  | close (c : Closing) : Harmless (close c)
  | mark : Harmless mark
  | refused (operation : Operation) (found : Status) : Harmless (ended (.refused operation found))

namespace Rule

variable {call call' : Call} {s s' : Status}

/-- **The status moves along its four moves only.** -/
theorem status_next (h : Rule call s call' s') : s = s' ∨ s.Next s' := by
  cases h with
  | claim => exact .inr .start
  | mark => exact .inr .run
  | abandoned reason c hactive => exact .inr hactive.next_closed
  | shut c hactive => exact .inr hactive.next_closed
  | _ => exact .inl rfl

/-- The hook of a start is due only for a start that has claimed the created service. -/
theorem of_start_due (h : Rule call s call' s') (hdue : call'.hook? = some .start) :
    call = start ∧ call' = startHook ∧ s = .created ∧ s' = .initialising := by
  cases h with
  | claim => exact ⟨rfl, rfl, rfl, rfl⟩
  | _ => cases hdue

/-- The hook of a close is due only for a close that has closed the service. -/
theorem of_close_due (h : Rule call s call' s') (hdue : call'.hook? = some .close) :
    (∃ c, call = close c) ∧ call' = closeHook ∧ s.Active ∧ s' = .closed := by
  cases h with
  | shut c hactive => exact ⟨⟨c, rfl⟩, rfl, hactive, rfl⟩
  | _ => cases hdue

/-- Only a start that claims it moves a service out of its first status. -/
theorem of_leaves_created (h : Rule call .created call' s') (hleft : s' ≠ .created) :
    call = start ∧ call' = startHook := by
  cases h with
  | claim => exact ⟨rfl, rfl⟩
  | abandoned reason c hactive => cases hactive
  | shut c hactive => cases hactive
  | _ => exact absurd rfl hleft

/-- Only a close, or a start whose hook failed, closes a service. -/
theorem of_enters_closed (h : Rule call s call' .closed) (hfound : s ≠ .closed) :
    (∃ c, call = close c) ∧ call' = closeHook ∨
      ∃ reason c, call = abandon reason c ∧ call' = ended (.hookFailed .start reason) := by
  cases h with
  | shut c hactive => exact .inl ⟨⟨c, rfl⟩, rfl⟩
  | abandoned reason c hactive => exact .inr ⟨reason, c, rfl, rfl⟩
  | _ => exact absurd rfl hfound

/-- A start that gives up does so after its hook failed, or goes on giving up. -/
theorem of_abandon {reason : String} {c : Closing} (h : Rule call s (abandon reason c) s') :
    (call = startHook ∧ c = .fromRunning) ∨ ∃ c', call = abandon reason c' := by
  cases h with
  | failed => exact .inl ⟨rfl, rfl⟩
  | abandonAgain _ c' => exact .inr ⟨c', rfl⟩

/-- A start that reports a failed hook has closed the service, or found it closed, or has ended
before. -/
theorem of_hookFailed {reason : String}
    (h : Rule call s (ended (.hookFailed .start reason)) s') :
    ((∃ c, call = abandon reason c) ∧ (s = .created ∨ s' = .closed)) ∨
      call = ended (.hookFailed .start reason) ∧ s = s' := by
  cases h with
  | abandoned _ c hactive => exact .inl ⟨⟨c, rfl⟩, .inr rfl⟩
  | forsaken _ c hinactive => exact .inl ⟨⟨c, rfl⟩, Status.not_active_iff.1 hinactive⟩
  | closed answer s h h' => exact absurd rfl (h' reason)
  | rest answer s => exact .inr ⟨rfl, rfl⟩

/-- **A harmless call has been harmless before**, and the step that it took changed nothing and ran
no hook. -/
theorem of_harmless (h : Rule call s call' s') (hharmless : call'.Harmless) :
    call.Harmless ∧ s = s' ∧ call.hook? = none := by
  cases h with
  | late hs => exact ⟨.start, rfl, rfl⟩
  | inactive c hinactive => exact ⟨.close c, rfl, rfl⟩
  | closeAgain c next => exact ⟨.close c, rfl, rfl⟩
  | closed answer s hanswer h' =>
    cases hharmless with
    | refused operation found => exact absurd rfl (hanswer operation found)
  | rest => exact ⟨hharmless, rfl, rfl⟩
  | _ => cases hharmless

end Rule

/-! ### A call that is left alone -/

/-- The number of swaps that a call does if it is left alone. -/
def swaps : Call → Status → Nat
  | start, _ => 1
  | mark, _ => 1
  | abandon _ c, s => c.vain s + 1
  | close c, s => c.vain s + 1
  | _, _ => 0

/-- A call whose next step is not a swap does none. -/
theorem settle_eq_self {call : Call} (h : call.isSwap = false) (s : Status) :
    call.settle s = (call, s) := by
  cases call <;> first | rfl | cases h

/-- **A call that is left alone** does one swap after another. -/
theorem settle_step {call : Call} (h : call.isSwap = true) (s : Status) :
    call.settle s = (call.step (.ok ()) s).1.settle (call.step (.ok ()) s).2 := by
  cases call with
  | start =>
    -- one swap, after which the hook is due or the call has ended
    have hdone : (start.step (.ok ()) s).1.isSwap = false := by cases s <;> rfl
    rw [settle_eq_self hdone]
    rfl
  | abandon reason c =>
    -- a swap in vain leaves the rest of the closing to be done
    rw [settle, step, Closing.finish_eq]
    obtain ⟨-, hstep⟩ | ⟨-, hstep⟩ | ⟨next, hstep⟩ := c.step_cases s <;> rw [hstep] <;> rfl
  | close c =>
    rw [settle, step, Closing.finish_eq]
    obtain ⟨-, hstep⟩ | ⟨-, hstep⟩ | ⟨next, hstep⟩ := c.step_cases s <;> rw [hstep] <;> rfl
  | mark =>
    have hdone : (mark.step (.ok ()) s).1.isSwap = false := by cases s <;> rfl
    rw [settle_eq_self hdone]
    rfl
  | _ => cases h

/-- Each swap is one less to be done. -/
theorem swaps_step {call : Call} (h : call.isSwap = true) (s : Status) :
    call.swaps s = (call.step (.ok ()) s).1.swaps (call.step (.ok ()) s).2 + 1 := by
  cases call with
  | abandon reason c => cases c <;> cases s <;> rfl
  | close c => cases c <;> cases s <;> rfl
  | start => cases s <;> rfl
  | mark => cases s <;> rfl
  | _ => cases h

/-- A call has swaps to do exactly if the next step is one. -/
theorem swaps_eq_zero_iff {call : Call} {s : Status} : call.swaps s = 0 ↔ call.isSwap = false := by
  cases call <;> simp [swaps, isSwap]

end Call

end Clamd.Service
