import Clamd.Proofs.Service.Lifecycle

/-!
# Closing among other calls

A service is closed from either of its two active statuses, by a swap for each of them. A swap that
finds the other active status is tried again with that one, so a closing call might seem to go on as
long as others move the status under it. It does not, since the status never goes back:

* `Closing.swapsLeft` is the number of swaps that are left to a closing call at most. Other calls do
  not raise it (`Closing.swapsLeft_le_of_next`), and a swap in vain lowers it
  (`Closing.swapsLeft_lt_of_again`).
* `Scene.Stage` is the invariant: before its closing a call has done no swap for it, during the
  closing all swaps were in vain, and behind it the last swap decides what has become of the call.
* `Scene.Closes` is what a closing comes to, and `Scene.run_closes` says that it does so after any
  schedule.
-/

namespace Clamd.Service

/-! ### One swap -/

namespace Closing

/-- What a swap has ended a closing with, if it has. -/
def Progress.result? : Progress → Option (Except Status Status)
  | ended result => some result
  | again _ => none

/-- How many swaps a closing call has left at most, whatever other calls do. -/
def swapsLeft : Closing → Status → Nat
  | fromRunning, .created => 3
  | fromRunning, .initialising => 3
  | fromRunning, .running => 1
  | fromRunning, .closed => 1
  | fromInitialising, _ => 2

variable {c next : Closing} {s s' : Status}

theorem swapsLeft_pos (c : Closing) (s : Status) : 0 < c.swapsLeft s := by
  cases c <;> cases s <;> decide

theorem swapsLeft_le (c : Closing) (s : Status) : c.swapsLeft s ≤ 3 := by
  cases c <;> cases s <;> decide

/-- **Moves of the status leave no more swaps** than there were. -/
theorem swapsLeft_le_of_next (c : Closing) (h : s.Next s') : c.swapsLeft s' ≤ c.swapsLeft s := by
  cases h <;> cases c <;> decide

/-- **A swap in vain leaves one less**: it is one that the status has overtaken. -/
theorem swapsLeft_lt_of_again (h : c.step s = (.again next, s')) :
    next.swapsLeft s' < c.swapsLeft s := by
  cases c <;> cases s <;> cases h <;> decide

end Closing

/-! ### Calls that close -/

namespace Call

/-- The swap that a call does next to close the service, if it is about to. -/
def attempt? : Call → Option Closing
  | close c => some c
  | abandon _ c => some c
  | _ => none

/-- A call that has come to closing the service, or has ended. -/
inductive IsClosing : Call → Prop where
  | close (c : Closing) : IsClosing (close c)
  | abandon (reason : String) (c : Closing) : IsClosing (abandon reason c)
  | closeHook : IsClosing closeHook
  | ended (answer : Answer) : IsClosing (ended answer)

/-- What becomes of a call whose closing has ended with a result. -/
inductive Settles : Call → Except Status Status → Call → Prop where
  /-- The hook of a close is due. -/
  | due (c : Closing) (left : Status) : Settles (close c) (.ok left) closeHook
  /-- The hook of a close has succeeded. -/
  | done (c : Closing) (left : Status) : Settles (close c) (.ok left) (ended .done)
  /-- The hook of a close has failed. -/
  | hookFailed (c : Closing) (left : Status) (reason : String) :
      Settles (close c) (.ok left) (ended (.hookFailed .close reason))
  /-- A close is refused. -/
  | refused (c : Closing) (found : Status) :
      Settles (close c) (.error found) (ended (.refused .close found))
  /-- A start whose hook has failed says so, whatever its closing came to. -/
  | abandoned (reason : String) (c : Closing) (result : Except Status Status) :
      Settles (abandon reason c) result (ended (.hookFailed .start reason))

variable {call attempt : Call} {c : Closing} {result : Except Status Status}

theorem isClosing_of_attempt? (h : call.attempt? = some c) : call.IsClosing := by
  cases call with
  | close c => exact .close c
  | abandon reason c => exact .abandon reason c
  | _ => cases h

/-- A step of a call that closes the service is a swap of its closing. -/
theorem attempt?_step (h : call.attempt? = some c) (outcome : Except String Unit) (s : Status) :
    (call.step outcome s).2 = (c.step s).2 ∧
      match (c.step s).1 with
      | .ended result => Settles call result (call.step outcome s).1
      | .again next => (call.step outcome s).1.attempt? = some next := by
  cases call with
  | close c =>
    cases h
    rw [step]
    rcases c.step s with ⟨(_ | left) | next, s'⟩
    · exact ⟨rfl, .refused c _⟩
    · exact ⟨rfl, .due c left⟩
    · exact ⟨rfl, rfl⟩
  | abandon reason c =>
    cases h
    rw [step]
    rcases c.step s with ⟨result | next, s'⟩
    · exact ⟨rfl, .abandoned reason c result⟩
    · exact ⟨rfl, rfl⟩
  | _ => cases h

/-- Where a close can stand. -/
inductive OfClose : Call → Prop where
  | closing (c : Closing) : OfClose (close c)
  | due : OfClose closeHook
  | done : OfClose (ended .done)
  | hookFailed (reason : String) : OfClose (ended (.hookFailed .close reason))
  | refused (found : Status) : OfClose (ended (.refused .close found))

theorem OfClose.step (h : call.OfClose) (outcome : Except String Unit) (s : Status) :
    (call.step outcome s).1.OfClose := by
  cases h with
  | closing c =>
    rw [Call.step]
    rcases c.step s with ⟨(found | left) | next, s'⟩
    · exact .refused found
    · exact .due
    · exact .closing next
  | due =>
    cases outcome with
    | ok done => exact .done
    | error reason => exact .hookFailed reason
  | done => exact .done
  | hookFailed reason => exact .hookFailed reason
  | refused found => exact .refused found

/-- A close says that its hook has failed only if it has. -/
theorem OfClose.hookFailed_of_step {reason : String} {s : Status} (h : call.OfClose)
    (hstep : (call.step (.ok ()) s).1 = ended (.hookFailed .close reason)) :
    call = ended (.hookFailed .close reason) := by
  cases h with
  | closing c =>
    rw [Call.step] at hstep
    rcases hswap : c.step s with ⟨(found | left) | next, s'⟩ <;> rw [hswap] at hstep <;> cases hstep
  | due => cases hstep
  | done => cases hstep
  | hookFailed other => exact hstep
  | refused found => cases hstep

/-- How many turns a call that has come to closing has left at most. -/
def turnsLeft : Call → Status → Nat
  | close c, s => c.swapsLeft s + 1
  | abandon _ c, s => c.swapsLeft s + 1
  | closeHook, _ => 1
  | _, _ => 0

theorem turnsLeft_of_attempt? (h : call.attempt? = some c) (s : Status) :
    call.turnsLeft s = c.swapsLeft s + 1 := by
  cases call <;> cases h <;> rfl

theorem turnsLeft_le_of_next (call : Call) {s s' : Status} (h : s.Next s') :
    call.turnsLeft s' ≤ call.turnsLeft s := by
  cases call with
  | close c => exact Nat.succ_le_succ (c.swapsLeft_le_of_next h)
  | abandon reason c => exact Nat.succ_le_succ (c.swapsLeft_le_of_next h)
  | _ => exact Nat.le_refl _

namespace Settles

theorem attempt?_eq_none (h : Settles attempt result call) : call.attempt? = none := by
  cases h <;> rfl

theorem isClosing (h : Settles attempt result call) : call.IsClosing := by
  cases h with
  | due => exact .closeHook
  | _ => exact .ended _

/-- At most the hook is left. -/
theorem turnsLeft_le (h : Settles attempt result call) (s : Status) : call.turnsLeft s ≤ 1 := by
  cases h with
  | due => exact Nat.le_refl _
  | _ => exact Nat.zero_le _

/-- A close is refused for what its closing has returned. -/
theorem result_of_refused {found : Status}
    (h : Settles attempt result (ended (.refused .close found))) : result = .error found := by
  cases h
  rfl

/-- A close whose closing has returned an error is refused. -/
theorem refused_of_error {found : Status} (h : Settles attempt (.error found) call)
    (hclose : call.OfClose) : call = ended (.refused .close found) := by
  cases h with
  | refused c found => rfl
  | abandoned reason c result => cases hclose

/-- What has become of a call is not undone. -/
theorem step (h : Settles attempt result call) (outcome : Except String Unit) (s : Status) :
    Settles attempt result (call.step outcome s).1 := by
  cases h with
  | due c left =>
    cases outcome with
    | ok done => exact .done c left
    | error reason => exact .hookFailed c left reason
  | done c left => exact .done c left
  | hookFailed c left reason => exact .hookFailed c left reason
  | refused c found => exact .refused c found
  | abandoned reason c result => exact .abandoned reason c result

end Settles

/-- A call without a turn left has ended. -/
theorem IsClosing.exists_ended (h : call.IsClosing) {s : Status} (hover : call.turnsLeft s = 0) :
    ∃ answer, call = Call.ended answer := by
  cases h with
  | close c => cases hover
  | abandon reason c => cases hover
  | closeHook => cases hover
  | ended answer => exact ⟨answer, rfl⟩

/-- **Each turn leaves one less.** -/
theorem turnsLeft_step (h : call.IsClosing) (outcome : Except String Unit) (s : Status) :
    (call.step outcome s).1.IsClosing ∧
      (call.step outcome s).1.turnsLeft (call.step outcome s).2 ≤ call.turnsLeft s - 1 := by
  -- a call that closes does a swap, and it goes on with fewer or is past its swaps
  have hattempt : ∀ c, call.attempt? = some c → (call.step outcome s).1.IsClosing ∧
      (call.step outcome s).1.turnsLeft (call.step outcome s).2 ≤ call.turnsLeft s - 1 := by
    intro c hc
    obtain ⟨hstatus, hnext⟩ := attempt?_step hc outcome s
    rw [turnsLeft_of_attempt? hc, hstatus, Nat.add_sub_cancel]
    rcases hstep : c.step s with ⟨result | next, s'⟩ <;> rw [hstep] at hnext
    · exact ⟨hnext.isClosing, Nat.le_trans (hnext.turnsLeft_le _) (c.swapsLeft_pos s)⟩
    · rw [turnsLeft_of_attempt? hnext]
      exact ⟨isClosing_of_attempt? hnext, c.swapsLeft_lt_of_again hstep⟩
  cases h with
  | close c => exact hattempt c rfl
  | abandon reason c => exact hattempt c rfl
  | closeHook =>
    cases outcome with
    | ok done => exact ⟨.ended _, Nat.le_refl _⟩
    | error reason => exact ⟨.ended _, Nat.le_refl _⟩
  | ended answer => exact ⟨.ended answer, Nat.le_refl _⟩

end Call

/-! ### The swaps of a closing -/

namespace Move

variable {ι : Type} {m : Move ι}

/-- Whether the step was a swap with which its call was closing the service. -/
def isAttempt (m : Move ι) : Bool :=
  m.before.attempt?.isSome

/-- What the step has ended the closing of its call with, if it has. -/
def result? (m : Move ι) : Option (Except Status Status) :=
  m.before.attempt?.bind fun c => (c.step m.found).1.result?

/-- The step is one that its call could take. -/
def Genuine (m : Move ι) : Prop :=
  ∃ outcome, m.before.step outcome m.found = (m.after, m.left)

/-- **A closing that succeeds** has closed the service by its own swap. -/
theorem Genuine.result?_eq_ok_iff (h : m.Genuine) (hattempt : m.isAttempt = true) {left : Status} :
    m.result? = some (.ok left) ↔ m.found = left ∧ m.enters .closed = true := by
  obtain ⟨outcome, hstep⟩ := h
  obtain ⟨c, hc⟩ := Option.isSome_iff_exists.1 hattempt
  have hleft : m.left = (c.step m.found).2 := by
    rw [← (Call.attempt?_step hc outcome m.found).1, hstep]
  rw [enters_iff, result?, hc, Option.bind_some, hleft]
  -- only a swap that replaces an active status enters the closed one, the others leave what they find
  obtain ⟨hactive, hswap⟩ | ⟨-, hswap⟩ | ⟨next, hswap⟩ := c.step_cases m.found
  · have hfound : m.found ≠ .closed := by
      intro hclosed
      rw [hclosed] at hactive
      cases hactive
    rw [hswap]
    simp [Closing.Progress.result?, hfound]
  · rw [hswap]
    simp +contextual [Closing.Progress.result?]
  · rw [hswap]
    simp +contextual [Closing.Progress.result?]

/-- What a closing returns is the status that its last swap found, and it is refused only if this
was not an active one. -/
theorem found_of_result? {result : Except Status Status} (h : m.result? = some result) :
    (m.found.Active ∧ result = .ok m.found) ∨ (¬ m.found.Active ∧ result = .error m.found) := by
  obtain ⟨c, hc, hresult⟩ := Option.bind_eq_some_iff.1 h
  obtain ⟨hactive, hswap⟩ | ⟨hinactive, hswap⟩ | ⟨next, hswap⟩ := c.step_cases m.found <;>
    rw [hswap] at hresult <;> cases hresult
  · exact .inl ⟨hactive, rfl⟩
  · exact .inr ⟨hinactive, rfl⟩

end Move

namespace Scene

variable {ι : Type} [DecidableEq ι] {s : Scene ι} {i j : ι} {outcome : Except String Unit}

/-- The swaps with which a call has been closing the service. -/
def attempts (s : Scene ι) (i : ι) : List (Move ι) :=
  s.trace.filter fun m => decide (m.caller = i) && m.isAttempt

/-- What the closing of a call has returned, if it has ended. -/
def closed? (s : Scene ι) (i : ι) : Option (Except Status Status) :=
  (s.attempts i).findSome? Move.result?

theorem mem_attempts {m : Move ι} :
    m ∈ s.attempts i ↔ m ∈ s.trace ∧ m.caller = i ∧ m.isAttempt = true := by
  rw [attempts, List.mem_filter, Bool.and_eq_true, decide_eq_true_eq]

theorem attempts_step_of_ne (h : i ≠ j) : (s.step j outcome).attempts i = s.attempts i := by
  have hother : (decide ((s.move j outcome).caller = i) && (s.move j outcome).isAttempt) = false := by
    rw [decide_eq_false (show ¬ (s.move j outcome).caller = i from Ne.symm h), Bool.false_and]
  rw [attempts, trace_step, List.filter_append, List.filter_cons_of_neg (by simp [hother]),
    List.filter_nil, List.append_nil]
  rfl

theorem attempts_step_self : (s.step i outcome).attempts i =
    s.attempts i ++ if (s.calls i).attempt?.isSome then [s.move i outcome] else [] := by
  have hself : (decide ((s.move i outcome).caller = i) && (s.move i outcome).isAttempt) =
      (s.calls i).attempt?.isSome := by
    rw [decide_eq_true (show (s.move i outcome).caller = i from rfl), Bool.true_and]
    rfl
  rw [attempts, trace_step, List.filter_append, List.filter_cons, hself]
  rfl

/-! ### Turns that are left -/

/-- **A call that has come to closing** is over after as many turns as are left to it, whatever turns
other calls take in between. -/
theorem turnsLeft_run (h : (s.calls i).IsClosing) (schedule : List (ι × Except String Unit)) :
    ((s.run schedule).calls i).IsClosing ∧
      ((s.run schedule).calls i).turnsLeft (s.run schedule).status ≤
        (s.calls i).turnsLeft s.status - schedule.countP fun turn => decide (turn.1 = i) := by
  induction schedule generalizing s with
  | nil => exact ⟨h, Nat.le_refl _⟩
  | cons turn schedule ih =>
    obtain ⟨j, outcome⟩ := turn
    rw [List.countP_cons]
    by_cases hj : j = i
    · subst hj
      obtain ⟨hclosing, hless⟩ := Call.turnsLeft_step h outcome s.status
      have hcalls := s.calls_step_self j outcome
      obtain ⟨hend, hleft⟩ := ih (s := s.step j outcome) (by rw [hcalls]; exact hclosing)
      refine ⟨hend, Nat.le_trans hleft ?_⟩
      rw [hcalls, status_step, if_pos (decide_eq_true rfl)]
      have hmove : (s.move j outcome).after.turnsLeft (s.move j outcome).left ≤
          (s.calls j).turnsLeft s.status - 1 := hless
      omega
    · -- another call leaves it where it was, and the status does not go back
      have hcalls := s.calls_step_of_ne j outcome (Ne.symm hj)
      obtain ⟨hend, hleft⟩ := ih (s := s.step j outcome) (by rw [hcalls]; exact h)
      refine ⟨hend, Nat.le_trans hleft ?_⟩
      rw [hcalls, status_step, if_neg (by simpa using hj), Nat.add_zero]
      refine Nat.sub_le_sub_right ?_ _
      rcases (s.rule_move j outcome).status_next with hsame | hnext
      · exact Nat.le_of_eq (congrArg _ hsame.symm)
      · exact Call.turnsLeft_le_of_next _ hnext

/-! ### The invariant -/

/-- Where a call stands in its closing. -/
inductive Stage (s : Scene ι) (i : ι) : Prop where
  /-- It has not begun. -/
  | before (hcall : (s.calls i).attempt? = none) (hnone : s.attempts i = [])
  /-- It has done some swaps in vain, and what is left makes up three at most. -/
  | during (c : Closing) (hcall : (s.calls i).attempt? = some c)
      (hvain : ∀ m ∈ s.attempts i, m.result? = none)
      (hpays : (s.attempts i).length + c.swapsLeft s.status ≤ 3)
  /-- Its last swap was not in vain. -/
  | behind (front : List (Move ι)) (last : Move ι) (result : Except Status Status)
      (hattempts : s.attempts i = front ++ [last]) (hvain : ∀ m ∈ front, m.result? = none)
      (hresult : last.result? = some result) (hlength : front.length ≤ 2)
      (hsettles : Call.Settles last.before result (s.calls i))

namespace Stage

/-- A turn of another call. -/
theorem step_of_ne (h : s.Stage i) (hj : i ≠ j) : (s.step j outcome).Stage i := by
  have hattempts : (s.step j outcome).attempts i = s.attempts i := attempts_step_of_ne hj
  have hcalls := s.calls_step_of_ne j outcome hj
  cases h with
  | before hcall hnone => exact .before (hcalls ▸ hcall) (hattempts.trans hnone)
  | during c hcall hvain hpays =>
    refine .during c (hcalls ▸ hcall) (hattempts ▸ hvain) ?_
    rw [hattempts, status_step]
    -- the status may have moved, which leaves no more swaps than before
    rcases (s.rule_move j outcome).status_next with hsame | hnext
    · rw [← hsame]
      exact hpays
    · exact Nat.le_trans (Nat.add_le_add_left (c.swapsLeft_le_of_next hnext) _) hpays
  | behind front last result hfront hvain hresult hlength hsettles =>
    exact .behind front last result (hattempts.trans hfront) hvain hresult hlength
      (hcalls ▸ hsettles)

/-- A turn of the call itself. -/
theorem step_self (h : s.Stage i) : (s.step i outcome).Stage i := by
  have hattempts : (s.step i outcome).attempts i =
      s.attempts i ++ if (s.calls i).attempt?.isSome then [s.move i outcome] else [] :=
    attempts_step_self
  have hcalls := s.calls_step_self i outcome
  cases h with
  | before hcall hnone =>
    rw [hcall, hnone] at hattempts
    cases hnext : (s.move i outcome).after.attempt? with
    | none => exact .before (hcalls ▸ hnext) hattempts
    | some c =>
      -- its hook has failed, so it begins to close the service
      refine .during c (hcalls ▸ hnext) ?_ ?_
      · rw [hattempts]
        exact fun m hm => absurd hm List.not_mem_nil
      · rw [hattempts]
        exact Nat.le_trans (Nat.le_of_eq (Nat.zero_add _)) (c.swapsLeft_le _)
  | during c hcall hvain hpays =>
    rw [hcall, Option.isSome_some, if_pos rfl] at hattempts
    obtain ⟨hstatus, hnext⟩ := Call.attempt?_step hcall outcome s.status
    have hresult : (s.move i outcome).result? = (c.step s.status).1.result? := by
      rw [Move.result?, show (s.move i outcome).before.attempt? = some c from hcall]
      rfl
    have hpos := c.swapsLeft_pos s.status
    rcases hstep : c.step s.status with ⟨result | next, s'⟩ <;>
      rw [hstep] at hnext hresult hstatus
    · exact .behind (s.attempts i) (s.move i outcome) result hattempts hvain hresult (by omega)
        (hcalls ▸ hnext)
    · refine .during next (hcalls ▸ hnext) ?_ ?_
      · rw [hattempts]
        intro m hm
        rcases List.mem_append.1 hm with hold | hnew
        · exact hvain m hold
        · rw [List.mem_singleton.1 hnew]
          exact hresult
      · -- the swap that was done in vain is paid for by those that are left
        have hless := c.swapsLeft_lt_of_again hstep
        have hleft : (s.move i outcome).left = s' := hstatus
        rw [hattempts, List.length_append, List.length_singleton, status_step, hleft]
        omega
  | behind front last result hfront hvain hresult hlength hsettles =>
    rw [hsettles.attempt?_eq_none, hfront] at hattempts
    refine .behind front last result (hattempts.trans (List.append_nil _)) hvain hresult hlength ?_
    exact hcalls ▸ hsettles.step outcome s.status

end Stage

theorem stage_begin (purposes : ι → Purpose) (i : ι) : (begin purposes).Stage i := by
  have hcall : (begin purposes).calls i = (purposes i).call := rfl
  cases hpurpose : purposes i with
  | close =>
    rw [hpurpose] at hcall
    exact .during .fromRunning (congrArg Call.attempt? hcall)
      (fun m hm => absurd hm List.not_mem_nil) (Nat.le_refl 3)
  | start =>
    rw [hpurpose] at hcall
    exact .before (congrArg Call.attempt? hcall) rfl
  | mark =>
    rw [hpurpose] at hcall
    exact .before (congrArg Call.attempt? hcall) rfl

/-- **The invariant holds after any schedule.** -/
theorem stage_run (purposes : ι → Purpose) (schedule : List (ι × Except String Unit)) (i : ι) :
    ((begin purposes).run schedule).Stage i := by
  refine run_induction (P := fun s => s.Stage i) (stage_begin purposes i) ?_ schedule
  intro s j outcome h
  by_cases hj : i = j
  · subst hj
    exact h.step_self
  · exact h.step_of_ne hj

/-- All steps of a run could be taken. -/
theorem genuine_run (purposes : ι → Purpose) (schedule : List (ι × Except String Unit)) :
    ∀ m ∈ ((begin purposes).run schedule).trace, m.Genuine := by
  refine run_induction (P := fun s => ∀ m ∈ s.trace, m.Genuine) (fun m hm => by cases hm) ?_ schedule
  intro s i outcome h m hm
  rcases List.mem_append.1 hm with hold | hnew
  · exact h m hold
  · rw [List.mem_singleton.1 hnew]
    exact ⟨outcome, rfl⟩

/-- A call that has come to closing does a swap, so it is not behind its closing without one. -/
theorem begun_run (h : (s.calls i).attempt? = none → s.attempts i ≠ [])
    (schedule : List (ι × Except String Unit)) :
    ((s.run schedule).calls i).attempt? = none → (s.run schedule).attempts i ≠ [] := by
  refine run_induction (P := fun s => (s.calls i).attempt? = none → s.attempts i ≠ []) h ?_ schedule
  intro s j outcome h hnone
  by_cases hj : i = j
  · subst hj
    rw [attempts_step_self]
    cases hcall : (s.calls i).attempt? with
    | none => exact List.append_ne_nil_of_left_ne_nil (h hcall) _
    | some c => exact List.append_ne_nil_of_right_ne_nil _ (List.cons_ne_nil _ _)
  · rw [calls_step_of_ne s j outcome hj] at hnone
    rw [attempts_step_of_ne hj]
    exact h hnone

/-! ### A close -/

omit [DecidableEq ι] in
theorem calls_begin_close {purposes : ι → Purpose} (hpurpose : purposes i = .close) :
    (begin purposes).calls i = .closing :=
  congrArg Purpose.call hpurpose

theorem ofClose_run (h : (s.calls i).OfClose) (schedule : List (ι × Except String Unit)) :
    ((s.run schedule).calls i).OfClose := by
  refine run_induction (P := fun s => (s.calls i).OfClose) h ?_ schedule
  intro s j outcome h
  by_cases hj : i = j
  · subst hj
    rw [calls_step_self]
    exact h.step outcome s.status
  · rw [calls_step_of_ne s j outcome hj]
    exact h

/-- A close whose hook succeeds does not come to say that it has failed. -/
theorem hookFailed_of_run {schedule : List (ι × Except String Unit)} (h : (s.calls i).OfClose)
    (hhook : ∀ turn ∈ schedule, turn.1 = i → turn.2 = .ok ()) {reason : String}
    (hfailed : (s.run schedule).calls i = .ended (.hookFailed .close reason)) :
    s.calls i = .ended (.hookFailed .close reason) := by
  induction schedule generalizing s with
  | nil => exact hfailed
  | cons turn schedule ih =>
    obtain ⟨j, outcome⟩ := turn
    have hclose : ((s.step j outcome).calls i).OfClose := ofClose_run h [(j, outcome)]
    have hstep := ih hclose (fun turn hmem => hhook turn (List.mem_cons_of_mem _ hmem)) hfailed
    by_cases hj : i = j
    · subst hj
      have hok : outcome = .ok () := hhook (i, outcome) List.mem_cons_self rfl
      rw [calls_step_self, hok] at hstep
      exact h.hookFailed_of_step hstep
    · rwa [calls_step_of_ne s j outcome hj] at hstep

/-! ### What a closing comes to -/

/-- **What the closing of a call comes to**, whatever other calls do in between. -/
structure Closes (s : Scene ι) (i : ι) : Prop where
  /-- It does three swaps at most. -/
  bounded : (s.attempts i).length ≤ 3
  /-- It returns after three turns of the call at most. -/
  returns : (s.calls i).attempt?.isSome → ∀ schedule : List (ι × Except String Unit),
    3 ≤ schedule.countP (fun turn => decide (turn.1 = i)) → ((s.run schedule).closed? i).isSome
  /-- It has returned something exactly if it has begun and ended. -/
  returned_iff : (s.closed? i).isSome ↔ s.attempts i ≠ [] ∧ (s.calls i).attempt? = none
  /-- It succeeds exactly if a swap of its own has closed the service. -/
  ok_iff : ∀ left, s.closed? i = some (.ok left) ↔
    ∃ m ∈ s.attempts i, m.found = left ∧ m.enters .closed = true
  /-- The service that it has closed was active. -/
  ok_active : ∀ left, s.closed? i = some (.ok left) → left = .initialising ∨ left = .running
  /-- It is refused only for a status that is not active, and which the service had when the call
  did its last swap. -/
  error_found : ∀ found, s.closed? i = some (.error found) →
    (found = .created ∨ found = .closed) ∧
      ∃ front m back, s.trace = front ++ m :: back ∧ m ∈ s.attempts i ∧
        Move.statusAfter front = found
  /-- What has become of the call is what it has returned. -/
  settled : ∀ result, s.closed? i = some result →
    ∃ m ∈ s.attempts i, Call.Settles m.before result (s.calls i)

/-- Behind swaps in vain, the last one tells what the closing has returned. -/
theorem closed?_of_attempts {front : List (Move ι)} {last : Move ι}
    (hattempts : s.attempts i = front ++ [last]) (hvain : ∀ m ∈ front, m.result? = none) :
    s.closed? i = last.result? := by
  rw [closed?, hattempts, List.findSome?_append, List.findSome?_eq_none_iff.2 hvain, Option.none_or,
    List.findSome?_singleton]

/-- What a closing has returned decided its last swap. -/
theorem Stage.exists_last (h : s.Stage i) {result : Except Status Status}
    (hclosed : s.closed? i = some result) :
    ∃ m ∈ s.attempts i, m.result? = some result ∧ Call.Settles m.before result (s.calls i) := by
  cases h with
  | before hcall hnone =>
    rw [closed?, hnone] at hclosed
    cases hclosed
  | during c hcall hvain hpays => cases hclosed.symm.trans (List.findSome?_eq_none_iff.2 hvain)
  | behind front last other hattempts hvain hresult hlength hsettles =>
    rw [closed?_of_attempts hattempts hvain, hresult] at hclosed
    cases hclosed
    refine ⟨last, ?_, hresult, hsettles⟩
    rw [hattempts]
    exact List.mem_append_right _ (List.mem_singleton_self _)

/-- Only the last swap of a closing returns something. -/
theorem Stage.closed?_of_mem (h : s.Stage i) {m : Move ι} (hm : m ∈ s.attempts i)
    {result : Except Status Status} (hresult : m.result? = some result) :
    s.closed? i = some result := by
  cases h with
  | before hcall hnone =>
    rw [hnone] at hm
    cases hm
  | during c hcall hvain hpays => cases (hvain m hm).symm.trans hresult
  | behind front last other hattempts hvain hlast hlength hsettles =>
    rw [closed?_of_attempts hattempts hvain]
    rw [hattempts] at hm
    rcases List.mem_append.1 hm with hfront | hend
    · cases (hvain m hfront).symm.trans hresult
    · rw [← List.mem_singleton.1 hend]
      exact hresult

/-- A closing has returned something exactly if it has begun and ended. -/
theorem Stage.isSome_closed?_iff (h : s.Stage i) :
    (s.closed? i).isSome ↔ s.attempts i ≠ [] ∧ (s.calls i).attempt? = none := by
  cases h with
  | before hcall hnone =>
    rw [closed?, hnone]
    exact iff_of_false nofun fun hbegun => hbegun.1 rfl
  | during c hcall hvain hpays =>
    rw [closed?, List.findSome?_eq_none_iff.2 hvain, hcall]
    exact iff_of_false nofun fun hended => nomatch hended.2
  | behind front last other hattempts hvain hlast hlength hsettles =>
    rw [closed?_of_attempts hattempts hvain, hlast, hattempts]
    exact iff_of_true rfl ⟨List.concat_ne_nil _ _, hsettles.attempt?_eq_none⟩

theorem Stage.length_attempts_le (h : s.Stage i) : (s.attempts i).length ≤ 3 := by
  cases h with
  | before hcall hnone =>
    rw [hnone]
    exact Nat.zero_le 3
  | during c hcall hvain hpays => exact Nat.le_trans (Nat.le_add_right _ _) hpays
  | behind front last other hattempts hvain hlast hlength hsettles =>
    rw [hattempts, List.length_append, List.length_singleton]
    exact Nat.succ_le_succ hlength

/-- A closing is over after three turns of its call. -/
theorem attempt?_run_eq_none (h : (s.calls i).attempt?.isSome)
    {schedule : List (ι × Except String Unit)}
    (hturns : 3 ≤ schedule.countP fun turn => decide (turn.1 = i)) :
    ((s.run schedule).calls i).attempt? = none := by
  obtain ⟨c, hc⟩ := Option.isSome_iff_exists.1 h
  obtain ⟨-, hleft⟩ := turnsLeft_run (Call.isClosing_of_attempt? hc) schedule
  have hthree := c.swapsLeft_le s.status
  rw [Call.turnsLeft_of_attempt? hc] at hleft
  -- a call that still had a swap to do would have two turns left
  cases hend : ((s.run schedule).calls i).attempt? with
  | none => rfl
  | some next =>
    have hpos := next.swapsLeft_pos (s.run schedule).status
    rw [Call.turnsLeft_of_attempt? hend] at hleft
    omega

/-- Every closing of a run comes to this. -/
theorem closes_run (purposes : ι → Purpose) (schedule : List (ι × Except String Unit)) (i : ι) :
    ((begin purposes).run schedule).Closes i := by
  have hstage := stage_run purposes schedule i
  have hgenuine := genuine_run purposes schedule
  have hsound := sound_run purposes schedule
  have hok : ∀ m ∈ ((begin purposes).run schedule).attempts i, ∀ left,
      m.result? = some (.ok left) ↔ m.found = left ∧ m.enters .closed = true := by
    intro m hm left
    obtain ⟨htrace, -, hattempt⟩ := mem_attempts.1 hm
    exact (hgenuine m htrace).result?_eq_ok_iff hattempt
  exact {
    bounded := hstage.length_attempts_le
    returns := by
      intro hattempt later hturns
      -- what comes later is a run from the beginning too, so the invariant holds of it
      have hlater : ((begin purposes).run schedule).run later =
          (begin purposes).run (schedule ++ later) := List.foldl_append.symm
      have hended := attempt?_run_eq_none hattempt hturns
      have hbegun := begun_run (fun hnone => absurd hnone (Option.isSome_iff_ne_none.1 hattempt))
        later hended
      rw [hlater] at hended hbegun ⊢
      exact (stage_run purposes (schedule ++ later) i).isSome_closed?_iff.2 ⟨hbegun, hended⟩
    returned_iff := hstage.isSome_closed?_iff
    ok_iff := by
      intro left
      constructor
      · intro hclosed
        obtain ⟨m, hm, hresult, -⟩ := hstage.exists_last hclosed
        exact ⟨m, hm, (hok m hm left).1 hresult⟩
      · rintro ⟨m, hm, hswap⟩
        exact hstage.closed?_of_mem hm ((hok m hm left).2 hswap)
    ok_active := by
      intro left hclosed
      obtain ⟨m, -, hresult, -⟩ := hstage.exists_last hclosed
      rcases Move.found_of_result? hresult with ⟨hactive, heq⟩ | ⟨-, heq⟩ <;> cases heq
      generalize m.found = left at hactive
      cases hactive with
      | initialising => exact .inl rfl
      | running => exact .inr rfl
    error_found := by
      intro found hclosed
      obtain ⟨m, hm, hresult, -⟩ := hstage.exists_last hclosed
      rcases Move.found_of_result? hresult with ⟨-, heq⟩ | ⟨hinactive, heq⟩ <;> cases heq
      -- the steps in front of the last swap left the status that it found
      obtain ⟨front, back, hsplit⟩ := List.append_of_mem (mem_attempts.1 hm).1
      exact ⟨Status.not_active_iff.1 hinactive, front, m, back, hsplit, hm,
        (hsound.earned front m back hsplit).found.symm⟩
    settled := by
      intro result hclosed
      obtain ⟨m, hm, -, hsettles⟩ := hstage.exists_last hclosed
      exact ⟨m, hm, hsettles⟩ }

section Close

variable {purposes : ι → Purpose} {schedule : List (ι × Except String Unit)}

/-- **A close is refused** exactly for what its closing has returned. -/
theorem refused_run_iff (hpurpose : purposes i = .close) {found : Status} :
    ((begin purposes).run schedule).calls i = .ended (.refused .close found) ↔
      ((begin purposes).run schedule).closed? i = some (.error found) := by
  have hcloses := closes_run purposes schedule i
  have hcall := calls_begin_close hpurpose
  constructor
  · intro hrefused
    -- the call has begun and ended, so its closing has returned what it says
    have hended : (((begin purposes).run schedule).calls i).attempt? = none := by
      rw [hrefused]
      rfl
    have hbegin : ((begin purposes).calls i).attempt? = none → (begin purposes).attempts i ≠ [] := by
      rw [hcall]
      exact nofun
    obtain ⟨result, hclosed⟩ := Option.isSome_iff_exists.1
      (hcloses.returned_iff.2 ⟨begun_run hbegin schedule hended, hended⟩)
    obtain ⟨m, -, hsettles⟩ := hcloses.settled result hclosed
    rw [hrefused] at hsettles
    rw [hclosed, hsettles.result_of_refused]
  · intro hclosed
    obtain ⟨m, -, hsettles⟩ := hcloses.settled _ hclosed
    exact hsettles.refused_of_error (ofClose_run (hcall ▸ .closing _) schedule)

/-- A close that finds an active service whenever it looks is not refused. -/
theorem not_refused_run (hpurpose : purposes i = .close)
    (hactive : ∀ m ∈ ((begin purposes).run schedule).attempts i, m.found.Active) (found : Status) :
    ((begin purposes).run schedule).calls i ≠ .ended (.refused .close found) := by
  intro hrefused
  obtain ⟨m, hm, hresult, -⟩ :=
    (stage_run purposes schedule i).exists_last ((refused_run_iff hpurpose).1 hrefused)
  rcases Move.found_of_result? hresult with ⟨-, heq⟩ | ⟨hinactive, -⟩
  · cases heq
  · exact hinactive (hactive m hm)

/-- A close has ended after four turns: three swaps and its hook. -/
theorem exists_ended_run (hpurpose : purposes i = .close)
    (hturns : 4 ≤ schedule.countP fun turn => decide (turn.1 = i)) :
    ∃ answer, ((begin purposes).run schedule).calls i = .ended answer := by
  have hcall := calls_begin_close hpurpose
  have hclosing : ((begin purposes).calls i).IsClosing := by
    rw [hcall]
    exact .close _
  obtain ⟨hend, hleft⟩ := turnsLeft_run hclosing schedule
  rw [hcall] at hleft
  have hfour : Call.closing.turnsLeft (begin purposes).status = 4 := rfl
  have hover : (((begin purposes).run schedule).calls i).turnsLeft
      ((begin purposes).run schedule).status = 0 := by omega
  exact hend.exists_ended hover

end Close

/-- **Closing never fails without reason**, in any interleaving with starts, marks and other closes.
The closing of a call does three swaps at most and then returns. It succeeds exactly if a swap of its
own has closed the service, which was active then, and otherwise it is refused for a status that is
not active and that the service had. So a close that finds an active service whenever it looks is not
refused: after four turns at most, three for swaps and one for its hook, it is done. -/
theorem run_closes (purposes : ι → Purpose) (schedule : List (ι × Except String Unit)) (i : ι) :
    ((begin purposes).run schedule).Closes i ∧
    (purposes i = .close →
      (∀ found, ((begin purposes).run schedule).calls i = .ended (.refused .close found) ↔
        ((begin purposes).run schedule).closed? i = some (.error found)) ∧
      ((∀ m ∈ ((begin purposes).run schedule).attempts i, m.found.Active) →
        (∀ found, ((begin purposes).run schedule).calls i ≠ .ended (.refused .close found)) ∧
        (4 ≤ schedule.countP (fun turn => decide (turn.1 = i)) →
          (∀ turn ∈ schedule, turn.1 = i → turn.2 = .ok ()) →
            ((begin purposes).run schedule).calls i = .ended .done))) := by
  refine ⟨closes_run purposes schedule i, fun hpurpose => ⟨fun found => refused_run_iff hpurpose,
    fun hactive => ⟨not_refused_run hpurpose hactive, fun hturns hhook => ?_⟩⟩⟩
  have hcall := calls_begin_close hpurpose
  have hclose : ((begin purposes).calls i).OfClose := hcall ▸ .closing _
  -- it has ended, and of the answers of a close only one is left
  obtain ⟨answer, hended⟩ := exists_ended_run hpurpose hturns
  have hstands := ofClose_run hclose schedule
  rw [hended] at hstands
  cases hstands with
  | done => exact hended
  | hookFailed reason => cases hcall.symm.trans (hookFailed_of_run hclose hhook hended)
  | refused found => exact absurd hended (not_refused_run hpurpose hactive found)

/-- A close that finds the service initialising is overtaken by its worker, and closes it with the
third swap. -/
theorem run_closes_overtaken :
    let purposes (i : Fin 3) : Purpose :=
      if i = 0 then .start else if i = 1 then .close else .mark
    let schedule : List (Fin 3 × Except String Unit) :=
      [(0, .ok ()), (1, .ok ()), (2, .ok ()), (1, .ok ()), (1, .ok ()), (1, .ok ())]
    let s := (begin purposes).run schedule
    purposes 1 = .close ∧ (∀ m ∈ s.attempts 1, m.found.Active) ∧
      (s.attempts 1).length = 3 ∧ s.closed? 1 = some (.ok .running) ∧
      s.calls 1 = .ended .done := by
  intro purposes schedule s
  have hattempts : (s.attempts 1).map Move.found = [.initialising, .running, .running] := by decide
  have hactive : ∀ m ∈ s.attempts 1, m.found.Active := by
    intro m hm
    have hfound := List.mem_map_of_mem (f := Move.found) hm
    rw [hattempts] at hfound
    simp only [List.mem_cons, List.not_mem_nil, or_false] at hfound
    rcases hfound with h | h | h <;> rw [h] <;> constructor
  obtain ⟨-, hclose⟩ := run_closes purposes schedule 1
  refine ⟨rfl, hactive, ?_, by decide, ((hclose rfl).2 hactive).2 (by decide) (by decide)⟩
  rw [← List.length_map (f := Move.found), hattempts]
  rfl

end Scene

end Clamd.Service
