import Clamd.Proofs.Service.Scene
import Mathlib.Data.List.Perm.Subperm

/-!
# The life of a service under interleaving

Whatever calls are made on a service and however their steps are interleaved, the service is started
once and closed once, and its hooks are run by the calls that did so.

* `Scene.Sound` is the invariant: what has been done so far agrees with where the calls and the
  status stand. The status never goes back (`entered`), and each hook that became due has been run
  or is still due (`booked`).
* `Scene.Sound.step`: each step keeps the invariant.
* `Scene.Safe` is what follows for whoever uses the service, and `Scene.run_safe` says that it holds
  after any schedule.
-/

namespace Clamd.Service

variable {ι : Type}

namespace Move

/-- The status that some steps leave behind. -/
def statusAfter (trace : List (Move ι)) : Status :=
  (trace.getLast?.map Move.left).getD .created

/-- A step is earned if the steps before it are those that it needs. -/
structure Earned (m : Move ι) (front : List (Move ι)) : Prop where
  /-- It finds what they left behind. -/
  found : m.found = statusAfter front
  /-- The hook of a close is run only after a start has claimed the service. -/
  close_hook : m.runs .close = true → ∃ w ∈ front, w.wins = true
  /-- A start gives up only after its own hook has failed. -/
  abandon : ∀ reason c, m.before = .abandon reason c →
    ∃ h ∈ front, h.caller = m.caller ∧ h.FailsStart reason

end Move

namespace Scene

variable [DecidableEq ι]

/-! ### The invariant -/

/-- The steps taken so far agree with where the calls and the status stand. -/
structure Sound (s : Scene ι) : Prop where
  /-- The status is what the steps left behind. -/
  status : s.status = Move.statusAfter s.trace
  /-- Each step follows one of the rules. -/
  rules : ∀ m ∈ s.trace, Call.Rule m.before m.found m.after m.left
  /-- No status has been entered twice, and none that lies ahead has been entered. -/
  entered : ∀ status, s.trace.countP (Move.enters status) ≤
    if status.rank ≤ s.status.rank then 1 else 0
  /-- A service that has left its first status was claimed by a start. -/
  won : s.status ≠ .created → ∃ m ∈ s.trace, m.wins = true
  /-- Each hook that became due has been run by its call, or is still due. -/
  booked : ∀ i operation, (s.callers (Move.runs operation)).count i +
    (if (s.calls i).hook? = some operation then 1 else 0) =
      (s.callers (Move.claims operation)).count i
  /-- The hook of a start that gives up has failed. -/
  failed : ∀ i reason c, s.calls i = .abandon reason c →
    ∃ m ∈ s.trace, m.caller = i ∧ m.FailsStart reason
  /-- A start that has reported a failed hook leaves a closed service. -/
  forsaken : ∀ i reason, s.calls i = .ended (.hookFailed .start reason) → s.status = .closed
  /-- A harmless call has changed nothing and run no hook. -/
  harmless : ∀ i, (s.calls i).Harmless →
    ∀ m ∈ s.trace, m.caller = i → m.found = m.left ∧ m.before.hook? = none
  /-- The steps come in an order that they allow. -/
  earned : ∀ front m back, s.trace = front ++ m :: back → m.Earned front

/-! ### What the invariant says of hooks -/

namespace Sound

variable {s : Scene ι} {i : ι} {operation : Operation}

/-- **A hook has been run or is due** exactly for the calls for which it became due. -/
theorem run_or_due_iff (h : s.Sound) :
    ((∃ m ∈ s.trace, m.caller = i ∧ m.runs operation = true) ∨
        (s.calls i).hook? = some operation) ↔
      ∃ m ∈ s.trace, m.caller = i ∧ m.claims operation = true := by
  have hbooked := h.booked i operation
  rw [← mem_callers, ← mem_callers, ← List.count_pos_iff, ← List.count_pos_iff, ← hbooked]
  split
  next hdue => simp [hdue]
  next hdue => simp [hdue]

/-- A hook is not run more often than it became due. -/
theorem countP_runs_le (h : s.Sound) :
    s.trace.countP (Move.runs operation) ≤ s.trace.countP (Move.claims operation) := by
  -- no call runs the hook more often than it became due for this call
  rw [← length_callers, ← length_callers]
  refine List.Subperm.length_le (List.subperm_iff_count.2 fun i => ?_)
  have hbooked := h.booked i operation
  omega

/-- A status that has been entered does not lie ahead. -/
theorem rank_le (h : s.Sound) {m : Move ι} {status : Status} (hm : m ∈ s.trace)
    (henters : m.enters status = true) : status.rank ≤ s.status.rank := by
  have hpos : 0 < s.trace.countP (Move.enters status) := List.countP_pos_iff.2 ⟨m, hm, henters⟩
  have hentered := h.entered status
  split at hentered
  next hle => exact hle
  next => omega

/-- The hook of a start became due by claiming the created service. -/
theorem claims_start_iff (h : s.Sound) {m : Move ι} (hm : m ∈ s.trace) :
    m.claims .start = true ↔ m.wins = true := by
  rw [Move.claims_iff, Move.wins_iff]
  constructor
  · intro hdue
    obtain ⟨hbefore, hafter, -⟩ := (h.rules m hm).of_start_due hdue
    exact ⟨hbefore, hafter⟩
  · rintro ⟨-, hafter⟩
    rw [hafter]
    rfl

/-- A start that wins enters the second status. -/
theorem enters_of_wins (h : s.Sound) {m : Move ι} (hm : m ∈ s.trace) (hwins : m.wins = true) :
    m.enters .initialising = true := by
  have hdue := Move.claims_iff.1 ((h.claims_start_iff hm).2 hwins)
  obtain ⟨-, -, hfound, hleft⟩ := (h.rules m hm).of_start_due hdue
  refine Move.enters_iff.2 ⟨?_, hleft⟩
  rw [hfound]
  decide

/-- The hook of a close became due by closing the service. -/
theorem claims_close_iff (h : s.Sound) {m : Move ι} (hm : m ∈ s.trace) :
    m.claims .close = true ↔ m.enters .closed = true ∧ ∃ c, m.before = .close c := by
  constructor
  · intro hclaims
    obtain ⟨hbefore, -, hactive, hleft⟩ := (h.rules m hm).of_close_due (Move.claims_iff.1 hclaims)
    refine ⟨Move.enters_iff.2 ⟨?_, hleft⟩, hbefore⟩
    intro hfound
    rw [hfound] at hactive
    cases hactive
  · rintro ⟨henters, c, hbefore⟩
    obtain ⟨hfound, hleft⟩ := Move.enters_iff.1 henters
    have hrule := h.rules m hm
    rw [hleft] at hrule
    rcases hrule.of_enters_closed hfound with ⟨-, hafter⟩ | ⟨reason, c', habandon, -⟩
    · rw [Move.claims_iff, hafter]
      rfl
    · -- a start that gives up is not a close
      rw [hbefore] at habandon
      cases habandon

/-- Once a hook is due or has been run, the service is not in its first status. -/
theorem status_ne_created (h : s.Sound) (operation : Operation)
    (hhook : (∃ m ∈ s.trace, m.caller = i ∧ m.runs operation = true) ∨
      (s.calls i).hook? = some operation) : s.status ≠ .created := by
  obtain ⟨m, hm, -, hclaims⟩ := h.run_or_due_iff.1 hhook
  intro hcreated
  cases operation with
  | start =>
    have hrank := h.rank_le hm (h.enters_of_wins hm ((h.claims_start_iff hm).1 hclaims))
    rw [hcreated] at hrank
    exact absurd hrank (by decide)
  | close =>
    have hrank := h.rank_le hm ((h.claims_close_iff hm).1 hclaims).1
    rw [hcreated] at hrank
    exact absurd hrank (by decide)

/-- A start gives up only on a service that has left its first status. -/
theorem status_ne_created_of_abandon (h : s.Sound) {reason : String} {c : Closing}
    (hcall : s.calls i = .abandon reason c) : s.status ≠ .created := by
  obtain ⟨m, hm, hcaller, hbefore, -⟩ := h.failed i reason c hcall
  refine h.status_ne_created .start (.inl ⟨m, hm, hcaller, ?_⟩)
  rw [Move.runs_iff, hbefore]
  rfl

/-! ### Each step keeps the invariant -/

variable (s i) (outcome : Except String Unit)

theorem entered_step (h : s.Sound) (status : Status) :
    (s.step i outcome).trace.countP (Move.enters status) ≤
      if status.rank ≤ (s.step i outcome).status.rank then 1 else 0 := by
  have hentered := h.entered status
  rw [trace_step, status_step, List.countP_append, List.countP_singleton]
  rcases (s.rule_move i outcome).status_next with hsame | hnext
  · -- nothing is entered, and the status stays
    have hnot : ¬ (s.move i outcome).enters status = true := by
      rw [Move.enters_iff]
      rintro ⟨hfound, hleft⟩
      exact hfound (hsame.trans hleft)
    rw [if_neg hnot, ← hsame]
    exact hentered
  · -- one status is entered, which is ahead of the one that was found
    have hlt := hnext.rank_lt
    by_cases hstatus : (s.move i outcome).left = status
    · -- it lay ahead, so it had not been entered
      rw [hstatus] at hlt
      rw [if_neg (Nat.not_le.2 hlt)] at hentered
      rw [hstatus, if_pos (Nat.le_refl _)]
      split <;> omega
    · have hnot : ¬ (s.move i outcome).enters status = true := by
        rw [Move.enters_iff]
        exact fun henters => hstatus henters.2
      rw [if_neg hnot]
      split at hentered
      next hle =>
        rw [if_pos (Nat.le_trans hle (Nat.le_of_lt hlt))]
        exact hentered
      next => exact Nat.le_trans hentered (Nat.zero_le _)

theorem won_step (h : s.Sound) (hstatus : (s.step i outcome).status ≠ .created) :
    ∃ m ∈ (s.step i outcome).trace, m.wins = true := by
  rw [trace_step]
  by_cases hcreated : s.status = .created
  · -- the service leaves its first status with this step
    have hrule := s.rule_move i outcome
    rw [hcreated] at hrule
    have hwins : (s.move i outcome).wins = true :=
      Move.wins_iff.2 (hrule.of_leaves_created hstatus)
    exact ⟨s.move i outcome, List.mem_append_right _ (List.mem_singleton_self _), hwins⟩
  · obtain ⟨m, hm, hwins⟩ := h.won hcreated
    exact ⟨m, List.mem_append_left _ hm, hwins⟩

/-- The books are kept for each call: a turn changes those of its own call only, and there the hook
that was due is now run. -/
theorem booked_step (h : s.Sound) (j : ι) (operation : Operation) :
    ((s.step i outcome).callers (Move.runs operation)).count j +
      (if ((s.step i outcome).calls j).hook? = some operation then 1 else 0) =
        ((s.step i outcome).callers (Move.claims operation)).count j := by
  have hbooked := h.booked j operation
  rw [callers_step, callers_step, List.count_append, List.count_append]
  by_cases hj : j = i
  · subst hj
    -- what was due is run, and what is claimed is due
    have hself : ∀ b : Bool,
        (if b = true then [j] else []).count j = if b = true then 1 else 0 := by
      intro b
      cases b <;> simp
    have hruns : (s.move j outcome).runs operation = true ↔ (s.calls j).hook? = some operation :=
      Move.runs_iff
    rw [calls_step_self, hself, hself]
    simp only [hruns, Move.claims_iff]
    rw [hbooked]
  · have hother : ∀ b : Bool, (if b = true then [i] else []).count j = 0 := by
      intro b
      cases b <;> simp [Ne.symm hj]
    rw [calls_step_of_ne s i outcome hj, hother, hother]
    exact hbooked

theorem failed_step (h : s.Sound) (j : ι) (reason : String) (c : Closing)
    (hcall : (s.step i outcome).calls j = .abandon reason c) :
    ∃ m ∈ (s.step i outcome).trace, m.caller = j ∧ m.FailsStart reason := by
  rw [trace_step]
  have hold : ∀ c', s.calls j = .abandon reason c' →
      ∃ m ∈ s.trace ++ [s.move i outcome], m.caller = j ∧ m.FailsStart reason := by
    intro c' hc'
    obtain ⟨m, hm, hmove⟩ := h.failed j reason c' hc'
    exact ⟨m, List.mem_append_left _ hm, hmove⟩
  by_cases hj : j = i
  · subst hj
    rw [calls_step_self] at hcall
    have hrule := s.rule_move j outcome
    rw [hcall] at hrule
    rcases hrule.of_abandon with ⟨hbefore, hc⟩ | ⟨c', hc'⟩
    · rw [hc] at hcall
      exact ⟨s.move j outcome, List.mem_append_right _ (List.mem_singleton_self _), rfl, hbefore,
        hcall⟩
    · exact hold c' hc'
  · rw [calls_step_of_ne s i outcome hj] at hcall
    exact hold c hcall

theorem forsaken_step (h : s.Sound) (j : ι) (reason : String)
    (hcall : (s.step i outcome).calls j = .ended (.hookFailed .start reason)) :
    (s.step i outcome).status = .closed := by
  have hrule := s.rule_move i outcome
  -- nothing moves a service that has been closed
  have hstays : s.status = .closed → (s.move i outcome).left = .closed := by
    intro hclosed
    rw [hclosed] at hrule
    rcases hrule.status_next with hsame | hnext
    · exact hsame.symm
    · cases hnext
  rw [status_step]
  by_cases hj : j = i
  · subst hj
    rw [calls_step_self] at hcall
    rw [hcall] at hrule
    rcases hrule.of_hookFailed with ⟨⟨c, hc⟩, hcreated | hclosed⟩ | ⟨hbefore, -⟩
    · -- a service whose start gives up was claimed before
      exact absurd hcreated (h.status_ne_created_of_abandon hc)
    · exact hclosed
    · exact hstays (h.forsaken j reason hbefore)
  · rw [calls_step_of_ne s i outcome hj] at hcall
    exact hstays (h.forsaken j reason hcall)

theorem harmless_step (h : s.Sound) (j : ι) (hharmless : ((s.step i outcome).calls j).Harmless)
    (m : Move ι) (hm : m ∈ (s.step i outcome).trace) (hcaller : m.caller = j) :
    m.found = m.left ∧ m.before.hook? = none := by
  rw [trace_step] at hm
  by_cases hj : j = i
  · subst hj
    rw [calls_step_self] at hharmless
    obtain ⟨hbefore, hstatus, hhook⟩ := (s.rule_move j outcome).of_harmless hharmless
    rcases List.mem_append.1 hm with hold | hnew
    · exact h.harmless j hbefore m hold hcaller
    · rw [List.mem_singleton.1 hnew]
      exact ⟨hstatus, hhook⟩
  · rw [calls_step_of_ne s i outcome hj] at hharmless
    rcases List.mem_append.1 hm with hold | hnew
    · exact h.harmless j hharmless m hold hcaller
    · rw [List.mem_singleton.1 hnew] at hcaller
      exact absurd hcaller.symm hj

theorem earned_move (h : s.Sound) : (s.move i outcome).Earned s.trace where
  found := h.status
  close_hook := by
    intro hruns
    exact h.won (h.status_ne_created .close (.inr (Move.runs_iff.1 hruns)))
  abandon := fun reason c hc => h.failed i reason c hc

theorem earned_step (h : s.Sound) (front : List (Move ι)) (m : Move ι) (back : List (Move ι))
    (hsplit : (s.step i outcome).trace = front ++ m :: back) : m.Earned front := by
  rw [trace_step] at hsplit
  rcases List.eq_nil_or_concat back with rfl | ⟨back', last, rfl⟩
  · -- the step is the last one
    obtain ⟨hfront, hm⟩ := List.append_inj' hsplit rfl
    rw [← hfront, ← List.singleton_inj.1 hm]
    exact h.earned_move s i outcome
  · rw [List.concat_eq_append, ← List.cons_append, ← List.append_assoc] at hsplit
    exact h.earned front m back' (List.append_inj' hsplit rfl).1

/-- **Each step keeps the invariant.** -/
theorem step (h : s.Sound) : (s.step i outcome).Sound where
  status := by
    rw [trace_step, Move.statusAfter, List.getLast?_concat]
    rfl
  rules := by
    intro m hm
    rcases List.mem_append.1 hm with hold | hnew
    · exact h.rules m hold
    · rw [List.mem_singleton.1 hnew]
      exact s.rule_move i outcome
  entered := h.entered_step s i outcome
  won := h.won_step s i outcome
  booked := h.booked_step s i outcome
  failed := h.failed_step s i outcome
  forsaken := h.forsaken_step s i outcome
  harmless := h.harmless_step s i outcome
  earned := h.earned_step s i outcome

end Sound

/-- The calls before their first step agree with a service that has not been started. -/
theorem sound_begin (purposes : ι → Purpose) : (begin purposes).Sound where
  status := rfl
  rules := by
    intro m hm
    cases hm
  entered := fun status => Nat.zero_le _
  won := fun hstatus => absurd rfl hstatus
  booked := by
    intro i operation
    have hnone : ((begin purposes).calls i).hook? = none := by
      show (purposes i).call.hook? = none
      cases purposes i <;> rfl
    rw [hnone]
    rfl
  failed := by
    intro i reason c hcall
    change (purposes i).call = _ at hcall
    cases hpurpose : purposes i <;> rw [hpurpose] at hcall <;> cases hcall
  forsaken := by
    intro i reason hcall
    change (purposes i).call = _ at hcall
    cases hpurpose : purposes i <;> rw [hpurpose] at hcall <;> cases hcall
  harmless := by
    intro i _ m hm
    cases hm
  earned := by
    intro front m back hsplit
    cases front <;> cases hsplit

/-- **The invariant holds after any schedule.** -/
theorem sound_run (purposes : ι → Purpose) (schedule : List (ι × Except String Unit)) :
    ((begin purposes).run schedule).Sound :=
  run_induction (sound_begin purposes) (fun s i outcome h => h.step s i outcome) schedule

/-! ### Safety -/

/-- **What holds of a service whatever calls are made on it**, however they are interleaved and
whatever their hooks come to. -/
structure Safe (s : Scene ι) : Prop where
  /-- Each step finds the status that the steps before it left behind. -/
  linked : ∀ front m back, s.trace = front ++ m :: back → m.found = Move.statusAfter front
  /-- A step leaves the status as it found it, or makes one of the four moves. -/
  moves : ∀ m ∈ s.trace, m.found = m.left ∨ m.found.Next m.left
  /-- No status is entered twice. In particular one call at most closes the service. -/
  entered_once : ∀ status, s.trace.countP (Move.enters status) ≤ 1
  /-- The first status is never entered again. -/
  created_not_entered : s.trace.countP (Move.enters .created) = 0
  /-- A closed service stays closed. -/
  closed_final : ∀ m ∈ s.trace, m.found = .closed → m.left = .closed
  /-- One start at most finds the created service. -/
  start_once : s.trace.countP Move.wins ≤ 1
  /-- The hook of a start is run once at most. -/
  start_hook_once : s.trace.countP (Move.runs .start) ≤ 1
  /-- The hook of a start is run, or due, exactly for the start that found the created service. -/
  start_hook_iff : ∀ i, ((∃ m ∈ s.trace, m.caller = i ∧ m.runs .start = true) ∨
      (s.calls i).hook? = some .start) ↔ ∃ m ∈ s.trace, m.caller = i ∧ m.wins = true
  /-- The service is closed by a close, or by a start whose own hook has failed before. -/
  closed_by : ∀ front m back, s.trace = front ++ m :: back → m.enters .closed = true →
    (∃ c, m.before = .close c) ∨
      ∃ reason c, m.before = .abandon reason c ∧
        ∃ h ∈ front, h.caller = m.caller ∧ h.FailsStart reason
  /-- The hook of a close is run once at most. -/
  close_hook_once : s.trace.countP (Move.runs .close) ≤ 1
  /-- The hook of a close is run, or due, exactly for the close that closed the service. -/
  close_hook_iff : ∀ i, ((∃ m ∈ s.trace, m.caller = i ∧ m.runs .close = true) ∨
      (s.calls i).hook? = some .close) ↔
    ∃ m ∈ s.trace, m.caller = i ∧ m.enters .closed = true ∧ ∃ c, m.before = .close c
  /-- The hook of a close is not run before a start has found the created service. -/
  close_hook_after : ∀ front m back, s.trace = front ++ m :: back → m.runs .close = true →
    ∃ w ∈ front, w.wins = true
  /-- A start that reports a failed hook leaves a closed service. -/
  failed_start_closed : ∀ i reason,
    s.calls i = .ended (.hookFailed .start reason) → s.status = .closed
  /-- A call that is refused has changed nothing and run no hook. -/
  refused_harmless : ∀ i operation found, s.calls i = .ended (.refused operation found) →
    ∀ m ∈ s.trace, m.caller = i → m.found = m.left ∧ m.before.hook? = none

namespace Sound

variable {s : Scene ι}

theorem entered_le_one (h : s.Sound) (status : Status) :
    s.trace.countP (Move.enters status) ≤ 1 := by
  have hentered := h.entered status
  split at hentered <;> omega

/-- What implies that a status is entered is done once at most. -/
theorem countP_le_one (h : s.Sound) {kind : Move ι → Bool} (status : Status)
    (hkind : ∀ m ∈ s.trace, kind m = true → m.enters status = true) :
    s.trace.countP kind ≤ 1 :=
  Nat.le_trans (List.countP_mono_left hkind) (h.entered_le_one status)

theorem closed_by (h : s.Sound) {front : List (Move ι)} {m : Move ι} {back : List (Move ι)}
    (hsplit : s.trace = front ++ m :: back) (henters : m.enters .closed = true) :
    (∃ c, m.before = .close c) ∨
      ∃ reason c, m.before = .abandon reason c ∧
        ∃ h ∈ front, h.caller = m.caller ∧ h.FailsStart reason := by
  obtain ⟨hfound, hleft⟩ := Move.enters_iff.1 henters
  have hrule := h.rules m (by rw [hsplit]; exact List.mem_append_right _ List.mem_cons_self)
  rw [hleft] at hrule
  rcases hrule.of_enters_closed hfound with ⟨hclose, -⟩ | ⟨reason, c, hbefore, -⟩
  · exact .inl hclose
  · exact .inr ⟨reason, c, hbefore, (h.earned front m back hsplit).abandon reason c hbefore⟩

/-- **The invariant makes a service safe.** -/
theorem safe (h : s.Sound) : s.Safe where
  linked := fun front m back hsplit => (h.earned front m back hsplit).found
  moves := fun m hm => (h.rules m hm).status_next
  entered_once := h.entered_le_one
  created_not_entered := by
    rw [List.countP_eq_zero]
    intro m hm henters
    obtain ⟨hfound, hleft⟩ := Move.enters_iff.1 henters
    rcases (h.rules m hm).status_next with hsame | hnext
    · exact hfound (hsame.trans hleft)
    · rw [hleft] at hnext
      exact absurd hnext.rank_lt (Nat.not_lt_zero _)
  closed_final := by
    intro m hm hfound
    rcases (h.rules m hm).status_next with hsame | hnext
    · exact hsame ▸ hfound
    · rw [hfound] at hnext
      cases hnext
  start_once := h.countP_le_one .initialising fun m hm => h.enters_of_wins hm
  start_hook_once := Nat.le_trans h.countP_runs_le
    (h.countP_le_one .initialising fun m hm hclaims =>
      h.enters_of_wins hm ((h.claims_start_iff hm).1 hclaims))
  start_hook_iff := by
    intro i
    rw [h.run_or_due_iff]
    refine exists_congr fun m => and_congr_right fun hm => and_congr_right fun _ => ?_
    exact h.claims_start_iff hm
  closed_by := fun front m back => h.closed_by
  close_hook_once := Nat.le_trans h.countP_runs_le
    (h.countP_le_one .closed fun m hm hclaims => ((h.claims_close_iff hm).1 hclaims).1)
  close_hook_iff := by
    intro i
    rw [h.run_or_due_iff]
    refine exists_congr fun m => and_congr_right fun hm => and_congr_right fun _ => ?_
    exact h.claims_close_iff hm
  close_hook_after := fun front m back hsplit => (h.earned front m back hsplit).close_hook
  failed_start_closed := h.forsaken
  refused_harmless := by
    intro i operation found hcall
    refine h.harmless i ?_
    rw [hcall]
    exact .refused operation found

end Sound

/-- **Every interleaving is safe.** For any number of starts, closes and marks on one service, any
order of their steps and any outcomes of their hooks. -/
theorem run_safe (purposes : ι → Purpose) (schedule : List (ι × Except String Unit)) :
    ((begin purposes).run schedule).Safe :=
  (sound_run purposes schedule).safe

/-- A mark comes between two swaps of a close, which has to try again, and the hook of the start
fails when the service is closed already. -/
example :
    let purposes (i : Fin 3) : Purpose :=
      if i = 0 then .start else if i = 1 then .close else .mark
    let s := (begin purposes).run [(0, .ok ()), (1, .ok ()), (2, .ok ()), (1, .ok ()), (1, .ok ()),
      (0, .error "down"), (0, .ok ())]
    s.status = .closed ∧ s.calls 1 = .closeHook ∧
      s.calls 0 = .ended (.hookFailed .start "down") := by
  decide

end Scene

end Clamd.Service
