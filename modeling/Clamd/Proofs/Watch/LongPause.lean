import Clamd.Proofs.Watch.Panic

/-!
# Pauses that are too long

A worker reckons when a pause will be over before it begins it, and the clock may be unable to show
that. The pause is then a panic: one that is caught and reported, or one that ends the worker, if the
pause is the one after a report.

* `Instant.after?_ofSeconds` says which whole seconds the clock can show;
* `Trial.turn_pausing` says what a turn comes to that begins a pause;
* `Trial.shown_iff`: the clock can show all pauses up to some time exactly if no run that ends by
  then finds a pause too long. For the one direction every move is looked at, for the other there is
  a rota for each pause that leads a worker straight to it.
-/

namespace Clamd

/-! ### The clock -/

namespace Instant

/-- The whole seconds of a reading. -/
def seconds (now : Instant) : Nat := now.nanos / 1000000000

/-- **A span of whole seconds** can be added to a reading, if the seconds of both fit 64 bits with a
sign. -/
theorem after?_ofSeconds (now : Instant) (n : Nat) :
    now.after? (.ofSeconds n) =
      if now.seconds + n < Word.end63 then some { nanos := now.nanos + n * 1000000000 }
      else none := by
  have hnanos : (Span.ofSeconds n).inNanos = n * 1000000000 := Nat.add_zero _
  have hhorizon : now.nanos + n * 1000000000 < horizon ↔ now.seconds + n < Word.end63 := by
    unfold horizon seconds Word.end63
    omega
  simp only [after?, hnanos, hhorizon]

end Instant

namespace Watch

namespace Pauses

/-- Pauses of whole seconds. -/
def ofSeconds (idle rollover backOff : Nat) : Pauses :=
  { idle := .ofSeconds idle, rollover := .ofSeconds rollover, backOff := .ofSeconds backOff }

variable (idle rollover backOff : Nat)

/-- When a pause of whole seconds will be over. -/
theorem after?_span_ofSeconds (now : Instant) (pause : Pause) :
    now.after? ((ofSeconds idle rollover backOff).span pause) =
      let n := ((ofSeconds idle rollover backOff).span pause).seconds
      if now.seconds + n < Word.end63 then some { nanos := now.nanos + n * 1000000000 }
      else none := by
  cases pause <;> exact now.after?_ofSeconds _

end Pauses

namespace Trial

variable {Folder ρ : Type} {cycler : FaultyCycler Folder ρ} {pauses : Pauses}
  {t : Trial Folder ρ} {m : Moment} {pause : Pause}

/-! ### A turn that begins a pause -/

/-- **A turn that begins a pause** depends on the clock alone. -/
theorem turn_pausing (cycler : FaultyCycler Folder ρ) (pauses : Pauses) (m : Moment)
    (hpoint : t.point = .pausing pause) :
    let deadline := (t.later m).after? (pauses.span pause)
    (t.turn cycler pauses m).log = t.log ++ [.reckoned (pauses.span pause) deadline] ∧
      (t.turn cycler pauses m).point = deadline.elim (.afterPanicIn pause) (.dozing pause) := by
  rcases hdeadline : (t.later m).after? (pauses.span pause) with _ | deadline
  all_goals
    rw [turn_eq, Scene.turn_eq, hpoint]
    simp only [Point.move, hdeadline]
    exact ⟨rfl, rfl⟩

/-- **A turn that begins a pause that is too long** leads where a panic in that pause does. -/
theorem turn_of_long (cycler : FaultyCycler Folder ρ) (hpoint : t.point = .pausing pause)
    (hlong : (t.later m).after? (pauses.span pause) = none) :
    (t.turn cycler pauses m).log = t.log ++ [.reckoned (pauses.span pause) none] ∧
      (t.turn cycler pauses m).point = .afterPanicIn pause := by
  obtain ⟨hlog, hturn⟩ := turn_pausing cycler pauses m hpoint
  rw [hlong] at hlog hturn
  exact ⟨hlog, hturn⟩

/-! ### Runs without pauses that are too long -/

/-- No pause was too long so far. -/
def InTime (t : Trial Folder ρ) : Prop :=
  ∀ span, .reckoned span none ∉ t.log

/-- **A turn at which the clock can show all pauses** finds none of them too long. -/
theorem InTime.turn (ht : t.InTime) (hshown : ∀ pause, pauses.Shown pause (t.later m)) :
    (t.turn cycler pauses m).InTime := by
  intro span
  rcases turn_cases cycler pauses t m with ⟨-, hturn⟩ | ⟨h, hmoves, -⟩ | hbroken
  · rw [hturn]
    exact ht span
  · rw [hmoves.log, List.mem_append, List.mem_singleton, not_or]
    refine ⟨ht span, ?_⟩
    rintro rfl
    obtain ⟨pause, rfl⟩ := hmoves.rule.span_of_reckoned
    exact hmoves.not_shown (hmoves.now ▸ hshown pause)
  · rw [hbroken.log]
    exact ht span

theorem InTime.run {moments : List Moment} (ht : t.InTime)
    (hshown : ∀ pause, pauses.Shown pause (t.run cycler pauses moments).now) :
    (t.run cycler pauses moments).InTime :=
  run_induction (fun _ _ hlimit ht => ht.turn fun pause => (hshown pause).of_le hlimit)
    (Nat.le_refl _) ht

/-! ### Runs that lead to a pause -/

/-- A rota that leads a worker to a pause: it is empty, or gives out nothing, or has one folder. -/
def leading (pause : Pause) : FaultyCycler String Unit where
  refresh rota := (.returned (.ok ()), rota)
  isEmpty rota := (.returned (pause == .idle), rota)
  next rota := (.returned (if pause = .backOff then none else some "folder"), rota)
  isLast rota := (.returned true, rota)

/-- The turns that it takes to get there. -/
def turnsTo : Pause → Nat
  | .idle => 4
  | .backOff => 6
  | .rollover => 7

theorem run_leading (pauses : Pauses) (pause : Pause) :
    ((begin "watch" ()).run (leading pause) pauses (List.replicate (turnsTo pause) {})).point =
        .pausing pause ∧
      ((begin "watch" ()).run (leading pause) pauses (List.replicate (turnsTo pause) {})).now =
        {} := by
  cases pause <;> exact ⟨rfl, rfl⟩

/-- **A pause that is too long at some time** is found to be too long by some worker at that time. -/
theorem exists_long (pauses : Pauses) (pause : Pause) {limit : Instant}
    (hlong : limit.after? (pauses.span pause) = none) :
    ∃ moments, ((begin "watch" ()).run (leading pause) pauses moments).now = limit ∧
      .reckoned (pauses.span pause) none ∈
        ((begin "watch" ()).run (leading pause) pauses moments).log := by
  obtain ⟨hpoint, hnow⟩ := run_leading pauses pause
  let t := (begin "watch" ()).run (leading pause) pauses (List.replicate (turnsTo pause) {})
  -- the turn after these takes the clock from its start to the limit
  have hlater : t.later { elapsed := limit.nanos } = limit := by
    rw [Scene.later, hnow, Nat.zero_add]
  have hlong' : (t.later { elapsed := limit.nanos }).after? (pauses.span pause) = none := by
    rw [hlater]
    exact hlong
  obtain ⟨hlog, -⟩ := turn_of_long (leading pause) hpoint hlong'
  have hrun : (begin "watch" ()).run (leading pause) pauses
      (List.replicate (turnsTo pause) ({} : Moment) ++ [{ elapsed := limit.nanos }]) =
        t.turn (leading pause) pauses { elapsed := limit.nanos } := List.foldl_concat ..
  refine ⟨List.replicate (turnsTo pause) ({} : Moment) ++ [{ elapsed := limit.nanos }], ?_⟩
  rw [hrun, now_turn, hlog]
  exact ⟨hlater, List.mem_append_right _ (List.mem_singleton.2 rfl)⟩

/-! ### All runs -/

/-- **The pauses that no worker finds too long.** The clock can show at the time `limit` when each
pause will be over, exactly if no worker finds a pause too long in a run that ends by then, whatever
its rota and its listeners do and whenever its service is closed. -/
theorem shown_iff (pauses : Pauses) (limit : Instant) :
    (∀ pause, pauses.Shown pause limit) ↔
      ∀ (Folder ρ : Type) (cycler : FaultyCycler Folder ρ) (name : String) (rota : ρ)
        (before after : List Moment),
        let u := ((begin name rota).run cycler pauses before).close.run cycler pauses after
        u.now.nanos ≤ limit.nanos → u.InTime := by
  constructor
  · intro hshown Folder ρ cycler name rota before after u hlimit
    -- what the clock can show at the end it could show all along
    have hafter : ∀ pause, pauses.Shown pause u.now := fun pause => (hshown pause).of_le hlimit
    have hbefore : ((begin name rota).run cycler pauses before).InTime :=
      InTime.run (fun _ => List.not_mem_nil) fun pause =>
        (hafter pause).of_le (now_run (Trial.close _) after)
    exact InTime.run (t := Trial.close _) hbefore hafter
  · intro hruns pause
    -- otherwise some rota leads a worker to this pause at that very time
    by_contra hnone
    rw [Pauses.Shown, Option.not_isSome_iff_eq_none] at hnone
    obtain ⟨moments, hnow, hlong⟩ := exists_long pauses pause hnone
    have hintime := hruns String Unit (leading pause) "watch" () moments []
    exact hintime (Nat.le_of_eq (congrArg Instant.nanos hnow)) _ hlong

end Trial

end Watch

end Clamd
