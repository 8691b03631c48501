import Clamd.Proofs.Watch.Step
import Clamd.Service
import Clamd.Watch.Surroundings
import Mathlib.Data.List.Induction

/-!
# A worker among others

The worker of a service takes turns with the rest of the world. At each turn some time has gone by,
and the worker makes one move; between two turns the service may be closed. A scene keeps where the
worker stands, the service, the clock and the rota, and all that the worker has done.

* `Cycler` is any rota whose calls return;
* `Pauses.Shown`: the clock can show when a pause will be over;
* `Scene.turn` is one move of the worker, and `Scene.turn_cases` says which move it may be: one of
  the rules, as the service, the clock and the rota answer;
* `Scene.run_induction`: what is kept by each turn is kept by every run.
-/

namespace Clamd

/-- A reading of the clock that is not too late for a span is not too late any earlier. -/
theorem Instant.isSome_after?_of_le {now later : Instant} {span : Span}
    (hle : now.nanos ≤ later.nanos) (h : (later.after? span).isSome) :
    (now.after? span).isSome := by
  rw [after?, Option.isSome_ite] at h ⊢
  omega

/-- A service that is initialising is marked as running. -/
theorem Service.markRunning_of_initialising {service : Service}
    (h : service.status = .initialising) :
    service.markRunning = (true, { service with status := .running }) := by
  obtain ⟨name, status⟩ := service
  cases h
  rfl

namespace Watch

/-- The clock can show when a pause that begins now will be over. -/
def Pauses.Shown (pauses : Pauses) (pause : Pause) (now : Instant) : Prop :=
  (now.after? (pauses.span pause)).isSome

instance (pauses : Pauses) (pause : Pause) (now : Instant) : Decidable (pauses.Shown pause now) :=
  inferInstanceAs (Decidable ((now.after? (pauses.span pause)).isSome = true))

theorem Pauses.Shown.of_le {pauses : Pauses} {pause : Pause} {now later : Instant}
    (h : pauses.Shown pause later) (hle : now.nanos ≤ later.nanos) : pauses.Shown pause now :=
  Instant.isSome_after?_of_le hle h

/-- A rota as a worker meets it, with what each call comes to. None of the calls panics. -/
structure Cycler (Folder ρ : Type) where
  /-- A look at the root. -/
  refresh : ρ → Except Fault Unit × ρ
  /-- Whether there are no folders. -/
  isEmpty : ρ → Bool × ρ
  /-- The next folder. -/
  next : ρ → Option Folder × ρ
  /-- Whether the folder given out last ends the round. -/
  isLast : ρ → Bool × ρ

/-- What a turn meets. -/
structure Moment where
  /-- The nanoseconds that have gone by since the turn before. -/
  elapsed : Nat := 0
  /-- What becomes of a listener that is called. -/
  heard : Outcome Unit := .returned ()

/-- A worker at some time. -/
structure Scene (Folder ρ : Type) where
  /-- Where it stands. -/
  point : Point Folder := .entering
  /-- Its service. -/
  service : Service
  /-- The clock. -/
  now : Instant := {}
  /-- The rota. -/
  rota : ρ
  /-- What the worker has done. -/
  log : List (Happening Folder) := []

namespace Scene

variable {Folder ρ : Type}

/-- The worker of a service that has been started. -/
def begin (name : String) (rota : ρ) : Scene Folder ρ :=
  { service := { name, status := .initialising }, rota }

/-- Adds to what the worker has done. -/
def note (s : Scene Folder ρ) (h : Happening Folder) : Scene Folder ρ :=
  { s with log := s.log ++ [h] }

/-- What the worker finds around it. -/
def surroundings (cycler : Cycler Folder ρ) (heard : Outcome Unit) :
    Surroundings Folder (StateM (Scene Folder ρ)) where
  enter := fun s =>
    let (running, service) := s.service.markRunning
    (running, { s with service }.note (.entered running))
  isRunning := fun s => (s.service.isRunning, s.note (.checked s.service.isRunning))
  reckon span := fun s =>
    let deadline := s.now.after? span
    (deadline, s.note (.reckoned span deadline))
  wait deadline := fun s =>
    let reached := decide (deadline.nanos ≤ s.now.nanos)
    (reached, s.note (.waited deadline reached))
  refresh := fun s =>
    let (result, rota) := cycler.refresh s.rota
    (.returned result, { s with rota }.note (.refreshed result))
  isEmpty := fun s =>
    let (empty, rota) := cycler.isEmpty s.rota
    (.returned empty, { s with rota }.note (.askedEmpty empty))
  next := fun s =>
    let (folder, rota) := cycler.next s.rota
    (.returned folder, { s with rota }.note (.given folder))
  isLast := fun s =>
    let (last, rota) := cycler.isLast s.rota
    (.returned last, { s with rota }.note (.askedLast last))
  announce folder := fun s => ((), s.note (.announced folder heard))
  report trouble := fun s => ((), s.note (.reported trouble heard))
  goodbye := fun s => ((), s.note (.goodbye heard))

/-- The clock after some time. -/
def later (s : Scene Folder ρ) (m : Moment) : Instant :=
  { nanos := s.now.nanos + m.elapsed }

/-- A turn of the worker. -/
def turn (cycler : Cycler Folder ρ) (pauses : Pauses) (s : Scene Folder ρ) (m : Moment) :
    Scene Folder ρ :=
  let (point, t) := s.point.step (surroundings cycler m.heard) pauses { s with now := s.later m }
  { t with point }

/-- One turn after another. -/
def run (cycler : Cycler Folder ρ) (pauses : Pauses) (s : Scene Folder ρ)
    (moments : List Moment) : Scene Folder ρ :=
  moments.foldl (turn cycler pauses) s

/-- The service is closed. -/
def close (s : Scene Folder ρ) : Scene Folder ρ :=
  { s with service := (s.service.perform .close).2 }

variable {cycler : Cycler Folder ρ} {pauses : Pauses} {s : Scene Folder ρ}

/-! ### What a turn comes to -/

/-- The worker goes to another point, with what it did on the way. -/
def goes (s : Scene Folder ρ) (m : Moment) (point : Point Folder) (h : Happening Folder) :
    Scene Folder ρ :=
  { s with point, now := s.later m, log := s.log ++ [h] }

/-- What a turn comes to, by the move that the worker makes. -/
theorem turn_eq (s : Scene Folder ρ) (m : Moment) :
    s.turn cycler pauses m =
      match s.point.move pauses with
      | .enter go =>
        let (running, service) := s.service.markRunning
        { s with service }.goes m (go running) (.entered running)
      | .check go => s.goes m (go s.service.isRunning) (.checked s.service.isRunning)
      | .reckon span go =>
        let deadline := (s.later m).after? span
        s.goes m (go deadline) (.reckoned span deadline)
      | .wait deadline go =>
        let reached := decide (deadline.nanos ≤ (s.later m).nanos)
        s.goes m (go reached) (.waited deadline reached)
      | .refresh go =>
        let (result, rota) := cycler.refresh s.rota
        { s with rota }.goes m (go (.returned result)) (.refreshed result)
      | .isEmpty go =>
        let (empty, rota) := cycler.isEmpty s.rota
        { s with rota }.goes m (go (.returned empty)) (.askedEmpty empty)
      | .next go =>
        let (folder, rota) := cycler.next s.rota
        { s with rota }.goes m (go (.returned folder)) (.given folder)
      | .isLast go =>
        let (last, rota) := cycler.isLast s.rota
        { s with rota }.goes m (go (.returned last)) (.askedLast last)
      | .announce folder next => s.goes m next (.announced folder m.heard)
      | .report trouble next => s.goes m next (.reported trouble m.heard)
      | .goodbye next => s.goes m next (.goodbye m.heard)
      | .rest => { s with now := s.later m } := by
  rw [turn, Point.step]
  cases s.point.move pauses <;> rfl

/-- What the service and the rota answer to what a worker does, and what they become. -/
def Answers (cycler : Cycler Folder ρ) (s t : Scene Folder ρ) : Happening Folder → Prop
  | .entered running => s.service.markRunning = (running, t.service) ∧ t.rota = s.rota
  | .checked running => running = s.service.isRunning ∧ t.service = s.service ∧ t.rota = s.rota
  | .reckoned span deadline =>
    deadline = t.now.after? span ∧ t.service = s.service ∧ t.rota = s.rota
  | .waited deadline reached =>
    reached = decide (deadline.nanos ≤ t.now.nanos) ∧ t.service = s.service ∧ t.rota = s.rota
  | .refreshed result => cycler.refresh s.rota = (result, t.rota) ∧ t.service = s.service
  | .askedEmpty empty => cycler.isEmpty s.rota = (empty, t.rota) ∧ t.service = s.service
  | .given folder => cycler.next s.rota = (folder, t.rota) ∧ t.service = s.service
  | .askedLast last => cycler.isLast s.rota = (last, t.rota) ∧ t.service = s.service
  | .announced _ _ | .reported _ _ | .goodbye _ => t.service = s.service ∧ t.rota = s.rota

/-- Nothing that a worker does changes the service, but that it marks it as running. -/
theorem Answers.service_cases {s t : Scene Folder ρ} {h : Happening Folder}
    (hanswers : Answers cycler s t h) :
    t.service = s.service ∧ (∀ running, h ≠ .entered running) ∨
      ∃ running, h = .entered running ∧ s.service.markRunning = (running, t.service) := by
  cases h with
  | entered running => exact .inr ⟨running, rfl, hanswers.1⟩
  | checked | reckoned | waited => exact .inl ⟨hanswers.2.1, nofun⟩
  | refreshed | askedEmpty | given | askedLast => exact .inl ⟨hanswers.2, nofun⟩
  | announced | reported | goodbye => exact .inl ⟨hanswers.1, nofun⟩

/-- A worker has made the move from `s` to `t`. -/
structure Moves (cycler : Cycler Folder ρ) (pauses : Pauses) (m : Moment) (s t : Scene Folder ρ)
    (h : Happening Folder) : Prop where
  /-- The move follows one of the rules. -/
  rule : Point.Rule pauses s.point h t.point
  /-- It depends on the answer that the worker got. -/
  answers : Answers cycler s t h
  /-- Time has gone by. -/
  now : t.now = s.later m
  /-- What was done is kept. -/
  log : t.log = s.log ++ [h]

/-- **At each turn** the worker has ended and does nothing more, or it makes a move. -/
theorem turn_cases (s : Scene Folder ρ) (m : Moment) :
    (s.point.isFinal = true ∧ s.turn cycler pauses m = { s with now := s.later m }) ∨
      ∃ h, Moves cycler pauses m s (s.turn cycler pauses m) h := by
  obtain ⟨point, service, now, rota, log⟩ := s
  rw [turn_eq]
  -- by the point, and then by the answer that the worker gets there
  cases point with
  | entering =>
    rcases hmark : service.markRunning with ⟨_ | _, marked⟩ <;> simp only [Point.move]
    · exact .inr ⟨_, .stay, ⟨hmark, rfl⟩, rfl, rfl⟩
    · exact .inr ⟨_, .enter, ⟨hmark, rfl⟩, rfl, rfl⟩
  | loading =>
    rcases hrefresh : cycler.refresh rota with ⟨fault | _, rota'⟩ <;> simp only [Point.move]
    · exact .inr ⟨_, .loadFails fault, ⟨hrefresh, rfl⟩, rfl, rfl⟩
    · exact .inr ⟨_, .load, ⟨hrefresh, rfl⟩, rfl, rfl⟩
  | reloading =>
    rcases hrefresh : cycler.refresh rota with ⟨fault | _, rota'⟩ <;> simp only [Point.move]
    · exact .inr ⟨_, .reloadFails fault, ⟨hrefresh, rfl⟩, rfl, rfl⟩
    · exact .inr ⟨_, .reload, ⟨hrefresh, rfl⟩, rfl, rfl⟩
  | looping =>
    simp only [Point.move]
    cases hrunning : service.isRunning
    · exact .inr ⟨_, .leaveLoop, ⟨hrunning.symm, rfl, rfl⟩, rfl, rfl⟩
    · exact .inr ⟨_, .loop, ⟨hrunning.symm, rfl, rfl⟩, rfl, rfl⟩
  | asking =>
    rcases hempty : cycler.isEmpty rota with ⟨_ | _, rota'⟩ <;> simp only [Point.move]
    · exact .inr ⟨_, .filled, ⟨hempty, rfl⟩, rfl, rfl⟩
    · exact .inr ⟨_, .empty, ⟨hempty, rfl⟩, rfl, rfl⟩
  | taking =>
    rcases hnext : cycler.next rota with ⟨_ | folder, rota'⟩ <;> simp only [Point.move]
    · exact .inr ⟨_, .takeNone, ⟨hnext, rfl⟩, rfl, rfl⟩
    · exact .inr ⟨_, .take folder, ⟨hnext, rfl⟩, rfl, rfl⟩
  | looking folder =>
    rcases hlast : cycler.isLast rota with ⟨last, rota'⟩
    simp only [Point.move]
    exact .inr ⟨_, .look folder last, ⟨hlast, rfl⟩, rfl, rfl⟩
  | announcing folder last =>
    simp only [Point.move]
    cases last
    · exact .inr ⟨_, .announce folder m.heard, ⟨rfl, rfl⟩, rfl, rfl⟩
    · exact .inr ⟨_, .announceLast folder m.heard, ⟨rfl, rfl⟩, rfl, rfl⟩
  | pausing pause =>
    simp only [Point.move]
    generalize hdeadline : Instant.after? _ _ = deadline
    cases deadline with
    | none => exact .inr ⟨_, .pauseTooLong pause, ⟨hdeadline.symm, rfl, rfl⟩, rfl, rfl⟩
    | some deadline => exact .inr ⟨_, .pause pause deadline, ⟨hdeadline.symm, rfl, rfl⟩, rfl, rfl⟩
  | dozing pause deadline =>
    simp only [Point.move]
    cases hrunning : service.isRunning
    · refine .inr ⟨.checked false, ?_, ⟨hrunning.symm, rfl, rfl⟩, rfl, rfl⟩
      cases pause <;> exact .wake _ deadline
    · exact .inr ⟨_, .doze pause deadline, ⟨hrunning.symm, rfl, rfl⟩, rfl, rfl⟩
  | waiting pause deadline =>
    simp only [Point.move]
    generalize hreached : decide (deadline.nanos ≤ Instant.nanos _) = reached
    cases reached
    · exact .inr ⟨_, .sleep pause deadline, ⟨hreached.symm, rfl, rfl⟩, rfl, rfl⟩
    · exact .inr ⟨_, .rise pause deadline, ⟨hreached.symm, rfl, rfl⟩, rfl, rfl⟩
  | reporting trouble backOff =>
    simp only [Point.move]
    cases backOff
    · exact .inr ⟨_, .reportFirst trouble m.heard, ⟨rfl, rfl⟩, rfl, rfl⟩
    · exact .inr ⟨_, .report trouble m.heard, ⟨rfl, rfl⟩, rfl, rfl⟩
  | leaving => exact .inr ⟨_, .leave m.heard, ⟨rfl, rfl⟩, rfl, rfl⟩
  | ended | crashed => exact .inl ⟨rfl, rfl⟩

/-! ### Runs -/

@[simp] theorem run_nil (s : Scene Folder ρ) : s.run cycler pauses [] = s := rfl

theorem run_cons (s : Scene Folder ρ) (m : Moment) (moments : List Moment) :
    s.run cycler pauses (m :: moments) = (s.turn cycler pauses m).run cycler pauses moments := rfl

theorem run_append (s : Scene Folder ρ) (front back : List Moment) :
    s.run cycler pauses (front ++ back) = (s.run cycler pauses front).run cycler pauses back :=
  List.foldl_append

theorem run_concat (s : Scene Folder ρ) (front : List Moment) (m : Moment) :
    s.run cycler pauses (front ++ [m]) = (s.run cycler pauses front).turn cycler pauses m :=
  run_append s front [m]

/-- **What is kept by each turn** is kept by every run. -/
theorem run_induction {P : Scene Folder ρ → Prop}
    (hturn : ∀ s m, P s → P (s.turn cycler pauses m)) {s : Scene Folder ρ} (hs : P s)
    (moments : List Moment) : P (s.run cycler pauses moments) := by
  induction moments generalizing s with
  | nil => exact hs
  | cons m moments ih => exact ih (hturn s m hs)

/-! ### What every turn keeps -/

theorem now_turn (s : Scene Folder ρ) (m : Moment) : (s.turn cycler pauses m).now = s.later m := by
  rcases s.turn_cases m with ⟨-, h⟩ | ⟨h, hmoves⟩
  · rw [h]
  · exact hmoves.now

/-- The clock does not go back. -/
theorem now_run (s : Scene Folder ρ) (moments : List Moment) :
    s.now.nanos ≤ (s.run cycler pauses moments).now.nanos := by
  refine run_induction (P := fun t => s.now.nanos ≤ t.now.nanos) ?_ (Nat.le_refl _) moments
  intro t m ht
  rw [now_turn]
  exact Nat.le_trans ht (Nat.le_add_right _ _)

/-! ### A service that nobody closes -/

/-- A worker that is at work: nobody has closed its service. -/
structure AtWork (s : Scene Folder ρ) : Prop where
  /-- The service is about to be marked as running. -/
  initialising : s.point = .entering → s.service.status = .initialising
  /-- The service has been marked as running. -/
  running : s.point ≠ .entering → s.service.status = .running
  /-- The worker does not leave. -/
  stays : s.point ≠ .leaving
  /-- The worker has not left. -/
  here : s.point ≠ .ended

theorem atWork_begin (name : String) (rota : ρ) : (begin name rota : Scene Folder ρ).AtWork :=
  ⟨fun _ => rfl, fun h => absurd rfl h, nofun, nofun⟩

/-- As time goes by a worker at work stays at work. -/
theorem AtWork.waits (hs : s.AtWork) (now : Instant) : AtWork { s with now } :=
  ⟨hs.initialising, hs.running, hs.stays, hs.here⟩

/-- What a worker at work is told of its service. -/
theorem AtWork.told {t : Scene Folder ρ} {m : Moment} {h : Happening Folder} (hs : s.AtWork)
    (hmoves : Moves cycler pauses m s t h) :
    t.service.status = .running ∧ h ≠ .entered false ∧ h ≠ .checked false := by
  have hrule := hmoves.rule
  rcases hmoves.answers.service_cases with ⟨hservice, hentered⟩ | ⟨running, rfl, hmark⟩
  · -- the first move is to mark the service as running
    have hpoint : s.point ≠ .entering := by
      intro hpoint
      rw [hpoint] at hrule
      generalize t.point = q at hrule
      cases hrule <;> exact hentered _ rfl
    have hstatus := hs.running hpoint
    refine ⟨hservice ▸ hstatus, hentered false, ?_⟩
    rintro rfl
    have hfalse := hmoves.answers.1
    rw [Service.isRunning, hstatus] at hfalse
    cases hfalse
  · have hstatus := hs.initialising hrule.point_of_entered
    rw [Service.markRunning_of_initialising hstatus] at hmark
    obtain ⟨rfl, hservice⟩ := Prod.mk.inj hmark
    exact ⟨hservice ▸ rfl, nofun, nofun⟩

/-- **A worker at work** stays at work, and is never told that its service is not running. -/
theorem AtWork.moves {t : Scene Folder ρ} {m : Moment} {h : Happening Folder} (hs : s.AtWork)
    (hmoves : Moves cycler pauses m s t h) : t.AtWork ∧ h ≠ .checked false := by
  obtain ⟨hrunning, hentered, hchecked⟩ := hs.told hmoves
  obtain ⟨hentering, hleaving, hended⟩ := hmoves.rule.stays hs.stays hentered hchecked
  exact ⟨⟨(absurd · hentering), fun _ => hrunning, hleaving, hended⟩, hchecked⟩

/-- A pause that a worker finds too long is not one that the clock can show. -/
theorem Moves.not_shown {t : Scene Folder ρ} {m : Moment} {pause : Pause}
    (hmoves : Moves cycler pauses m s t (.reckoned (pauses.span pause) none)) :
    ¬ pauses.Shown pause t.now := by
  rw [Pauses.Shown, ← hmoves.answers.1]
  nofun

end Scene

end Watch

end Clamd
