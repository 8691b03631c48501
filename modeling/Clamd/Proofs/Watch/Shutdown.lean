import Clamd.Proofs.Service.Step
import Clamd.Proofs.Watch.Scene

/-!
# Closing the service of a worker

However the worker of a service has come on, once the service is closed it soon leaves, and says
goodbye as the last thing it does. What it was about to do when the service was closed it may still
do, and no more: it asks for at most one more folder or looks at the root at most once more, and it
announces or reports at most one more time.

* `Point.movesLeft`, `Point.callsLeft` and `Point.noticesLeft` say how much may still come from a
  worker whose service is closed, by where it stands;
* `Point.Rule.pays`: each move takes from what is left, and `Scene.winds_run` sums up a run;
* `Scene.Parted`: the goodbye is said once and nothing comes after it;
* `Scene.shutdown` puts this together.

It needs a clock that can show when a pause after a round or after a report will be over. Otherwise
the pause after a report is a panic that nothing catches, and there is no goodbye
(`Scene.log_run_of_long`), and the pause after a round is a panic that is reported. In the pause of
a worker without folders such a panic is reported too, but that is then the only thing.
-/

namespace Clamd

/-! ### The service -/

/-- A closed service is not marked as running any more. -/
theorem Service.markRunning_of_closed {service : Service} (h : service.status = .closed) :
    service.markRunning = (false, service) := by
  obtain ⟨name, status⟩ := service
  cases h
  rfl

/-- An active service can be closed. -/
theorem Service.status_close {service : Service} (h : service.status.Active) :
    (service.perform .close).2.status = .closed := by
  obtain ⟨name, status⟩ := service
  cases h <;>
    simp [perform, begin, advance, Operation.call, Call.closing, Call.settle, Closing.finish_eq,
      Closing.step, conclude, Operation.hookCall, Call.step, Status.swap]

/-- A service that is closed cannot be closed again, and stays closed. -/
theorem Service.status_close_of_closed {service : Service} (h : service.status = .closed) :
    (service.perform .close).2.status = .closed := by
  obtain ⟨name, status⟩ := service
  cases h
  simp [perform, begin, advance, report, Operation.call, Call.closing, Call.settle,
    Closing.finish_eq, Closing.step, Status.swap]

/-- Marking an active service as running leaves it active. -/
theorem Service.active_markRunning {service : Service} (h : service.status.Active) :
    service.markRunning.2.status.Active := by
  obtain ⟨name, status⟩ := service
  cases h <;> exact .running

namespace Watch

/-! ### What is left to a worker whose service is closed -/

namespace Point

variable {Folder : Type}

/-- The most moves that a worker makes once its service is closed. -/
@[simp] def movesLeft : Point Folder → Nat
  | ended | crashed => 0
  | leaving => 1
  | entering | looping => 2
  | dozing _ _ => 3
  | loading => 4
  | pausing pause => if pause = .idle then 6 else 4
  | reporting _ backOff => if backOff then 5 else 3
  | announcing _ last => if last then 5 else 3
  | looking _ | reloading => 6
  | taking | waiting _ _ => 7
  | asking => 8

/-- The most folders and looks at the root that it still asks for. -/
@[simp] def callsLeft : Point Folder → Nat
  | loading | asking | taking | waiting _ _ | reloading => 1
  | _ => 0

/-- The most announcements and reports that it still makes. -/
@[simp] def noticesLeft : Point Folder → Nat
  | pausing pause => if pause = .idle then 1 else 0
  | loading | asking | taking | looking _ | announcing _ _ | waiting _ _ | reloading
  | reporting _ _ => 1
  | _ => 0

theorem movesLeft_le (point : Point Folder) : point.movesLeft ≤ 8 := by
  cases point <;> simp only [movesLeft] <;> (try split) <;> omega

/-- A worker to which no move is left has ended, one way or the other. -/
theorem movesLeft_eq_zero_iff {point : Point Folder} :
    point.movesLeft = 0 ↔ point = ended ∨ point = crashed := by
  cases point <;> simp [movesLeft] <;> split <;> omega

theorem callsLeft_le (point : Point Folder) : point.callsLeft ≤ 1 := by
  cases point <;> simp [callsLeft]

theorem noticesLeft_le (point : Point Folder) : point.noticesLeft ≤ 1 := by
  cases point <;> simp only [noticesLeft] <;> (try split) <;> omega

/-- **A move of a worker** whose service is closed takes from what is left to it, unless it finds a
pause too long that comes after a round or a report. -/
theorem Rule.pays {pauses : Pauses} {p q : Point Folder} {h : Happening Folder}
    (hrule : Rule pauses p h q) (hentered : h ≠ .entered true) (hchecked : h ≠ .checked true)
    (hreckoned : ∀ pause, p = pausing pause → h = .reckoned (pauses.span pause) none →
      pause = .idle) :
    q.movesLeft < p.movesLeft ∧ [h].countP Happening.isCall + q.callsLeft ≤ p.callsLeft ∧
      [h].countP Happening.isNotice + q.noticesLeft ≤ p.noticesLeft := by
  cases hrule with
  | enter => exact absurd rfl hentered
  | loop | doze => exact absurd rfl hchecked
  | pauseTooLong pause =>
    -- a panic in the pause of a worker without folders is still to be reported
    obtain rfl := hreckoned pause rfl rfl
    simp [afterPanicIn]
  | look folder last => cases last <;> simp
  | pause pause | rise pause => cases pause <;> simp [afterPause]
  | _ => simp

/-- A worker that has not begun, and finds its service closed, leaves. -/
theorem Rule.of_idle {pauses : Pauses} {p q : Point Folder} {h : Happening Folder}
    (hrule : Rule pauses p h q) (hpoint : p = entering ∨ p = leaving)
    (hentered : h ≠ .entered true) :
    p = entering ∧ q = leaving ∧ h = .entered false ∨
      p = leaving ∧ q = ended ∧ h.isGoodbye = true := by
  cases hrule with
  | enter => exact absurd rfl hentered
  | stay => exact .inl ⟨rfl, rfl, rfl⟩
  | leave heard => exact .inr ⟨rfl, rfl, rfl⟩
  | _ => simp at hpoint

end Point

namespace Scene

variable {Folder ρ : Type} {cycler : Cycler Folder ρ} {pauses : Pauses} {s t u : Scene Folder ρ}
  {m : Moment}

/-- With `n` turns the worker of a closed service has come from `s` to `t`, and what it did further
was left to it. -/
structure Winds (n : Nat) (s t : Scene Folder ρ) (further : List (Happening Folder)) : Prop where
  /-- The service stays closed. -/
  closed : t.service.status = .closed
  /-- What was done comes behind what had been done before. -/
  log : t.log = s.log ++ further
  /-- Each move is one less. -/
  moves : t.point.movesLeft ≤ s.point.movesLeft - n
  /-- No more was asked of the rota than was left. -/
  calls : further.countP Happening.isCall + t.point.callsLeft ≤ s.point.callsLeft
  /-- No more was announced and reported than was left. -/
  notices : further.countP Happening.isNotice + t.point.noticesLeft ≤ s.point.noticesLeft

theorem Winds.refl (h : s.service.status = .closed) : Winds 0 s s [] where
  closed := h
  log := (List.append_nil _).symm
  moves := Nat.le_refl _
  calls := Nat.le_of_eq (Nat.zero_add _)
  notices := Nat.le_of_eq (Nat.zero_add _)

theorem Winds.trans {a b : Nat} {front back : List (Happening Folder)} (hst : Winds a s t front)
    (htu : Winds b t u back) : Winds (a + b) s u (front ++ back) where
  closed := htu.closed
  log := by rw [htu.log, hst.log, List.append_assoc]
  moves := by
    have := hst.moves
    have := htu.moves
    omega
  calls := by
    have := hst.calls
    have := htu.calls
    rw [List.countP_append]
    omega
  notices := by
    have := hst.notices
    have := htu.notices
    rw [List.countP_append]
    omega

/-- A closed service stays as it is, and tells the worker that it is not running. -/
theorem Answers.of_closed {h : Happening Folder} (hanswers : Answers cycler s t h)
    (hclosed : s.service.status = .closed) :
    t.service = s.service ∧ h ≠ .entered true ∧ h ≠ .checked true := by
  rcases hanswers.service_cases with ⟨hservice, hentered⟩ | ⟨running, rfl, hmark⟩
  · refine ⟨hservice, hentered true, ?_⟩
    rintro rfl
    have htrue := hanswers.1
    rw [Service.isRunning, hclosed] at htrue
    cases htrue
  · rw [Service.markRunning_of_closed hclosed] at hmark
    obtain ⟨rfl, hservice⟩ := Prod.mk.inj hmark
    simp [hservice]

/-- A move of the worker of a closed service takes from what is left to it. -/
theorem Moves.winds {h : Happening Folder} (hmoves : Moves cycler pauses m s t h)
    (hclosed : s.service.status = .closed) (hrollover : pauses.Shown .rollover t.now)
    (hbackOff : pauses.Shown .backOff t.now) : Winds 1 s t [h] := by
  obtain ⟨hservice, hentered, hchecked⟩ := hmoves.answers.of_closed hclosed
  have hlong : ∀ pause, s.point = .pausing pause → h = .reckoned (pauses.span pause) none →
      pause = .idle := by
    rintro pause - rfl
    cases pause with
    | idle => rfl
    | rollover => exact absurd hrollover (Moves.not_shown hmoves)
    | backOff => exact absurd hbackOff (Moves.not_shown hmoves)
  obtain ⟨hless, hcalls, hnotices⟩ := hmoves.rule.pays hentered hchecked hlong
  exact ⟨hservice ▸ hclosed, hmoves.log, Nat.le_sub_one_of_lt hless, hcalls, hnotices⟩

/-- **A turn of the worker of a closed service** takes from what is left to it. -/
theorem winds_turn (cycler : Cycler Folder ρ) (hclosed : s.service.status = .closed)
    (hrollover : pauses.Shown .rollover (s.later m))
    (hbackOff : pauses.Shown .backOff (s.later m)) :
    ∃ further, Winds 1 s (s.turn cycler pauses m) further := by
  rcases s.turn_cases m with ⟨hfinal, hturn⟩ | ⟨h, hmoves⟩
  · rw [hturn]
    refine ⟨[], hclosed, (List.append_nil _).symm, ?_, ?_, ?_⟩
    · have hzero := Point.movesLeft_eq_zero_iff.2 (Point.isFinal_iff.1 hfinal)
      exact Nat.le_trans (Nat.le_of_eq hzero) (Nat.zero_le _)
    · exact Nat.le_of_eq (Nat.zero_add _)
    · exact Nat.le_of_eq (Nat.zero_add _)
  · exact ⟨[h], hmoves.winds hclosed (hmoves.now ▸ hrollover) (hmoves.now ▸ hbackOff)⟩

/-! ### Runs of a closed service -/

/-- **What is kept by each turn** up to some time is kept by every run that ends by then. -/
theorem run_induction_until {P : List Moment → Scene Folder ρ → Prop} {limit : Nat}
    {moments : List Moment} (hbegin : P [] s)
    (hturn : ∀ front t m, (t.later m).nanos ≤ limit → P front t →
      P (front ++ [m]) (t.turn cycler pauses m))
    (hlimit : (s.run cycler pauses moments).now.nanos ≤ limit) :
    P moments (s.run cycler pauses moments) := by
  induction moments using List.reverseRecOn with
  | nil => exact hbegin
  | append_singleton front m ih =>
    rw [run_concat, now_turn] at hlimit
    rw [run_concat]
    exact hturn front _ m hlimit (ih (Nat.le_trans (Nat.le_add_right _ _) hlimit))

/-- **A run of the worker of a closed service** takes from what is left to it. -/
theorem winds_run {moments : List Moment} (hclosed : s.service.status = .closed)
    (hrollover : pauses.Shown .rollover (s.run cycler pauses moments).now)
    (hbackOff : pauses.Shown .backOff (s.run cycler pauses moments).now) :
    ∃ further, Winds moments.length s (s.run cycler pauses moments) further := by
  refine run_induction_until (P := fun front t => ∃ further, Winds front.length s t further)
    ⟨[], .refl hclosed⟩ ?_ (Nat.le_refl _)
  rintro front t m hlimit ⟨further, hfront⟩
  obtain ⟨last, hturn⟩ :=
    winds_turn cycler hfront.closed (hrollover.of_le hlimit) (hbackOff.of_le hlimit)
  exact ⟨further ++ last, by rw [List.length_append]; exact hfront.trans hturn⟩

/-! ### The goodbye -/

/-- A worker that has not crashed has said goodbye exactly if it has ended, once, and has done
nothing since. -/
structure Parted (s : Scene Folder ρ) : Prop where
  /-- It has not crashed. -/
  alive : s.point ≠ .crashed
  /-- It has not said goodbye yet. -/
  silent : s.point ≠ .ended → s.log.countP Happening.isGoodbye = 0
  /-- It has said goodbye once. -/
  once : s.point = .ended → s.log.countP Happening.isGoodbye = 1
  /-- The goodbye is what it did last. -/
  last : s.point = .ended → ∃ heard, s.log.getLast? = some (.goodbye heard)

theorem parted_begin (name : String) (rota : ρ) : (begin name rota : Scene Folder ρ).Parted :=
  ⟨nofun, fun _ => rfl, nofun, nofun⟩

/-- Closing the service does not touch the worker. -/
theorem Parted.close (h : s.Parted) : s.close.Parted :=
  ⟨h.alive, h.silent, h.once, h.last⟩

/-- A worker does not say goodbye twice. -/
theorem Parted.countP_le_one (h : s.Parted) : s.log.countP Happening.isGoodbye ≤ 1 := by
  by_cases hended : s.point = .ended
  · exact Nat.le_of_eq (h.once hended)
  · exact Nat.le_trans (Nat.le_of_eq (h.silent hended)) (Nat.zero_le 1)

/-- A move that does not crash the worker comes before the goodbye, or is the goodbye. -/
theorem Parted.moves {h : Happening Folder} (hs : s.Parted) (hmoves : Moves cycler pauses m s t h)
    (halive : t.point ≠ .crashed) : t.Parted := by
  obtain ⟨hpoint, hended⟩ := hmoves.rule.goodbye_iff
  have hcount : t.log.countP Happening.isGoodbye = if h.isGoodbye then 1 else 0 := by
    rw [hmoves.log, List.countP_append, hs.silent hpoint, List.countP_singleton, Nat.zero_add]
  refine ⟨halive, fun hend => ?_, fun hend => ?_, fun hend => ?_⟩
  · rw [hcount, if_neg (mt hended.2 hend)]
  · rw [hcount, if_pos (hended.1 hend)]
  · rw [hmoves.log, List.getLast?_concat]
    cases h with
    | goodbye heard => exact ⟨heard, rfl⟩
    | _ => exact absurd (hended.1 hend) nofun

theorem Parted.turn (hs : s.Parted) (hshown : pauses.Shown .backOff (s.later m)) :
    (s.turn cycler pauses m).Parted := by
  rcases s.turn_cases m with ⟨-, hturn⟩ | ⟨h, hmoves⟩
  · rw [hturn]
    exact ⟨hs.alive, hs.silent, hs.once, hs.last⟩
  · refine hs.moves hmoves fun hcrashed => ?_
    obtain rfl := (hcrashed ▸ hmoves.rule).long_of_crashed
    rw [← hmoves.now] at hshown
    exact absurd hshown (Moves.not_shown hmoves)

theorem Parted.run {moments : List Moment} (hs : s.Parted)
    (hshown : pauses.Shown .backOff (s.run cycler pauses moments).now) :
    (s.run cycler pauses moments).Parted :=
  run_induction_until (P := fun _ t => t.Parted) hs
    (fun _ _ _ hlimit ht => ht.turn (hshown.of_le hlimit)) (Nat.le_refl _)

/-! ### A service that is closed before its worker begins -/

/-- A worker that has learned nothing but that its service is closed. -/
structure Idle (rota : ρ) (s : Scene Folder ρ) : Prop where
  /-- The service is closed. -/
  closed : s.service.status = .closed
  /-- The worker has not begun, or leaves, or has left. -/
  point : (s.point = .entering ∨ s.point = .leaving) ∨ s.point = .ended
  /-- The rota has not been touched. -/
  rota : s.rota = rota
  /-- Nothing has been done but to take leave. -/
  log : ∀ h ∈ s.log, h = .entered false ∨ h.isGoodbye = true

theorem Idle.turn {rota : ρ} (hs : Idle rota s) : Idle rota (s.turn cycler pauses m) := by
  rcases s.turn_cases m with ⟨-, hturn⟩ | ⟨h, hrule, hanswers, -, hlog⟩
  · rw [hturn]
    exact ⟨hs.closed, hs.point, hs.rota, hs.log⟩
  · obtain ⟨hservice, hentered, -⟩ := hanswers.of_closed hs.closed
    have hpoint : s.point = .entering ∨ s.point = .leaving :=
      hs.point.resolve_right fun hended => by rw [hended] at hrule; cases hrule
    have hkept : ∀ h', h' ∈ (s.turn cycler pauses m).log →
        (h = .entered false ∨ h.isGoodbye = true) → h' = .entered false ∨ h'.isGoodbye = true := by
      intro h' hmem hh
      rw [hlog] at hmem
      rcases List.mem_append.1 hmem with hmem | hmem
      · exact hs.log h' hmem
      · rw [List.mem_singleton.1 hmem]
        exact hh
    rcases hrule.of_idle hpoint hentered with ⟨-, hq, rfl⟩ | ⟨-, hq, hgoodbye⟩
    · exact ⟨hservice ▸ hs.closed, .inl (.inr hq), hanswers.2.trans hs.rota,
        fun h' hmem => hkept h' hmem (.inl rfl)⟩
    · refine ⟨hservice ▸ hs.closed, .inr hq, ?_, fun h' hmem => hkept h' hmem (.inr hgoodbye)⟩
      cases h with
      | goodbye heard => exact hanswers.2.trans hs.rota
      | _ => exact absurd hgoodbye nofun

theorem Idle.run {rota : ρ} (hs : Idle rota s) (moments : List Moment) :
    Idle rota (s.run cycler pauses moments) :=
  run_induction (fun _ _ ht => ht.turn) hs moments

/-! ### Closing -/

/-- The service of a worker at work can be closed. -/
theorem AtWork.active (hs : s.AtWork) : s.service.status.Active := by
  by_cases hpoint : s.point = .entering
  · exact hs.initialising hpoint ▸ .initialising
  · exact hs.running hpoint ▸ .running

/-- A service that nobody closes stays active. -/
theorem active_turn (h : s.service.status.Active) :
    (s.turn cycler pauses m).service.status.Active := by
  rcases s.turn_cases m with ⟨-, hturn⟩ | ⟨happening, -, hanswers, -, -⟩
  · rw [hturn]
    exact h
  · rcases hanswers.service_cases with ⟨hservice, -⟩ | ⟨running, rfl, hmark⟩
    · exact hservice ▸ h
    · have hactive := Service.active_markRunning h
      rw [hmark] at hactive
      exact hactive

/-- **Closing the service of a worker.** A service is started and its worker makes some turns, then
the service is closed and the worker makes some more. Whatever the rota and the listeners do, the
worker says goodbye once, last of all, and after at most eight turns. Once the service is closed it
asks for one more folder, or looks at the root once more, at the most, and announces or reports at
most one more time; and nothing of the kind, without touching the rota at all, if the service was
closed before the worker began. The clock is to show when a pause after a round or after a report
will be over. -/
theorem shutdown (cycler : Cycler Folder ρ) (pauses : Pauses) (name : String) (rota : ρ)
    (before after : List Moment) :
    let s := (begin name rota).run cycler pauses before
    let t := s.close.run cycler pauses after
    pauses.Shown .rollover t.now → pauses.Shown .backOff t.now →
      t.service.status = .closed ∧
        (∃ further, t.log = s.log ++ further ∧ further.countP Happening.isCall ≤ 1 ∧
          further.countP Happening.isNotice ≤ 1) ∧
        (before = [] → t.rota = rota ∧
          ∀ h ∈ t.log, h = .entered false ∨ h.isGoodbye = true) ∧
        t.log.countP Happening.isGoodbye ≤ 1 ∧
        (8 ≤ after.length → t.log.countP Happening.isGoodbye = 1 ∧
          ∃ heard, t.log.getLast? = some (.goodbye heard)) := by
  intro s t hrollover hbackOff
  have hactive : s.service.status.Active :=
    run_induction (P := fun t => t.service.status.Active) (fun _ _ => active_turn) .initialising
      before
  have hclosed : s.close.service.status = .closed := Service.status_close hactive
  have hparted : t.Parted := by
    have hbefore : pauses.Shown .backOff s.now := hbackOff.of_le (now_run s.close after)
    exact ((parted_begin name rota).run hbefore).close.run hbackOff
  obtain ⟨further, hwinds⟩ := winds_run hclosed hrollover hbackOff
  refine ⟨hwinds.closed, ⟨further, hwinds.log, ?_, ?_⟩, ?_, hparted.countP_le_one,
    fun hlength => ?_⟩
  · have := hwinds.calls
    have := s.close.point.callsLeft_le
    omega
  · have := hwinds.notices
    have := s.close.point.noticesLeft_le
    omega
  · rintro rfl
    have hidle : Idle rota t := Idle.run ⟨hclosed, .inl (.inl rfl), rfl, nofun⟩ after
    exact ⟨hidle.rota, hidle.log⟩
  · -- no move is left, and the worker has not crashed
    have hzero : t.point.movesLeft = 0 := by
      have hmoves : t.point.movesLeft ≤ s.close.point.movesLeft - after.length := hwinds.moves
      have := s.close.point.movesLeft_le
      omega
    have hended : t.point = .ended :=
      (Point.movesLeft_eq_zero_iff.1 hzero).resolve_right hparted.alive
    exact ⟨hparted.once hended, hparted.last hended⟩

/-- A rota that is never empty and gives out nothing, in a service that is closed while the worker
takes a folder. The pause of a worker without folders is too long. -/
theorem shutdown_nothingGiven :
    let cycler : Cycler String Unit := ⟨fun r => (.ok (), r), (false, ·), (none, ·), (false, ·)⟩
    let pauses : Pauses := { idle := .ofSeconds (Word.end64 - 1) }
    let s := (begin "watch" ()).run cycler pauses (List.replicate 4 { elapsed := 1000 })
    let t := s.close.run cycler pauses (List.replicate 8 { heard := .panicked })
    pauses.Shown .rollover t.now ∧ pauses.Shown .backOff t.now ∧ ¬ pauses.Shown .idle t.now ∧
      s.point = .taking ∧ t.log.countP Happening.isGoodbye = 1 := by
  intro cycler pauses s t
  have hrollover : pauses.Shown .rollover t.now := by decide +kernel
  have hbackOff : pauses.Shown .backOff t.now := by decide +kernel
  obtain ⟨-, -, -, -, hgoodbye⟩ := shutdown cycler pauses "watch" ()
    (List.replicate 4 { elapsed := 1000 }) (List.replicate 8 { heard := .panicked }) hrollover
    hbackOff
  exact ⟨hrollover, hbackOff, by decide +kernel, rfl, (hgoodbye (by decide)).1⟩

/-! ### A pause that is too long -/

/-- A worker that has ended or crashed does nothing more. -/
theorem log_run_of_isFinal (h : s.point.isFinal = true) (moments : List Moment) :
    (s.run cycler pauses moments).log = s.log := by
  refine (run_induction (P := fun t => t.point.isFinal = true ∧ t.log = s.log) ?_ ⟨h, rfl⟩
    moments).2
  rintro t m ⟨hfinal, hlog⟩
  rcases t.turn_cases m with ⟨-, hturn⟩ | ⟨happening, hmoves⟩
  · rw [hturn]
    exact ⟨hfinal, hlog⟩
  · exact absurd hfinal (Bool.eq_false_iff.1 hmoves.rule.isFinal_left)

/-- **A pause after a report that is longer than the clock can show** ends the worker without a
goodbye. -/
theorem log_run_of_long (hpoint : s.point = .pausing .backOff)
    (hlong : (s.later m).after? pauses.backOff = none) (moments : List Moment) :
    (s.run cycler pauses (m :: moments)).log = s.log ++ [.reckoned pauses.backOff none] := by
  have hturn : s.turn cycler pauses m = s.goes m .crashed (.reckoned pauses.backOff none) := by
    rw [turn_eq, hpoint]
    simp only [Point.move, Pauses.span, hlong]
    rfl
  rw [run_cons, hturn, log_run_of_isFinal rfl]
  rfl

/-- The root is gone, and the pause after a report is as long as can be asked for: when the service
is closed the worker has crashed already. -/
theorem no_goodbye :
    let cycler : Cycler String Unit :=
      ⟨fun r => (.error (.system .notFound), r), (true, ·), (none, ·), (false, ·)⟩
    let pauses : Pauses := { idle := .ofSeconds 0, backOff := .ofSeconds (Word.end64 - 1) }
    let s := (begin "watch" ()).run cycler pauses (List.replicate 13 {})
    ∀ after, (s.close.run cycler pauses after).log.countP Happening.isGoodbye = 0 := by
  intro cycler pauses s after
  have hcrashed : s.close.point.isFinal = true := by decide +kernel
  rw [log_run_of_isFinal hcrashed]
  decide +kernel

end Scene

end Watch

end Clamd
