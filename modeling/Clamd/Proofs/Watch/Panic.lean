import Clamd.Proofs.Watch.Trial

/-!
# Panics of the rota

A worker survives the panics of its rota: it reports each of them, once and before anything else,
and goes on. The one exception is a panic at the first look at the root, which is made before the
loop is entered and is not guarded: it ends the worker while its service is running, without a
report and without a goodbye (`Trial.crash_of_first_panic`).

* `Trial.Ready`: a first look that is still to come does not panic;
* `Trial.Told`: the panics so far and the reports so far belong together, one to one;
* `Point.turnsLeft` says how many turns are left to a worker whose service is closed, panics
  included;
* `Trial.survives_panics` puts this together.

A pause after a report that is longer than the clock can show ends the worker as well; other pauses
that are too long are trouble like a panic, and are reported as one.
-/

namespace Clamd.Watch

/-! ### Points -/

namespace Point

variable {Folder : Type} {pauses : Pauses} {p q : Point Folder} {h : Happening Folder}

/-- The most turns that a worker takes once its service is closed, if the rota may panic. -/
@[simp] def turnsLeft : Point Folder → Nat
  | ended | crashed => 0
  | leaving => 1
  | entering | looping => 2
  | dozing _ _ => 3
  | loading => 4
  | pausing pause => if pause = .backOff then 4 else 6
  | reporting _ backOff => if backOff then 5 else 3
  | reloading => 6
  | announcing _ last => if last then 7 else 3
  | waiting _ _ => 7
  | looking _ => 8
  | taking => 9
  | asking => 10

theorem turnsLeft_le (point : Point Folder) : point.turnsLeft ≤ 10 := by
  cases point <;> simp only [turnsLeft] <;> (try split) <;> omega

/-- A worker to which no turn is left has ended, one way or the other. -/
theorem turnsLeft_eq_zero_iff {point : Point Folder} :
    point.turnsLeft = 0 ↔ point = ended ∨ point = crashed := by
  cases point <;> simp <;> split <;> omega

/-- A move of a worker whose service is closed takes from the turns that are left. -/
theorem Rule.turnsLeft_lt (hrule : Rule pauses p h q) (hentered : h ≠ .entered true)
    (hchecked : h ≠ .checked true) : q.turnsLeft < p.turnsLeft := by
  cases hrule with
  | enter => exact absurd rfl hentered
  | loop | doze => exact absurd rfl hchecked
  | look folder last => cases last <;> simp
  | pause pause | pauseTooLong pause | rise pause =>
    cases pause <;> simp [afterPause, afterPanicIn]
  | _ => simp

/-- A panic takes from them as well. -/
theorem Breaks.turnsLeft_lt (hbreaks : Breaks p q) : q.turnsLeft < p.turnsLeft := by
  cases hbreaks <;> simp

/-- A panic comes while a worker is at work. -/
theorem Breaks.ne_left (hbreaks : Breaks p q) : p ≠ entering ∧ p ≠ ended := by
  cases hbreaks <;> exact ⟨nofun, nofun⟩

/-- A panic neither takes a worker back to its beginning nor makes it leave. -/
theorem Breaks.ne_right (hbreaks : Breaks p q) :
    q ≠ entering ∧ q ≠ Point.loading ∧ q ≠ leaving ∧ q ≠ ended := by
  cases hbreaks <;> exact ⟨nofun, nofun, nofun, nofun⟩

/-- A panic is about to be reported, unless it comes at the first look at the root. -/
theorem Breaks.guarded (hbreaks : Breaks p q) (hp : p ≠ Point.loading) :
    (∀ trouble backOff, p ≠ reporting trouble backOff) ∧ q = reporting .panic true := by
  cases hbreaks with
  | loading => exact absurd rfl hp
  | _ => exact ⟨nofun, rfl⟩

theorem Breaks.crashed_of_loading (hbreaks : Breaks Point.loading q) : q = crashed := by
  cases hbreaks
  rfl

/-- What is about to be reported is reported. -/
theorem Rule.of_reporting {trouble : Trouble} {backOff : Bool}
    (hrule : Rule pauses (reporting trouble backOff) h q) :
    ∃ heard, h = .reported trouble heard := by
  cases hrule with
  | report _ heard | reportFirst _ heard => exact ⟨heard, rfl⟩

/-- Only what was about to be reported is reported. -/
theorem Rule.reporting_of_reported {trouble : Trouble} {heard : Outcome Unit}
    (hrule : Rule pauses p (.reported trouble heard) q) :
    ∃ backOff, p = reporting trouble backOff := by
  cases hrule with
  | report | reportFirst => exact ⟨_, rfl⟩

/-- Apart from a panic of the rota, only a pause that is too long is about to be reported as a
panic. -/
theorem Rule.long_of_reporting {backOff : Bool}
    (hrule : Rule pauses p h (reporting .panic backOff)) : ∃ span, h = .reckoned span none := by
  generalize hq : reporting .panic backOff = q at hrule
  cases hrule with
  | pauseTooLong pause => exact ⟨_, rfl⟩
  | rise pause => cases pause <;> cases hq
  | _ => cases hq

/-- The first look at the root comes when the service has been marked as running. -/
theorem Rule.of_loading (hrule : Rule pauses p h loading) : p = entering ∧ h = .entered true := by
  generalize hq : loading = q at hrule
  cases hrule with
  | enter => exact ⟨rfl, rfl⟩
  | pauseTooLong pause | rise pause => cases pause <;> cases hq
  | _ => cases hq

theorem Rule.ne_entering (hrule : Rule pauses p h q) : q ≠ entering := by
  cases hrule with
  | pauseTooLong pause | rise pause => cases pause <;> nofun
  | _ => nofun

end Point

namespace Trial

variable {Folder ρ : Type} {cycler : FaultyCycler Folder ρ} {pauses : Pauses}
  {t u : Trial Folder ρ} {m : Moment}

/-! ### The service -/

/-- A worker at work stays at work, whatever the rota does. -/
theorem atWork_turn (ht : t.AtWork) : (t.turn cycler pauses m).AtWork := by
  rcases turn_cases cycler pauses t m with ⟨-, hturn⟩ | ⟨h, hmoves, -⟩ | hbroken
  · rw [hturn]
    exact Scene.AtWork.waits ht _
  · exact (ht.moves hmoves).1
  · obtain ⟨hentering, -⟩ := hbroken.point.ne_left
    obtain ⟨hstays, -, hleaving, hended⟩ := hbroken.point.ne_right
    refine ⟨(absurd · hstays), fun _ => ?_, hleaving, hended⟩
    rw [hbroken.service]
    exact ht.running hentering

/-- A closed service stays closed, and a turn is taken from what is left to its worker. -/
theorem closed_turn (cycler : FaultyCycler Folder ρ) (pauses : Pauses) (m : Moment)
    (ht : t.service.status = .closed) :
    (t.turn cycler pauses m).service.status = .closed ∧
      (t.turn cycler pauses m).point.turnsLeft ≤ t.point.turnsLeft - 1 := by
  rcases turn_cases cycler pauses t m with ⟨hfinal, hturn⟩ | ⟨h, hmoves, -⟩ | hbroken
  · rw [hturn]
    have hzero := Point.turnsLeft_eq_zero_iff.2 (Point.isFinal_iff.1 hfinal)
    exact ⟨ht, Nat.le_trans (Nat.le_of_eq hzero) (Nat.zero_le _)⟩
  · obtain ⟨hservice, hentered, hchecked⟩ := hmoves.answers.of_closed ht
    rw [hservice]
    exact ⟨ht, Nat.le_sub_one_of_lt (hmoves.rule.turnsLeft_lt hentered hchecked)⟩
  · rw [hbroken.service]
    exact ⟨ht, Nat.le_sub_one_of_lt hbroken.point.turnsLeft_lt⟩

/-- **The turns left to the worker of a closed service** run out. -/
theorem closed_run (cycler : FaultyCycler Folder ρ) (pauses : Pauses) (moments : List Moment)
    (ht : t.service.status = .closed) :
    (t.run cycler pauses moments).service.status = .closed ∧
      (t.run cycler pauses moments).point.turnsLeft ≤ t.point.turnsLeft - moments.length := by
  induction moments generalizing t with
  | nil => exact ⟨ht, Nat.le_refl _⟩
  | cons m moments ih =>
    obtain ⟨hclosed, hless⟩ := closed_turn cycler pauses m ht
    obtain ⟨hrun, hleft⟩ := ih hclosed
    refine ⟨hrun, ?_⟩
    rw [run_cons, List.length_cons]
    omega

/-! ### The first look at the root -/

/-- A first look at the root that is still to come does not panic. -/
def Ready (cycler : FaultyCycler Folder ρ) (t : Trial Folder ρ) : Prop :=
  t.point = .entering ∧ t.service.status ≠ .closed ∨ t.point = .loading →
    (cycler.refresh t.rota).1 ≠ .panicked

theorem Ready.close (ht : Ready cycler t) : Ready cycler t.close := by
  intro hpoint
  refine ht (hpoint.imp_left fun hentering => ⟨hentering.1, fun hclosed => hentering.2 ?_⟩)
  exact Service.status_close_of_closed hclosed

theorem Ready.turn (ht : Ready cycler t) : Ready cycler (t.turn cycler pauses m) := by
  rcases turn_cases cycler pauses t m with ⟨-, hturn⟩ | ⟨h, hmoves, -⟩ | hbroken
  · rw [hturn]
    exact ht
  · rintro (⟨hentering, -⟩ | hloading)
    · exact absurd hentering hmoves.rule.ne_entering
    · -- the service has been marked as running, and the rota not been touched
      obtain ⟨hpoint, rfl⟩ := (hloading ▸ hmoves.rule).of_loading
      obtain ⟨hmark, hrota⟩ := hmoves.answers
      rw [hrota]
      refine ht (.inl ⟨hpoint, fun hclosed => ?_⟩)
      rw [Service.markRunning_of_closed hclosed] at hmark
      cases hmark
  · obtain ⟨hentering, hloading, -, -⟩ := hbroken.point.ne_right
    rintro (⟨h, -⟩ | h)
    · exact absurd h hentering
    · exact absurd h hloading

/-- A worker that is ready gets over a panic. -/
theorem Ready.guarded (ht : Ready cycler t) (hbroken : Broken cycler m t u) :
    (∀ trouble backOff, t.point ≠ .reporting trouble backOff) ∧
      u.point = .reporting .panic true := by
  refine hbroken.point.guarded fun hloading => ht (.inr hloading) ?_
  have hpanics := hbroken.panics
  rwa [Panics, hloading] at hpanics

/-! ### Panics and reports -/

/-- The `n`-th thing that the worker did was to report a panic. -/
def ReportsPanic (t : Trial Folder ρ) (n : Nat) : Prop :=
  ∃ heard, t.log[n]? = some (.reported .panic heard)

/-- Before the `n`-th thing that was done a pause was found to be too long. -/
def FindsLong (t : Trial Folder ρ) (n : Nat) : Prop :=
  ∃ k span, n = k + 1 ∧ t.log[k]? = some (.reckoned span none)

/-- **The panics of the rota and the reports of panics** belong together. -/
structure Told (t : Trial Folder ρ) : Prop where
  /-- No two panics come at one place. -/
  increasing : t.panics.Pairwise (· < ·)
  /-- The first thing done after a panic is to report it, or that is still to be done. -/
  told : ∀ n ∈ t.panics, t.ReportsPanic n ∨
    n = t.log.length ∧ ∃ backOff, t.point = .reporting .panic backOff
  /-- Nothing else is reported as a panic but a pause that is too long. -/
  only : ∀ n, t.ReportsPanic n → n ∈ t.panics ∨ t.FindsLong n
  /-- Nothing else is about to be. -/
  due : ∀ backOff, t.point = .reporting .panic backOff →
    t.log.length ∈ t.panics ∨ t.FindsLong t.log.length

theorem told_begin (name : String) (rota : ρ) : (begin name rota : Trial Folder ρ).Told where
  increasing := .nil
  told := nofun
  only := nofun
  due := nofun

/-- Closing the service does not touch the worker. -/
theorem Told.close (ht : t.Told) : t.close.Told :=
  ⟨ht.increasing, ht.told, ht.only, ht.due⟩

/-- A move keeps panics and reports together. -/
theorem Told.moves {h : Happening Folder} {cycler : Cycler Folder ρ} (ht : t.Told)
    (hmoves : Scene.Moves cycler pauses m t.toScene u.toScene h) (hpanics : u.panics = t.panics) :
    u.Told := by
  have hlog := hmoves.log
  have hlast : u.log[t.log.length]? = some h := by rw [hlog, List.getElem?_concat_length]
  have hbefore : ∀ {n}, n < t.log.length → u.log[n]? = t.log[n]? := by
    intro n hn
    rw [hlog, List.getElem?_append_left hn]
  have hlong : ∀ {n}, n ≤ t.log.length → t.FindsLong n → u.FindsLong n := by
    rintro n hn ⟨k, span, rfl, hk⟩
    exact ⟨k, span, rfl, by rw [hbefore hn, hk]⟩
  refine ⟨hpanics ▸ ht.increasing, ?_, ?_, ?_⟩
  · intro n hn
    left
    rcases ht.told n (hpanics ▸ hn) with ⟨heard, hreport⟩ | ⟨rfl, backOff, hpoint⟩
    · exact ⟨heard, by rw [hbefore (List.getElem?_eq_some_iff.1 hreport).1, hreport]⟩
    · -- what was about to be reported has been reported by now
      obtain ⟨heard, rfl⟩ := (hpoint ▸ hmoves.rule).of_reporting
      exact ⟨heard, hlast⟩
  · rintro n ⟨heard, hreport⟩
    rw [hpanics]
    have hle : n ≤ t.log.length := by
      have hlt := (List.getElem?_eq_some_iff.1 hreport).1
      rw [hlog, List.length_append, List.length_singleton] at hlt
      exact Nat.le_of_lt_succ hlt
    rcases Nat.lt_or_eq_of_le hle with hlt | rfl
    · rw [hbefore hlt] at hreport
      exact (ht.only n ⟨heard, hreport⟩).imp_right (hlong hle)
    · obtain rfl := Option.some.inj (hlast.symm.trans hreport)
      obtain ⟨backOff, hpoint⟩ := hmoves.rule.reporting_of_reported
      exact (ht.due backOff hpoint).imp_right (hlong hle)
  · intro backOff hpoint
    obtain ⟨span, rfl⟩ := (hpoint ▸ hmoves.rule).long_of_reporting
    refine .inr ⟨t.log.length, span, ?_, hlast⟩
    rw [hlog, List.length_append, List.length_singleton]

/-- A panic that is guarded is about to be reported. -/
theorem Told.broken (ht : t.Told) (hready : Ready cycler t) (hbroken : Broken cycler m t u) :
    u.Told := by
  obtain ⟨hpoint, hreporting⟩ := hready.guarded hbroken
  have hlog := hbroken.log
  have hreports : ∀ {n}, u.ReportsPanic n ↔ t.ReportsPanic n := by
    intro n
    rw [ReportsPanic, ReportsPanic, hlog]
  refine ⟨?_, ?_, ?_, ?_⟩
  · rw [hbroken.kept, List.pairwise_append]
    refine ⟨ht.increasing, List.pairwise_singleton _ _, fun n hn last hlast => ?_⟩
    rw [List.mem_singleton.1 hlast]
    -- the panics before this one have been reported
    rcases ht.told n hn with ⟨heard, hreport⟩ | ⟨-, backOff, howed⟩
    · exact (List.getElem?_eq_some_iff.1 hreport).1
    · exact absurd howed (hpoint _ _)
  · intro n hn
    rw [hbroken.kept, List.mem_append, List.mem_singleton] at hn
    rcases hn with hn | rfl
    · rcases ht.told n hn with hreport | ⟨-, backOff, howed⟩
      · exact .inl (hreports.2 hreport)
      · exact absurd howed (hpoint _ _)
    · exact .inr ⟨by rw [hlog], true, hreporting⟩
  · intro n hn
    rw [hbroken.kept, FindsLong, hlog]
    exact (ht.only n (hreports.1 hn)).imp_left (List.mem_append_left _)
  · intro backOff _
    rw [hbroken.kept, hlog]
    exact .inl (List.mem_append_right _ (List.mem_singleton.2 rfl))

/-! ### Surviving -/

/-- A worker that has got over every panic so far. -/
structure Sound (cycler : FaultyCycler Folder ρ) (t : Trial Folder ρ) : Prop where
  /-- It has said goodbye once, as the last thing, or not yet. -/
  parted : t.toScene.Parted
  /-- It has reported the panics. -/
  told : t.Told
  /-- The first look at the root is no danger. -/
  ready : Ready cycler t

theorem Sound.close (ht : Sound cycler t) : Sound cycler t.close :=
  ⟨ht.parted.close, ht.told.close, ht.ready.close⟩

/-- **A worker gets over each turn**, if the clock can show when a pause after a report will be
over. -/
theorem Sound.turn (ht : Sound cycler t) (hshown : pauses.Shown .backOff (t.later m)) :
    Sound cycler (t.turn cycler pauses m) := by
  refine ⟨?_, ?_, ht.ready.turn⟩
  · rcases turn_cases cycler pauses t m with ⟨-, hturn⟩ | ⟨h, hmoves, -⟩ | hbroken
    · rw [hturn]
      exact ⟨ht.parted.alive, ht.parted.silent, ht.parted.once, ht.parted.last⟩
    · refine ht.parted.moves hmoves fun hcrashed => ?_
      obtain rfl := (hcrashed ▸ hmoves.rule).long_of_crashed
      rw [← hmoves.now] at hshown
      exact absurd hshown (Scene.Moves.not_shown hmoves)
    · obtain ⟨-, hreporting⟩ := ht.ready.guarded hbroken
      have hended := hbroken.point.ne_right.2.2.2
      have hsilent := ht.parted.silent hbroken.point.ne_left.2
      rw [← hbroken.log] at hsilent
      refine ⟨fun hcrashed => ?_, fun _ => hsilent, (absurd · hended), (absurd · hended)⟩
      rw [hreporting] at hcrashed
      cases hcrashed
  · rcases turn_cases cycler pauses t m with ⟨-, hturn⟩ | ⟨h, hmoves, hpanics⟩ | hbroken
    · rw [hturn]
      exact ⟨ht.told.increasing, ht.told.told, ht.told.only, ht.told.due⟩
    · exact ht.told.moves hmoves hpanics
    · exact ht.told.broken ht.ready hbroken

/-- **A run that ends early enough** leaves a worker that has got over everything. -/
theorem Sound.run {moments : List Moment} (ht : Sound cycler t)
    (hshown : pauses.Shown .backOff (t.run cycler pauses moments).now) :
    Sound cycler (t.run cycler pauses moments) :=
  run_induction (fun _ _ hlimit ht => ht.turn (hshown.of_le hlimit)) (Nat.le_refl _) ht

/-- **A worker survives the panics of its rota.** A service is started and its worker makes some
turns, then the service is closed and the worker makes some more. Any call of the rota may panic,
but for the first look at the root, if that is made at all.

* Until the service is closed the worker has not ended.
* At any time the panics so far and the reports of panics belong together.
* Once the service is closed the worker says goodbye once, last of all, and after at most ten turns;
  and by then every panic has been reported.

The clock is to show when each pause after a report will be over. -/
theorem survives_panics (cycler : FaultyCycler Folder ρ) (pauses : Pauses) (name : String)
    (rota : ρ) (before after : List Moment) :
    let t := (begin name rota).run cycler pauses before
    let u := t.close.run cycler pauses after
    before = [] ∨ (cycler.refresh rota).1 ≠ .panicked →
      pauses.Shown .backOff u.now →
        t.point.isFinal = false ∧ t.Told ∧ u.Told ∧ u.service.status = .closed ∧
          u.log.countP Happening.isGoodbye ≤ 1 ∧
          (10 ≤ after.length → u.log.countP Happening.isGoodbye = 1 ∧
            (∃ heard, u.log.getLast? = some (.goodbye heard)) ∧
            ∀ n ∈ u.panics, u.ReportsPanic n) := by
  intro t u hfirst hshown
  have hbefore : pauses.Shown .backOff t.now := hshown.of_le (now_run t.close after)
  have hwork : t.AtWork :=
    run_induction (P := fun t => t.AtWork) (fun _ _ _ => atWork_turn) (Nat.le_refl _)
      (Scene.atWork_begin name rota)
  have hsound : t.Told ∧ t.point ≠ .crashed ∧ Sound cycler t.close := by
    rcases hfirst with rfl | hfirst
    · -- the service is closed before the worker begins, so the first look is not made
      refine ⟨told_begin name rota, nofun, (Scene.parted_begin name rota).close,
        (told_begin name rota).close, ?_⟩
      rintro (⟨-, hactive⟩ | hloading)
      · exact absurd (Service.status_close .initialising) hactive
      · cases hloading
    · have ht : Sound cycler t :=
        Sound.run ⟨Scene.parted_begin name rota, told_begin name rota, fun _ => hfirst⟩ hbefore
      exact ⟨ht.told, ht.parted.alive, ht.close⟩
  obtain ⟨htold, halive, hclose⟩ := hsound
  have hfinal : t.point.isFinal = false := by
    rw [← Bool.not_eq_true, Point.isFinal_iff]
    rintro (hended | hcrashed)
    · exact hwork.here hended
    · exact halive hcrashed
  have hclosed : t.close.service.status = .closed := Service.status_close hwork.active
  have hu : Sound cycler u := hclose.run hshown
  obtain ⟨hstatus, hleft⟩ := closed_run cycler pauses after hclosed
  refine ⟨hfinal, htold, hu.told, hstatus, hu.parted.countP_le_one, fun hlength => ?_⟩
  · -- no turn is left, and the worker has not crashed
    have hzero : u.point.turnsLeft = 0 := by
      have hless : u.point.turnsLeft ≤ t.close.point.turnsLeft - after.length := hleft
      have := t.close.point.turnsLeft_le
      omega
    have hended : u.point = .ended :=
      (Point.turnsLeft_eq_zero_iff.1 hzero).resolve_right hu.parted.alive
    refine ⟨hu.parted.once hended, hu.parted.last hended, fun n hn => ?_⟩
    refine (hu.told.told n hn).resolve_right ?_
    rintro ⟨-, backOff, hpoint⟩
    rw [hended] at hpoint
    cases hpoint

/-- A rota of one folder that panics at every other call, in a service that is closed when the second
panic is about to be reported. -/
theorem survives_panics_everyOther :
    let cycler : FaultyCycler String Bool :=
      { refresh := fun calm => (if calm then .returned (.ok ()) else .panicked, !calm)
        isEmpty := fun calm => (if calm then .returned false else .panicked, !calm)
        next := fun calm => (if calm then .returned (some "a") else .panicked, !calm)
        isLast := fun calm => (if calm then .returned true else .panicked, !calm) }
    let pauses : Pauses := { backOff := {} }
    let t := (begin "watch" true).run cycler pauses (List.replicate 11 {})
    let u := t.close.run cycler pauses (List.replicate 10 { heard := .panicked })
    (cycler.refresh true).1 ≠ .panicked ∧ pauses.Shown .backOff u.now ∧
      t.point = .reporting .panic true ∧ u.panics = [3, 9] ∧
      u.log.countP Happening.isGoodbye = 1 ∧ ∀ n ∈ u.panics, u.ReportsPanic n := by
  intro cycler pauses
  have hfirst : (cycler.refresh true).1 ≠ .panicked := nofun
  have hshown : pauses.Shown .backOff
      (((begin "watch" true).run cycler pauses (List.replicate 11 {})).close.run cycler pauses
        (List.replicate 10 { heard := .panicked })).now := by
    decide +kernel
  obtain ⟨-, -, -, -, -, hgoodbye⟩ := survives_panics cycler pauses "watch" true
    (List.replicate 11 {}) (List.replicate 10 { heard := .panicked }) (.inr hfirst) hshown
  obtain ⟨honce, -, hreports⟩ := hgoodbye (by decide)
  exact ⟨hfirst, hshown, by decide +kernel, by decide +kernel, honce, hreports⟩

/-! ### A panic at the first look at the root -/

/-- A worker that has crashed does nothing more. -/
theorem run_of_crashed (cycler : FaultyCycler Folder ρ) (pauses : Pauses) (moments : List Moment)
    (h : t.point = .crashed) :
    (t.run cycler pauses moments).point = .crashed ∧
      (t.run cycler pauses moments).service = t.service ∧
      (t.run cycler pauses moments).log = t.log := by
  induction moments generalizing t with
  | nil => exact ⟨h, rfl, rfl⟩
  | cons m moments ih =>
    rw [run_cons]
    rcases turn_cases cycler pauses t m with ⟨-, hturn⟩ | ⟨happening, hmoves, -⟩ | hbroken
    · rw [hturn]
      exact ih h
    · have hfinal := hmoves.rule.isFinal_left
      rw [h] at hfinal
      cases hfinal
    · have hbreaks := hbroken.point
      rw [h] at hbreaks
      cases hbreaks

/-- **A panic at the first look at the root** ends the worker: its service is still running, and
from then on, also when the service is closed, the worker reports nothing and does not say
goodbye. -/
theorem crash_of_first_panic (cycler : FaultyCycler Folder ρ) (pauses : Pauses) (name : String)
    {rota : ρ} (hpanics : (cycler.refresh rota).1 = .panicked) (first second : Moment)
    (before after : List Moment) :
    let t := (begin name rota).run cycler pauses (first :: second :: before)
    t.point = .crashed ∧ t.service.status = .running ∧ t.log = [.entered true] ∧
      (t.close.run cycler pauses after).log = [.entered true] := by
  intro t
  -- the first turn marks the service as running, and the second one is the look at the root
  have hlook : Panics cycler ((begin name rota).turn cycler pauses first) := hpanics
  have hbroken := broken_of_panics hlook pauses second
  obtain ⟨hpoint, hservice, hlog⟩ :=
    run_of_crashed cycler pauses before hbroken.point.crashed_of_loading
  have hentered : t.log = [.entered true] := hlog.trans hbroken.log
  refine ⟨hpoint, ?_, hentered, ?_⟩
  · exact congrArg Service.status (hservice.trans hbroken.service)
  · exact (run_of_crashed cycler pauses after (t := t.close) hpoint).2.2.trans hentered

/-- The service is running when its worker has ended; the one panic is not reported, and there is
never a goodbye. -/
theorem silent_crash :
    let cycler : FaultyCycler String Unit :=
      { refresh := (.panicked, ·), isEmpty := (.returned true, ·), next := (.returned none, ·)
        isLast := (.returned false, ·) }
    let t := (begin "watch" ()).run cycler {} [{}, {}]
    t.point.isFinal = true ∧ t.service.status = .running ∧ t.panics = [1] ∧
      ∀ after, ¬ (t.close.run cycler {} after).ReportsPanic 1 ∧
        (t.close.run cycler {} after).log.countP Happening.isGoodbye = 0 := by
  intro cycler t
  refine ⟨rfl, rfl, rfl, fun after => ?_⟩
  obtain ⟨-, -, -, hlog⟩ := crash_of_first_panic cycler {} "watch" rfl {} {} [] after
  rw [ReportsPanic, hlog]
  exact ⟨nofun, rfl⟩

end Trial

end Clamd.Watch
