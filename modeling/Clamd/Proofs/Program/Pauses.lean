import Clamd.Program
import Clamd.Proofs.CommandLine.Reading
import Clamd.Proofs.Watch.LongPause
import Mathlib.Logic.Function.Iterate

/-!
# The pauses of a watch

The pauses of a watch are asked for on the command line, in seconds, and every number of 64 bits is
taken. Not every such number can be slept: the worker reckons when a pause will be over, and the
seconds of the clock have one bit less.

* `Vigil.step_pausing` is the step of the program that begins a pause;
* `watch_pauses` says for which pauses, and up to which time, nothing happens, and what happens to
  the worker and to the program otherwise;
* `watch_pauses_crash` are two watches that are ended by a pause.
-/

namespace Clamd.Program

open CommandLine Watch

namespace Vigil

variable {v : Vigil}

/-- Closing the service neither moves the worker nor changes its pauses. -/
theorem closeIfDue_eq (now : Instant) (v : Vigil) :
    (v.closeIfDue now).point = v.point ∧ (v.closeIfDue now).pauses = v.pauses := by
  rw [closeIfDue]
  split
  · exact ⟨rfl, rfl⟩
  · split <;> exact ⟨rfl, rfl⟩

/-- **The step that begins a pause** ends the program, if the pause is too long. -/
theorem step_pausing {m : Type → Type} [Monad m] (on : Platform m) {pause : Pause}
    (hpoint : v.point = .pausing pause) :
    v.step on = do
      let now ← on.now
      return (now.after? (v.pauses.span pause)).elim (.exited .failure) fun deadline =>
        .watching { v.closeIfDue now with point := .dozing pause deadline } := by
  rw [step]
  refine bind_congr fun now => ?_
  -- the service may be closed first, which is of no consequence for the move
  obtain ⟨hpoint', hpauses⟩ := closeIfDue_eq now v
  rw [hpoint] at hpoint'
  obtain ⟨go, hmove, hgo⟩ : ∃ go, (v.closeIfDue now).point.move (v.closeIfDue now).pauses =
      .reckon (v.pauses.span pause) go ∧ ∀ deadline, go (some deadline) = .dozing pause deadline := by
    rw [hpoint', hpauses]
    exact ⟨_, rfl, fun _ => rfl⟩
  dsimp only
  split
  next hended => cases hpoint'.symm.trans hended
  next hcrashed => cases hpoint'.symm.trans hcrashed
  next hreckon _ _ =>
    obtain ⟨rfl, rfl⟩ := Move.reckon.inj (hmove.symm.trans hreckon)
    cases now.after? (v.pauses.span pause) with
    | none => rfl
    | some deadline =>
      simp only [hgo]
      rfl
  next hother => exact absurd hmove (hother _ _)

/-- A pause that is too long when it begins ends the program. -/
theorem step_of_long {m : Type → Type} [Monad m] [LawfulMonad m] {on : Platform m} {now : Instant}
    {pause : Pause} (hnow : on.now = pure now) (hpoint : v.point = .pausing pause)
    (hlong : now.after? (v.pauses.span pause) = none) :
    v.step on = pure (.exited .failure) := by
  rw [step_pausing on hpoint, hnow, pure_bind, hlong]
  rfl

end Vigil

/-- **The pauses of a watch.** Let the pauses be three numbers of seconds of 64 bits.

* The command line takes them.
* No run of a worker that ends by a time finds a pause too long, exactly if the seconds of that time
  and of each pause together fit 64 bits with a sign. The rota and the listeners may do anything,
  and panic at any call, and the service may be closed at any time.
* A pause that is too long when it begins is a panic. It is about to be reported, unless the pause is
  the one after a report: then the worker has crashed, and does nothing more.
* The program begins a pause that is not too long, and fails at any other. -/
theorem watch_pauses {idle rollover backOff : Nat} (hidle : idle < Word.end64)
    (hrollover : rollover < Word.end64) (hbackOff : backOff < Word.end64) :
    let pauses : Pauses := .ofSeconds idle rollover backOff
    (∀ root : String, root ≠ "" → root.toList.head? ≠ some '-' →
      Task.ofArgs .watch [root, Flag.idle.written, toString idle, Flag.rollover.written,
          toString rollover, Flag.backOff.written, toString backOff] =
        .ok (.watch root .pooled pauses none none)) ∧
      (∀ limit : Instant,
        (∀ pause, limit.seconds + (pauses.span pause).seconds < Word.end63) ↔
          ∀ (Folder ρ : Type) (cycler : FaultyCycler Folder ρ) (name : String) (rota : ρ)
            (before after : List Moment),
            let t := (Trial.begin name rota).run cycler pauses before
            let u := t.close.run cycler pauses after
            u.now.nanos ≤ limit.nanos → u.InTime) ∧
      (∀ (Folder ρ : Type) (cycler : FaultyCycler Folder ρ) (t : Trial Folder ρ) (m : Moment)
        (pause : Pause),
        t.point = .pausing pause →
        Word.end63 ≤ (t.later m).seconds + (pauses.span pause).seconds →
        let u := t.turn cycler pauses m
        u.log = t.log ++ [.reckoned (pauses.span pause) none] ∧
          (pause ≠ .backOff → u.point = .reporting .panic true) ∧
          (pause = .backOff → ∀ moments, (u.run cycler pauses moments).point = .crashed ∧
            (u.run cycler pauses moments).log = u.log)) ∧
      ∀ (m : Type → Type) [Monad m] (on : Platform m) (v : Vigil) (pause : Pause),
        v.pauses = pauses → v.point = .pausing pause →
        v.step on = do
          let now ← on.now
          let n := (pauses.span pause).seconds
          return if now.seconds + n < Word.end63 then
            .watching { v.closeIfDue now with
              point := .dozing pause { nanos := now.nanos + n * 1000000000 } }
          else .exited .failure := by
  intro pauses
  -- each part but the first is about the same question, whether the clock can show an end
  have hafter := Pauses.after?_span_ofSeconds idle rollover backOff
  refine ⟨?_, ?_, ?_, ?_⟩
  · intro root hne hroot
    exact Task.ofArgs_watch hne hroot hidle hrollover hbackOff
  · intro limit
    rw [← Trial.shown_iff]
    refine forall_congr' fun pause => ?_
    rw [Pauses.Shown, hafter, Option.isSome_ite]
  · intro Folder ρ cycler t m pause hpoint hlong u
    have hnone : (t.later m).after? (pauses.span pause) = none := by
      rw [hafter]
      exact if_neg (Nat.not_lt.2 hlong)
    obtain ⟨hlog, hu⟩ := Trial.turn_of_long cycler hpoint hnone
    refine ⟨hlog, ?_, ?_⟩
    · intro hpause
      cases pause with
      | backOff => exact absurd rfl hpause
      | idle | rollover => exact hu
    · rintro rfl moments
      obtain ⟨hcrashed, -, hsilent⟩ := Trial.run_of_crashed cycler pauses moments hu
      exact ⟨hcrashed, hsilent⟩
  · intro m _ on v pause hpauses hpoint
    rw [Vigil.step_pausing on hpoint, hpauses]
    refine congrArg (on.now >>= ·) (funext fun now => ?_)
    rw [hafter]
    show pure (Option.elim (ite _ _ _) _ _) = pure (ite _ _ _)
    split <;> rfl

/-! ### Watches in a world that stands still -/

/-- A world that stands still: no time goes by, no daemon answers and each look at a root finds the
same. -/
def Platform.still (found : Except Fault (List String)) : Platform Id where
  call _ f := (f (fun _ _ => .error (.system .connectionRefused)) {}).1
  home := pure none
  isFile _ := pure false
  readFile _ := pure (.error (.system .notFound))
  openFile _ := pure (.error (.system .notFound))
  writeFile _ _ := pure ()
  folders _ := pure found
  input := pure .empty
  print _ := pure ()
  printError _ := pure ()
  now := pure {}
  sleep _ := pure ()

/-- Pauses of some seconds, and the longest pause that can be asked for after a report. -/
theorem watch_pauses_longest :
    let short : Pauses := .ofSeconds 10 60 5
    let hour : Instant := { nanos := 3600 * 1000000000 }
    let before : List Moment := List.replicate 8 { elapsed := hour.nanos / 8 }
    let later := ((Trial.begin "watch" ()).run (Trial.leading .rollover) short before).close.run
      (Trial.leading .rollover) short [{}]
    let long : Pauses := .ofSeconds 10 60 (Word.end64 - 1)
    let cycler := Trial.leading .backOff
    let t := (Trial.begin "watch" ()).run cycler long (List.replicate 6 {})
    let v : Vigil := { settings := {}, mode := .pooled, pauses := long, rota := .resume "/srv" none }
    (10 < Word.end64 ∧ 60 < Word.end64 ∧ 5 < Word.end64 ∧ Word.end64 - 1 < Word.end64) ∧
      Task.ofArgs .watch ["/srv", "--idle-secs", "10", "--rollover-secs", "60",
          "--error-backoff-secs", "18446744073709551615"] =
        .ok (.watch "/srv" .pooled long none none) ∧
      (later.now = hour ∧ later.InTime) ∧
      (t.point = .pausing .backOff ∧
        Word.end63 ≤ (t.later {}).seconds + (long.span .backOff).seconds ∧
        (t.turn cycler long {}).log = t.log ++ [.reckoned (.ofSeconds (Word.end64 - 1)) none] ∧
        ((t.turn cycler long {}).run cycler long [{}, {}]).point = .crashed) ∧
      { v with point := .pausing .backOff }.step (.still (.ok [])) = Progress.exited .failure := by
  intro short hour before later long cycler t v
  have hidle : 10 < Word.end64 := by decide
  have hrollover : 60 < Word.end64 := by decide
  have hshort : 5 < Word.end64 := by decide
  have hlong : Word.end64 - 1 < Word.end64 := by decide
  obtain ⟨-, hruns, -, -⟩ := watch_pauses hidle hrollover hshort
  obtain ⟨harguments, -, hpanic, hstep⟩ := watch_pauses hidle hrollover hlong
  have hfits : ∀ pause, hour.seconds + (short.span pause).seconds < Word.end63 := by
    rintro (_ | _ | _) <;> decide +kernel
  have hnow : later.now = hour := by decide +kernel
  have hintime : later.now.nanos ≤ hour.nanos := Nat.le_of_eq (congrArg Instant.nanos hnow)
  have hpoint : t.point = .pausing .backOff := rfl
  have htooLong : Word.end63 ≤ (t.later {}).seconds + (long.span .backOff).seconds := by
    decide +kernel
  -- what the workers have come to is not computed again
  clear_value before t
  obtain ⟨hlog, -, hcrashed⟩ := hpanic String Unit cycler t {} .backOff hpoint htooLong
  refine ⟨⟨hidle, hrollover, hshort, hlong⟩, harguments "/srv" (by decide) (by decide),
    ⟨hnow, ?_⟩, ⟨hpoint, htooLong, hlog, (hcrashed rfl [{}, {}]).1⟩, ?_⟩
  · exact (hruns hour).1 hfits String Unit _ "watch" () before [{}] hintime
  · rw [hstep Id (.still (.ok [])) _ .backOff rfl rfl]
    exact if_neg (by decide +kernel)

/-- **A watch that is ended by a pause that was asked for.** The arguments are taken, and the program
fails when the pause begins: the first one, if the root is empty, or the one after the report that
the root is gone. -/
theorem watch_pauses_crash :
    let watch (args : List String) := Invocation.ofArgs (fun _ => none) ("watch" :: "/srv" :: args)
    let running (pauses : Pauses) (pause : Pause) : Vigil :=
      { settings := {}, mode := .pooled, pauses, rota := { root := "/srv" }
        service := { name := "watch", status := .running }, point := .pausing pause }
    let long := Span.ofSeconds (Word.end64 - 1)
    let first : Invocation :=
      { overrides := {}, task := .watch "/srv" .pooled { idle := long } none none }
    let second : Invocation :=
      { overrides := {}
        task := .watch "/srv" .pooled { idle := .ofSeconds 0, backOff := long } none none }
    let empty := Platform.still (.ok [])
    let gone := Platform.still (.error (.system .notFound))
    (watch ["--idle-secs", "18446744073709551615"] = .ok first ∧
        (resume empty)^[4] (start empty first) = .watching (running { idle := long } .idle) ∧
        (resume empty)^[5] (start empty first) = .exited .failure) ∧
      watch ["--idle-secs", "0", "--error-backoff-secs", "18446744073709551615"] = .ok second ∧
        (resume gone)^[10] (start gone second) =
          .watching (running { idle := .ofSeconds 0, backOff := long } .backOff) ∧
        (resume gone)^[11] (start gone second) = .exited .failure := by
  intro watch running long first second empty gone
  have hlong : Instant.after? {} long = none := by decide +kernel
  have hshort : Instant.after? {} (.ofSeconds 0) = some {} := by decide +kernel
  have hempty : (resume empty)^[4] (start empty first) =
      .watching (running { idle := long } .idle) := rfl
  have hgone : (resume gone)^[10] (start gone second) =
      .watching (running { idle := .ofSeconds 0, backOff := long } .backOff) := by
    -- the worker is idle for no time at all, then looks at the root again
    have hidle : (resume gone)^[5] (start gone second) =
        .watching (running { idle := .ofSeconds 0, backOff := long } .idle) := rfl
    rw [Function.iterate_add_apply _ 5 5, hidle, Function.iterate_succ_apply, resume,
      Vigil.step_pausing gone rfl]
    show (resume gone)^[4] (Option.elim (Instant.after? {} (.ofSeconds 0)) _ _) = _
    rw [hshort]
    rfl
  -- in both cases one more step begins the long pause
  refine ⟨⟨by rfl, hempty, ?_⟩, by rfl, hgone, ?_⟩
  · rw [Function.iterate_succ_apply', hempty, resume]
    exact Vigil.step_of_long rfl rfl hlong
  · rw [Function.iterate_succ_apply', hgone, resume]
    exact Vigil.step_of_long rfl rfl hlong

end Clamd.Program
