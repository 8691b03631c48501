import Clamd.Proofs.Client.Scan
import Clamd.Proofs.Program.Rehearsal
import Clamd.Proofs.Reply.ScanReply

/-!
# The exit status of a scan

What a run that scans some paths tells its caller. The n-th path is asked for at the n-th attempt to
connect, if all before it have come to a verdict, and the network decides what reply that attempt
obtains.

* `Report.status_ofScan_eq_success_iff` and its two companions: what the status says of the verdict;
* `World.code_scan`: the exit status says whether all replies say that all is clean, or all can be
  read and one of them reports a detection, or neither.
-/

namespace Clamd

/-! ### The number of a status -/

theorem ExitStatus.code_eq_zero_iff {status : ExitStatus} :
    status.code = 0 ↔ status = .success := by
  cases status <;> decide

theorem ExitStatus.code_eq_one_iff {status : ExitStatus} :
    status.code = 1 ↔ status = .infected := by
  cases status <;> decide

theorem ExitStatus.code_eq_two_iff {status : ExitStatus} :
    status.code = 2 ↔ ¬ status.code = 0 ∧ ¬ status.code = 1 := by
  cases status <;> decide

/-! ### The status of a report -/

namespace Program

namespace Report

variable {label : String} {json : Bool} {answer : Except Failure Verdict}

theorem status_ofScan_eq_success_iff :
    (ofScan label json answer).status = .success ↔ ∃ v, answer = .ok v ∧ v.isClean = true := by
  cases answer with
  | error failure => simp [ofScan, ofTrouble]
  | ok v => cases hclean : v.isClean <;> simp [ofScan, hclean]

theorem status_ofScan_eq_infected_iff :
    (ofScan label json answer).status = .infected ↔ ∃ v, answer = .ok v ∧ v.isClean = false := by
  cases answer with
  | error failure => simp [ofScan, ofTrouble]
  | ok v => cases hclean : v.isClean <;> simp [ofScan, hclean]

end Report

/-! ### The exit status -/

namespace World

open CommandLine

variable {overrides : Overrides} {settings : Settings} {w : World}

/-- A run that scans exits with the status of the report on the scan. -/
theorem fst_run_scan (hload : ((Program.settings platform overrides).run w).1 = .ok settings)
    (paths : List String) (mode : ScanMode) (json : Bool) :
    (run { overrides, task := .scan paths mode json } w).1 =
      some (Report.ofScan (label paths) json
        (settings.client.scanAll w.network mode paths w.session).1).status := by
  refine fst_run_of_exited ?_
  rw [run_start_of_loaded hload]
  rfl

/-- **The exit status of a scan.** Let the n-th path be asked for at the n-th attempt to connect.

* The run exits with 0 exactly if an exchange is completed for every path and each reply has lines
  that all say that their object is clean.
* It exits with 1 exactly if the reply for every path is read as a verdict and some reply has a line
  that reports a detection.
* It exits with 2 in every other case.

A reply with a line that reports a detection keeps the run from exiting with 0, whatever the other
replies are. -/
theorem code_scan (hload : ((Program.settings platform overrides).run w).1 = .ok settings)
    (paths : List String) (mode : ScanMode) (json : Bool) :
    let code := (run { overrides, task := .scan paths mode json } w).1.map ExitStatus.code
    let asked := Client.attempts paths w.session
    (code = some 0 ↔ ∀ x ∈ asked, settings.client.AnsweredClean w.network mode x) ∧
      (code = some 1 ↔
        (∀ x ∈ asked, settings.client.Answered w.network mode x) ∧
          ∃ x ∈ asked, settings.client.AnsweredFound w.network mode x) ∧
      (code = some 2 ↔
        ¬ (∀ x ∈ asked, settings.client.AnsweredClean w.network mode x) ∧
          ¬ ((∀ x ∈ asked, settings.client.Answered w.network mode x) ∧
            ∃ x ∈ asked, settings.client.AnsweredFound w.network mode x)) ∧
      ((∃ x ∈ asked, settings.client.AnsweredFound w.network mode x) → code ≠ some 0) := by
  intro code asked
  -- the first two numbers are told by the verdict, and the third is what is left
  have hcode : code = some (Report.ofScan (label paths) json
      (settings.client.scanAll w.network mode paths w.session).1).status.code :=
    congrArg (Option.map ExitStatus.code) (fst_run_scan hload paths mode json)
  have hzero : code = some 0 ↔ ∀ x ∈ asked, settings.client.AnsweredClean w.network mode x := by
    rw [hcode, Option.some.injEq, ExitStatus.code_eq_zero_iff, Report.status_ofScan_eq_success_iff]
    exact Client.clean_scanAll_iff
  have hone : code = some 1 ↔ (∀ x ∈ asked, settings.client.Answered w.network mode x) ∧
      ∃ x ∈ asked, settings.client.AnsweredFound w.network mode x := by
    rw [hcode, Option.some.injEq, ExitStatus.code_eq_one_iff, Report.status_ofScan_eq_infected_iff]
    exact Client.infected_scanAll_iff
  refine ⟨hzero, hone, ?_, ?_⟩
  · rw [← hzero, ← hone, hcode, Option.some.injEq, Option.some.injEq, Option.some.injEq]
    exact ExitStatus.code_eq_two_iff
  · rintro ⟨x, hx, hfound⟩ hsuccess
    exact Client.not_answeredClean_of_answeredFound hfound (hzero.1 hsuccess x hx)

/-- A daemon that cannot be reached. -/
theorem code_scan_refused :
    (run { overrides := {}, task := .scan ["a", "b"] .first false }
      { network := fun _ _ => .error (.system .connectionRefused) }).1.map ExitStatus.code =
        some 2 := by
  have hload : ((Program.settings platform {}).run
      { network := fun _ _ => .error (.system .connectionRefused) }).1 = .ok {} := rfl
  refine (code_scan hload ["a", "b"] .first false).2.2.1.2 ⟨?_, ?_⟩
  · intro hclean
    obtain ⟨raw, hraw, -⟩ := hclean ("a", 0) (by decide)
    cases hraw
  · rintro ⟨hall, -⟩
    obtain ⟨raw, v, hraw, -⟩ := hall ("a", 0) (by decide)
    cases hraw

end World

end Program

end Clamd
