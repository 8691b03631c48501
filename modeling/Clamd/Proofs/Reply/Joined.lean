import Clamd.Proofs.Reply.Verdict
import Clamd.Proofs.Verdict
import Mathlib.Data.List.Forall2

/-!
# One reply for several

The daemon may answer for many files with one reply or with a reply for each of them. The verdict is
the same: it is read line by line, and merging verdicts is what putting lines together does.

* `Reply.Reads` says what some lines are read as, and `Reply.verdict_eq_ok_iff` that a verdict is
  what the lines of its body are read as;
* `Reply.Reads.append`: lines one after another are read as their verdicts merged;
* `Reply.Joins` are the texts that some bodies make up with line ends between them, and
  `Reply.lines_joins` says that they have the lines of the bodies;
* `Reply.verdict_joins`: the verdict on such a text is that of the bodies, collected;
* `Reply.not_verdict_joins_nil`: there has to be a body, for an empty reply has no verdict, while no
  verdicts at all come to a clean one.
-/

namespace Clamd.Reply

/-! ### What lines are read as -/

/-- **What some lines are read as**: as clean if each of them says so, and as infected if some of
them report detections and all of these can be read. -/
inductive Reads (lines : List (List Char)) : Verdict → Prop where
  | clean (hne : lines ≠ []) (hok : ∀ line ∈ lines, okEnding <:+ line) : Reads lines .clean
  | infected {rs : List (String × String)} (hfound : ∃ line ∈ lines, FoundLine.ending <:+ line)
      (hreports : reports lines = some rs) : Reads lines (.infected (.ofReports rs))

/-- **A verdict is what the lines of the body are read as.** The verb has no part in it. -/
theorem verdict_eq_ok_iff {verb body : String} {v : Verdict} :
    verdict verb body = .ok v ↔ Reads (lines body.toList) v := by
  constructor
  · intro h
    cases v with
    | clean =>
      obtain ⟨hne, hok⟩ := verdict_eq_clean_iff.1 h
      exact .clean hne hok
    | infected found =>
      obtain ⟨hfound, rs, hreports, rfl⟩ := verdict_eq_infected_iff.1 h
      exact .infected hfound hreports
  · intro h
    cases h with
    | clean hne hok => exact verdict_eq_clean_iff.2 ⟨hne, hok⟩
    | infected hfound hreports => exact verdict_eq_infected_iff.2 ⟨hfound, _, hreports, rfl⟩

/-- Lines that say that all is clean report nothing. -/
theorem reports_of_all_ok {lines : List (List Char)} (hok : ∀ line ∈ lines, okEnding <:+ line) :
    reports lines = some [] := by
  have hnone : lines.filter isFound = [] := by
    rw [List.filter_eq_nil_iff]
    intro line hline hfound
    exact not_ok_of_found (isFound_iff.1 hfound) (hok line hline)
  rw [reports, hnone]
  rfl

/-- The reports of lines one after another stand one after another. -/
theorem reports_append {front back : List (List Char)} {rs others : List (String × String)}
    (hfront : reports front = some rs) (hback : reports back = some others) :
    reports (front ++ back) = some (rs ++ others) := by
  obtain ⟨hfrontFits, rfl⟩ := reports_eq_some_iff.1 hfront
  obtain ⟨hbackFits, rfl⟩ := reports_eq_some_iff.1 hback
  rw [reports_eq_some_iff, List.filter_append, List.filterMap_append]
  exact ⟨List.forall_mem_append.2 ⟨hfrontFits, hbackFits⟩, rfl⟩

/-- **Lines one after another** are read as their verdicts merged. -/
theorem Reads.append {front back : List (List Char)} {v w : Verdict} (hfront : Reads front v)
    (hback : Reads back w) : Reads (front ++ back) (v.merge w) := by
  have hleft : ∀ line ∈ front, line ∈ front ++ back := fun _ => List.mem_append_left back
  have hright : ∀ line ∈ back, line ∈ front ++ back := fun _ => List.mem_append_right front
  cases hfront with
  | clean hne hok =>
    cases hback with
    | clean _ hokBack =>
      exact .clean (List.append_ne_nil_of_left_ne_nil hne back)
        (List.forall_mem_append.2 ⟨hok, hokBack⟩)
    | infected hfound hreports =>
      -- the clean lines in front report nothing
      obtain ⟨line, hline, hending⟩ := hfound
      exact .infected ⟨line, hright line hline, hending⟩
        (reports_append (reports_of_all_ok hok) hreports)
  | @infected rs hfound hreports =>
    obtain ⟨line, hline, hending⟩ := hfound
    have hsome : ∃ line ∈ front ++ back, FoundLine.ending <:+ line :=
      ⟨line, hleft line hline, hending⟩
    cases hback with
    | clean _ hokBack =>
      have hall := reports_append hreports (reports_of_all_ok hokBack)
      rw [List.append_nil] at hall
      exact .infected hsome hall
    | @infected others _ hreportsBack =>
      have hread := Reads.infected hsome (reports_append hreports hreportsBack)
      rwa [Detections.ofReports_append] at hread

/-! ### Several bodies -/

/-- **A text that some bodies make up**, one after another, with one line end between two of
them. -/
inductive Joins : List String → String → Prop where
  | none : Joins [] ""
  | one (body : String) : Joins [body] body
  | more {body next text : String} {others : List String} {c : Char} (hc : isLineEnd c = true)
      (h : Joins (next :: others) text) :
      Joins (body :: next :: others) (body ++ String.singleton c ++ text)

/-- A text that bodies make up has the lines of the bodies. -/
theorem lines_joins {bodies : List String} {text : String} (h : Joins bodies text) :
    lines text.toList = bodies.flatMap fun body => lines body.toList := by
  induction h with
  | none => rfl
  | one body => rw [List.flatMap_singleton]
  | @more body next text others c hc h ih =>
    have htext : (body ++ String.singleton c ++ text).toList = body.toList ++ c :: text.toList := by
      simp
    rw [htext, lines_append_cons hc, ih, List.flatMap_cons (x := body)]

/-- The lines of bodies that have verdicts are read as the verdicts collected. -/
theorem reads_flatMap {bodies : List String} {verdicts : List Verdict}
    (hread : List.Forall₂ (fun body v => ∃ verb, verdict verb body = .ok v) bodies verdicts)
    (hne : bodies ≠ []) :
    Reads (bodies.flatMap fun body => lines body.toList) (.collect verdicts) := by
  induction hread with
  | nil => exact absurd rfl hne
  | @cons body v bodies verdicts hbody hbodies ih =>
    obtain ⟨verb, hverdict⟩ := hbody
    have hlines := verdict_eq_ok_iff.1 hverdict
    rw [List.flatMap_cons, Verdict.collect_cons]
    cases hbodies with
    | nil => rwa [List.flatMap_nil, List.append_nil, Verdict.collect, List.foldl_nil,
        Verdict.merge_clean]
    | cons hnext hothers => exact hlines.append (ih (List.cons_ne_nil _ _))

/-- **One reply says what several say.** Let each of some bodies have a verdict, whatever it was
asked for, and let there be at least one of them. Then the text that they make up, with NULs or line
feeds between them, has a verdict under any verb, which is their verdicts merged in their order. -/
theorem verdict_joins {bodies : List String} {verdicts : List Verdict} {text : String}
    (hread : List.Forall₂ (fun body v => ∃ verb, verdict verb body = .ok v) bodies verdicts)
    (hne : bodies ≠ []) (hjoins : Joins bodies text) (verb : String) :
    verdict verb text = .ok (.collect verdicts) := by
  rw [verdict_eq_ok_iff, lines_joins hjoins]
  exact reads_flatMap hread hne

/-- Three replies. The second and the third report a detection in the same object, and the path in
the first one only looks like a report. -/
theorem verdict_joins_sameObject :
    let bodies := ["/FOUND: OK\r", "/x: B FOUND", "/x: A FOUND\x00/y: OK"]
    let verdicts : List Verdict :=
      [.clean, .infected (.ofReports [("/x", "B")]), .infected (.ofReports [("/x", "A")])]
    let text := "/FOUND: OK\r\n/x: B FOUND\x00/x: A FOUND\x00/y: OK"
    List.Forall₂ (fun body v => ∃ verb, verdict verb body = .ok v) bodies verdicts ∧
      bodies ≠ [] ∧ Joins bodies text ∧
      verdict "CONTSCAN" text = .ok (.collect verdicts) ∧
      (Verdict.collect verdicts).findings = ["/x: B FOUND", "/x: A FOUND"] := by
  intro bodies verdicts text
  have hread : List.Forall₂ (fun body v => ∃ verb, verdict verb body = .ok v) bodies verdicts :=
    .cons ⟨"SCAN", by rfl⟩ <| .cons ⟨"SCAN", by rfl⟩ <| .cons ⟨"MULTISCAN", by rfl⟩ .nil
  have hne : bodies ≠ [] := List.cons_ne_nil _ _
  have hjoins : Joins bodies text :=
    .more (c := '\n') rfl <| .more (c := '\x00') rfl <| .one _
  exact ⟨hread, hne, hjoins, verdict_joins hread hne hjoins "CONTSCAN", by rfl⟩

/-- **Without a body there is no verdict to agree with.** The text that no bodies make up is empty,
and an empty reply is invalid; but no verdicts at all are collected into a clean one. -/
theorem not_verdict_joins_nil :
    ¬ ∀ (bodies : List String) (verdicts : List Verdict) (text verb : String),
      List.Forall₂ (fun body v => ∃ verb, verdict verb body = .ok v) bodies verdicts →
        Joins bodies text →
          ∃ v, verdict verb text = .ok v ∧ (v == Verdict.collect verdicts) = true := by
  intro hall
  obtain ⟨v, hv, -⟩ := hall [] [] "" "SCAN" .nil .none
  have hinvalid : verdict "SCAN" "" = .error (.invalidReply "SCAN" "") := by rfl
  rw [hinvalid] at hv
  cases hv

end Clamd.Reply
