import Clamd.Program.Report
import Clamd.Proofs.Reply.Joined

/-!
# Reading findings back

What the program prints of an infected verdict is again the text of a scan reply, and it is read as
the same verdict. A line of a reply may have separators in its object and in its signature, so it is
not every report that is read back from its line; but those that were read from a line once are, and
detections are collected from no others.

* `Reply.report?_reportLine`: a report that was read from a line is read again from its own line;
* `Reply.Reads.reported`: what some lines are read as is also what its reports, one line for each,
  are read as;
* `Report.toList_printed`: what is printed of an infected verdict are these lines;
* `Report.verdict_printed`: what is printed of collected verdicts is read as these verdicts
  collected.
-/

namespace Clamd

/-! ### The line of a report -/

namespace Reply

/-- The line that says what a report says. -/
def reportLine (r : String × String) : List Char :=
  FoundLine.text { object := r.1.toList, signature := r.2.toList }

theorem toList_reportLine (r : String × String) :
    (r.1 ++ ": " ++ r.2 ++ " FOUND").toList = reportLine r := by
  simp only [String.toList_append]
  rfl

theorem ending_suffix_reportLine (r : String × String) : FoundLine.ending <:+ reportLine r :=
  List.suffix_append _ _

/-- A report that was read from a line has its own line at the end of it. -/
theorem reportLine_suffix {line : List Char} {r : String × String} (h : report? line = some r) :
    reportLine r <:+ line := by
  obtain ⟨found, hfound, rfl⟩ := Option.map_eq_some_iff.1 h
  obtain ⟨note, hnote⟩ := FoundLine.ofLine?_eq_some_iff.1 hfound
  rw [reportLine, String.toList_ofList, String.toList_ofList]
  exact ⟨note, hnote.line_eq.symm⟩

/-- **A report that was read from a line** is read again from its own line. -/
theorem report?_reportLine {line : List Char} {r : String × String} (h : report? line = some r) :
    report? (reportLine r) = some r := by
  obtain ⟨found, hfound, rfl⟩ := Option.map_eq_some_iff.1 h
  rw [report?, reportLine, String.toList_ofList, String.toList_ofList, FoundLine.ofLine?_text hfound]
  rfl

/-- A report that was read from a line of a body has no line end in its own line. -/
theorem lines_reportLine {body line : List Char} {r : String × String} (hline : line ∈ lines body)
    (h : report? line = some r) : lines (reportLine r) = [reportLine r] :=
  lines_of_found (fun c hc => not_isLineEnd_of_mem_lines hline c ((reportLine_suffix h).mem hc))
    (ending_suffix_reportLine r)

/-! ### The lines of detections -/

/-- Reports that are read again from their own lines are what these lines report. -/
theorem reports_map_reportLine {rs : List (String × String)}
    (h : ∀ r ∈ rs, report? (reportLine r) = some r) : reports (rs.map reportLine) = some rs := by
  have hfound : ∀ line ∈ rs.map reportLine, isFound line = true := by
    intro line hline
    obtain ⟨r, -, rfl⟩ := List.mem_map.1 hline
    exact isFound_iff.2 (ending_suffix_reportLine r)
  refine reports_eq_some_iff.2 ⟨?_, ?_⟩
  · intro line hline _
    obtain ⟨r, hr, rfl⟩ := List.mem_map.1 hline
    exact isSome_report?_iff.1 (Option.isSome_iff_exists.2 ⟨r, h r hr⟩)
  · calc rs = rs.filterMap some := List.filterMap_some.symm
      _ = rs.filterMap (report? ∘ reportLine) :=
          (List.filterMap_congr fun r hr => h r hr).symm
      _ = ((rs.map reportLine).filter isFound).filterMap report? := by
          rw [List.filter_eq_self.2 hfound, List.filterMap_map]

/-- **The reports of an infected verdict** were read from the lines that gave it. -/
theorem Reads.exists_of_mem_reported {ls : List (List Char)} {found : Detections}
    (h : Reads ls (.infected found)) {r : String × String} (hr : r ∈ found.reported) :
    ∃ line ∈ ls, report? line = some r := by
  cases h with
  | infected _ hreports =>
    obtain ⟨-, rfl⟩ := reports_eq_some_iff.1 hreports
    obtain ⟨line, hline, hread⟩ :=
      List.mem_filterMap.1 (Detections.mem_of_mem_reported_ofReports hr)
    exact ⟨line, (List.mem_filter.1 hline).1, hread⟩

/-- An infected verdict lists something. -/
theorem Reads.isEmpty_eq_false {ls : List (List Char)} {found : Detections}
    (h : Reads ls (.infected found)) : found.isEmpty = false := by
  cases h with
  | infected hfound hreports =>
    rw [Detections.isEmpty_ofReports, List.isEmpty_eq_false_iff]
    exact ne_nil_of_reports_eq_some hfound hreports

/-- **The lines of an infected verdict's reports** are read as the verdict. -/
theorem Reads.reported {ls : List (List Char)} {found : Detections}
    (h : Reads ls (.infected found)) :
    Reads (found.reported.map reportLine) (.infected found) := by
  have hreports : reports (found.reported.map reportLine) = some found.reported := by
    refine reports_map_reportLine fun r hr => ?_
    obtain ⟨line, -, hline⟩ := h.exists_of_mem_reported hr
    exact report?_reportLine hline
  have hempty := h.isEmpty_eq_false
  cases h with
  | @infected rs hfound hread =>
    have hgiven : Detections.ofReports (Detections.ofReports rs).reported = .ofReports rs :=
      Detections.ofReports_reported fun _ => Detections.ne_nil_of_mem_ofReports
    -- what is listed is reported, so there is a line
    rw [← hgiven, Detections.isEmpty_ofReports, List.isEmpty_eq_false_iff] at hempty
    obtain ⟨r, hr⟩ := List.exists_mem_of_ne_nil _ hempty
    have hlines := Reads.infected
      ⟨reportLine r, List.mem_map_of_mem hr, ending_suffix_reportLine r⟩ hreports
    rwa [hgiven] at hlines

end Reply

/-! ### What is printed -/

namespace Program.Report

open Reply

/-- What a report puts on standard output: its texts, each with a line end behind it. -/
def printed (report : Report) : String :=
  String.join (report.output.map (· ++ "\n"))

/-- **What is printed of an infected verdict** are the lines of its reports. -/
theorem toList_printed {found : Detections} (h : found.isEmpty = false) (label : String) :
    (ofScan label false (.ok (.infected found))).printed.toList =
      (found.reported.map reportLine).flatMap fun line => line ++ ['\n'] := by
  have hfindings : (Verdict.infected found).findings =
      found.reported.map fun r => r.1 ++ ": " ++ r.2 ++ " FOUND" := by
    simp only [Verdict.findings, Verdict.detections?, h, Bool.false_eq_true, if_false,
      Detections.reported, List.map_flatMap, List.map_map, Function.comp_def]
  have houtput : (ofScan label false (.ok (.infected found))).output =
      (Verdict.infected found).findings := by
    simp [ofScan, verdictLines, Verdict.isClean, h]
  rw [printed, houtput, hfindings, String.toList_join, List.map_map, List.flatMap_map,
    List.flatMap_map]
  congr 1
  funext r
  rw [Function.comp_apply, String.toList_append, toList_reportLine]
  rfl

/-- **Findings are read back as they were.** Let each of some bodies have a verdict, whatever it was
asked for, and let the verdicts come to an infected one. Then what the program prints of it is read,
under any verb, as the same verdict: with its objects, and with the signatures of each object in
their order. -/
theorem verdict_printed {bodies : List String} {verdicts : List Verdict} {found : Detections}
    (hread : List.Forall₂ (fun body v => ∃ verb, verdict verb body = .ok v) bodies verdicts)
    (hfound : Verdict.collect verdicts = .infected found) (label verb : String) :
    verdict verb (ofScan label false (.ok (.collect verdicts))).printed = .ok (.infected found) := by
  have hne : bodies ≠ [] := by
    rintro rfl
    cases hread
    cases hfound
  have hreads := reads_flatMap hread hne
  rw [hfound] at hreads ⊢
  rw [verdict_eq_ok_iff, toList_printed hreads.isEmpty_eq_false, lines_flatMap_concat (by rfl)]
  · exact hreads.reported
  · -- what is printed of a report was a part of a line
    intro line hline
    obtain ⟨r, hr, rfl⟩ := List.mem_map.1 hline
    obtain ⟨origin, horigin, hreport⟩ := hreads.exists_of_mem_reported hr
    obtain ⟨body, -, hbody⟩ := List.mem_flatMap.1 horigin
    exact lines_reportLine hbody hreport

/-- Three replies, in which separators stand where a note, an object or a signature could be. -/
theorem verdict_printed_separators :
    let bodies := ["stream: a: : : sig FOUND",
      "/x: OK\r\nfd[10]: /b: Eicar: Test FOUND\x00/b: Two FOUND",
      "a: : : :  FOUND\n: : A: B FOUND"]
    let verdicts : List Verdict :=
      [.infected (.ofReports [(": ", "sig")]),
        .infected (.ofReports [("Eicar", "Test"), ("/b", "Two")]),
        .infected (.ofReports [(": ", ": "), ("A", "B")])]
    let found : Detections :=
      .ofReports [(": ", "sig"), (": ", ": "), ("/b", "Two"), ("A", "B"), ("Eicar", "Test")]
    let text := "/b: Two FOUND\n: : sig FOUND\n: : :  FOUND\nA: B FOUND\nEicar: Test FOUND\n"
    List.Forall₂ (fun body v => ∃ verb, verdict verb body = .ok v) bodies verdicts ∧
      Verdict.collect verdicts = .infected found ∧
      (ofScan "3 paths" false (.ok (.collect verdicts))).printed = text ∧
      verdict "SCAN" text = .ok (.infected found) := by
  intro bodies verdicts found text
  have hread : List.Forall₂ (fun body v => ∃ verb, verdict verb body = .ok v) bodies verdicts :=
    .cons ⟨"INSTREAM", by rfl⟩ <| .cons ⟨"SCAN", by rfl⟩ <| .cons ⟨"SCAN", by rfl⟩ .nil
  have hfound : Verdict.collect verdicts = .infected found := by rfl
  have htext : (ofScan "3 paths" false (.ok (.collect verdicts))).printed = text := by rfl
  have hverdict := verdict_printed hread hfound "3 paths" "SCAN"
  rw [htext] at hverdict
  exact ⟨hread, hfound, htext, hverdict⟩

end Program.Report

end Clamd
