import Clamd.Proofs.Detections
import Clamd.Proofs.Reply.FoundLine
import Clamd.Proofs.Reply.Lines

/-!
# Verdicts lose and invent nothing

What the verdict on a scan reply says about the lines of the reply, whichever they are and in
whatever order they come.

* `Reply.verdict_of_all_ok`, `Reply.verdict_of_found` and `Reply.verdict_of_no_found` are the three
  ways in which a verdict is reached;
* `Reply.reports_eq_some_iff` says what the detecting lines are read as, one report for each;
* `Reply.verdict_spec`: a verdict is clean exactly if every line says so; a line that reports a
  detection is never passed over; and the detections are those that the lines report.
-/

namespace Clamd.Reply

/-- How a line ends that says that an object is clean. -/
def okEnding : List Char := [' ', 'O', 'K']

theorem isOk_iff {line : List Char} : isOk line = true ↔ okEnding <:+ line :=
  List.isSuffixOf_iff_suffix

theorem isFound_iff {line : List Char} : isFound line = true ↔ FoundLine.ending <:+ line :=
  List.isSuffixOf_iff_suffix

/-- A line does not have two endings, unless one of them ends the other. -/
theorem not_suffix_of_suffix {line ending other : List Char} (h : ending <:+ line)
    (hother : ¬ other <:+ ending) (hending : ¬ ending <:+ other) : ¬ other <:+ line :=
  fun hline => (List.suffix_or_suffix_of_suffix h hline).elim hending hother

/-- No line says that an object is clean and reports a detection. -/
theorem not_ok_of_found {line : List Char} (hfound : FoundLine.ending <:+ line) :
    ¬ okEnding <:+ line :=
  not_suffix_of_suffix hfound (by decide) (by decide)

/-- **The word by which detections are recognised** occurs in a body exactly if it stands in one of
its lines. -/
theorem occurs_foundWord_iff {body : List Char} :
    Text.occurs foundWord body = true ↔ ∃ line ∈ lines body, foundWord <:+: line := by
  rw [Text.occurs_iff]
  exact infix_iff_exists_line (by decide) (by decide) (by decide)

/-- It occurs in a body with a detecting line. -/
theorem occurs_of_found {body line : List Char} (hline : line ∈ lines body)
    (hfound : FoundLine.ending <:+ line) :
    Text.occurs ['F', 'O', 'U', 'N', 'D'] body = true := by
  have hword : foundWord <:+ FoundLine.ending := by decide
  exact occurs_foundWord_iff.2 ⟨line, hline, (hword.trans hfound).isInfix⟩

/-! ### What the lines report -/

/-- The signatures that some lines report for one object, in the order of the lines. -/
def signaturesOf (lines : List (List Char)) (object : String) : List String :=
  lines.filterMap fun line =>
    (FoundLine.ofLine? line).bind fun found =>
      if String.ofList found.object = object then some (String.ofList found.signature) else none

/-- What one line reports. -/
def report? (line : List Char) : Option (String × String) :=
  (FoundLine.ofLine? line).map fun f => (String.ofList f.object, String.ofList f.signature)

theorem isSome_report?_iff {line : List Char} :
    (report? line).isSome ↔ ∃ found, FoundLine.Fits line found := by
  rw [report?, Option.isSome_map, FoundLine.isSome_ofLine?_iff]

/-- Only a line with the ending of a report is read as one. -/
theorem ofLine?_of_not_found {line : List Char} (h : isFound line = false) :
    FoundLine.ofLine? line = none := by
  have hnot : FoundLine.ending.isSuffixOf line = false := h
  rw [FoundLine.ofLine?, hnot]
  rfl

/-- The reports on an object, taken from the detecting lines, are the signatures that all lines
report for it. -/
theorem reportsOf_report? (lines : List (List Char)) (object : String) :
    Detections.reportsOf ((lines.filter isFound).filterMap report?) object =
      signaturesOf lines object := by
  induction lines with
  | nil => rfl
  | cons line lines ih =>
    rw [signaturesOf, List.filterMap_cons]
    cases hfound : isFound line with
    | false =>
      rw [List.filter_cons_of_neg (by simp [hfound]), ofLine?_of_not_found hfound]
      exact ih
    | true =>
      rw [List.filter_cons_of_pos hfound, List.filterMap_cons, report?]
      cases hread : FoundLine.ofLine? line with
      | none => exact ih
      | some found =>
        rw [Option.map_some, Option.bind_some, Detections.reportsOf, List.filter_cons]
        by_cases hobject : String.ofList found.object = object
        · rw [if_pos hobject, if_pos (beq_iff_eq.2 hobject), List.map_cons]
          exact congrArg _ ih
        · rw [if_neg hobject, if_neg (by simpa using hobject)]
          exact ih

/-- Results that are all there are collected in their order. -/
private theorem mapM_eq_some_iff {α β : Type} {f : α → Option β} {xs : List α} {ys : List β} :
    xs.mapM f = some ys ↔ (∀ x ∈ xs, (f x).isSome) ∧ ys = xs.filterMap f := by
  induction xs generalizing ys with
  | nil => cases ys <;> simp
  | cons x xs ih =>
    -- one result that is missing makes all of them missing
    rw [List.mapM_cons, List.forall_mem_cons, List.filterMap_cons]
    cases hx : f x with
    | none => simp
    | some y =>
      simp only [Option.bind_eq_bind, Option.bind_some, Option.bind_eq_some_iff, ih,
        Option.isSome_some, true_and]
      constructor
      · rintro ⟨zs, ⟨hall, rfl⟩, hys⟩
        exact ⟨hall, (Option.some.inj hys).symm⟩
      · rintro ⟨hall, rfl⟩
        exact ⟨_, ⟨hall, rfl⟩, rfl⟩

/-- **The reports of some lines** are there if every detecting line can be read, and then there is
one for each of these lines, in their order. -/
theorem reports_eq_some_iff {lines : List (List Char)} {rs : List (String × String)} :
    reports lines = some rs ↔
      (∀ line ∈ lines, FoundLine.ending <:+ line → ∃ found, FoundLine.Fits line found) ∧
        rs = (lines.filter isFound).filterMap report? := by
  rw [show reports lines = (lines.filter isFound).mapM report? from rfl, mapM_eq_some_iff]
  refine and_congr_left fun _ => ?_
  constructor
  · intro h line hline hfound
    exact isSome_report?_iff.1 (h line (List.mem_filter.2 ⟨hline, isFound_iff.2 hfound⟩))
  · intro h line hline
    obtain ⟨hline, hfound⟩ := List.mem_filter.1 hline
    exact isSome_report?_iff.2 (h line hline (isFound_iff.1 hfound))

/-- There are as many reports as detecting lines. -/
theorem length_of_reports_eq_some {lines : List (List Char)} {rs : List (String × String)}
    (h : reports lines = some rs) : rs.length = (lines.filter isFound).length := by
  obtain ⟨hall, rfl⟩ := reports_eq_some_iff.1 h
  rw [List.length_filterMap_eq_countP, List.countP_eq_length]
  intro line hline
  obtain ⟨hline, hfound⟩ := List.mem_filter.1 hline
  exact isSome_report?_iff.2 (hall line hline (isFound_iff.1 hfound))

/-- Detecting lines do not go without a report. -/
theorem ne_nil_of_reports_eq_some {lines : List (List Char)} {rs : List (String × String)}
    (hfound : ∃ line ∈ lines, FoundLine.ending <:+ line) (h : reports lines = some rs) :
    rs ≠ [] := by
  obtain ⟨line, hline, hending⟩ := hfound
  have hmem : line ∈ lines.filter isFound := List.mem_filter.2 ⟨hline, isFound_iff.2 hending⟩
  have hpos := List.length_pos_of_mem hmem
  rw [← length_of_reports_eq_some h] at hpos
  exact List.length_pos_iff.1 hpos

/-! ### The three ways to a verdict -/

section Ways

variable {verb body : String}

/-- The test for a clean body. -/
theorem all_isOk_iff {lines : List (List Char)} :
    (!lines.isEmpty && lines.all isOk) = true ↔
      lines ≠ [] ∧ ∀ line ∈ lines, okEnding <:+ line := by
  rw [Bool.and_eq_true, Bool.not_eq_true', List.isEmpty_eq_false_iff, List.all_eq_true]
  exact and_congr_right fun _ => forall_congr' fun line => imp_congr_right fun _ => isOk_iff

/-- Every line says that its object is clean. -/
theorem verdict_of_all_ok (hne : lines body.toList ≠ [])
    (hok : ∀ line ∈ lines body.toList, okEnding <:+ line) :
    verdict verb body = .ok .clean := by
  rw [verdict]
  exact if_pos (all_isOk_iff.2 ⟨hne, hok⟩)

/-- **Some line reports a detection.** Then the verdict is what the detecting lines report. -/
theorem verdict_of_found {line : List Char} (hline : line ∈ lines body.toList)
    (hfound : FoundLine.ending <:+ line) :
    verdict verb body =
      match reports (lines body.toList) with
      | none => .error (.invalidReply verb body)
      | some rs => .ok (.infected (.ofReports rs)) := by
  have hnot : ¬ (!(lines body.toList).isEmpty && (lines body.toList).all isOk) = true := by
    rw [all_isOk_iff]
    exact fun hall => not_ok_of_found hfound (hall.2 line hline)
  rw [verdict]
  simp only [if_neg hnot, occurs_of_found hline hfound, if_true]
  split
  next hnone => rw [hnone]
  next hnil => exact absurd rfl (ne_nil_of_reports_eq_some ⟨line, hline, hfound⟩ hnil)
  next rs hne hsome => rw [hsome]

/-- No line reports a detection. Then the verdict is clean, because every line says so, or there is
none. -/
theorem verdict_of_no_found (hnone : ∀ line ∈ lines body.toList, ¬ FoundLine.ending <:+ line) :
    (verdict verb body = .ok .clean ∧ lines body.toList ≠ [] ∧
        ∀ line ∈ lines body.toList, okEnding <:+ line) ∨
      ∃ failure, verdict verb body = .error failure := by
  by_cases hall : lines body.toList ≠ [] ∧ ∀ line ∈ lines body.toList, okEnding <:+ line
  · exact .inl ⟨verdict_of_all_ok hall.1 hall.2, hall⟩
  · right
    have hnot : ¬ (!(lines body.toList).isEmpty && (lines body.toList).all isOk) = true :=
      fun h => hall (all_isOk_iff.1 h)
    -- without a detecting line there are no reports, so no detections come of the body
    have hnil : (lines body.toList).filter isFound = [] := by
      rw [List.filter_eq_nil_iff]
      exact fun line hline hfound => hnone line hline (isFound_iff.1 hfound)
    have hreports : reports (lines body.toList) = some [] := by
      rw [reports_eq_some_iff, hnil]
      exact ⟨fun line hline hfound => absurd hfound (hnone line hline), rfl⟩
    rw [verdict]
    simp only [if_neg hnot, hreports]
    split
    · exact ⟨_, rfl⟩
    · split
      · exact ⟨_, rfl⟩
      · exact ⟨_, rfl⟩

/-- **A verdict is plainly clean** exactly if there are lines and each of them says so. -/
theorem verdict_eq_clean_iff :
    verdict verb body = .ok .clean ↔
      lines body.toList ≠ [] ∧ ∀ line ∈ lines body.toList, okEnding <:+ line := by
  refine ⟨fun hclean => ?_, fun h => verdict_of_all_ok h.1 h.2⟩
  by_cases hfound : ∃ line ∈ lines body.toList, FoundLine.ending <:+ line
  · obtain ⟨line, hline, hending⟩ := hfound
    rw [verdict_of_found hline hending] at hclean
    split at hclean <;> cases hclean
  · have hnone : ∀ line ∈ lines body.toList, ¬ FoundLine.ending <:+ line :=
      fun line hline hending => hfound ⟨line, hline, hending⟩
    rcases verdict_of_no_found hnone with ⟨-, hok⟩ | ⟨failure, hfailure⟩
    · exact hok
    · rw [hfailure] at hclean
      cases hclean

/-- **A verdict is infected** exactly if there are detecting lines and all of them can be read; its
detections are then their reports. -/
theorem verdict_eq_infected_iff {found : Detections} :
    verdict verb body = .ok (.infected found) ↔
      (∃ line ∈ lines body.toList, FoundLine.ending <:+ line) ∧
        ∃ rs, reports (lines body.toList) = some rs ∧ found = .ofReports rs := by
  by_cases hfound : ∃ line ∈ lines body.toList, FoundLine.ending <:+ line
  · obtain ⟨line, hline, hending⟩ := hfound
    rw [verdict_of_found hline hending]
    constructor
    · intro h
      split at h
      next => cases h
      next rs hrs =>
        cases h
        exact ⟨⟨line, hline, hending⟩, rs, hrs, rfl⟩
    · rintro ⟨-, rs, hrs, rfl⟩
      rw [hrs]
  · have hnone : ∀ line ∈ lines body.toList, ¬ FoundLine.ending <:+ line :=
      fun line hline hending => hfound ⟨line, hline, hending⟩
    refine ⟨fun h => ?_, fun h => absurd h.1 hfound⟩
    rcases verdict_of_no_found hnone with ⟨hclean, -⟩ | ⟨failure, hfailure⟩
    · rw [hclean] at h
      cases h
    · rw [hfailure] at h
      cases h

/-- An infected verdict on a reply is not clean in any respect. -/
theorem isEmpty_of_verdict_eq_infected {found : Detections}
    (h : verdict verb body = .ok (.infected found)) : found.isEmpty = false := by
  obtain ⟨hfound, rs, hrs, rfl⟩ := verdict_eq_infected_iff.1 h
  rw [Detections.isEmpty_ofReports, List.isEmpty_eq_false_iff]
  exact ne_nil_of_reports_eq_some hfound hrs

/-- **A verdict is clean** in one way only. -/
theorem isClean_verdict_iff :
    (∃ v, verdict verb body = .ok v ∧ v.isClean = true) ↔
      lines body.toList ≠ [] ∧ ∀ line ∈ lines body.toList, okEnding <:+ line := by
  rw [← @verdict_eq_clean_iff verb body]
  constructor
  · rintro ⟨v, hv, hclean⟩
    cases v with
    | clean => exact hv
    | infected found =>
      rw [Verdict.isClean, isEmpty_of_verdict_eq_infected hv] at hclean
      cases hclean
  · exact fun h => ⟨.clean, h, rfl⟩

/-- A detecting line that has not the shape of a report makes the reply invalid. -/
theorem verdict_of_not_fits {line : List Char} (hline : line ∈ lines body.toList)
    (hending : FoundLine.ending <:+ line)
    (hnot : ¬ ∀ line ∈ lines body.toList, FoundLine.ending <:+ line →
      ∃ found, FoundLine.Fits line found) :
    verdict verb body = .error (.invalidReply verb body) := by
  rw [verdict_of_found hline hending]
  split
  next => rfl
  next rs hrs => exact absurd (reports_eq_some_iff.1 hrs).1 hnot

end Ways

/-! ### Nothing is lost or invented -/

/-- **A verdict on a reply is what the lines of the reply say.**

* It is clean exactly if there are lines and each of them says that its object is clean.
* As soon as one line reports a detection, the verdict is infected if every such line has the shape
  of a report, and otherwise the reply is invalid.
* An infected verdict lists some object, and none without a signature. It has as many signatures as
  there are detecting lines, each of which is read in accordance with its shape; and the signatures
  of an object are those that the lines report for it, in the order of the lines. -/
theorem verdict_spec (verb body : String) :
    ((∃ v, verdict verb body = .ok v ∧ v.isClean = true) ↔
        lines body.toList ≠ [] ∧ ∀ line ∈ lines body.toList, okEnding <:+ line) ∧
      ((∃ line ∈ lines body.toList, FoundLine.ending <:+ line) →
        ((∀ line ∈ lines body.toList, FoundLine.ending <:+ line →
            ∃ found, FoundLine.Fits line found) →
          ∃ found, verdict verb body = .ok (.infected found)) ∧
        ((¬ ∀ line ∈ lines body.toList, FoundLine.ending <:+ line →
            ∃ found, FoundLine.Fits line found) →
          verdict verb body = .error (.invalidReply verb body))) ∧
      ∀ found, verdict verb body = .ok (.infected found) →
        found.entries ≠ [] ∧ (∀ e ∈ found.entries, e.2 ≠ []) ∧
          found.total = ((lines body.toList).filter isFound).length ∧
          (∀ line ∈ lines body.toList, FoundLine.ending <:+ line →
            ∃ f, FoundLine.ofLine? line = some f ∧ FoundLine.Fits line f) ∧
          ∀ object, found.signatures object = signaturesOf (lines body.toList) object := by
  refine ⟨isClean_verdict_iff, ?_, ?_⟩
  · rintro ⟨line, hline, hending⟩
    refine ⟨fun hfits => ?_, verdict_of_not_fits hline hending⟩
    exact ⟨_, verdict_eq_infected_iff.2
      ⟨⟨line, hline, hending⟩, _, reports_eq_some_iff.2 ⟨hfits, rfl⟩, rfl⟩⟩
  · intro found hinfected
    have hempty := isEmpty_of_verdict_eq_infected hinfected
    obtain ⟨-, rs, hreports, rfl⟩ := verdict_eq_infected_iff.1 hinfected
    obtain ⟨hfits, hrs⟩ := reports_eq_some_iff.1 hreports
    refine ⟨List.isEmpty_eq_false_iff.1 hempty, fun e => Detections.ne_nil_of_mem_ofReports, ?_, ?_,
      ?_⟩
    · rw [Detections.total_ofReports, length_of_reports_eq_some hreports]
    · intro line hline hending
      obtain ⟨f, hf⟩ := Option.isSome_iff_exists.1
        (FoundLine.isSome_ofLine?_iff.2 (hfits line hline hending))
      exact ⟨f, hf, FoundLine.fits_of_ofLine? hf⟩
    · intro object
      rw [Detections.signatures_ofReports, hrs, reportsOf_report?]

end Clamd.Reply
