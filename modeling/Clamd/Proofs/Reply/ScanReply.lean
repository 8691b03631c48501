import Clamd.Command
import Clamd.Proofs.Reply.Verdict

/-!
# What a scan reply says

The whole reply to a scan, from which the terminator is taken and the refusal of the verb is told
before its lines are looked at. Neither hides a line: the terminator adds none, and a refusal says
nothing of an object.

* `Command.isClean_read_scan_iff`: a reply is read as clean exactly if it says so;
* `Command.infected_read_scan_iff`: a reply that is read at all is read as infected exactly if one
  of its lines reports a detection.
-/

namespace Clamd

namespace Reply

/-- A reply says that all is clean: it has lines, and each of them says so. -/
def SaysClean (raw : String) : Prop :=
  lines raw.toList ≠ [] ∧ ∀ line ∈ lines raw.toList, okEnding <:+ line

/-- A reply reports a detection in one of its lines. -/
def SaysFound (raw : String) : Prop :=
  ∃ line ∈ lines raw.toList, FoundLine.ending <:+ line

/-- A reply that reports a detection does not say that all is clean. -/
theorem not_saysClean_of_saysFound {raw : String} (h : SaysFound raw) : ¬ SaysClean raw := by
  obtain ⟨line, hline, hfound⟩ := h
  exact fun hclean => not_ok_of_found hfound (hclean.2 line hline)

/-- A refusal does not say that all is clean: the word that would say so does not occur in it. -/
theorem not_saysClean_of_refused {framing : Framing} {raw : String}
    (h : Text.trim (framing.strip raw).toList = refusal) : ¬ SaysClean raw := by
  rintro ⟨hne, hall⟩
  obtain ⟨line, others, hlines⟩ := List.exists_cons_of_ne_nil hne
  have hline : line ∈ lines (framing.strip raw).toList := by
    rw [lines_strip, hlines]
    exact List.mem_cons_self
  -- the word has no blank, so it would still stand in the trimmed text
  have hword : ['O', 'K'] <:+ okEnding := by decide
  have hending : okEnding <:+ line := hall line (lines_strip framing raw ▸ hline)
  have htext : ['O', 'K'] <:+: (framing.strip raw).toList :=
    (hword.trans hending).isInfix.trans (infix_of_mem_lines hline)
  have hblank : ∀ c ∈ ['O', 'K'], Text.isBlank c = false := by
    intro c hc
    rcases List.mem_cons.1 hc with rfl | hc
    · rfl
    · rw [List.mem_singleton.1 hc]
      rfl
  have htrim := Text.infix_trim hblank htext
  rw [h, ← Text.occurs_iff] at htrim
  exact absurd htrim (by decide)

end Reply

namespace Command

variable {mode : ScanMode} {path raw : String}

/-- The reply to a scan is a refusal of the verb, or its text without the terminator is what the
verdict is read from. -/
theorem read_scan (mode : ScanMode) (path raw : String) :
    (Text.trim (Framing.null.strip raw).toList = Reply.refusal ∧
        (scan mode path).read raw = .error (.unknownCommand mode.verb)) ∨
      (scan mode path).read raw = Reply.verdict mode.verb (Framing.null.strip raw) := by
  have hread : (scan mode path).read raw =
      (if Text.trim (Framing.null.strip raw).toList = Reply.refusal then
        Except.error (.unknownCommand mode.verb)
      else Except.ok (Framing.null.strip raw)).bind (Reply.verdict mode.verb) := rfl
  rw [hread]
  split
  next hrefused => exact .inl ⟨hrefused, rfl⟩
  next => exact .inr rfl

/-- **A reply is read as clean** exactly if it says that all is clean. -/
theorem isClean_read_scan_iff :
    (∃ v, (scan mode path).read raw = .ok v ∧ v.isClean = true) ↔ Reply.SaysClean raw := by
  rcases read_scan mode path raw with ⟨hrefused, hread⟩ | hread
  · rw [hread]
    refine ⟨?_, fun hclean => absurd hclean (Reply.not_saysClean_of_refused hrefused)⟩
    rintro ⟨v, hv, -⟩
    cases hv
  · rw [hread, Reply.isClean_verdict_iff, Reply.lines_strip]
    rfl

/-- **A reply that is read at all is read as infected** exactly if it reports a detection. -/
theorem infected_read_scan_iff {v : Verdict} (h : (scan mode path).read raw = .ok v) :
    v.isClean = false ↔ Reply.SaysFound raw := by
  rcases read_scan mode path raw with ⟨-, hread⟩ | hread
  · rw [hread] at h
    cases h
  · rw [hread] at h
    constructor
    · intro hinfected
      cases v with
      | clean => cases hinfected
      | infected found =>
        have hfound := (Reply.verdict_eq_infected_iff.1 h).1
        rwa [Reply.lines_strip] at hfound
    · intro hfound
      rw [Bool.eq_false_iff]
      intro hclean
      exact Reply.not_saysClean_of_saysFound hfound (isClean_read_scan_iff.1 ⟨v, hread ▸ h, hclean⟩)

end Command

end Clamd
