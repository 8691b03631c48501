import Clamd.Proofs.Text.Pieces
import Clamd.Reply

/-!
# The lines of a reply

A reply is cut into lines at NULs and line feeds, and its terminator is one of them.

* `Reply.infix_of_mem_lines`: a line stands in the body without a gap;
* `Reply.not_isLineEnd_of_mem_lines`: there is no line end in a line;
* `Reply.lines_of_suffix`: a text without line ends is its only line, if a word is its end;
* `Reply.infix_iff_exists_line`: a word stands in a body exactly if it stands in one of its lines;
* `Reply.lines_append_cons`: a line end cuts a body in two, and the lines of the two are the lines
  of the whole;
* `Reply.lines_flatMap_concat`: lines written one under another are read as these lines;
* `Reply.lines_strip`: it makes no difference to the lines whether the terminator is there.
-/

namespace Clamd.Reply

/-- A piece begins with what is left of it without the carriage returns at its end. -/
theorem prefix_of_withoutReturns (piece : List Char) : withoutReturns piece <+: piece := by
  have hsuffix := List.dropWhile_suffix (l := piece.reverse) (· == '\r')
  rw [withoutReturns, ← List.reverse_suffix, List.reverse_reverse]
  exact hsuffix

theorem withoutReturns_concat (piece : List Char) {c : Char} (hc : c ≠ '\r') :
    withoutReturns (piece ++ [c]) = piece ++ [c] := by
  rw [withoutReturns, List.reverse_concat, List.dropWhile_cons_of_neg (by simpa using hc),
    List.reverse_cons, List.reverse_reverse]

/-- A line stands in the body without a gap. -/
theorem infix_of_mem_lines {body line : List Char} (h : line ∈ lines body) : line <:+: body := by
  rw [lines, List.mem_filter, List.mem_map] at h
  obtain ⟨⟨piece, hpiece, rfl⟩, -⟩ := h
  exact (prefix_of_withoutReturns piece).isInfix.trans (Text.infix_of_mem_pieces _ hpiece)

/-- A line has no line end in it. -/
theorem not_isLineEnd_of_mem_lines {body line : List Char} (h : line ∈ lines body) :
    ∀ c ∈ line, isLineEnd c = false := by
  rw [lines, List.mem_filter, List.mem_map] at h
  obtain ⟨⟨piece, hpiece, rfl⟩, -⟩ := h
  intro c hc
  exact Text.not_separator_of_mem_pieces _ hpiece c ((prefix_of_withoutReturns piece).mem hc)

/-- **A text without line ends whose end is a word** is its only line. -/
theorem lines_of_suffix {line word : List Char} (hends : ∀ c ∈ line, isLineEnd c = false)
    (hne : word ≠ []) (hvisible : word.any Text.isBlank = false) (hword : word <:+ line) :
    lines line = [line] := by
  have hblank : ∀ c ∈ word, Text.isBlank c = false := by simpa using hvisible
  have hreturns : withoutReturns line = line := by
    obtain ⟨rest, last, rfl⟩ := (List.eq_nil_or_concat word).resolve_left hne
    obtain ⟨front, rfl⟩ := hword
    rw [List.concat_eq_append] at hblank
    -- a carriage return is a blank, and the last character of the word is none
    have hlast : last ≠ '\r' := by
      rintro rfl
      exact absurd (hblank '\r' (List.mem_append_right _ (List.mem_singleton.2 rfl))) (by decide)
    rw [List.concat_eq_append, ← List.append_assoc]
    exact withoutReturns_concat (front ++ rest) hlast
  have htrim : (Text.trim line).isEmpty = false := by
    rw [List.isEmpty_eq_false_iff]
    intro hnil
    have hinfix := Text.infix_trim hblank hword.isInfix
    rw [hnil, List.infix_nil] at hinfix
    exact hne hinfix
  rw [lines, Text.pieces_of_not_separator _ hends, List.map_singleton, hreturns,
    List.filter_cons_of_pos (by rw [htrim]; rfl), List.filter_nil]

/-- The word by which detections are recognised. -/
def foundWord : List Char := ['F', 'O', 'U', 'N', 'D']

/-- **A text with the ending of a detecting line** and without line ends is its only line. -/
theorem lines_of_found {line : List Char} (hends : ∀ c ∈ line, isLineEnd c = false)
    (hending : FoundLine.ending <:+ line) : lines line = [line] := by
  have hword : foundWord <:+ FoundLine.ending := by decide
  exact lines_of_suffix hends (by decide) (by decide) (hword.trans hending)

/-! ### Words in lines -/

/-- A word without carriage returns is not lost with those at the end of a piece. -/
theorem infix_withoutReturns_iff {word piece : List Char} (hword : '\r' ∉ word) :
    word <:+: withoutReturns piece ↔ word <:+: piece := by
  refine ⟨fun h => h.trans (prefix_of_withoutReturns piece).isInfix, fun h => ?_⟩
  rw [withoutReturns, ← List.reverse_infix, List.reverse_reverse]
  refine Text.infix_dropWhile (fun c hc => ?_) (List.reverse_infix.2 h)
  rw [beq_eq_false_iff_ne]
  rintro rfl
  exact hword (List.mem_reverse.1 hc)

/-- **A word without blanks and line ends** stands in a body exactly if it stands in one of its
lines. -/
theorem infix_iff_exists_line {word body : List Char} (hne : word ≠ [])
    (hvisible : word.any Text.isBlank = false) (hone : word.any isLineEnd = false) :
    word <:+: body ↔ ∃ line ∈ lines body, word <:+: line := by
  have hblank : ∀ c ∈ word, Text.isBlank c = false := by simpa using hvisible
  have hends : ∀ c ∈ word, isLineEnd c = false := by simpa using hone
  constructor
  · intro h
    obtain ⟨piece, hpiece, hword⟩ := (Text.infix_iff_exists_piece isLineEnd hends).1 h
    have hreturn : '\r' ∉ word := fun hmem => absurd (hblank _ hmem) (by decide)
    rw [← infix_withoutReturns_iff hreturn] at hword
    refine ⟨withoutReturns piece, List.mem_filter.2 ⟨List.mem_map_of_mem hpiece, ?_⟩, hword⟩
    -- a line of blanks only would not hold the word
    have htrim := Text.infix_trim hblank hword
    cases hempty : Text.trim (withoutReturns piece) with
    | nil =>
      rw [hempty, List.infix_nil] at htrim
      exact absurd htrim hne
    | cons c cs => rfl
  · rintro ⟨line, hline, hword⟩
    exact hword.trans (infix_of_mem_lines hline)

/-! ### Line ends -/

@[simp] theorem lines_nil : lines [] = [] := rfl

/-- **A line end cuts a body in two**, and the lines of the whole are those of the two. -/
theorem lines_append_cons {c : Char} (hc : isLineEnd c = true) (before behind : List Char) :
    lines (before ++ c :: behind) = lines before ++ lines behind := by
  rw [lines, Text.pieces_append_cons isLineEnd hc, List.map_append, List.filter_append]
  rfl

/-- **Lines written one under another** are read as these lines. -/
theorem lines_flatMap_concat {c : Char} (hc : isLineEnd c = true) {ls : List (List Char)}
    (h : ∀ line ∈ ls, lines line = [line]) : lines (ls.flatMap fun line => line ++ [c]) = ls := by
  induction ls with
  | nil => rfl
  | cons line ls ih =>
    obtain ⟨hline, hls⟩ := List.forall_mem_cons.1 h
    rw [List.flatMap_cons, List.append_assoc, List.singleton_append, lines_append_cons hc, hline,
      ih hls, List.singleton_append]

theorem isLineEnd_terminator (framing : Framing) : isLineEnd framing.terminator = true := by
  cases framing <;> rfl

/-- **The terminator adds no line.** -/
theorem lines_strip (framing : Framing) (raw : String) :
    lines (framing.strip raw).toList = lines raw.toList := by
  rw [Framing.strip]
  split
  next hlast =>
    rw [beq_iff_eq, List.getLast?_eq_some_iff] at hlast
    obtain ⟨text, htext⟩ := hlast
    rw [String.toList_ofList, htext, List.dropLast_concat,
      lines_append_cons (isLineEnd_terminator framing), lines_nil, List.append_nil]
  next => rfl

end Clamd.Reply
