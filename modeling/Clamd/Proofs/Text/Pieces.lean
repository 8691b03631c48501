import Clamd.Text.Blank

/-!
# Parts of texts

What searching and cutting a text say about its parts:

* `Text.occurs_iff`: a pattern occurs if it stands somewhere in the text without a gap;
* `Text.infix_append_cons_iff`: a word stands before or behind a character that is not in it;
* `Text.infix_trim`: what has no blank is still in a text without the blanks at its ends;
* `Text.infix_of_mem_pieces`: each piece of a text stands in it without a gap;
* `Text.not_separator_of_mem_pieces`: no piece has a separator in it, and a text without any is its
  only piece;
* `Text.pieces_append_cons`: a separator cuts a text in two, whose pieces are the pieces of the
  whole;
* `Text.cut_induction`: induction over the separators of a text;
* `Text.infix_iff_exists_piece`: a word without separators stands in one of the pieces.
-/

namespace Clamd.Text

theorem occurs_iff {pattern cs : List Char} : occurs pattern cs = true ↔ pattern <:+: cs := by
  induction cs with
  | nil =>
    rw [occurs, afterFirst, List.infix_nil]
    cases pattern <;> simp
  | cons c cs ih =>
    rw [List.infix_cons_iff, ← ih, occurs, afterFirst]
    split
    next hstart => simp [List.isPrefixOf_iff_prefix.1 hstart]
    next hstart =>
      rw [List.isPrefixOf_iff_prefix] at hstart
      simp [hstart, occurs]

/-- A word that a text begins with begins before a character that is not in the word. -/
theorem eq_nil_of_prefix_cons {pattern behind : List Char} {c : Char} (hc : c ∉ pattern)
    (h : pattern <+: c :: behind) : pattern = [] := by
  cases pattern with
  | nil => rfl
  | cons first rest =>
    obtain ⟨rfl, -⟩ := List.cons_prefix_cons.1 h
    exact absurd List.mem_cons_self hc

/-- **A character that is not in a word** keeps apart what stands before and behind it: the word
stands in one of the two or not at all. -/
theorem infix_append_cons_iff {pattern before behind : List Char} {c : Char} (hc : c ∉ pattern) :
    pattern <:+: before ++ c :: behind ↔ pattern <:+: before ∨ pattern <:+: behind := by
  rw [List.infix_append_iff, List.infix_cons_iff]
  constructor
  · rintro (h | (h | h) | ⟨front, back, rfl, hfront, hback⟩)
    · exact .inl h
    · rw [eq_nil_of_prefix_cons hc h]
      exact .inl List.nil_infix
    · exact .inr h
    · -- the part of the word that would begin with the character is empty
      rw [List.mem_append, not_or] at hc
      rw [eq_nil_of_prefix_cons hc.2 hback, List.append_nil]
      exact .inl hfront.isInfix
  · rintro (h | h)
    · exact .inl h
    · exact .inr (.inl (.inr h))

/-! ### Blanks at the ends -/

/-- A pattern without blanks is not lost with the blanks that a text begins with. -/
theorem infix_dropWhile {p : Char → Bool} {pattern cs : List Char}
    (hpattern : ∀ c ∈ pattern, p c = false) (h : pattern <:+: cs) :
    pattern <:+: cs.dropWhile p := by
  induction cs with
  | nil => exact h
  | cons c cs ih =>
    rw [List.dropWhile_cons]
    split
    next hc =>
      rcases List.infix_cons_iff.1 h with hstart | hrest
      · cases pattern with
        | nil => exact List.nil_infix
        | cons first rest =>
          -- the pattern would begin with a character that is dropped
          obtain ⟨rfl, -⟩ := List.cons_prefix_cons.1 hstart
          rw [hpattern first List.mem_cons_self] at hc
          cases hc
      · exact ih hrest
    next => exact h

/-- **What has no blank is still there** when the blanks at the two ends are removed. -/
theorem infix_trim {pattern cs : List Char} (hpattern : ∀ c ∈ pattern, isBlank c = false)
    (h : pattern <:+: cs) : pattern <:+: trim cs := by
  -- the end of a text is the front of the reversed one
  have hreverse : ∀ c ∈ pattern.reverse, isBlank c = false :=
    fun c hc => hpattern c (List.mem_reverse.1 hc)
  have hfront := infix_dropWhile hpattern h
  rw [trim, trimEnd, ← List.reverse_infix, List.reverse_reverse]
  exact infix_dropWhile hreverse (List.reverse_infix.2 hfront)

/-! ### Pieces -/

section Pieces

variable (p : Char → Bool)

theorem pieces_cons_of_separator {c : Char} (h : p c = true) (cs : List Char) :
    pieces p (c :: cs) = [] :: pieces p cs := by
  rw [pieces_cons, if_pos h]

/-- The first piece of a text grows by a character in front that does not separate. -/
theorem pieces_cons_of_not_separator {c : Char} (h : p c = false) {cs piece : List Char}
    {others : List (List Char)} (hpieces : pieces p cs = piece :: others) :
    pieces p (c :: cs) = (c :: piece) :: others := by
  rw [pieces_cons, if_neg (by simp [h]), hpieces]

/-- The first piece of a text is what it begins with, and the others stand in it. -/
theorem prefix_and_infix_of_pieces {cs piece : List Char} {others : List (List Char)}
    (h : pieces p cs = piece :: others) :
    piece <+: cs ∧ ∀ other ∈ others, other <:+: cs := by
  induction cs generalizing piece others with
  | nil =>
    cases h
    exact ⟨List.nil_prefix, fun _ hmem => absurd hmem List.not_mem_nil⟩
  | cons c cs ih =>
    obtain ⟨first, rest, hcs⟩ := List.exists_cons_of_ne_nil (pieces_ne_nil p cs)
    obtain ⟨hfirst, hrest⟩ := ih hcs
    cases hc : p c with
    | true =>
      rw [pieces_cons_of_separator p hc, hcs] at h
      cases h
      refine ⟨List.nil_prefix, fun other hmem => List.infix_cons ?_⟩
      rcases List.mem_cons.1 hmem with rfl | hmem
      · exact hfirst.isInfix
      · exact hrest other hmem
    | false =>
      rw [pieces_cons_of_not_separator p hc hcs] at h
      cases h
      refine ⟨?_, fun other hmem => List.infix_cons (hrest other hmem)⟩
      exact (List.prefix_cons_inj c).2 hfirst

/-- Each piece of a text stands in it without a gap. -/
theorem infix_of_mem_pieces {cs piece : List Char} (h : piece ∈ pieces p cs) : piece <:+: cs := by
  obtain ⟨first, rest, hcs⟩ := List.exists_cons_of_ne_nil (pieces_ne_nil p cs)
  obtain ⟨hfirst, hrest⟩ := prefix_and_infix_of_pieces p hcs
  rw [hcs] at h
  rcases List.mem_cons.1 h with rfl | hmem
  · exact hfirst.isInfix
  · exact hrest piece hmem

/-- A piece has no separator in it. -/
theorem not_separator_of_mem_pieces {cs piece : List Char} (h : piece ∈ pieces p cs) :
    ∀ c ∈ piece, p c = false := by
  induction cs generalizing piece with
  | nil =>
    rw [List.mem_singleton.1 h]
    exact fun c hc => absurd hc List.not_mem_nil
  | cons c cs ih =>
    obtain ⟨first, rest, hcs⟩ := List.exists_cons_of_ne_nil (pieces_ne_nil p cs)
    rw [hcs] at ih
    cases hc : p c with
    | true =>
      rw [pieces_cons_of_separator p hc, hcs] at h
      rcases List.mem_cons.1 h with rfl | h
      · exact fun c hc => absurd hc List.not_mem_nil
      · exact ih h
    | false =>
      rw [pieces_cons_of_not_separator p hc hcs] at h
      rcases List.mem_cons.1 h with rfl | h
      · exact List.forall_mem_cons.2 ⟨hc, ih List.mem_cons_self⟩
      · exact ih (List.mem_cons_of_mem _ h)

/-- A text without separators is its only piece. -/
theorem pieces_of_not_separator {cs : List Char} (h : ∀ c ∈ cs, p c = false) :
    pieces p cs = [cs] := by
  induction cs with
  | nil => rfl
  | cons c cs ih =>
    obtain ⟨hc, hcs⟩ := List.forall_mem_cons.1 h
    exact pieces_cons_of_not_separator p hc (ih hcs)

/-- **A separator cuts a text in two**, and the pieces of the whole are those of the two. -/
theorem pieces_append_cons {c : Char} (hc : p c = true) (before behind : List Char) :
    pieces p (before ++ c :: behind) = pieces p before ++ pieces p behind := by
  induction before with
  | nil => exact pieces_cons_of_separator p hc behind
  | cons b before ih =>
    obtain ⟨first, rest, hbefore⟩ := List.exists_cons_of_ne_nil (pieces_ne_nil p before)
    rw [hbefore, List.cons_append] at ih
    cases hb : p b with
    | true =>
      rw [List.cons_append, pieces_cons_of_separator p hb, pieces_cons_of_separator p hb, ih,
        hbefore]
      rfl
    | false =>
      rw [List.cons_append, pieces_cons_of_not_separator p hb ih,
        pieces_cons_of_not_separator p hb hbefore]
      rfl

/-- **A text is without separators, or one of them cuts it in two.** What holds of texts without
separators, and of a text that is cut if it holds of what is behind the first separator, holds of
all texts. -/
theorem cut_induction {motive : List Char → Prop}
    (plain : ∀ cs, (∀ c ∈ cs, p c = false) → motive cs)
    (cut : ∀ before c behind, (∀ c ∈ before, p c = false) → p c = true → motive behind →
      motive (before ++ c :: behind)) (cs : List Char) : motive cs := by
  induction hn : cs.length using Nat.strongRecOn generalizing cs with
  | ind n ih =>
    have hbefore : ∀ c ∈ cs.takeWhile (!p ·), p c = false := by
      intro c hc
      simpa using List.all_eq_true.1 List.all_takeWhile c hc
    have hcs := List.takeWhile_append_dropWhile (p := (!p ·)) (l := cs)
    cases hdrop : cs.dropWhile (!p ·) with
    | nil =>
      rw [hdrop, List.append_nil] at hcs
      exact plain cs (hcs ▸ hbefore)
    | cons c behind =>
      rw [hdrop] at hcs
      have hc : p c = true := by
        have hhead := List.head_dropWhile_not (!p ·) (l := cs) (by simp [hdrop])
        simpa [hdrop] using hhead
      rw [← hcs]
      refine cut _ c behind hbefore hc (ih behind.length ?_ behind rfl)
      rw [← hn, ← hcs, List.length_append, List.length_cons]
      omega

/-- **A word without separators** stands in a text exactly if it stands in one of its pieces. -/
theorem infix_iff_exists_piece {pattern cs : List Char} (hpattern : ∀ c ∈ pattern, p c = false) :
    pattern <:+: cs ↔ ∃ piece ∈ pieces p cs, pattern <:+: piece := by
  induction cs using cut_induction p with
  | plain cs hcs => simp [pieces_of_not_separator p hcs]
  | cut before c behind hbefore hc ih =>
    have hmem : c ∉ pattern := fun hmem => by simp [hpattern c hmem] at hc
    rw [infix_append_cons_iff hmem, ih, pieces_append_cons p hc, pieces_of_not_separator p hbefore]
    simp

end Pieces

end Clamd.Text
