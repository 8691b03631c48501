import Clamd.Proofs.Reply.FoundLine
import Clamd.Proofs.Text.Pattern

/-!
# The pattern of a line that reports a detection

The shape `[note: ]object: signature FOUND` as a pattern: the note is a long run that may be left
out, the object a short run, the signature a long one. All three want their share of the separators
of a line, and the order in which the ways of the pattern are tried decides who gets them. The
reading of a line knows nothing of patterns, it looks at the positions of the separators only. The
two always agree.

* `FoundLine.pattern` is the pattern, and `FoundLine.matches_pattern_iff` says that it matches what
  can be split;
* `FoundLine.first?_pattern`: the reading of a line is what a search for the pattern keeps;
* `FoundLine.Ends`, `FoundLine.Opens` and `FoundLine.Begins`: the positions at which the parts of a
  line begin and end;
* `FoundLine.first?_pattern_cut`: the search told by these positions.
-/

namespace Clamd.FoundLine

open Text

/-- Whether a character may stand in a line. -/
def isInLine (c : Char) : Bool := c != '\n'

/-- The note of a line with the separator behind it, if there is one. -/
def notePattern : Pattern := .perhaps (.both (.run isInLine true) (.text separator))

/-- The object of a line. -/
def objectPattern : Pattern := .group (.run isInLine false)

/-- What stands behind the object of a line. -/
def signaturePattern : Pattern :=
  .both (.text separator) (.both (.group (.run isInLine true)) (.text ending))

/-- **The pattern of a line that reports a detection.** -/
def pattern : Pattern := .both notePattern (.both objectPattern signaturePattern)

variable {line cs : List Char} {groups : List (List Char)}

/-! ### What the pattern matches -/

theorem matches_notePattern_iff :
    notePattern.Matches cs groups ↔ groups = [] ∧
      (cs = [] ∨ ∃ words, words ≠ [] ∧ (∀ c ∈ words, isInLine c = true) ∧
        cs = words ++ separator) := by
  simp only [notePattern, Pattern.Matches]
  constructor
  · rintro (⟨words, _, _, _, ⟨hwords, hall, rfl⟩, ⟨rfl, rfl⟩, rfl, rfl⟩ | ⟨rfl, rfl⟩)
    · exact ⟨rfl, .inr ⟨words, hwords, hall, rfl⟩⟩
    · exact ⟨rfl, .inl rfl⟩
  · rintro ⟨rfl, rfl | ⟨words, hwords, hall, rfl⟩⟩
    · exact .inr ⟨rfl, rfl⟩
    · exact .inl ⟨words, separator, [], [], ⟨hwords, hall, rfl⟩, ⟨rfl, rfl⟩, rfl, rfl⟩

theorem matches_objectPattern_iff :
    objectPattern.Matches cs groups ↔
      cs ≠ [] ∧ (∀ c ∈ cs, isInLine c = true) ∧ groups = [cs] := by
  simp only [objectPattern, Pattern.Matches]
  constructor
  · rintro ⟨_, ⟨hne, hall, rfl⟩, rfl⟩
    exact ⟨hne, hall, rfl⟩
  · rintro ⟨hne, hall, rfl⟩
    exact ⟨[], ⟨hne, hall, rfl⟩, rfl⟩

theorem matches_signaturePattern_iff :
    signaturePattern.Matches cs groups ↔
      ∃ signature, signature ≠ [] ∧ (∀ c ∈ signature, isInLine c = true) ∧
        cs = separator ++ signature ++ ending ∧ groups = [signature] := by
  simp only [signaturePattern, Pattern.Matches]
  constructor
  · rintro ⟨_, _, _, _, ⟨rfl, rfl⟩,
      ⟨signature, _, _, _, ⟨_, ⟨hne, hall, rfl⟩, rfl⟩, ⟨rfl, rfl⟩, rfl, rfl⟩, rfl, rfl⟩
    exact ⟨signature, hne, hall, (List.append_assoc _ _ _).symm, rfl⟩
  · rintro ⟨signature, hne, hall, rfl, rfl⟩
    exact ⟨separator, signature ++ ending, [], [signature], ⟨rfl, rfl⟩,
      ⟨signature, ending, [signature], [], ⟨[], ⟨hne, hall, rfl⟩, rfl⟩, ⟨rfl, rfl⟩, rfl, rfl⟩,
      List.append_assoc _ _ _, rfl⟩

/-- The parts of the pattern match the parts of a line. -/
theorem Splits.matches {note : List Char} {found : FoundLine}
    (hline : ∀ c ∈ line, isInLine c = true) (h : Splits line note found) :
    notePattern.Matches note [] ∧ objectPattern.Matches found.object [found.object] ∧
      signaturePattern.Matches (separator ++ found.signature ++ ending) [found.signature] := by
  -- no part of the line has a line feed in it
  rw [h.line_eq, text] at hline
  simp only [List.forall_mem_append] at hline
  obtain ⟨hnote, ⟨⟨hobject, -⟩, hsignature⟩, -⟩ := hline
  refine ⟨matches_notePattern_iff.2 ⟨rfl, ?_⟩,
    matches_objectPattern_iff.2 ⟨h.object_ne_nil, hobject, rfl⟩,
    matches_signaturePattern_iff.2 ⟨_, h.signature_ne_nil, hsignature, rfl, rfl⟩⟩
  rcases h.note_eq with hnone | ⟨words, hwords, hsplit⟩
  · exact .inl hnone
  · rw [hsplit, List.forall_mem_append] at hnote
    exact .inr ⟨words, hwords, hnote.1, hsplit⟩

/-- What is behind the note is matched by what is behind the pattern of the note. -/
theorem Splits.matches_text {note : List Char} {found : FoundLine}
    (hline : ∀ c ∈ line, isInLine c = true) (h : Splits line note found) :
    (Pattern.both objectPattern signaturePattern).Matches found.text
      [found.object, found.signature] := by
  obtain ⟨-, hobject, hsignature⟩ := h.matches hline
  refine ⟨_, _, _, _, hobject, hsignature, ?_, rfl⟩
  rw [text]
  simp only [List.append_assoc]

/-- **The pattern matches what can be split.** -/
theorem matches_pattern_iff (hline : ∀ c ∈ line, isInLine c = true) :
    pattern.Matches line groups ↔
      ∃ note found, Splits line note found ∧ groups = [found.object, found.signature] := by
  constructor
  · rintro ⟨note, _, _, _, hnote, ⟨object, _, _, _, hobject, hsignature, rfl, rfl⟩, rfl, rfl⟩
    obtain ⟨rfl, hnotes⟩ := matches_notePattern_iff.1 hnote
    obtain ⟨hne, -, rfl⟩ := matches_objectPattern_iff.1 hobject
    obtain ⟨signature, hsome, -, rfl, rfl⟩ := matches_signaturePattern_iff.1 hsignature
    refine ⟨note, ⟨object, signature⟩, ⟨hne, hsome, ?_, ?_⟩, rfl⟩
    · rcases hnotes with hnone | ⟨words, hwords, -, hsplit⟩
      · exact .inl hnone
      · exact .inr ⟨words, hwords, hsplit⟩
    · rw [text]
      simp only [List.append_assoc]
  · rintro ⟨note, found, hsplits, rfl⟩
    obtain ⟨hnote, -, -⟩ := hsplits.matches hline
    exact ⟨note, found.text, [], _, hnote, hsplits.matches_text hline, hsplits.line_eq, rfl⟩

/-! ### Which way is found -/

/-- Notes are tried from the longest one down to none. -/
theorem pairwise_notePattern (cs : List Char) :
    (notePattern.ways cs).Pairwise fun a b => b.taken.length < a.taken.length := by
  refine Pattern.pairwise_perhaps
    (Pattern.pairwise_both_text separator (Pattern.pairwise_run_long isInLine cs)) fun w hw => ?_
  obtain ⟨⟨words, _, _, _, ⟨hwords, -⟩, -, htaken, -⟩, -⟩ := Pattern.mem_ways.1 hw
  rw [htaken]
  exact List.append_ne_nil_of_left_ne_nil hwords _

/-- Objects are tried from the shortest one on. -/
theorem pairwise_objectPattern (cs : List Char) :
    (objectPattern.ways cs).Pairwise fun a b => a.taken.length < b.taken.length := by
  rw [objectPattern, Pattern.ways, List.pairwise_map]
  exact Pattern.pairwise_run_short isInLine cs

/-- **What a search finds** is the preferred way to split the line. -/
theorem exists_preferred_of_first? (hline : ∀ c ∈ line, isInLine c = true)
    (h : pattern.first? line = some groups) :
    ∃ note found, Preferred line note found ∧ groups = [found.object, found.signature] := by
  -- the first note behind which something is found, and the first object behind it
  rw [pattern, Pattern.first?_both] at h
  obtain ⟨a, ha, hfirst, hnotes⟩ := exists_first_of_findSome? h (pairwise_notePattern line)
  obtain ⟨kept, hkept, rfl⟩ := Option.map_eq_some_iff.1 hfirst
  rw [Pattern.first?_both] at hkept
  obtain ⟨b, hb, hsecond, hobjects⟩ := exists_first_of_findSome? hkept (pairwise_objectPattern _)
  obtain ⟨last, hlast, rfl⟩ := Option.map_eq_some_iff.1 hsecond
  obtain ⟨hnoteMatch, hnoteRest⟩ := Pattern.mem_ways.1 ha
  obtain ⟨hobjectMatch, hobjectRest⟩ := Pattern.mem_ways.1 hb
  obtain ⟨hnoteGroups, hnote⟩ := matches_notePattern_iff.1 hnoteMatch
  obtain ⟨hobject, -, hobjectGroups⟩ := matches_objectPattern_iff.1 hobjectMatch
  obtain ⟨signature, hsignature, -, hbehind, rfl⟩ :=
    matches_signaturePattern_iff.1 (Pattern.matches_of_first? hlast)
  have hrest : a.rest = text ⟨b.taken, signature⟩ := by
    rw [← hobjectRest, hbehind, text]
    simp only [List.append_assoc]
  have hsplit : line = a.taken ++ text ⟨b.taken, signature⟩ := by rw [← hnoteRest, hrest]
  refine ⟨a.taken, ⟨b.taken, signature⟩, ⟨⟨hobject, hsignature, ?_, hsplit⟩, ?_, ?_⟩, ?_⟩
  · rcases hnote with hnone | ⟨words, hwords, -, htaken⟩
    · exact .inl hnone
    · exact .inr ⟨words, hwords, htaken⟩
  · intro other found hother
    have hway : ⟨other, [], found.text⟩ ∈ notePattern.ways line :=
      Pattern.mem_ways.2 ⟨(hother.matches hline).1, hother.line_eq.symm⟩
    have hfound : ((Pattern.both objectPattern signaturePattern).first? found.text).isSome :=
      Pattern.isSome_first?_iff.2 ⟨_, hother.matches_text hline⟩
    rcases hnotes _ hway (by rw [Option.isSome_map]; exact hfound) with heq | hlt
    · exact Nat.le_of_eq (congrArg (·.taken.length) heq)
    · exact Nat.le_of_lt hlt
  · intro found hfound
    obtain ⟨-, hobjectMatch, hsignatureMatch⟩ := hfound.matches hline
    have hbehindNote : found.object ++ (separator ++ found.signature ++ ending) = a.rest := by
      rw [hrest, ← List.append_cancel_left (hfound.line_eq.symm.trans hsplit), text]
      simp only [List.append_assoc]
    have hway : ⟨found.object, [found.object], separator ++ found.signature ++ ending⟩ ∈
        objectPattern.ways a.rest := Pattern.mem_ways.2 ⟨hobjectMatch, hbehindNote⟩
    have hrestFound := Pattern.isSome_first?_iff.2 ⟨_, hsignatureMatch⟩
    rcases hobjects _ hway (by rw [Option.isSome_map]; exact hrestFound) with heq | hlt
    · exact Nat.le_of_eq (congrArg (·.taken.length) heq.symm)
    · exact Nat.le_of_lt hlt
  · rw [hnoteGroups, hobjectGroups]
    rfl

/-- **The reading of a line is what a search for the pattern keeps.** -/
theorem first?_pattern (hline : ∀ c ∈ line, isInLine c = true) :
    pattern.first? line = (ofLine? line).map fun found => [found.object, found.signature] := by
  cases hread : ofLine? line with
  | none =>
    -- whatever the search found would be a way to split the line
    rw [Option.map_none, Option.eq_none_iff_forall_ne_some]
    intro groups hgroups
    obtain ⟨note, found, hnote, -⟩ := exists_preferred_of_first? hline hgroups
    have hsome := hnote.isSome_ofLine?
    rw [hread] at hsome
    cases hsome
  | some found =>
    obtain ⟨note, hnote⟩ := exists_preferred_of_ofLine? hread
    obtain ⟨groups, hgroups⟩ := Option.isSome_iff_exists.1 <| Pattern.isSome_first?_iff.2
      ⟨_, (matches_pattern_iff hline).2 ⟨note, found, hnote.toSplits, rfl⟩⟩
    obtain ⟨other, rest, hother, rfl⟩ := exists_preferred_of_first? hline hgroups
    rw [hgroups, hnote.unique hother]
    rfl

/-! ### The positions -/

/-- **An object that begins at `start` can end at `q`**: a separator stands there, at least one
character behind the start, and at least one character is between it and the ending of the line. -/
structure Ends (cs : List Char) (start q : Nat) : Prop where
  colon : cs[q]? = some ':'
  blank : cs[q + 1]? = some ' '
  object : start + 1 ≤ q
  signature : q + 2 < cs.length - ending.length

/-- **A note can end at `r`**: a separator stands there, something is before it, and an object that
begins behind it can end. -/
structure Opens (cs : List Char) (r : Nat) : Prop where
  note : 1 ≤ r
  colon : cs[r]? = some ':'
  blank : cs[r + 1]? = some ' '
  ends : ∃ q, Ends cs (r + 2) q

/-- **Where the object begins**: behind the last separator at which a note can end, or where the
line begins if there is none. -/
def Begins (line : List Char) (start : Nat) : Prop :=
  (∃ r, Opens line r ∧ (∀ other, Opens line other → other ≤ r) ∧ start = r + 2) ∨
    (∀ r, ¬ Opens line r) ∧ start = 0

theorem ends_iff {report : List Char} {start q : Nat} (hline : report ++ ending = line) :
    Ends line start q ↔ q ∈ separators line ∧ start + 1 ≤ q ∧ q + 2 < report.length := by
  have hstop : line.length - ending.length = report.length := by
    rw [← hline, List.length_append, Nat.add_sub_cancel]
  rw [mem_separators]
  constructor
  · rintro ⟨hcolon, hblank, hobject, hsignature⟩
    exact ⟨⟨hcolon, hblank⟩, hobject, hstop ▸ hsignature⟩
  · rintro ⟨⟨hcolon, hblank⟩, hobject, hsignature⟩
    exact ⟨hcolon, hblank, hobject, hstop ▸ hsignature⟩

/-- **A line can be read** exactly if it ends as a report does and an object that begins with it can
end. -/
theorem isSome_ofLine?_iff_ends :
    (ofLine? line).isSome ↔ ending <:+ line ∧ ∃ q, Ends line 0 q := by
  constructor
  · intro h
    obtain ⟨found, hfound⟩ := Option.isSome_iff_exists.1 h
    obtain ⟨report, start, q, hline, -, hq, hstart, hstop, -⟩ := exists_cut_of_ofLine? hfound
    exact ⟨⟨report, hline⟩, q, (ends_iff hline).2 ⟨hq, by omega, hstop⟩⟩
  · rintro ⟨⟨report, hline⟩, q, hends⟩
    obtain ⟨hq, hstart, hstop⟩ := (ends_iff hline).1 hends
    exact (splits_of_cut hline (mem_starts.2 (.inl rfl)) hq hstart hstop).isSome_ofLine?

/-- **Where the parts of a line are that can be read.** -/
theorem cut_of_ofLine? {found : FoundLine} (h : ofLine? line = some found) :
    ∃ start q, Begins line start ∧
      Ends line start q ∧ (∀ other, Ends line start other → q ≤ other) ∧
      found.object = (line.take q).drop start ∧
      found.signature = (line.take (line.length - ending.length)).drop (q + 2) := by
  obtain ⟨report, start, q, hline, hstart, hq, hobject, hstop, rfl, hfirst, hlast⟩ :=
    exists_cut_of_ofLine? h
  have hends : Ends line start q := (ends_iff hline).2 ⟨hq, hobject, hstop⟩
  -- an object that begins further behind could not end
  have hgreatest : ∀ r, Opens line r → r + 2 ≤ start := by
    intro r hr
    obtain ⟨other, hother⟩ := hr.ends
    obtain ⟨hmem, hfits, hotherStop⟩ := (ends_iff hline).1 hother
    have hr' : r + 2 ∈ starts (separators line) :=
      mem_starts.2 (.inr ⟨r, mem_separators.2 ⟨hr.colon, hr.blank⟩, hr.note, rfl⟩)
    exact hlast _ hr' other hmem hfits hotherStop
  refine ⟨start, q, ?_, hends, fun other hother => ?_, rfl, ?_⟩
  · rcases mem_starts.1 hstart with rfl | ⟨r, hr, hone, rfl⟩
    · refine .inr ⟨fun r hr => ?_, rfl⟩
      have hle := hgreatest r hr
      omega
    · obtain ⟨hcolon, hblank⟩ := mem_separators.1 hr
      refine .inl ⟨r, ⟨hone, hcolon, hblank, q, hends⟩, fun other hother => ?_, rfl⟩
      have hle := hgreatest other hother
      omega
  · obtain ⟨hmem, hfits, hotherStop⟩ := (ends_iff hline).1 hother
    exact hfirst other hmem hfits hotherStop
  · rw [← hline, List.length_append, Nat.add_sub_cancel, List.take_left]

/-- **The pattern picks one well-defined split of a line.** Let a line have no line feed.

* The search for the pattern and the reading of the line agree.
* There is a match exactly if the line ends in ` FOUND` and a separator stands in it with at least
  one character before it and at least one between it and this ending.
* In a match the object begins behind the last separator at which a note can end, or where the line
  begins if there is none; it ends at the first separator that leaves it a character; and the
  signature is all that follows, up to the ending of the line. Neither of the two is empty, and the
  line `object: signature FOUND` is read as the same object and signature again. -/
theorem first?_pattern_cut (hline : '\n' ∉ line) :
    pattern.first? line = (ofLine? line).map (fun found => [found.object, found.signature]) ∧
    ((pattern.first? line).isSome ↔ ending <:+ line ∧ ∃ q, Ends line 0 q) ∧
    ∀ found, ofLine? line = some found →
      (∃ start q, Begins line start ∧
        Ends line start q ∧ (∀ other, Ends line start other → q ≤ other) ∧
        found.object = (line.take q).drop start ∧
        found.signature = (line.take (line.length - ending.length)).drop (q + 2)) ∧
      found.object ≠ [] ∧ found.signature ≠ [] ∧
      ofLine? found.text = some found ∧
      pattern.first? found.text = some [found.object, found.signature] := by
  have hall : ∀ c ∈ line, isInLine c = true := fun c hc =>
    bne_iff_ne.2 fun heq => hline (heq ▸ hc)
  have hsame := first?_pattern hall
  refine ⟨hsame, ?_, fun found hfound => ?_⟩
  · rw [hsame, Option.isSome_map, isSome_ofLine?_iff_ends]
  · obtain ⟨note, hnote⟩ := exists_preferred_of_ofLine? hfound
    have hagain := ofLine?_text hfound
    -- what is behind the note is a part of the line
    have htext : ∀ c ∈ found.text, isInLine c = true := fun c hc =>
      hall c (hnote.line_eq ▸ List.mem_append_right _ hc)
    refine ⟨cut_of_ofLine? hfound, hnote.object_ne_nil, hnote.signature_ne_nil, hagain, ?_⟩
    rw [first?_pattern htext, hagain]
    rfl

/-- Six separators, two of them adjacent and one that touches the ending: the note ends at the
fourth one, the object at the fifth one, and the signature is what is left, a colon and a blank. -/
theorem first?_pattern_cut_crowded :
    let line := "1: a: : b: X: :  FOUND".toList
    '\n' ∉ line ∧ ofLine? line = some ⟨['X'], [':', ' ']⟩ ∧
      pattern.first? line = some [['X'], [':', ' ']] := by
  intro line
  have hline : '\n' ∉ line := by decide
  have hread : ofLine? line = some ⟨['X'], [':', ' ']⟩ := by decide
  refine ⟨hline, hread, ?_⟩
  rw [(first?_pattern_cut hline).1, hread]
  rfl

end Clamd.FoundLine
