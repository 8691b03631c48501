import Clamd.Reply.FoundLine

/-!
# The shape of a line that reports a detection

A line that reports a detection has the shape `object: signature FOUND`, perhaps with a note of its
own in front. Since all three may contain the separator, a line may have this shape in several ways.
`FoundLine.Splits` is one of them, `FoundLine.Fits` says that there is one, and
`FoundLine.Preferred` is the one that counts: the longest note, and behind it the shortest object.

* `FoundLine.mem_separators`: the separators are the positions of `: `;
* `FoundLine.ofLine?_eq_some_iff`: what is read from a line is what the preferred way to split it
  gives;
* `FoundLine.isSome_ofLine?_iff`: a line can be read exactly if something fits it;
* `FoundLine.ofLine?_text`: what was read from a line is read again from its own text.
-/

namespace Clamd.FoundLine

/-- What stands between the parts of a line. -/
def separator : List Char := [':', ' ']

/-- **The shape of a line that reports a detection**: an object and a signature, neither of them
empty, with a separator between them and the ending behind them. A note may stand in front, which
then has a separator of its own behind it. -/
def Fits (line : List Char) (found : FoundLine) : Prop :=
  found.object ≠ [] ∧ found.signature ≠ [] ∧
    ∃ note, (note = [] ∨ ∃ text, text ≠ [] ∧ note = text ++ separator) ∧
      line = note ++ found.object ++ separator ++ found.signature ++ ending

/-- The line that reports a detection, without a note. -/
def text (found : FoundLine) : List Char :=
  found.object ++ separator ++ found.signature ++ ending

/-- **A way to split a line** into a note and the line of a report. A note that is not empty has a
separator at its end and something before it. -/
structure Splits (line note : List Char) (found : FoundLine) : Prop where
  object_ne_nil : found.object ≠ []
  signature_ne_nil : found.signature ≠ []
  note_eq : note = [] ∨ ∃ words, words ≠ [] ∧ note = words ++ separator
  line_eq : line = note ++ found.text

/-- **The way to split a line that counts**: no other way has a longer note, and none with this note
has a shorter object. -/
structure Preferred (line note : List Char) (found : FoundLine) : Prop
    extends Splits line note found where
  longest : ∀ {other rest}, Splits line other rest → other.length ≤ note.length
  shortest : ∀ {rest}, Splits line note rest → found.object.length ≤ rest.object.length

theorem fits_iff {line : List Char} {found : FoundLine} :
    Fits line found ↔ ∃ note, Splits line note found := by
  constructor
  · rintro ⟨hobject, hsignature, note, hnote, hline⟩
    exact ⟨note, hobject, hsignature, hnote, by simpa [text] using hline⟩
  · rintro ⟨note, hobject, hsignature, hnote, hline⟩
    exact ⟨hobject, hsignature, note, hnote, by simpa [text] using hline⟩

/-! ### Separators -/

/-- The separators of a text are the positions at which a colon and a space stand. -/
theorem mem_separators {cs : List Char} {q : Nat} :
    q ∈ separators cs ↔ cs[q]? = some ':' ∧ cs[q + 1]? = some ' ' := by
  have hzip : ∀ a b : Char, ((a, b), q) ∈ (cs.zip cs.tail).zipIdx ↔
      cs[q]? = some a ∧ cs[q + 1]? = some b := by
    intro a b
    rw [List.mem_zipIdx_iff_getElem?, List.getElem?_zip_eq_some, List.getElem?_tail]
  rw [separators, List.mem_filterMap]
  constructor
  · rintro ⟨⟨⟨a, b⟩, i⟩, hmem, hsome⟩
    simp only [Option.ite_none_right_eq_some, Option.some.injEq] at hsome
    obtain ⟨⟨rfl, rfl⟩, rfl⟩ := hsome
    exact (hzip _ _).1 hmem
  · intro h
    exact ⟨((':', ' '), q), (hzip _ _).2 h, by simp⟩

/-- A text up to the end of a separator is what stands before it, and the separator. -/
theorem take_of_mem_separators {cs : List Char} {q : Nat} (h : q ∈ separators cs) :
    cs.take (q + 2) = cs.take q ++ separator := by
  obtain ⟨hcolon, hspace⟩ := mem_separators.1 h
  rw [List.take_add_one, List.take_add_one, hcolon, hspace, List.append_assoc]
  rfl

theorem mem_separators_append (before behind : List Char) :
    before.length ∈ separators (before ++ separator ++ behind) := by
  rw [mem_separators]
  simp [separator]

/-! ### Splitting a line -/

/-- Where an object may start: at the start of the line, or behind a separator that has something
before it. -/
theorem mem_starts {marks : List Nat} {start : Nat} :
    start ∈ starts marks ↔ start = 0 ∨ ∃ r ∈ marks, 1 ≤ r ∧ start = r + 2 := by
  rw [starts, List.mem_append, List.mem_map, List.mem_singleton, or_comm]
  refine or_congr_right ⟨?_, ?_⟩
  · rintro ⟨r, hr, rfl⟩
    rw [List.mem_reverse, List.mem_filter, decide_eq_true_eq] at hr
    exact ⟨r, hr.1, hr.2, rfl⟩
  · rintro ⟨r, hr, hone, rfl⟩
    exact ⟨r, List.mem_reverse.2 (List.mem_filter.2 ⟨hr, decide_eq_true hone⟩), rfl⟩

/-- What stands before a position in a text ends with what stands from an earlier one on. -/
private theorem take_append_drop_take {cs : List Char} {i j : Nat} (h : i ≤ j) :
    cs.take j = cs.take i ++ (cs.take j).drop i := by
  have hsplit := List.take_append_drop i (cs.take j)
  rw [List.take_take, Nat.min_eq_left h] at hsplit
  exact hsplit.symm

/-- A start and a separator behind it split a line. -/
theorem splits_of_cut {line report : List Char} {start q : Nat} (hline : report ++ ending = line)
    (hstart : start ∈ starts (separators line)) (hq : q ∈ separators line) (hstartq : start + 1 ≤ q)
    (hstop : q + 2 < report.length) :
    Splits line (line.take start)
      { object := (line.take q).drop start, signature := report.drop (q + 2) } := by
  have hlength : line.length = report.length + ending.length := by
    rw [← hline, List.length_append]
  refine ⟨?_, ?_, ?_, ?_⟩
  · rw [Ne, List.drop_eq_nil_iff, List.length_take]
    omega
  · rw [Ne, List.drop_eq_nil_iff]
    omega
  · -- the note is what stands before the start of the object
    rcases mem_starts.1 hstart with rfl | ⟨r, hr, hone, rfl⟩
    · exact .inl List.take_zero
    · refine .inr ⟨line.take r, ?_, take_of_mem_separators hr⟩
      rw [Ne, ← List.length_eq_zero_iff, List.length_take]
      omega
  · have hreport : report = line.take (q + 2) ++ report.drop (q + 2) := by
      rw [← hline, List.take_append_of_le_length (by omega), List.take_append_drop]
    have hobject : line.take q = line.take start ++ (line.take q).drop start :=
      take_append_drop_take (by omega)
    calc line = line.take (q + 2) ++ report.drop (q + 2) ++ ending := by rw [← hreport, hline]
      _ = line.take q ++ separator ++ report.drop (q + 2) ++ ending := by
          rw [take_of_mem_separators hq]
      _ = line.take start ++ (line.take q).drop start ++ separator ++ report.drop (q + 2) ++
            ending := by rw [← hobject]
      _ = line.take start ++ text ⟨(line.take q).drop start, report.drop (q + 2)⟩ := by
          simp only [text, List.append_assoc]

/-- **Every way to split a line** is given by a start and by a separator behind it. -/
theorem Splits.cut {line note : List Char} {found : FoundLine} (h : Splits line note found) :
    ∃ report, report ++ ending = line ∧ note.length ∈ starts (separators line) ∧
      note.length + found.object.length ∈ separators line ∧
        note.length + 1 ≤ note.length + found.object.length ∧
          note.length + found.object.length + 2 < report.length := by
  obtain ⟨hobject, hsignature, hnote, hline⟩ := h
  have hone : 1 ≤ found.object.length := List.length_pos_iff.2 hobject
  have htwo : 1 ≤ found.signature.length := List.length_pos_iff.2 hsignature
  refine ⟨note ++ found.object ++ separator ++ found.signature, ?_, ?_, ?_, by omega, ?_⟩
  · rw [hline, text]
    simp only [List.append_assoc]
  · rcases hnote with rfl | ⟨words, hwords, rfl⟩
    · exact mem_starts.2 (.inl rfl)
    · refine mem_starts.2 (.inr ⟨words.length, ?_, List.length_pos_iff.2 hwords, ?_⟩)
      · rw [hline]
        exact mem_separators_append words found.text
      · rw [List.length_append]
        rfl
  · rw [hline, ← List.length_append]
    have hmem := mem_separators_append (note ++ found.object) (found.signature ++ ending)
    simpa only [text, List.append_assoc] using hmem
  · rw [List.length_append, List.length_append, List.length_append]
    have : separator.length = 2 := rfl
    omega

/-! ### The order of the candidates -/

theorem pairwise_separators (cs : List Char) : (separators cs).Pairwise (· < ·) := by
  have hindex : ((cs.zip cs.tail).zipIdx).Pairwise fun a b => a.2 < b.2 := by
    rw [← List.pairwise_map (f := Prod.snd), List.zipIdx_map_snd]
    exact List.pairwise_lt_range' 1
  refine hindex.filterMap _ fun a b hab i hi j hj => ?_
  simp only [Option.ite_none_right_eq_some, Option.some.injEq] at hi hj
  rwa [← hi.2, ← hj.2]

theorem pairwise_starts {marks : List Nat} (h : marks.Pairwise (· < ·)) :
    (starts marks).Pairwise (· > ·) := by
  refine List.pairwise_append.2 ⟨?_, List.pairwise_singleton _ _, ?_⟩
  · rw [List.pairwise_map, List.pairwise_reverse]
    exact (h.filter _).imp fun hlt => Nat.add_lt_add_right hlt 2
  · intro start hstart first hfirst
    obtain ⟨r, -, rfl⟩ := List.mem_map.1 hstart
    rw [List.mem_singleton.1 hfirst]
    omega

/-- The first candidate that gives something stands before the others that do. -/
theorem exists_first_of_findSome? {α β : Type} {R : α → α → Prop} {f : α → Option β}
    {l : List α} {b : β} (h : l.findSome? f = some b) (hl : l.Pairwise R) :
    ∃ a ∈ l, f a = some b ∧ ∀ x ∈ l, (f x).isSome → x = a ∨ R a x := by
  obtain ⟨before, a, behind, rfl, ha, hnone⟩ := List.findSome?_eq_some_iff.1 h
  refine ⟨a, by simp, ha, fun x hx hsome => ?_⟩
  rcases List.mem_append.1 hx with hx | hx
  · rw [hnone x hx] at hsome
    cases hsome
  · rcases List.mem_cons.1 hx with rfl | hx
    · exact .inl rfl
    · exact .inr ((List.pairwise_cons.1 (List.pairwise_append.1 hl).2.1).1 x hx)

/-- The separator that ends an object is the first one that fits. -/
theorem objectEnd?_eq_some {marks : List Nat} {stop start q : Nat} (hmarks : marks.Pairwise (· < ·))
    (h : objectEnd? marks stop start = some q) :
    q ∈ marks ∧ start + 1 ≤ q ∧ q + 2 < stop ∧
      ∀ r ∈ marks, start + 1 ≤ r → r + 2 < stop → q ≤ r := by
  have hfits := List.find?_some h
  rw [Bool.and_eq_true, decide_eq_true_eq, decide_eq_true_eq] at hfits
  rw [objectEnd?, List.find?_eq_findSome?_guard] at h
  obtain ⟨a, ha, hsome, hfirst⟩ := exists_first_of_findSome? h hmarks
  obtain ⟨rfl, -⟩ := Option.guard_eq_some_iff.1 hsome
  refine ⟨ha, hfits.1, hfits.2, fun r hr hstart hstop => ?_⟩
  have hguard : (decide (start + 1 ≤ r) && decide (r + 2 < stop)) = true := by
    rw [decide_eq_true hstart, decide_eq_true hstop]
    rfl
  rcases hfirst r hr (by rw [Option.isSome_guard, hguard]) with rfl | hlt
  · exact Nat.le_refl _
  · exact Nat.le_of_lt hlt

theorem isSome_objectEnd? {marks : List Nat} {stop start q : Nat} (hq : q ∈ marks)
    (hstart : start + 1 ≤ q) (hstop : q + 2 < stop) : (objectEnd? marks stop start).isSome := by
  rw [objectEnd?, List.find?_isSome]
  exact ⟨q, hq, by simp [hstart, hstop]⟩

/-! ### Reading a line -/

/-- **What is read from a line** is cut out at the last start behind which a separator fits, and at
the first separator that fits behind it. -/
theorem exists_cut_of_ofLine? {line : List Char} {found : FoundLine}
    (h : ofLine? line = some found) :
    ∃ report start q, report ++ ending = line ∧ start ∈ starts (separators line) ∧
      q ∈ separators line ∧ start + 1 ≤ q ∧ q + 2 < report.length ∧
      found = { object := (line.take q).drop start, signature := report.drop (q + 2) } ∧
      (∀ r ∈ separators line, start + 1 ≤ r → r + 2 < report.length → q ≤ r) ∧
      ∀ other ∈ starts (separators line), ∀ r ∈ separators line,
        other + 1 ≤ r → r + 2 < report.length → other ≤ start := by
  rw [ofLine?] at h
  split at h
  next hsuffix =>
    obtain ⟨report, hline⟩ := List.isSuffixOf_iff_suffix.1 hsuffix
    have hstop : line.length - ending.length = report.length := by
      rw [← hline, List.length_append, Nat.add_sub_cancel]
    have hmarks := pairwise_separators line
    simp only [hstop] at h
    obtain ⟨start, hstart, hmap, hlast⟩ := exists_first_of_findSome? h (pairwise_starts hmarks)
    obtain ⟨q, hend, rfl⟩ := Option.map_eq_some_iff.1 hmap
    obtain ⟨hq, hstartq, hqstop, hfirst⟩ := objectEnd?_eq_some hmarks hend
    have hsignature : (line.take report.length).drop (q + 2) = report.drop (q + 2) := by
      rw [← hline, List.take_left]
    refine ⟨report, start, q, hline, hstart, hq, hstartq, hqstop, by rw [hsignature], hfirst, ?_⟩
    intro other hother r hr hfits hrstop
    have hsome := isSome_objectEnd? hr hfits hrstop
    rcases hlast other hother (by rw [Option.isSome_map]; exact hsome) with heq | hlt
    · exact Nat.le_of_eq heq
    · exact Nat.le_of_lt hlt
  next => cases h

/-- **What is read from a line** is given by the preferred way to split it. -/
theorem exists_preferred_of_ofLine? {line : List Char} {found : FoundLine}
    (h : ofLine? line = some found) : ∃ note, Preferred line note found := by
  obtain ⟨report, start, q, hline, hstart, hq, hstartq, hqstop, rfl, hfirst, hlast⟩ :=
    exists_cut_of_ofLine? h
  have hlength : (line.take start).length = start := by
    rw [← hline, List.length_take, List.length_append]
    omega
  refine ⟨line.take start, splits_of_cut hline hstart hq hstartq hqstop, ?_, ?_⟩
  · intro other rest hother
    obtain ⟨report', hline', hstart', hq', hfits⟩ := hother.cut
    obtain rfl := List.append_cancel_right (hline'.trans hline.symm)
    rw [hlength]
    exact hlast _ hstart' _ hq' hfits.1 hfits.2
  · intro rest hrest
    obtain ⟨report', hline', -, hq', hfits⟩ := hrest.cut
    obtain rfl := List.append_cancel_right (hline'.trans hline.symm)
    rw [hlength] at hq' hfits
    have := hfirst _ hq' hfits.1 hfits.2
    rw [List.length_drop, List.length_take]
    omega

/-- **A line can be read** if it can be split. -/
theorem Splits.isSome_ofLine? {line note : List Char} {found : FoundLine}
    (h : Splits line note found) : (ofLine? line).isSome := by
  obtain ⟨report, hline, hstart, hq, hfits⟩ := h.cut
  have hstop : line.length - ending.length = report.length := by
    rw [← hline, List.length_append, Nat.add_sub_cancel]
  have hsuffix : ending.isSuffixOf line = true := List.isSuffixOf_iff_suffix.2 ⟨report, hline⟩
  rw [ofLine?, if_pos hsuffix, List.findSome?_isSome_iff]
  refine ⟨_, hstart, ?_⟩
  rw [Option.isSome_map, hstop]
  exact isSome_objectEnd? hq hfits.1 hfits.2

/-- There is one preferred way to split a line. -/
theorem Preferred.unique {line note other : List Char} {found rest : FoundLine}
    (h : Preferred line note found) (h' : Preferred line other rest) : found = rest := by
  have hline := h.line_eq.symm.trans h'.line_eq
  obtain ⟨rfl, htext⟩ :=
    List.append_inj hline (Nat.le_antisymm (h'.longest h.toSplits) (h.longest h'.toSplits))
  -- with one note both have the same object, and what is left of the line is the signature
  rw [text, text, List.append_cancel_right_eq, List.append_assoc, List.append_assoc] at htext
  obtain ⟨hobject, hbehind⟩ :=
    List.append_inj htext (Nat.le_antisymm (h.shortest h'.toSplits) (h'.shortest h.toSplits))
  have hsignature := List.append_cancel_left hbehind
  cases found
  cases rest
  cases hobject
  cases hsignature
  rfl

/-- **What is read from a line** is what the preferred way to split it gives. -/
theorem ofLine?_eq_some_iff {line : List Char} {found : FoundLine} :
    ofLine? line = some found ↔ ∃ note, Preferred line note found := by
  refine ⟨exists_preferred_of_ofLine?, ?_⟩
  rintro ⟨note, hnote⟩
  obtain ⟨rest, hrest⟩ := Option.isSome_iff_exists.1 hnote.isSome_ofLine?
  obtain ⟨other, hother⟩ := exists_preferred_of_ofLine? hrest
  rw [hrest, hnote.unique hother]

/-- **What is read from a line fits it.** -/
theorem fits_of_ofLine? {line : List Char} {found : FoundLine} (h : ofLine? line = some found) :
    Fits line found := by
  obtain ⟨note, hnote⟩ := exists_preferred_of_ofLine? h
  exact fits_iff.2 ⟨note, hnote.toSplits⟩

/-- **A line can be read exactly if something fits it.** -/
theorem isSome_ofLine?_iff {line : List Char} :
    (ofLine? line).isSome ↔ ∃ found, Fits line found := by
  constructor
  · intro h
    obtain ⟨found, hfound⟩ := Option.isSome_iff_exists.1 h
    exact ⟨found, fits_of_ofLine? hfound⟩
  · rintro ⟨found, hfound⟩
    obtain ⟨note, hnote⟩ := fits_iff.1 hfound
    exact hnote.isSome_ofLine?

/-! ### Reading a report again -/

/-- The note of a line and a note behind it are together a note of the line. -/
theorem Splits.behind {line note other : List Char} {found rest : FoundLine}
    (h : Splits line note found) (hother : Splits found.text other rest) :
    Splits line (note ++ other) rest := by
  refine ⟨hother.object_ne_nil, hother.signature_ne_nil, ?_, ?_⟩
  · rcases hother.note_eq with rfl | ⟨words, hwords, rfl⟩
    · rw [List.append_nil]
      exact h.note_eq
    · exact .inr ⟨note ++ words, List.append_ne_nil_of_right_ne_nil _ hwords, by simp⟩
  · rw [h.line_eq, hother.line_eq, List.append_assoc]

/-- **What was read from a line is read again from its own text**, whatever separators stand in
it. -/
theorem ofLine?_text {line : List Char} {found : FoundLine} (h : ofLine? line = some found) :
    ofLine? found.text = some found := by
  obtain ⟨note, hnote⟩ := ofLine?_eq_some_iff.1 h
  refine ofLine?_eq_some_iff.2 ⟨[], ⟨hnote.object_ne_nil, hnote.signature_ne_nil, .inl rfl, rfl⟩,
    ?_, ?_⟩
  · -- a note would make that of the line longer
    intro other rest hother
    have hlong := hnote.longest (hnote.behind hother)
    rw [List.length_append] at hlong
    rw [List.length_nil]
    omega
  · intro rest hrest
    have hbehind := hnote.behind hrest
    rw [List.append_nil] at hbehind
    exact hnote.shortest hbehind

end Clamd.FoundLine
