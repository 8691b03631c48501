import Mathlib.Data.List.TakeWhile

/-!
# Patterns and what they prefer

A pattern may match one text in several ways, and which of them counts is a matter of preference: a
run of characters is to be as long as possible, or as short as possible; an optional part is to be
there rather than not; and the earlier part of a pattern has its way before the later one. So a
pattern stands for the list of its ways, the preferred one first, and a search goes through the list
until it finds a way that goes on to the end of the text.

* `Pattern.ways` is that list and `Pattern.first?` that search;
* `Pattern.mem_ways`: the ways are exactly those that the meaning of a pattern, `Pattern.Matches`,
  allows;
* `Pattern.first?_both`: a search for one pattern and then another goes through the ways of the
  first one;
* `Pattern.pairwise_run_long` and `Pattern.pairwise_run_short`: in which order runs are tried.
-/

namespace Clamd.Text

/-- A pattern for texts. -/
inductive Pattern where
  /-- These characters. -/
  | text (cs : List Char)
  /-- At least one character, all of one kind: as many as possible if the run is to be `long`, and
  else as few as possible. -/
  | run (kind : Char → Bool) (long : Bool)
  /-- A pattern and another one behind it. -/
  | both (p q : Pattern)
  /-- A pattern, or nothing if it does not do. -/
  | perhaps (p : Pattern)
  /-- A pattern whose text is kept. -/
  | group (p : Pattern)

namespace Pattern

/-- A way in which a pattern matches the beginning of a text. -/
structure Way where
  /-- What the pattern matches. -/
  taken : List Char
  /-- The texts that are kept, in the order in which they begin. -/
  groups : List (List Char)
  /-- What is left of the text. -/
  rest : List Char

/-- The beginning of a text with the given length. -/
def cut (cs : List Char) (n : Nat) : Way := ⟨cs.take n, [], cs.drop n⟩

/-- **The ways in which a pattern matches the beginning of a text**, the preferred one first. -/
def ways : Pattern → List Char → List Way
  | text s, cs => if s.isPrefixOf cs then [cut cs s.length] else []
  | run kind long, cs =>
    let lengths := List.range' 1 (cs.takeWhile kind).length
    (if long then lengths.reverse else lengths).map (cut cs)
  | both p q, cs =>
    (p.ways cs).flatMap fun a =>
      (q.ways a.rest).map fun b => ⟨a.taken ++ b.taken, a.groups ++ b.groups, b.rest⟩
  | perhaps p, cs => p.ways cs ++ [cut cs 0]
  | group p, cs => (p.ways cs).map fun a => { a with groups := a.taken :: a.groups }

/-- **What is kept of a whole text** by the preferred way in which the pattern matches all of it. -/
def first? (p : Pattern) (cs : List Char) : Option (List (List Char)) :=
  ((p.ways cs).find? fun w => w.rest.isEmpty).map (·.groups)

/-- The meaning of a pattern: the texts that it matches, and what is kept of them. -/
def Matches : Pattern → List Char → List (List Char) → Prop
  | text s, cs, groups => cs = s ∧ groups = []
  | run kind _, cs, groups => cs ≠ [] ∧ (∀ c ∈ cs, kind c = true) ∧ groups = []
  | both p q, cs, groups =>
    ∃ front back before behind, p.Matches front before ∧ q.Matches back behind ∧
      cs = front ++ back ∧ groups = before ++ behind
  | perhaps p, cs, groups => p.Matches cs groups ∨ cs = [] ∧ groups = []
  | group p, cs, groups => ∃ inner, p.Matches cs inner ∧ groups = cs :: inner

variable {p q : Pattern} {cs : List Char} {w : Way} {kind : Char → Bool}

/-! ### The ways of a pattern -/

/-- A run of one kind is no longer than the longest one that a text begins with. -/
theorem mem_lengths {n : Nat} :
    n ∈ List.range' 1 (cs.takeWhile kind).length ↔
      cs.take n ≠ [] ∧ (∀ c ∈ cs.take n, kind c = true) ∧ n ≤ cs.length := by
  have hlongest : cs.takeWhile kind <+: cs := List.takeWhile_prefix kind
  rw [List.mem_range'_1]
  constructor
  · intro hn
    have hle := hlongest.length_le
    -- up to this length the text is the longest run
    have htake : cs.take n = (cs.takeWhile kind).take n := by
      obtain ⟨others, hothers⟩ := hlongest
      conv => lhs; rw [← hothers]
      exact List.take_append_of_le_length (by omega)
    refine ⟨?_, fun c hc => ?_, by omega⟩
    · rw [Ne, List.take_eq_nil_iff, ← List.length_eq_zero_iff]
      omega
    · rw [htake] at hc
      exact List.mem_takeWhile_imp (List.mem_of_mem_take hc)
  · rintro ⟨hne, hall, hle⟩
    have hlength : (cs.take n).length = n := List.length_take_of_le hle
    have hlonger : cs.takeWhile kind = cs.take n ++ (cs.drop n).takeWhile kind := by
      rw [← List.takeWhile_append_of_pos hall, List.take_append_drop]
    rw [hlonger, List.length_append, hlength]
    have hpos : 0 < (cs.take n).length := List.length_pos_iff.2 hne
    omega

/-- **The ways of a pattern** are those that its meaning allows: none is missing, and there is no
other. -/
theorem mem_ways : w ∈ p.ways cs ↔ p.Matches w.taken w.groups ∧ w.taken ++ w.rest = cs := by
  -- on the pattern; a way is taken apart where what it has taken is known
  induction p generalizing cs w with
  | text s =>
    rw [ways, Matches]
    split
    next hbegins =>
      obtain ⟨rest, rfl⟩ := List.isPrefixOf_iff_prefix.1 hbegins
      rw [List.mem_singleton, cut, List.take_left, List.drop_left]
      constructor
      · rintro rfl
        exact ⟨⟨rfl, rfl⟩, rfl⟩
      · rintro ⟨⟨htaken, hgroups⟩, hsplit⟩
        obtain ⟨taken, groups, rest'⟩ := w
        cases htaken
        cases hgroups
        cases List.append_cancel_left hsplit
        rfl
    next hbegins =>
      rw [List.isPrefixOf_iff_prefix] at hbegins
      refine ⟨fun h => absurd h List.not_mem_nil, ?_⟩
      rintro ⟨⟨htaken, -⟩, hsplit⟩
      exact absurd ⟨w.rest, htaken ▸ hsplit⟩ hbegins
  | run kind long =>
    -- which runs there are does not depend on which of them is preferred
    have hmem : w ∈ (run kind long).ways cs ↔
        ∃ n ∈ List.range' 1 (cs.takeWhile kind).length, cut cs n = w := by
      rw [ways, List.mem_map]
      cases long
      · rfl
      · simp only [if_true, List.mem_reverse]
    rw [hmem, Matches]
    constructor
    · rintro ⟨n, hn, rfl⟩
      obtain ⟨hne, hall, -⟩ := mem_lengths.1 hn
      exact ⟨⟨hne, hall, rfl⟩, List.take_append_drop n cs⟩
    · rintro ⟨⟨hne, hall, hgroups⟩, rfl⟩
      obtain ⟨taken, groups, rest⟩ := w
      cases hgroups
      refine ⟨taken.length, mem_lengths.2 ?_, by rw [cut, List.take_left, List.drop_left]⟩
      rw [List.take_left, List.length_append]
      exact ⟨hne, hall, Nat.le_add_right _ _⟩
  | both p q hp hq =>
    simp only [ways, Matches, List.mem_flatMap, List.mem_map, hp, hq]
    constructor
    · rintro ⟨a, ⟨ha, rfl⟩, b, ⟨hb, hrest⟩, rfl⟩
      exact ⟨⟨_, _, _, _, ha, hb, rfl, rfl⟩, by rw [List.append_assoc, hrest]⟩
    · rintro ⟨⟨front, back, before, behind, hfront, hback, htaken, hgroups⟩, rfl⟩
      obtain ⟨taken, groups, rest⟩ := w
      cases htaken
      cases hgroups
      exact ⟨⟨front, before, back ++ rest⟩, ⟨hfront, (List.append_assoc _ _ _).symm⟩,
        ⟨back, behind, rest⟩, ⟨hback, rfl⟩, rfl⟩
  | perhaps p hp =>
    rw [ways, Matches, List.mem_append, List.mem_singleton, hp, or_and_right]
    refine or_congr_right ⟨?_, ?_⟩
    · rintro rfl
      exact ⟨⟨rfl, rfl⟩, rfl⟩
    · rintro ⟨⟨htaken, hgroups⟩, rfl⟩
      obtain ⟨taken, groups, rest⟩ := w
      cases htaken
      cases hgroups
      rfl
  | group p hp =>
    simp only [ways, Matches, List.mem_map, hp]
    constructor
    · rintro ⟨a, ⟨ha, hsplit⟩, rfl⟩
      exact ⟨⟨_, ha, rfl⟩, hsplit⟩
    · rintro ⟨⟨inner, hinner, hgroups⟩, hsplit⟩
      obtain ⟨taken, groups, rest⟩ := w
      obtain rfl : groups = taken :: inner := hgroups
      exact ⟨⟨taken, inner, rest⟩, ⟨hinner, hsplit⟩, rfl⟩

/-! ### Searching -/

/-- What a search finds is a match of the whole text. -/
theorem matches_of_first? {groups : List (List Char)} (h : p.first? cs = some groups) :
    p.Matches cs groups := by
  obtain ⟨w, hfind, rfl⟩ := Option.map_eq_some_iff.1 h
  have hend := List.find?_some hfind
  rw [List.isEmpty_iff] at hend
  obtain ⟨hmatches, hsplit⟩ := mem_ways.1 (List.mem_of_find?_eq_some hfind)
  rw [hend, List.append_nil] at hsplit
  exact hsplit ▸ hmatches

/-- **A search finds something** exactly if the pattern matches the whole text. -/
theorem isSome_first?_iff : (p.first? cs).isSome ↔ ∃ groups, p.Matches cs groups := by
  constructor
  · intro h
    obtain ⟨groups, hgroups⟩ := Option.isSome_iff_exists.1 h
    exact ⟨groups, matches_of_first? hgroups⟩
  · rintro ⟨groups, hgroups⟩
    rw [first?, Option.isSome_map, List.find?_isSome]
    exact ⟨⟨cs, groups, []⟩, mem_ways.2 ⟨hgroups, List.append_nil cs⟩, rfl⟩

/-- **One pattern and then another**: the ways of the first one are tried in their order, until the
second one matches what such a way leaves. -/
theorem first?_both (p q : Pattern) (cs : List Char) :
    (both p q).first? cs =
      (p.ways cs).findSome? fun a => (q.first? a.rest).map (a.groups ++ ·) := by
  rw [first?, ways, List.find?_flatMap, List.map_findSome?]
  congr 1
  funext a
  rw [Function.comp_apply, List.find?_map, Option.map_map, first?, Option.map_map]
  rfl

/-! ### The order of ways -/

/-- A long run is tried before the shorter ones. -/
theorem pairwise_run_long (kind : Char → Bool) (cs : List Char) :
    ((run kind true).ways cs).Pairwise fun a b => b.taken.length < a.taken.length := by
  rw [ways, if_pos rfl, List.pairwise_map, List.pairwise_reverse]
  refine (List.pairwise_lt_range' 1).imp_of_mem fun {m n} _ hn hlt => ?_
  have hle := (mem_lengths.1 hn).2.2
  simp only [cut, List.length_take]
  omega

/-- A short run is tried before the longer ones. -/
theorem pairwise_run_short (kind : Char → Bool) (cs : List Char) :
    ((run kind false).ways cs).Pairwise fun a b => a.taken.length < b.taken.length := by
  rw [ways, if_neg Bool.false_ne_true, List.pairwise_map]
  refine (List.pairwise_lt_range' 1).imp_of_mem fun {m n} _ hn hlt => ?_
  have hle := (mem_lengths.1 hn).2.2
  simp only [cut, List.length_take]
  omega

/-- Characters behind a pattern leave its ways in their order. -/
theorem pairwise_both_text (s : List Char)
    (h : (p.ways cs).Pairwise fun a b => b.taken.length < a.taken.length) :
    ((both p (text s)).ways cs).Pairwise fun a b => b.taken.length < a.taken.length := by
  -- each way goes on in one way, or in none
  have hlength : ∀ {cs : List Char} {b : Way}, b ∈ (text s).ways cs → b.taken.length = s.length :=
    fun hb => congrArg List.length (mem_ways.1 hb).1.1
  refine List.pairwise_flatMap.2 ⟨fun a _ => ?_, h.imp fun hlt x hx y hy => ?_⟩
  · rw [ways, List.pairwise_map]
    split
    · exact List.pairwise_singleton _ _
    · exact List.Pairwise.nil
  · obtain ⟨b, hb, rfl⟩ := List.mem_map.1 hx
    obtain ⟨c, hc, rfl⟩ := List.mem_map.1 hy
    rw [List.length_append, List.length_append, hlength hb, hlength hc]
    exact Nat.add_lt_add_right hlt _

/-- A pattern that may be left out is left out last. -/
theorem pairwise_perhaps (h : (p.ways cs).Pairwise fun a b => b.taken.length < a.taken.length)
    (hne : ∀ w ∈ p.ways cs, w.taken ≠ []) :
    ((perhaps p).ways cs).Pairwise fun a b => b.taken.length < a.taken.length := by
  refine List.pairwise_append.2 ⟨h, List.pairwise_singleton _ _, fun a ha b hb => ?_⟩
  rw [List.mem_singleton.1 hb]
  exact List.length_pos_iff.2 (hne a ha)

end Pattern

end Clamd.Text
