import Clamd.Rota

/-!
# Rounds of a rota

Between two refreshes a rota goes on from where it stands to the end of its names, or through all of
them if it is at the end already.

* `Rota.ahead` are the names that lie ahead and `Rota.round` those that are to come before the names
  begin anew;
* `Rota.mem_round` and `Rota.pairwise_round`: which names these are, and that they increase;
* `Rota.round_of_next`: giving out a name takes it from the front of the round;
* `Rota.isLast_eq`: a round is over exactly if no name lies ahead.
-/

namespace Clamd

namespace Rota

variable {Name : Type} [LT Name]

/-- In a list that increases, what lies above some place is a suffix. -/
theorem suffix_filter {names : List Name} {p : Name → Bool}
    (h : names.Pairwise (· < ·)) (hp : ∀ a b, a < b → p a = true → p b = true) :
    names.filter p <:+ names := by
  induction names with
  | nil => exact List.suffix_refl _
  | cons name rest ih =>
    obtain ⟨hname, hrest⟩ := List.pairwise_cons.1 h
    rw [List.filter_cons]
    split
    next hkept =>
      -- all that follows is kept as well
      have hall : rest.filter p = rest :=
        List.filter_eq_self.2 fun n hn => hp name n (hname n hn) hkept
      exact ⟨[], congrArg (name :: ·) hall⟩
    next => exact (ih hrest).trans (List.suffix_cons _ _)

variable [DecidableLT Name] {r t : Rota Name} {name : Name}

/-- The names that lie ahead. -/
def ahead (r : Rota Name) : List Name := r.names.filter r.isAhead

/-- The names that are to come before the names begin anew: those that lie ahead, or all of them if
none does. -/
def round (r : Rota Name) : List Name := if r.ahead = [] then r.names else r.ahead

theorem round_of_ahead (h : r.ahead ≠ []) : r.round = r.ahead := if_neg h

/-- **The names that are to come** are those that lie ahead, or all if none does. -/
theorem mem_round {n : Name} :
    n ∈ r.round ↔ n ∈ r.names ∧ (r.isAhead n = true ∨ ∀ d ∈ r.names, ¬ r.isAhead d = true) := by
  rw [round]
  split
  next hnone =>
    have hall : ∀ d ∈ r.names, ¬ r.isAhead d = true := List.filter_eq_nil_iff.1 hnone
    exact ⟨fun hn => ⟨hn, .inr hall⟩, And.left⟩
  next hsome =>
    rw [ahead, List.mem_filter]
    refine and_congr_right fun _ => ⟨.inl, fun h => h.resolve_right fun hall => ?_⟩
    exact hsome (List.filter_eq_nil_iff.2 hall)

/-- There are names to come unless there are none at all. -/
theorem round_eq_nil_iff : r.round = [] ↔ r.names = [] := by
  rw [round]
  split
  · rfl
  next hsome =>
    refine ⟨fun h => absurd h hsome, fun h => ?_⟩
    rw [ahead, h, List.filter_nil]

/-- The next name is the first of those that are to come. -/
theorem upcoming_eq (r : Rota Name) : r.upcoming = r.round.head? := by
  rw [upcoming, round, ahead, ← List.head?_filter]
  split
  next h => rw [h]; rfl
  next h =>
    obtain ⟨n, rest, hcons⟩ := List.exists_cons_of_ne_nil h
    rw [hcons]
    rfl

/-- Giving out a name leaves the names as they are and goes on from that name, the first of those
that are to come. -/
theorem next_eq_some (h : r.next = (some name, t)) :
    t.names = r.names ∧ t.cursor = some name ∧ r.round.head? = some name := by
  rw [next, upcoming_eq] at h
  split at h
  · cases h
  next n hhead =>
    cases h
    exact ⟨rfl, rfl, hhead⟩

/-- Giving out a name, or none, leaves the names as they are. -/
theorem names_next (r : Rota Name) : r.next.2.names = r.names := by
  rw [next]
  split <;> rfl

/-- The cursor is the name that was given out, if there was one. -/
theorem cursor_next (r : Rota Name) : r.next.2.cursor = r.next.1.or r.cursor := by
  rw [next]
  split <;> rfl

/-- A rota that has names gives one out. -/
theorem next_ne_none (h : r.names ≠ []) : r.next ≠ (none, t) := by
  intro hnext
  rw [next] at hnext
  split at hnext
  next hnone => exact h (upcoming_eq_none_iff.1 hnone)
  · cases hnext

/-! ### Names in their order -/

variable [LE Name] [Std.IsLinearOrder Name] [Std.LawfulOrderLT Name]

theorem isAhead_of_lt {a b : Name} (hlt : a < b) (h : r.isAhead a = true) :
    r.isAhead b = true := by
  unfold isAhead at h ⊢
  split
  · rfl
  next cursor hcursor =>
    simp only [hcursor, decide_eq_true_eq] at h ⊢
    exact Std.lt_trans h hlt

/-- The names that are to come end where the names end. -/
theorem round_suffix (r : Rota Name) : r.round <:+ r.names := by
  rw [round]
  split
  · exact List.suffix_refl _
  · exact suffix_filter r.increasing fun _ _ => isAhead_of_lt

/-- The names that are to come increase. -/
theorem pairwise_round (r : Rota Name) : r.round.Pairwise (· < ·) :=
  r.increasing.sublist r.round_suffix.sublist

/-- What lies above a name in a list that increases is what stands behind it. -/
theorem filter_lt_of_pairwise {front back : List Name}
    (h : (front ++ name :: back).Pairwise (· < ·)) :
    (front ++ name :: back).filter (fun n => decide (name < n)) = back := by
  obtain ⟨-, hback, hfront⟩ := List.pairwise_append.1 h
  have hnot : ∀ n ∈ front, ¬ decide (name < n) = true := by
    intro n hn hlt
    have hgt := hfront n hn name List.mem_cons_self
    exact Std.lt_irrefl (Std.lt_trans (of_decide_eq_true hlt) hgt)
  rw [List.filter_append, List.filter_eq_nil_iff.2 hnot, List.nil_append, List.filter_cons]
  rw [if_neg (by simp [Std.lt_irrefl])]
  exact List.filter_eq_self.2 fun n hn => decide_eq_true ((List.pairwise_cons.1 hback).1 n hn)

/-- **Giving out a name** takes it from the front of those that are to come; the names behind it lie
ahead then. -/
theorem round_of_next (h : r.next = (some name, t)) : r.round = name :: t.ahead := by
  obtain ⟨hnames, hcursor, hhead⟩ := next_eq_some h
  obtain ⟨back, hround⟩ := List.head?_eq_some_iff.1 hhead
  obtain ⟨front, hsplit⟩ := r.round_suffix
  have hincreasing := r.increasing
  rw [← hsplit, hround] at hincreasing
  have hahead : t.isAhead = fun n => decide (name < n) := by
    funext n
    simp [isAhead, hcursor]
  rw [hround, ahead, hahead, hnames, ← hsplit, hround, filter_lt_of_pairwise hincreasing]

/-- No name lies ahead of the greatest one only. -/
theorem ahead_eq_nil_iff (hcursor : r.cursor = some name) :
    r.ahead = [] ↔ ∀ n ∈ r.names, n ≤ name := by
  rw [ahead, List.filter_eq_nil_iff]
  refine forall_congr' fun n => imp_congr_right fun _ => ?_
  rw [isAhead, hcursor]
  simp only [decide_eq_true_eq, Std.not_lt]

/-- **A round is over** exactly if no name lies ahead of the one that was given out last. -/
theorem isLast_eq [DecidableEq Name] (h : r.next = (some name, t)) :
    t.isLast = t.ahead.isEmpty := by
  obtain ⟨hnames, hcursor, hhead⟩ := next_eq_some h
  obtain ⟨front, hsplit⟩ := r.round_suffix
  rw [round_of_next h, ← hnames] at hsplit
  rw [isLast, hcursor, ← hsplit, List.getLast?_append, List.getLast?_cons]
  cases hlast : t.ahead.getLast? with
  | none =>
    rw [List.getLast?_eq_none_iff.1 hlast]
    exact beq_self_eq_true name
  | some greatest =>
    -- the greatest name lies ahead, so it is not the one that was given out
    have hmem := List.mem_of_getLast? hlast
    have hlt : name < greatest := by
      have hahead := (List.mem_filter.1 hmem).2
      rw [isAhead, hcursor] at hahead
      exact of_decide_eq_true hahead
    rw [List.isEmpty_eq_false_iff.2 (List.ne_nil_of_mem hmem)]
    exact beq_eq_false_iff_ne.2 fun heq => Std.lt_irrefl (heq ▸ hlt)

end Rota

end Clamd
