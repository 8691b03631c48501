import Clamd.Proofs.Rota.Restart
import Mathlib.Data.List.Nodup

/-!
# Rotas are fair

Names may come and go while a rota is in use, before and behind the name that was given out last and
at its place. All the same each of them has its turn: a rota wraps when no name lies ahead of the
last one, and from one wrap up to the next it gives out every name that is there all the time, once,
in increasing order.

What carries this is that a rota never passes over a name: one that lies ahead is given out, or it
still lies ahead.

* `Rota.IsDue` and `Rota.Wraps`: which name comes next, and when the names begin anew;
* `FolderRota.states` are the rotas between the calls, and `FolderRota.InRound` says that no call
  wraps;
* `FolderRota.pairwise_given` and `FolderRota.mem_given_or_isAhead`: the names of a round increase,
  and none is passed over;
* `FolderRota.given_of_unchanged`: while the names stay the same, the rota goes round in them;
* `FolderRota.fair` puts these together.
-/

namespace Clamd

namespace Rota

variable {Name : Type} [LT Name] {r t : Rota Name} {name : Name}

/-- A rota is known by its names and its place. -/
theorem eq_of_names (hnames : r.names = t.names) (hcursor : r.cursor = t.cursor) : r = t := by
  cases r
  cases t
  cases hnames
  cases hcursor
  rfl

/-- The first of some names that increase is the least of them. -/
theorem le_of_head? [LE Name] [Std.IsLinearOrder Name] [Std.LawfulOrderLT Name]
    {names : List Name} (h : names.Pairwise (· < ·)) (hhead : names.head? = some name) :
    ∀ n ∈ names, name ≤ n := by
  intro n hn
  obtain ⟨others, rfl⟩ := List.head?_eq_some_iff.1 hhead
  rcases List.mem_cons.1 hn with rfl | hn
  · exact Std.le_refl _
  · exact Std.le_of_lt ((List.pairwise_cons.1 h).1 n hn)

variable [DecidableLT Name]

/-- **A rota wraps** if it has names but none that lies ahead: the next one is the least of all. -/
def Wraps (r : Rota Name) : Prop :=
  r.names ≠ [] ∧ ∀ n ∈ r.names, ¬ r.isAhead n = true

instance (r : Rota Name) : Decidable r.Wraps :=
  inferInstanceAs (Decidable (_ ∧ _))

theorem isAhead_of_cursor {cursor : Name} (h : r.cursor = some cursor) (n : Name) :
    r.isAhead n = true ↔ cursor < n := by
  rw [isAhead, h]
  exact decide_eq_true_iff

theorem next_of_no_names (h : r.names = []) : r.next = (none, r) := by
  rw [next, upcoming_eq_none_iff.2 h]

variable [LE Name]

/-- **The name that is due**: the least of those that lie ahead, or the least of all if none
does. -/
def IsDue (r : Rota Name) (name : Name) : Prop :=
  name ∈ r.names ∧
    if ∃ n ∈ r.names, r.isAhead n = true then
      r.isAhead name = true ∧ ∀ n ∈ r.names, r.isAhead n = true → name ≤ n
    else ∀ n ∈ r.names, name ≤ n

/-- A rota that has given out nothing yet begins with the least name, as one that wraps does. -/
theorem IsDue.le_of_begins (h : r.IsDue name) (hbegins : r.cursor = none ∨ r.Wraps) :
    ∀ n ∈ r.names, name ≤ n := by
  intro n hn
  have hdue := h.2
  split at hdue
  next hsome =>
    rcases hbegins with hnone | hwraps
    · exact hdue.2 n hn (by rw [isAhead, hnone])
    · obtain ⟨d, hd, hahead⟩ := hsome
      exact absurd hahead (hwraps.2 d hd)
  next => exact hdue n hn

/-- The name that is due inside a round lies ahead, and no other one that does is smaller. -/
theorem IsDue.ahead (h : r.IsDue name) (hwraps : ¬ r.Wraps) :
    r.isAhead name = true ∧ ∀ n ∈ r.names, r.isAhead n = true → name ≤ n := by
  have hdue := h.2
  split at hdue
  next => exact hdue
  next hnone =>
    have hnames : r.names ≠ [] := List.ne_nil_of_mem h.1
    exact absurd ⟨hnames, fun n hn hahead => hnone ⟨n, hn, hahead⟩⟩ hwraps

variable [Std.IsLinearOrder Name] [Std.LawfulOrderLT Name]

/-- **A rota that has names gives out the one that is due**, and then stands at it. -/
theorem next_of_names (h : r.names ≠ []) :
    ∃ name, r.next = (some name, { r with cursor := some name }) ∧ r.IsDue name := by
  cases hupcoming : r.upcoming with
  | none => exact absurd (upcoming_eq_none_iff.1 hupcoming) h
  | some name =>
    refine ⟨name, by rw [next, hupcoming], mem_of_upcoming hupcoming, ?_⟩
    -- it is the first of the names that are to come, and these increase
    rw [upcoming_eq] at hupcoming
    have hround := mem_round.1 (List.mem_of_head? hupcoming)
    have hleast := le_of_head? r.pairwise_round hupcoming
    split
    next hsome =>
      obtain ⟨n, hn, hahead⟩ := hsome
      have hname := hround.2.resolve_right fun hnone => hnone n hn hahead
      exact ⟨hname, fun n hn hn' => hleast n (mem_round.2 ⟨hn, .inl hn'⟩)⟩
    next hnone =>
      intro n hn
      exact hleast n (mem_round.2 ⟨hn, .inr fun d hd hahead => hnone ⟨d, hd, hahead⟩⟩)

/-- **The name that was given out last is the greatest** exactly if it ends the round. -/
theorem isLast_iff [DecidableEq Name] (h : r.next = (some name, t)) :
    t.isLast = true ↔ ∀ n ∈ r.names, n ≤ name := by
  obtain ⟨hnames, hcursor, -⟩ := next_eq_some h
  rw [isLast_eq h, List.isEmpty_iff, ahead_eq_nil_iff hcursor, hnames]

end Rota

namespace FolderRota

variable {Name : Type} [LT Name] [DecidableLT Name] [DecidableEq Name] [LE Name]
  [Std.IsLinearOrder Name] [Std.LawfulOrderLT Name] {r : FolderRota Name}
  {calls : List (Call Name)} {name : Name}

/-! ### The rotas between the calls -/

/-- Whether a call asks for a name. -/
def Call.isNext : Call Name → Bool
  | .next => true
  | .refresh _ => false

/-- What calls leave of a rota. -/
def after (r : FolderRota Name) : List (Call Name) → FolderRota Name
  | [] => r
  | c :: calls => (r.call c).2.after calls

/-- The rotas before, between and behind some calls. -/
def states (r : FolderRota Name) : List (Call Name) → List (FolderRota Name)
  | [] => [r]
  | c :: calls => r :: (r.call c).2.states calls

/-- **No call is a wrap**: none that asks for a name finds all names behind the last one. -/
def InRound (r : FolderRota Name) (calls : List (Call Name)) : Prop :=
  ∀ step ∈ (r.states calls).zip calls, step.2.isNext = true → ¬ step.1.rota.Wraps

/-- A name is **there all the time**: before the calls, between them and behind them. -/
def Stays (r : FolderRota Name) (calls : List (Call Name)) (name : Name) : Prop :=
  ∀ s ∈ r.states calls, name ∈ s.rota.names

/-- The names are the same all the time. -/
def Unchanged (r : FolderRota Name) (calls : List (Call Name)) : Prop :=
  ∀ s ∈ r.states calls, s.rota.names = r.rota.names

instance (r : FolderRota Name) (calls : List (Call Name)) : Decidable (r.InRound calls) :=
  inferInstanceAs (Decidable (∀ step ∈ _, _))

instance (r : FolderRota Name) (calls : List (Call Name)) (name : Name) :
    Decidable (r.Stays calls name) :=
  inferInstanceAs (Decidable (∀ s ∈ _, _))

theorem inRound_cons {c : Call Name} :
    r.InRound (c :: calls) ↔
      (c.isNext = true → ¬ r.rota.Wraps) ∧ (r.call c).2.InRound calls :=
  List.forall_mem_cons

theorem stays_cons {c : Call Name} :
    r.Stays (c :: calls) name ↔ name ∈ r.rota.names ∧ (r.call c).2.Stays calls name :=
  List.forall_mem_cons

theorem mem_states_self (r : FolderRota Name) (calls : List (Call Name)) : r ∈ r.states calls := by
  cases calls <;> exact List.mem_cons_self

/-- A name that is there all the time is there behind the calls. -/
theorem Stays.after (h : r.Stays calls name) : name ∈ (r.after calls).rota.names := by
  induction calls generalizing r with
  | nil => exact h r List.mem_cons_self
  | cons c calls ih => exact ih (stays_cons.1 h).2

/-- Asking a rota without names gives out nothing and changes nothing. -/
theorem call_next_of_no_names (h : r.rota.names = []) : r.call .next = (none, r) := by
  unfold call next
  rw [Rota.next_of_no_names h]

/-- Asking a rota with names gives out the one that is due, and then it stands there. -/
theorem call_next_of_names (h : r.rota.names ≠ []) :
    ∃ name, r.call .next = (some name, { r with rota := { r.rota with cursor := some name } }) ∧
      r.rota.IsDue name := by
  obtain ⟨name, hnext, hdue⟩ := Rota.next_of_names h
  refine ⟨name, ?_, hdue⟩
  unfold call next
  rw [hnext]

/-! ### One round -/

/-- **The names of a round increase**, from the one that was given out last. -/
theorem pairwise_given {cursor : Name} (hcursor : r.rota.cursor = some cursor)
    (hround : r.InRound calls) : (cursor :: r.given calls).Pairwise (· < ·) := by
  -- on the calls; the cursor is in front so that each step compares with the name before it
  induction calls generalizing r cursor with
  | nil => exact List.pairwise_singleton _ _
  | cons c calls ih =>
    obtain ⟨hwraps, hround⟩ := inRound_cons.1 hround
    rw [given_cons]
    cases c with
    | refresh found =>
      -- the names may be others now, but the place is the same
      exact ih ((Rota.cursor_refresh r.rota found).trans hcursor) hround
    | next =>
      by_cases hnames : r.rota.names = []
      · rw [call_next_of_no_names hnames] at hround ⊢
        exact ih hcursor hround
      · obtain ⟨name, hcall, hdue⟩ := call_next_of_names hnames
        rw [hcall] at hround ⊢
        have hlt : cursor < name :=
          (Rota.isAhead_of_cursor hcursor name).1 (hdue.ahead (hwraps rfl)).1
        have hothers := ih (r := { r with rota := { r.rota with cursor := some name } }) rfl hround
        refine List.pairwise_cons.2 ⟨fun n hn => ?_, hothers⟩
        -- what is given out later is greater than `name`, and so than `cursor`
        rcases List.mem_cons.1 hn with rfl | hn
        · exact hlt
        · exact Std.lt_trans hlt ((List.pairwise_cons.1 hothers).1 n hn)

/-- **No name is passed over.** One that lies ahead and is there all the time is given out, or it
still lies ahead. -/
theorem mem_given_or_isAhead (hround : r.InRound calls) (hstays : r.Stays calls name)
    (hahead : r.rota.isAhead name = true) :
    name ∈ r.given calls ∨ (r.after calls).rota.isAhead name = true := by
  induction calls generalizing r with
  | nil => exact .inr hahead
  | cons c calls ih =>
    obtain ⟨hwraps, hround⟩ := inRound_cons.1 hround
    obtain ⟨hname, hstays⟩ := stays_cons.1 hstays
    rw [given_cons, after, List.mem_append]
    cases c with
    | refresh found =>
      have hsame : (r.call (.refresh found)).2.rota.isAhead name = true := by
        unfold Rota.isAhead at hahead ⊢
        rw [show (r.call (.refresh found)).2.rota.cursor = r.rota.cursor from
          Rota.cursor_refresh r.rota found]
        exact hahead
      exact (ih hround hstays hsame).imp_left .inr
    | next =>
      obtain ⟨given, hcall, hdue⟩ := call_next_of_names (List.ne_nil_of_mem hname)
      rw [hcall] at hround hstays ⊢
      -- what is given out is the least name that lies ahead, so it is `name` or smaller
      have hle : given ≤ name := (hdue.ahead (hwraps rfl)).2 name hname hahead
      by_cases heq : given = name
      · exact .inl (.inl (Option.mem_toList.2 (congrArg some heq)))
      · have hlt : given < name := Std.lt_of_le_of_ne hle heq
        refine (ih hround hstays ?_).imp_left .inr
        exact (Rota.isAhead_of_cursor rfl name).2 hlt

/-- **From one wrap on**, or from the first name that is given out, the names increase up to the
next wrap; and when that comes, each name that was there all the time has been given out once. -/
theorem given_of_begins (hnames : r.rota.names ≠ [])
    (hbegins : r.rota.cursor = none ∨ r.rota.Wraps) (hround : (r.call .next).2.InRound calls) :
    (r.given (.next :: calls)).Pairwise (· < ·) ∧
      ((r.after (.next :: calls)).rota.Wraps →
        ∀ n, r.Stays (.next :: calls) n → (r.given (.next :: calls)).count n = 1) := by
  obtain ⟨name, hcall, hdue⟩ := call_next_of_names hnames
  rw [given_cons, after, hcall]
  rw [hcall] at hround
  have hincreasing := pairwise_given rfl hround
  refine ⟨hincreasing, fun hwraps n hstays => ?_⟩
  obtain ⟨hn, hstays⟩ := stays_cons.1 hstays
  rw [hcall] at hstays
  have hnodup : (name :: given _ calls).Nodup := hincreasing.imp Std.ne_of_lt
  refine List.count_eq_one_of_mem hnodup ?_
  -- `name` is the least of all, so `n` is `name` or lies ahead of it
  by_cases heq : name = n
  · exact heq ▸ List.mem_cons_self
  · have hlt : name < n := Std.lt_of_le_of_ne (hdue.le_of_begins hbegins n hn) heq
    rcases mem_given_or_isAhead hround hstays ((Rota.isAhead_of_cursor rfl n).2 hlt) with h | h
    · exact List.mem_cons_of_mem _ h
    · exact absurd h (hwraps.2 n hstays.after)

/-! ### Names that stay the same -/

/-- A look that finds the same names changes nothing. -/
theorem call_refresh_of_names {found : Except Fault (List Name)}
    (h : (r.call (.refresh found)).2.rota.names = r.rota.names) :
    r.call (.refresh found) = (none, r) := by
  have hrota : (r.call (.refresh found)).2.rota = r.rota :=
    Rota.eq_of_names h (Rota.cursor_refresh r.rota found)
  have hrest : (r.call (.refresh found)).2 = { r with rota := (r.call (.refresh found)).2.rota } :=
    rfl
  rw [hrota] at hrest
  exact Prod.ext rfl hrest

/-- While the names stay the same, only the calls that ask for a name matter. -/
theorem given_of_unchanged (h : r.Unchanged calls) :
    r.given calls = r.given (List.replicate (calls.countP Call.isNext) .next) := by
  -- behind the first call the names are still the same, and a look changes nothing
  induction calls generalizing r with
  | nil => rfl
  | cons c calls ih =>
    have hlater : ∀ s ∈ (r.call c).2.states calls, s.rota.names = r.rota.names :=
      fun s hs => h s (List.mem_cons_of_mem _ hs)
    have hnames := hlater _ (mem_states_self _ calls)
    have hstill : (r.call c).2.Unchanged calls := fun s hs => (hlater s hs).trans hnames.symm
    rw [given_cons, ih hstill, List.countP_cons]
    cases c with
    | refresh found =>
      rw [call_refresh_of_names hnames]
      rfl
    | next =>
      rw [Call.isNext, if_pos rfl, List.replicate_succ, given_cons]

/-- The names that are to come are given out one after another; what then lies ahead is what they
leave. -/
theorem given_of_round {front back : List Name} (hfront : front ≠ [])
    (hround : r.rota.round = front ++ back) :
    r.given (List.replicate front.length .next) = front ∧
      (r.after (List.replicate front.length .next)).rota.ahead = back ∧
      (r.after (List.replicate front.length .next)).rota.names = r.rota.names := by
  induction front generalizing r with
  | nil => exact absurd rfl hfront
  | cons name front ih =>
    obtain ⟨given, t, hnext⟩ : ∃ given t, r.rota.next = (some given, t) := by
      have hnames : r.rota.names ≠ [] := fun hnil => by
        rw [Rota.round_eq_nil_iff.2 hnil] at hround
        cases hround
      obtain ⟨given, hnext, -⟩ := Rota.next_of_names hnames
      exact ⟨given, _, hnext⟩
    have hcall : r.call .next = (some given, { r with rota := t }) := by
      unfold call next
      rw [hnext]
    have hcons := Rota.round_of_next hnext
    rw [hround, List.cons_append, List.cons.injEq] at hcons
    obtain ⟨rfl, hahead⟩ := hcons
    have hnames : t.names = r.rota.names := (Rota.next_eq_some hnext).1
    rw [List.length_cons, List.replicate_succ, given_cons, after, hcall]
    cases front with
    | nil => exact ⟨rfl, hahead.symm, hnames⟩
    | cons second front =>
      -- names lie ahead, so these are the ones that are to come
      have hmore : t.round = (second :: front) ++ back := by
        rw [Rota.round_of_ahead (by rw [← hahead]; exact List.cons_ne_nil _ _), hahead]
      obtain ⟨hgiven, hleft, hsame⟩ :=
        ih (r := { r with rota := t }) (List.cons_ne_nil _ _) hmore
      exact ⟨congrArg (name :: ·) hgiven, hleft, hsame.trans hnames⟩

theorem given_append (r : FolderRota Name) (calls more : List (Call Name)) :
    r.given (calls ++ more) = r.given calls ++ (r.after calls).given more := by
  induction calls generalizing r with
  | nil => rfl
  | cons c calls ih =>
    rw [List.cons_append, given_cons, given_cons, ih, List.append_assoc, after]

/-- **Once through all names**: first those that lie ahead, then those that do not. -/
theorem given_replicate {passed : List Name} (h : passed ++ r.rota.ahead = r.rota.names) :
    r.given (List.replicate r.rota.names.length .next) = r.rota.ahead ++ passed := by
  have hlength : r.rota.names.length = r.rota.ahead.length + passed.length := by
    rw [← h, List.length_append, Nat.add_comm]
  rw [hlength, ← List.replicate_append_replicate, given_append]
  by_cases hahead : r.rota.ahead = []
  · -- the rota wraps at once
    rw [hahead, List.append_nil] at h
    rw [hahead]
    cases hpassed : passed with
    | nil => rfl
    | cons name others =>
      have hround : r.rota.round = (name :: others) ++ [] := by
        rw [Rota.round, if_pos hahead, ← h, hpassed, List.append_nil]
      exact (given_of_round (List.cons_ne_nil _ _) hround).1
  · have hround : r.rota.round = r.rota.ahead ++ [] := by
      rw [Rota.round_of_ahead hahead, List.append_nil]
    obtain ⟨hgiven, hleft, hnames⟩ := given_of_round hahead hround
    rw [hgiven]
    cases hpassed : passed with
    | nil => rfl
    | cons name others =>
      -- the rota wraps, and begins with the names that it has passed
      have hwrapped : (r.after (List.replicate r.rota.ahead.length .next)).rota.round =
          (name :: others) ++ r.rota.ahead := by
        rw [Rota.round, if_pos hleft, hnames, ← h, hpassed]
      rw [(given_of_round (List.cons_ne_nil _ _) hwrapped).1]

/-- **As many calls as there are names** give out each of them once, if the names stay the same. -/
theorem perm_given (h : r.Unchanged calls)
    (hcalls : calls.countP Call.isNext = r.rota.names.length) :
    (r.given calls).Perm r.rota.names := by
  obtain ⟨passed, hpassed⟩ := Rota.suffix_filter (p := r.rota.isAhead) r.rota.increasing
    fun _ _ => Rota.isAhead_of_lt
  rw [given_of_unchanged h, hcalls, given_replicate hpassed]
  exact List.perm_append_comm.trans (List.Perm.of_eq hpassed)

/-! ### Fairness -/

/-- **A rota is fair while its names change.** Let `r` be a rota at any point of its use, with names
of any kind, whichever they are, and any cursor.

* If it has names, it gives out the one that is due, and that one ends the round exactly if it is
  the greatest.
* Let it wrap now, or begin, and let no later call be a wrap, whatever is found in between. Then the
  names that it gives out increase; and if it wraps next, then each name that was there all the time
  has been given out exactly once.
* As long as its names stay the same, as many calls as there are names give out each of them once.
* A look that fails changes nothing; another one replaces the names and keeps the cursor. -/
theorem fair (r : FolderRota Name) :
    (r.rota.names ≠ [] → ∃ name, r.next.1 = some name ∧ r.rota.IsDue name ∧
      (r.next.2.rota.isLast = true ↔ ∀ n ∈ r.rota.names, n ≤ name)) ∧
    (∀ calls, r.rota.names ≠ [] → r.rota.cursor = none ∨ r.rota.Wraps → r.next.2.InRound calls →
      (r.given (.next :: calls)).Pairwise (· < ·) ∧
        ((r.after (.next :: calls)).rota.Wraps →
          ∀ name, r.Stays (.next :: calls) name → (r.given (.next :: calls)).count name = 1)) ∧
    (∀ calls, r.Unchanged calls → calls.countP Call.isNext = r.rota.names.length →
      (r.given calls).Perm r.rota.names) ∧
    (∀ fault, r.refresh (.error fault) = (.error fault, r)) ∧
    ∀ found, (r.refresh (.ok found)).1 = .ok () ∧
      (∀ name, name ∈ (r.refresh (.ok found)).2.rota.names ↔ name ∈ found) ∧
      (r.refresh (.ok found)).2.rota.cursor = r.rota.cursor := by
  refine ⟨fun hnames => ?_, fun _ hnames hbegins hround => given_of_begins hnames hbegins hround,
    fun _ => perm_given, fun _ => rfl, fun found => ⟨rfl, fun _ => Rota.mem_names_refresh, rfl⟩⟩
  obtain ⟨name, hnext, hdue⟩ := Rota.next_of_names hnames
  refine ⟨name, ?_, hdue, ?_⟩
  · unfold next
    rw [hnext]
  · rw [← Rota.isLast_iff hnext]
    unfold next
    rw [hnext]

/-- A rota that wraps, loses the name it stands at, gets one ahead of it and one behind, and wraps
again: `e`, which is there all the time, is given out once. -/
theorem fair_changing :
    let r : FolderRota :=
      { root := "/srv"
        rota := { names := ["a", "c", "e"], cursor := some "e", increasing := by decide } }
    let calls : List (Call String) :=
      [.next, .refresh (.ok ["e", "d", "b"]), .next, .refresh (.error (.system .notFound)), .next]
    r.rota.Wraps ∧ r.next.2.InRound calls ∧ (r.after (.next :: calls)).rota.Wraps ∧
      r.Stays (.next :: calls) "e" ∧ r.given (.next :: calls) = ["a", "c", "d", "e"] ∧
      (r.given (.next :: calls)).count "e" = 1 := by
  intro r calls
  have hwraps : r.rota.Wraps := by decide
  have hround : r.next.2.InRound calls := by decide
  have hagain : (r.after (.next :: calls)).rota.Wraps := by decide
  have hstays : r.Stays (.next :: calls) "e" := by decide
  refine ⟨hwraps, hround, hagain, hstays, by decide, ?_⟩
  exact ((fair r).2.1 calls hwraps.1 (.inr hwraps) hround).2 hagain "e" hstays

end FolderRota

end Clamd
