import Clamd.Fault

/-!
# Rotas

A rota goes through the names of some folders, in their order, round after round. It remembers the
name that it gave out last, not its index; so names may come and go between two rounds, and the
next name is always the least one that is greater than the last, or the least of all. A name need
not be a text: all that a rota asks of names is an order in which any two can be compared.

* `mem_names_refresh`: after a refresh a rota has exactly the names that were found;
* `mem_of_upcoming` and `upcoming_eq_none_iff`: the next name is one of the names, and there is one
  unless there are none.
-/

namespace Clamd

/-- Names in increasing order and the one that was given out last. -/
structure Rota (Name : Type) [LT Name] where
  /-- The names. -/
  names : List Name := []
  /-- The name that was given out last, which need not be among the names. -/
  cursor : Option Name := none
  /-- Each name comes once, and the names increase. -/
  increasing : names.Pairwise (· < ·) := by exact .nil

namespace Rota

variable {Name : Type} [LT Name]

section Order

variable [DecidableLT Name] [DecidableEq Name]

/-- Puts `name` in its place among names that increase, unless it is there already. -/
def insert (name : Name) : List Name → List Name
  | [] => [name]
  | other :: rest =>
    if name < other then name :: other :: rest
    else if name = other then other :: rest
    else other :: insert name rest

theorem mem_insert {name n : Name} {names : List Name} :
    n ∈ insert name names ↔ n = name ∨ n ∈ names := by
  induction names with
  | nil => simp [insert]
  | cons other rest ih =>
    rw [insert]
    split
    · simp
    · split
      next heq => simp [heq]
      next => rw [List.mem_cons, ih, List.mem_cons]; grind

/-- The given names in increasing order, each once. -/
def inOrder (names : List Name) : List Name :=
  names.foldr insert []

theorem mem_inOrder {n : Name} {names : List Name} : n ∈ inOrder names ↔ n ∈ names := by
  induction names with
  | nil => simp [inOrder]
  | cons name rest ih =>
    rw [inOrder, List.foldr_cons, mem_insert, ← inOrder, ih, List.mem_cons]

variable [LE Name] [Std.IsLinearOrder Name] [Std.LawfulOrderLT Name]

/-- Inserting into names that increase leaves them increasing. -/
theorem pairwise_insert {name : Name} {names : List Name} (h : names.Pairwise (· < ·)) :
    (insert name names).Pairwise (· < ·) := by
  induction names with
  | nil => simp [insert]
  | cons other rest ih =>
    obtain ⟨hother, hrest⟩ := List.pairwise_cons.1 h
    rw [insert]
    split
    next hlt =>
      refine List.pairwise_cons.2 ⟨?_, h⟩
      intro n hn
      rcases List.mem_cons.1 hn with rfl | hn
      · exact hlt
      · exact Std.lt_trans hlt (hother n hn)
    next hlt =>
      split
      next => exact h
      next hne =>
        refine List.pairwise_cons.2 ⟨?_, ih hrest⟩
        intro n hn
        rcases mem_insert.1 hn with rfl | hn
        · exact Std.lt_of_le_of_ne (Std.not_lt.1 hlt) (Ne.symm hne)
        · exact hother n hn

theorem pairwise_inOrder (names : List Name) : (inOrder names).Pairwise (· < ·) := by
  induction names with
  | nil => simp [inOrder]
  | cons name rest ih => exact pairwise_insert ih

/-- Takes over what a look at the folders found. A look that failed changes nothing. -/
def refresh (r : Rota Name) (found : Except Fault (List Name)) : Except Fault Unit × Rota Name :=
  match found with
  | .error fault => (.error fault, r)
  | .ok names =>
    (.ok (), { names := inOrder names, cursor := r.cursor, increasing := pairwise_inOrder names })

/-- After a refresh a rota has exactly the names that were found. -/
theorem mem_names_refresh {r : Rota Name} {names : List Name} {n : Name} :
    n ∈ (r.refresh (.ok names)).2.names ↔ n ∈ names :=
  mem_inOrder

@[simp] theorem cursor_refresh (r : Rota Name) (found : Except Fault (List Name)) :
    (r.refresh found).2.cursor = r.cursor := by
  cases found <;> rfl

end Order

/-- Whether there is no name. -/
def isEmpty (r : Rota Name) : Bool := r.names.isEmpty

/-- Whether the name that was given out last ends the round. -/
def isLast [DecidableEq Name] (r : Rota Name) : Bool :=
  match r.names.getLast?, r.cursor with
  | some name, some cursor => name == cursor
  | _, _ => false

variable [DecidableLT Name]

/-- Whether a name comes after the one that was given out last. -/
def isAhead (r : Rota Name) (name : Name) : Bool :=
  match r.cursor with
  | none => true
  | some cursor => cursor < name

/-- The name to be given out next: the first one that lies ahead, or the first of all. -/
def upcoming (r : Rota Name) : Option Name :=
  (r.names.find? r.isAhead).or r.names.head?

/-- The next name is one of the names. -/
theorem mem_of_upcoming {r : Rota Name} {name : Name} (h : r.upcoming = some name) :
    name ∈ r.names := by
  rw [upcoming, Option.or_eq_some_iff] at h
  rcases h with h | ⟨_, h⟩
  · exact List.mem_of_find?_eq_some h
  · exact List.mem_of_head? h

/-- There is a next name unless there are no names. -/
theorem upcoming_eq_none_iff {r : Rota Name} : r.upcoming = none ↔ r.names = [] := by
  rw [upcoming, Option.or_eq_none_iff, List.head?_eq_none_iff]
  refine ⟨And.right, fun h => ⟨?_, h⟩⟩
  rw [h, List.find?_nil]

/-- Gives out the next name. -/
def next (r : Rota Name) : Option Name × Rota Name :=
  match r.upcoming with
  | none => (none, r)
  | some name => (some name, { r with cursor := some name })

end Rota

end Clamd
