import Clamd.Proofs.Rota
import Clamd.Proofs.Text.Utf8
import Clamd.Rota.Folders

/-!
# Rotas that are started again

A rota over folders writes the name that it gives out to a state file, and one that is started later
reads it back. The two are compared by what they show from then on: the names that they give out,
and whether each of them ends the round.

The name is written as it is, but read without the blanks around it. So a restart is not noticed
exactly if there are none around the name that was given out last.

* `FolderRota.Stored` is a rota together with its state file, and `Stored.cursor_run` and
  `Stored.file_run` say what calls leave of both: the name that was given out last;
* `FolderRota.savedName_savedContent_iff`: which names a state file gives back;
* `FolderRota.shown_restart_iff`: a restart is not noticed exactly if the last name is one of them;
* `FolderRota.shown_restart_blank`: a name that ends in a blank is given out twice.
-/

namespace Clamd.FolderRota

/-! ### What a rota shows -/

/-- A call of a rota. -/
inductive Call (Name : Type) where
  /-- Give out the next name. -/
  | next
  /-- Take over what a look at the root found. -/
  | refresh (found : Except Fault (List Name))

section Names

variable {Name : Type} [LT Name] [DecidableLT Name] [DecidableEq Name] [LE Name]
  [Std.IsLinearOrder Name] [Std.LawfulOrderLT Name]

/-- Makes a call. What it gives out is a name, if it is asked for one and there is one. -/
def call (r : FolderRota Name) : Call Name → Option Name × FolderRota Name
  | .next => r.next
  | .refresh found => (none, (r.refresh found).2)

/-- **What a rota shows**: for each call, the name that it gives out, and whether the name that was
given out last ends the round then. -/
def shown (r : FolderRota Name) : List (Call Name) → List (Option Name × Bool)
  | [] => []
  | c :: calls => ((r.call c).1, (r.call c).2.rota.isLast) :: (r.call c).2.shown calls

/-- The names that calls give out, in their order. -/
def given (r : FolderRota Name) (calls : List (Call Name)) : List Name :=
  (r.shown calls).filterMap (·.1)

theorem given_cons (r : FolderRota Name) (c : Call Name) (calls : List (Call Name)) :
    r.given (c :: calls) = (r.call c).1.toList ++ (r.call c).2.given calls := by
  rw [given, shown, List.filterMap_cons]
  cases (r.call c).1 <;> rfl

/-- The cursor is the name that a call gives out, if it gives out one. -/
theorem cursor_call (r : FolderRota Name) (c : Call Name) :
    (r.call c).2.rota.cursor = (r.call c).1.or r.rota.cursor := by
  cases c with
  | next => exact Rota.cursor_next r.rota
  | refresh found => exact Rota.cursor_refresh r.rota found

theorem root_call (r : FolderRota Name) (c : Call Name) : (r.call c).2.root = r.root := by
  cases c <;> rfl

theorem stateFile_call (r : FolderRota Name) (c : Call Name) :
    (r.call c).2.stateFile = r.stateFile := by
  cases c <;> rfl

end Names

/-! ### A rota with its state file -/

/-- A rota in use, with what reading its state file would come to. -/
structure Stored where
  /-- The rota. -/
  rota : FolderRota
  /-- What is read from the state file. -/
  file : Except Fault ByteArray

namespace Stored

/-- Makes a call and writes the state file if there is something to be saved. -/
def step (s : Stored) (c : Call String) : Stored :=
  let called := s.rota.call c
  match called.2.saving called.1 with
  | none => { s with rota := called.2 }
  | some (_, content) => { rota := called.2, file := .ok content }

/-- Makes one call after another. -/
def run (s : Stored) (calls : List (Call String)) : Stored :=
  calls.foldl step s

/-- The rota that is started when this one has stopped, with the same root and state file. -/
def restart (s : Stored) : FolderRota :=
  resume s.rota.root (s.rota.stateFile.map fun path => (path, s.file))

variable {s : Stored} {path : String}

theorem run_cons (s : Stored) (c : Call String) (calls : List (Call String)) :
    s.run (c :: calls) = (s.step c).run calls := rfl

@[simp] theorem rota_step (s : Stored) (c : Call String) : (s.step c).rota = (s.rota.call c).2 := by
  rw [step]
  split <;> rfl

/-- A name that is given out is what the state file then holds. -/
theorem file_step (hpath : s.rota.stateFile = some path) (c : Call String) :
    (s.step c).file = (s.rota.call c).1.elim s.file fun name => .ok (savedContent name) := by
  have hsaving : ∀ name,
      (s.rota.call c).2.saving name = name.map fun n => (path, savedContent n) := by
    intro name
    unfold saving
    simp only [stateFile_call, hpath]
    cases name <;> rfl
  simp only [step, hsaving]
  cases (s.rota.call c).1 <;> rfl

/-- The root and the place of the state file stay. -/
theorem places_run (s : Stored) (calls : List (Call String)) :
    (s.run calls).rota.root = s.rota.root ∧ (s.run calls).rota.stateFile = s.rota.stateFile := by
  induction calls generalizing s with
  | nil => exact ⟨rfl, rfl⟩
  | cons c calls ih =>
    rw [run_cons, (ih _).1, (ih _).2, rota_step, root_call, stateFile_call]
    exact ⟨rfl, rfl⟩

/-- **The cursor after some calls** is the name that they gave out last. -/
theorem cursor_run (s : Stored) (calls : List (Call String)) :
    (s.run calls).rota.rota.cursor = (s.rota.given calls).getLast?.or s.rota.rota.cursor := by
  induction calls generalizing s with
  | nil => rfl
  | cons c calls ih =>
    rw [run_cons, ih, rota_step, cursor_call, given_cons, List.getLast?_append, Option.or_assoc]
    congr 2
    cases (s.rota.call c).1 <;> rfl

/-- **The state file after some calls** holds the name that they gave out last. -/
theorem file_run (hpath : s.rota.stateFile = some path) (calls : List (Call String)) :
    (s.run calls).file =
      (s.rota.given calls).getLast?.elim s.file fun name => .ok (savedContent name) := by
  induction calls generalizing s with
  | nil => rfl
  | cons c calls ih =>
    have hstep : (s.step c).rota.stateFile = some path := by
      rw [rota_step, stateFile_call, hpath]
    rw [run_cons, ih hstep, rota_step, file_step hpath, given_cons, List.getLast?_append]
    cases ((s.rota.call c).2.given calls).getLast? with
    | some name => rfl
    | none => cases (s.rota.call c).1 <;> rfl

end Stored

/-! ### What a state file gives back -/

/-- A name that a state file gives back: it is not empty, and there are no blanks around it. -/
structure IsKeepable (name : String) : Prop where
  ne_empty : name ≠ ""
  trimmed : Text.trimmed name = name

instance (name : String) : Decidable (IsKeepable name) :=
  decidable_of_iff (name ≠ "" ∧ Text.trimmed name = name) ⟨fun h => ⟨h.1, h.2⟩, fun h => ⟨h.1, h.2⟩⟩

/-- What is read of a name that was saved: the blanks around it are gone. -/
theorem savedName_savedContent (name : String) :
    savedName (.ok (savedContent name)) =
      if (Text.trimmed name).isEmpty then none else some (Text.trimmed name) := by
  rw [savedName, savedContent, Text.Utf8.decode?_encode]

/-- **A state file gives back** the names without blanks around them, and no others. -/
theorem savedName_savedContent_iff {name : String} :
    savedName (.ok (savedContent name)) = some name ↔ IsKeepable name := by
  rw [savedName_savedContent]
  constructor
  · intro h
    split at h
    next => cases h
    next hne =>
      have htrimmed := Option.some.inj h
      rw [htrimmed, String.isEmpty_iff] at hne
      exact ⟨hne, htrimmed⟩
  · intro h
    rw [h.trimmed, if_neg (by simpa using h.ne_empty)]

/-! ### Restarts -/

/-- The names that are there decide, with the cursor, what a rota shows after a look at its root. -/
theorem refresh_congr {r t : FolderRota} (hroot : r.root = t.root)
    (hstate : r.stateFile = t.stateFile) (hcursor : r.rota.cursor = t.rota.cursor)
    (names : List String) : (r.refresh (.ok names)).2 = (t.refresh (.ok names)).2 := by
  obtain ⟨root, stateFile, ⟨_, cursor, _⟩⟩ := r
  obtain ⟨root', stateFile', ⟨_, cursor', _⟩⟩ := t
  cases hroot
  cases hstate
  cases hcursor
  rfl

/-- When a name is the only one, the round is over exactly if it was given out last. -/
theorem isLast_refresh_singleton (r : FolderRota) (name : String) :
    (r.refresh (.ok [name])).2.rota.isLast = true ↔ r.rota.cursor = some name := by
  have hnames : (r.refresh (.ok [name])).2.rota.names = [name] := rfl
  have hcursor : (r.refresh (.ok [name])).2.rota.cursor = r.rota.cursor := rfl
  rw [Rota.isLast, hnames, hcursor]
  cases r.rota.cursor with
  | none => simp
  | some cursor =>
    rw [List.getLast?_singleton, Option.some_inj]
    exact beq_iff_eq.trans eq_comm

/-- Two rotas over the same root show the same after a look at it exactly if their cursors agree. -/
theorem shown_refresh_iff {r t : FolderRota} (hroot : r.root = t.root)
    (hstate : r.stateFile = t.stateFile) :
    (∀ names later, r.shown (.refresh (.ok names) :: later) =
        t.shown (.refresh (.ok names) :: later)) ↔
      r.rota.cursor = t.rota.cursor := by
  constructor
  · intro hsame
    -- with one name the two must agree on whether the round is over
    have hflag (name : String) : r.rota.cursor = some name ↔ t.rota.cursor = some name := by
      have hflags := hsame [name] []
      simp only [shown, call, List.cons.injEq, Prod.mk.injEq, true_and, and_true] at hflags
      rw [← isLast_refresh_singleton, hflags, isLast_refresh_singleton]
    exact Option.ext hflag
  · intro hcursor names later
    have hrefresh := refresh_congr hroot hstate hcursor names
    simp only [shown, call, hrefresh]

/-- **A restart goes on where the rota stopped** exactly if there are no blanks around the name that
was given out last. Let a rota with a state file begin with any cursor, and let any calls be made of
it; if they give out no name, then the cursor is to be the one that the state file holds. Whatever
names are found after that and whatever calls are made then, the rota that is started again shows
what the first one would have shown. -/
theorem shown_restart_iff {s : Stored} {path : String} (hpath : s.rota.stateFile = some path)
    {calls : List (Call String)}
    (hstart : s.rota.given calls = [] → s.rota.rota.cursor = savedName s.file) :
    (∀ names later, (s.run calls).restart.shown (.refresh (.ok names) :: later) =
        (s.run calls).rota.shown (.refresh (.ok names) :: later)) ↔
      ∀ name ∈ (s.rota.given calls).getLast?, IsKeepable name := by
  obtain ⟨hroot, hplace⟩ := s.places_run calls
  have hrestart : (s.run calls).restart =
      resume s.rota.root (some (path, (s.run calls).file)) := by
    rw [Stored.restart, hroot, hplace, hpath]
    rfl
  have hsameRoot : (s.run calls).restart.root = (s.run calls).rota.root := by
    rw [hrestart, hroot]
    rfl
  have hsameState : (s.run calls).restart.stateFile = (s.run calls).rota.stateFile := by
    rw [hrestart, hplace, hpath]
    rfl
  have hresumed : (s.run calls).restart.rota.cursor = savedName (s.run calls).file := by
    rw [hrestart]
    rfl
  rw [shown_refresh_iff hsameRoot hsameState, hresumed, Stored.file_run hpath, Stored.cursor_run]
  cases hlast : (s.rota.given calls).getLast? with
  | none =>
    -- no name was given out: the file is as it was
    have hcursor := hstart (List.getLast?_eq_none_iff.1 hlast)
    exact iff_of_true hcursor.symm nofun
  | some name =>
    -- the file holds the name that is the cursor
    show savedName (.ok (savedContent name)) = some name ↔ _
    rw [savedName_savedContent_iff]
    exact ⟨fun hkeep _ hname => Option.some.inj hname ▸ hkeep, fun hkeep => hkeep name rfl⟩

/-- A rota over two folders whose state file is not there yet; it has given out the first name. -/
theorem shown_restart_backup :
    let s : Stored :=
      { rota := resume "/srv" (some ("st", .error (.system .notFound)))
        file := .error (.system .notFound) }
    let calls : List (Call String) := [.refresh (.ok ["web", "backup"]), .next]
    s.rota.given calls = ["backup"] ∧
      ∀ names later, (s.run calls).restart.shown (.refresh (.ok names) :: later) =
        (s.run calls).rota.shown (.refresh (.ok names) :: later) := by
  intro s calls
  have hgiven : s.rota.given calls = ["backup"] := by decide
  have hstart : s.rota.given calls = [] → s.rota.rota.cursor = savedName s.file := by simp [hgiven]
  refine ⟨hgiven, (@shown_restart_iff s "st" rfl calls hstart).2 ?_⟩
  rw [hgiven]
  decide

/-- **A name that ends in a blank** is given out once more after a restart: the file gives back
`a`, and `a ` comes after it. -/
theorem shown_restart_blank :
    let s : Stored :=
      { rota := resume "/srv" (some ("st", .error (.system .notFound)))
        file := .error (.system .notFound) }
    let stopped := s.run [.refresh (.ok ["a ", "b"]), .next]
    let later : List (Call String) := [.refresh (.ok ["a ", "b"]), .next, .next]
    s.rota.given [.refresh (.ok ["a ", "b"]), .next] = ["a "] ∧
      stopped.rota.shown later = [(none, false), (some "b", true), (some "a ", false)] ∧
      stopped.restart.shown later = [(none, false), (some "a ", false), (some "b", true)] := by
  decide

end Clamd.FolderRota
