import Clamd.Fault
import Clamd.Outcome

/-!
# Scripted rotas

A rota for rehearsals. It goes through a list of names by index and does at chosen calls what a
script says: it panics, gives a false answer, or fails to look at its root.
-/

namespace Clamd

/-- The calls on a rota. -/
inductive RotaCall where
  | refresh
  | isEmpty
  | isLast
  | next
  deriving DecidableEq, Repr

/-- What a look at the root comes to. -/
inductive Renewal where
  /-- It fails. -/
  | fails (fault : Fault)
  /-- It finds new names, and the rota begins with the first of them. -/
  | finds (names : List String)
  /-- It finds nothing new. -/
  | keeps
  deriving Repr

/-- What a chosen call does instead of its work. -/
inductive Slip where
  /-- It panics. -/
  | panics
  /-- It answers `answer`; a call that gives out names is not affected. -/
  | answers (answer : Bool)
  /-- It gives out nothing and stays where it is; only a call that gives out names is affected. -/
  | givesNothing
  deriving DecidableEq, Repr

/-- A rota that follows a script. -/
structure ScriptedRota where
  /-- The names. -/
  names : List String
  /-- The index of the next name. -/
  index : Nat := 0
  /-- What the coming looks at the root come to. When these are used up nothing new is found. -/
  renewals : List Renewal := []
  /-- The slips, each with the call and its number, counted from one. -/
  slips : List (RotaCall × Nat × Slip) := []
  /-- The calls made so far. -/
  calls : List RotaCall := []

namespace ScriptedRota

/-- Counts a call, and finds the slip that is due at it. -/
def count (r : ScriptedRota) (call : RotaCall) : Option Slip × ScriptedRota :=
  let r := { r with calls := call :: r.calls }
  let n := r.calls.count call
  ((r.slips.find? fun slip => slip.1 == call && slip.2.1 == n).map (·.2.2), r)

/-- Whether the index is at the beginning of the names, so that the last name given out ended the
round. -/
def atStart (r : ScriptedRota) : Bool :=
  !r.names.isEmpty && r.index == 0

/-- A look at the root. -/
def refresh (r : ScriptedRota) : Outcome (Except Fault Unit) × ScriptedRota :=
  match r.count .refresh with
  | (some .panics, r) => (.panicked, r)
  | (_, r) =>
    match r.renewals with
    | [] => (.returned (.ok ()), r)
    | .fails fault :: renewals => (.returned (.error fault), { r with renewals })
    | .finds names :: renewals => (.returned (.ok ()), { r with renewals, names, index := 0 })
    | .keeps :: renewals => (.returned (.ok ()), { r with renewals })

/-- Answers a question, unless a slip gives the answer. -/
def answer (r : ScriptedRota) (call : RotaCall) (honest : ScriptedRota → Bool) :
    Outcome Bool × ScriptedRota :=
  match r.count call with
  | (some .panics, r) => (.panicked, r)
  | (some (.answers value), r) => (.returned value, r)
  | (_, r) => (.returned (honest r), r)

/-- Whether there are no names. -/
def isEmpty (r : ScriptedRota) : Outcome Bool × ScriptedRota :=
  r.answer .isEmpty fun r => r.names.isEmpty

/-- Whether the last name given out ended the round. -/
def isLast (r : ScriptedRota) : Outcome Bool × ScriptedRota :=
  r.answer .isLast atStart

/-- Gives out the next name. -/
def next (r : ScriptedRota) : Outcome (Option String) × ScriptedRota :=
  match r.count .next with
  | (some .panics, r) => (.panicked, r)
  | (some .givesNothing, r) => (.returned none, r)
  | (_, r) =>
    match r.names[r.index]? with
    | none => (.returned none, r)
    | some name => (.returned (some name), { r with index := (r.index + 1) % r.names.length })

end ScriptedRota

end Clamd
