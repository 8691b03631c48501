import Clamd.Client

/-!
# Calls over recorded connections

A call of a client is a function of the network, and the network decides by number and errand alone.
So a call can be carried out in the world in rounds: as long as it asks for a connection that is not
on record, that errand is run, what it met is put on record, and the call is begun again.

* `Recorded.next?` is the errand to run, if there is one left.
* `Recorded.answer` is the outcome of the call once all its errands are on record.
-/

namespace Clamd.Client.Recorded

/-- The connections that a call has met so far, from the attempt `start` on. An attempt beyond the
record finds no one. -/
def network (start : Nat) (met : List (Except Fault Connection)) : Network := fun n _ =>
  (met[n - start]?).getD (.error (.system .connectionRefused))

/-- What a call comes to if it meets what is on record. -/
def answer {α : Type} (call : Network → Session → α × Session) (s : Session)
    (met : List (Except Fault Connection)) : α × Session :=
  call (network s.contacts.length met) s

/-- The first errand of a call that is not on record. -/
def next? {α : Type} (call : Network → Session → α × Session) (s : Session)
    (met : List (Except Fault Connection)) : Option Errand :=
  ((answer call s met).2.contacts[s.contacts.length + met.length]?).map (·.errand)

end Clamd.Client.Recorded
