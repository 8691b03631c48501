import Clamd.Watch.Point
import Mathlib.Data.List.Basic

/-!
# What a worker can do

The moves of a worker, written out as rules: for each move, where the worker stood, what it did
there, and where it stands afterwards. All that is shown of runs rests on the rules.

* `Happening` is what a worker did, with the answer that it got;
* `Point.Rule` are the rules.
-/

namespace Clamd.Watch

/-- What a worker did at one turn. -/
inductive Happening (Folder : Type) where
  /-- It marked its service as running, if it was not closed before. -/
  | entered (running : Bool)
  /-- It saw whether the service is running. -/
  | checked (running : Bool)
  /-- It reckoned when a span will be over. -/
  | reckoned (span : Span) (deadline : Option Instant)
  /-- It saw whether a deadline is reached, and slept a little if it is not. -/
  | waited (deadline : Instant) (reached : Bool)
  /-- The rota looked at the root. -/
  | refreshed (result : Except Fault Unit)
  /-- The rota told whether it is empty. -/
  | askedEmpty (empty : Bool)
  /-- The rota gave out a folder, or none. -/
  | given (folder : Option Folder)
  /-- The rota told whether the round is over. -/
  | askedLast (last : Bool)
  /-- It announced a folder, and this became of the listener. -/
  | announced (folder : Folder) (heard : Outcome Unit)
  /-- It reported a trouble, and this became of the listener. -/
  | reported (trouble : Trouble) (heard : Outcome Unit)
  /-- It said goodbye, and this became of the listener. -/
  | goodbye (heard : Outcome Unit)
  deriving DecidableEq

variable {Folder : Type}

namespace Happening

/-- Whether the rota moved on or looked at the root. -/
@[simp] def isCall : Happening Folder → Bool
  | refreshed _ | given _ => true
  | _ => false

/-- Whether a folder was announced or a trouble reported. -/
@[simp] def isNotice : Happening Folder → Bool
  | announced _ _ | reported _ _ => true
  | _ => false

/-- Whether the worker said goodbye. -/
@[simp] def isGoodbye : Happening Folder → Bool
  | goodbye _ => true
  | _ => false

end Happening

namespace Point

/-- **The moves of a worker**, as long as no call of the rota panics: where it stood, what it did,
and where it stands afterwards. -/
inductive Rule (pauses : Pauses) : Point Folder → Happening Folder → Point Folder → Prop where
  /-- The service is running. -/
  | enter : Rule pauses entering (.entered true) loading
  /-- The service was closed before the worker began. -/
  | stay : Rule pauses entering (.entered false) leaving
  /-- The first look at the root succeeds. -/
  | load : Rule pauses loading (.refreshed (.ok ())) looping
  /-- The first look at the root fails. -/
  | loadFails (fault : Fault) :
      Rule pauses loading (.refreshed (.error fault)) (reporting (.refresh fault) false)
  /-- The loop is gone through once more. -/
  | loop : Rule pauses looping (.checked true) asking
  /-- The loop is left. -/
  | leaveLoop : Rule pauses looping (.checked false) leaving
  /-- There are no folders. -/
  | empty : Rule pauses asking (.askedEmpty true) (pausing .idle)
  /-- There are folders. -/
  | filled : Rule pauses asking (.askedEmpty false) taking
  /-- A folder is given out. -/
  | take (folder : Folder) : Rule pauses taking (.given (some folder)) (looking folder)
  /-- No folder is given out. -/
  | takeNone : Rule pauses taking (.given none) (reporting .nothingGiven true)
  /-- The rota tells whether the round is over. -/
  | look (folder : Folder) (last : Bool) :
      Rule pauses (looking folder) (.askedLast last) (announcing folder last)
  /-- The last folder of a round is announced. -/
  | announceLast (folder : Folder) (heard : Outcome Unit) :
      Rule pauses (announcing folder true) (.announced folder heard) (pausing .rollover)
  /-- A folder is announced, and the round goes on. -/
  | announce (folder : Folder) (heard : Outcome Unit) :
      Rule pauses (announcing folder false) (.announced folder heard) looping
  /-- A pause begins. -/
  | pause (pause : Pause) (deadline : Instant) :
      Rule pauses (pausing pause) (.reckoned (pauses.span pause) (some deadline))
        (dozing pause deadline)
  /-- A pause is longer than the clock can show. -/
  | pauseTooLong (pause : Pause) :
      Rule pauses (pausing pause) (.reckoned (pauses.span pause) none) (afterPanicIn pause)
  /-- A pause goes on. -/
  | doze (pause : Pause) (deadline : Instant) :
      Rule pauses (dozing pause deadline) (.checked true) (waiting pause deadline)
  /-- A pause is broken off. -/
  | wake (pause : Pause) (deadline : Instant) :
      Rule pauses (dozing pause deadline) (.checked false) looping
  /-- A little is slept. -/
  | sleep (pause : Pause) (deadline : Instant) :
      Rule pauses (waiting pause deadline) (.waited deadline false) (dozing pause deadline)
  /-- A pause is over. -/
  | rise (pause : Pause) (deadline : Instant) :
      Rule pauses (waiting pause deadline) (.waited deadline true) (afterPause true pause)
  /-- A further look at the root succeeds. -/
  | reload : Rule pauses reloading (.refreshed (.ok ())) looping
  /-- A further look at the root fails. -/
  | reloadFails (fault : Fault) :
      Rule pauses reloading (.refreshed (.error fault)) (reporting (.refresh fault) true)
  /-- A trouble in the loop is reported. -/
  | report (trouble : Trouble) (heard : Outcome Unit) :
      Rule pauses (reporting trouble true) (.reported trouble heard) (pausing .backOff)
  /-- A trouble before the loop is reported. -/
  | reportFirst (trouble : Trouble) (heard : Outcome Unit) :
      Rule pauses (reporting trouble false) (.reported trouble heard) looping
  /-- The worker says goodbye. -/
  | leave (heard : Outcome Unit) : Rule pauses leaving (.goodbye heard) ended

variable {pauses : Pauses} {p q : Point Folder}

theorem isFinal_iff : p.isFinal = true ↔ p = ended ∨ p = crashed := by
  cases p <;> simp [isFinal]

/-- A worker that moves has not ended. -/
theorem Rule.isFinal_left {h : Happening Folder} (hrule : Rule pauses p h q) :
    p.isFinal = false := by
  cases hrule <;> rfl

/-- The service is marked as running at the first move. -/
theorem Rule.point_of_entered {running : Bool} (hrule : Rule pauses p (.entered running) q) :
    p = entering := by
  cases hrule <;> rfl

/-- A worker that is not told that its service is not running does not leave. -/
theorem Rule.stays {h : Happening Folder} (hrule : Rule pauses p h q) (hp : p ≠ leaving)
    (hentered : h ≠ .entered false) (hchecked : h ≠ .checked false) :
    q ≠ entering ∧ q ≠ leaving ∧ q ≠ ended := by
  cases hrule with
  | stay => exact absurd rfl hentered
  | leaveLoop | wake => exact absurd rfl hchecked
  | leave => exact absurd rfl hp
  | rise pause | pauseTooLong pause => cases pause <;> exact ⟨nofun, nofun, nofun⟩
  | _ => exact ⟨nofun, nofun, nofun⟩

/-- Only a pause after a report that is too long crashes a worker. -/
theorem Rule.long_of_crashed {h : Happening Folder} (hrule : Rule pauses p h crashed) :
    h = .reckoned pauses.backOff none := by
  generalize hq : crashed = q at hrule
  cases hrule with
  | pauseTooLong pause =>
    cases pause with
    | backOff => rfl
    | idle | rollover => cases hq
  | rise pause => cases pause <;> cases hq
  | _ => cases hq

/-- A move ends the worker exactly if it is the goodbye, and it is the last one. -/
theorem Rule.goodbye_iff {h : Happening Folder} (hrule : Rule pauses p h q) :
    p ≠ ended ∧ (q = ended ↔ h.isGoodbye = true) := by
  cases hrule with
  | pauseTooLong pause | rise pause => cases pause <;> simp [afterPause, afterPanicIn]
  | _ => simp

/-- Only the spans of pauses are reckoned with. -/
theorem Rule.span_of_reckoned {span : Span} {deadline : Option Instant}
    (h : Rule pauses p (.reckoned span deadline) q) : ∃ pause, span = pauses.span pause := by
  cases h with
  | pause pause | pauseTooLong pause => exact ⟨pause, rfl⟩

end Point

end Clamd.Watch
