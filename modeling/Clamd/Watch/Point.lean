import Clamd.Clock
import Clamd.Fault
import Clamd.Outcome

/-!
# The worker that watches folders

The worker takes one folder after another from a rota and announces each. When a round is over, or
when there are no folders, it sleeps and then looks at the root again; when something goes wrong it
reports the trouble and backs off for a while. It goes on until its service is closed, and says
goodbye.

The worker is a machine. A `Point` says where it stands, and `Point.move` what it asks of its
surroundings there and where each answer leads it. Between two moves the rest of the world may do
anything, closing the service included: the worker learns of that where it asks, and only there.
What a folder is makes no difference to it: it hands on what the rota gives out.

* A panic of the rota inside the loop is caught and reported like other trouble.
* A panic in the look at the root before the loop is not caught, nor one in a pause that follows a
  report: it ends the worker without a goodbye.
-/

namespace Clamd.Watch

/-- The pauses of the worker. -/
inductive Pause where
  /-- There are no folders. -/
  | idle
  /-- A round is over. -/
  | rollover
  /-- Something went wrong. -/
  | backOff
  deriving DecidableEq, Repr

/-- How long each pause lasts. -/
structure Pauses where
  /-- How long to wait when there are no folders. -/
  idle : Span := .ofSeconds 10
  /-- How long to wait after a round. -/
  rollover : Span := .ofSeconds 60
  /-- How long to wait after trouble. -/
  backOff : Span := .ofSeconds 5
  deriving DecidableEq, Repr

/-- How long a pause lasts. -/
def Pauses.span (pauses : Pauses) : Pause → Span
  | .idle => pauses.idle
  | .rollover => pauses.rollover
  | .backOff => pauses.backOff

/-- What can go wrong in the loop. -/
inductive Trouble where
  /-- The root could not be looked at. -/
  | refresh (fault : Fault)
  /-- The rota was not empty and yet gave out nothing. -/
  | nothingGiven
  /-- A call panicked. -/
  | panic
  deriving DecidableEq, Repr

/-- The text of a trouble. -/
def Trouble.message : Trouble → String
  | refresh fault => "refreshing directories: " ++ fault.message
  | nothingGiven => "non-empty cycler yielded no directory"
  | panic => "iteration panicked"

/-- Where the worker stands. -/
inductive Point (Folder : Type) where
  /-- It is about to mark its service as running. -/
  | entering
  /-- It is about to look at the root for the first time. -/
  | loading
  /-- It is at the head of the loop. -/
  | looping
  /-- It is about to ask whether there are folders. -/
  | asking
  /-- It is about to take a folder. -/
  | taking
  /-- It has taken a folder and is about to ask whether that ends the round. -/
  | looking (folder : Folder)
  /-- It is about to announce a folder, which may be the last of its round. -/
  | announcing (folder : Folder) (last : Bool)
  /-- It is about to reckon when a pause will be over. -/
  | pausing (pause : Pause)
  /-- It is in a pause and about to see whether the service is still running. -/
  | dozing (pause : Pause) (deadline : Instant)
  /-- It is in a pause and about to look at the clock and to sleep a little. -/
  | waiting (pause : Pause) (deadline : Instant)
  /-- It is about to look at the root again. -/
  | reloading
  /-- It is about to report a trouble, and to back off then if `backOff` is set. -/
  | reporting (trouble : Trouble) (backOff : Bool)
  /-- It is about to say goodbye. -/
  | leaving
  /-- It has ended. -/
  | ended
  /-- A panic has ended it. -/
  | crashed
  deriving DecidableEq, Repr

/-- What the worker asks of its surroundings, and the point to which each answer leads. -/
inductive Move (Folder : Type) where
  /-- Mark the service as running; is it running now? -/
  | enter (go : Bool → Point Folder)
  /-- Is the service running? -/
  | check (go : Bool → Point Folder)
  /-- When will the span be over? Perhaps the clock cannot show it. -/
  | reckon (span : Span) (go : Option Instant → Point Folder)
  /-- Is the deadline reached? If not, sleep a little. -/
  | wait (deadline : Instant) (go : Bool → Point Folder)
  /-- Let the rota look at the root. -/
  | refresh (go : Outcome (Except Fault Unit) → Point Folder)
  /-- Is the rota empty? -/
  | isEmpty (go : Outcome Bool → Point Folder)
  /-- Let the rota give out a folder. -/
  | next (go : Outcome (Option Folder) → Point Folder)
  /-- Does the folder given out last end the round? -/
  | isLast (go : Outcome Bool → Point Folder)
  /-- Announce a folder. -/
  | announce (folder : Folder) (next : Point Folder)
  /-- Report a trouble. -/
  | report (trouble : Trouble) (next : Point Folder)
  /-- Say goodbye. -/
  | goodbye (next : Point Folder)
  /-- Nothing more. -/
  | rest

namespace Point

variable {Folder : Type}

/-- Where a pause leads. If it lasted to its end the root is looked at again, except after trouble.
-/
def afterPause (complete : Bool) : Pause → Point Folder
  | .backOff => looping
  | .idle | .rollover => if complete then reloading else looping

/-- Where a panic in a pause leads: only the pause after a report is outside the loop's guard. -/
def afterPanicIn : Pause → Point Folder
  | .backOff => crashed
  | .idle | .rollover => reporting .panic true

/-- What the worker does at a point. -/
def move (pauses : Pauses) : Point Folder → Move Folder
  | entering => .enter fun running => if running then loading else leaving
  | loading => .refresh fun
    | .returned (.ok ()) => looping
    | .returned (.error fault) => reporting (.refresh fault) false
    | .panicked => crashed
  | looping => .check fun running => if running then asking else leaving
  | asking => .isEmpty fun
    | .returned isEmpty => if isEmpty then pausing .idle else taking
    | .panicked => reporting .panic true
  | taking => .next fun
    | .returned (some folder) => looking folder
    | .returned none => reporting .nothingGiven true
    | .panicked => reporting .panic true
  | looking folder => .isLast fun
    | .returned last => announcing folder last
    | .panicked => reporting .panic true
  | announcing folder last =>
    .announce folder (if last then pausing .rollover else looping)
  | pausing pause => .reckon (pauses.span pause) fun
    | some deadline => dozing pause deadline
    | none => afterPanicIn pause
  | dozing pause deadline => .check fun running =>
    if running then waiting pause deadline else afterPause false pause
  | waiting pause deadline => .wait deadline fun reached =>
    if reached then afterPause true pause else dozing pause deadline
  | reloading => .refresh fun
    | .returned (.ok ()) => looping
    | .returned (.error fault) => reporting (.refresh fault) true
    | .panicked => reporting .panic true
  | reporting trouble backOff => .report trouble (if backOff then pausing .backOff else looping)
  | leaving => .goodbye ended
  | ended => .rest
  | crashed => .rest

/-- Whether the worker does nothing more. -/
def isFinal : Point Folder → Bool
  | ended | crashed => true
  | _ => false

end Point

end Clamd.Watch
