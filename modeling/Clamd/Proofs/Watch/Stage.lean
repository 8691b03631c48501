import Clamd.Proofs.Rota
import Clamd.Proofs.Watch.Scene
import Clamd.Rota.Folders

/-!
# Where a worker stands in a round

What a worker does between one look at the root and the next, told as one stage after another. A
stage keeps the log since the look in step with the rota, so that the log of a whole round can be
read off where the round ends.

* `Napping` follows a pause, from where it begins to where it is `Slept` to its end;
* `Stage` follows a round, and `Stage.move` is what one move makes of a stage; a pause that is too
  long leads to the stage `stuck`, which no look at the root ends;
* `RotaAnswers` is all that a round has to know of the rota;
* `Turning` follows the worker from the head of its loop back to it.
-/

namespace Clamd.Watch

variable {Name : Type}

/-! ### What the log tells -/

namespace Happening

/-- Whether the rota looked at the root. -/
@[simp] def isLook : Happening Name → Bool
  | refreshed _ => true
  | _ => false

/-- The folder that was announced. -/
@[simp] def folder? : Happening Name → Option Name
  | announced folder _ => some folder
  | _ => none

/-- The trouble that was reported. -/
@[simp] def trouble? : Happening Name → Option Trouble
  | reported trouble _ => some trouble
  | _ => none

/-- The folder that the rota gave out. -/
@[simp] def given? : Happening Name → Option Name
  | given folder => folder
  | _ => none

/-- A poll of a pause that goes on until `deadline`. -/
def Polls (deadline : Instant) (h : Happening Name) : Prop :=
  h = checked true ∨ h = waited deadline false

end Happening

/-- The folders that were announced, in their order. -/
def announced (log : List (Happening Name)) : List Name := log.filterMap Happening.folder?

/-- The troubles that were reported, in their order. -/
def reported (log : List (Happening Name)) : List Trouble := log.filterMap Happening.trouble?

/-- A pause was slept to its end. -/
def Slept (span : Span) (nap : List (Happening Name)) : Prop :=
  ∃ deadline polls, (∀ h ∈ polls, Happening.Polls deadline h) ∧
    nap = .reckoned span (some deadline) :: (polls ++ [.waited deadline true])

section Log

variable (log : List (Happening Name)) (h : Happening Name)

theorem announced_concat : announced (log ++ [h]) = announced log ++ h.folder?.toList := by
  simp only [announced, List.filterMap_append, List.filterMap_cons, List.filterMap_nil]
  cases h.folder? <;> rfl

theorem reported_concat : reported (log ++ [h]) = reported log ++ h.trouble?.toList := by
  simp only [reported, List.filterMap_append, List.filterMap_cons, List.filterMap_nil]
  cases h.trouble? <;> rfl

variable {h}

theorem announced_concat_of_none (hfolder : h.folder? = none) :
    announced (log ++ [h]) = announced log := by
  rw [announced_concat, hfolder]
  exact List.append_nil _

theorem reported_concat_of_none (htrouble : h.trouble? = none) :
    reported (log ++ [h]) = reported log := by
  rw [reported_concat, htrouble]
  exact List.append_nil _

end Log

/-! ### Pauses -/

/-- A worker is in a pause, and has done this in it so far. -/
inductive Napping (pauses : Pauses) (pause : Pause) :
    Point Name → List (Happening Name) → Prop where
  | pausing : Napping pauses pause (.pausing pause) []
  | dozing {deadline : Instant} {polls : List (Happening Name)}
      (h : ∀ h ∈ polls, Happening.Polls deadline h) :
      Napping pauses pause (.dozing pause deadline)
        (.reckoned (pauses.span pause) (some deadline) :: polls)
  | waiting {deadline : Instant} {polls : List (Happening Name)}
      (h : ∀ h ∈ polls, Happening.Polls deadline h) :
      Napping pauses pause (.waiting pause deadline)
        (.reckoned (pauses.span pause) (some deadline) :: polls)

variable {pauses : Pauses} {pause : Pause} {p q : Point Name} {nap : List (Happening Name)}
  {h : Happening Name}

/-- **A move in a pause** of a service that is running: the pause goes on, or is over, or was too
long to begin. -/
theorem Napping.move (hnap : Napping pauses pause p nap) (hrule : Point.Rule pauses p h q)
    (hrunning : h ≠ .checked false) :
    Napping pauses pause q (nap ++ [h]) ∨
      (q = .afterPause true pause ∧ Slept (pauses.span pause) (nap ++ [h])) ∨
        (h = .reckoned (pauses.span pause) none ∧ q = .afterPanicIn pause) := by
  have hpoll : ∀ {deadline : Instant} {polls : List (Happening Name)},
      (∀ h ∈ polls, Happening.Polls deadline h) → Happening.Polls deadline h →
        ∀ h' ∈ polls ++ [h], Happening.Polls deadline h' := by
    intro deadline polls hpolls hh h' hmem
    rcases List.mem_append.1 hmem with hmem | hmem
    · exact hpolls h' hmem
    · exact List.mem_singleton.1 hmem ▸ hh
  -- a poll sees whether the service is running, and then whether the time has come
  cases hnap with
  | pausing =>
    cases hrule with
    | pause _ deadline => exact .inl (.dozing (List.forall_mem_nil _))
    | pauseTooLong => exact .inr (.inr ⟨rfl, rfl⟩)
  | dozing hpolls =>
    cases hrule with
    | doze => exact .inl (.waiting (hpoll hpolls (.inl rfl)))
    | wake => exact absurd rfl hrunning
  | waiting hpolls =>
    cases hrule with
    | sleep => exact .inl (.dozing (hpoll hpolls (.inr rfl)))
    | rise => exact .inr (.inl ⟨rfl, _, _, hpolls, rfl⟩)

/-- Nothing is announced or reported in a pause. -/
theorem Napping.silent (hnap : Napping pauses pause p nap) (hrule : Point.Rule pauses p h q) :
    h.folder? = none ∧ h.trouble? = none := by
  cases hnap <;> cases hrule <;> exact ⟨rfl, rfl⟩

/-! ### Walking and being stuck -/

namespace Point

/-- A worker goes through its loop, and may back off before, or has crashed in doing so. -/
def IsWalking : Point Name → Prop
  | looping | asking | taking | crashed => True
  | pausing pause | dozing pause _ | waiting pause _ => pause = .backOff
  | _ => False

/-- A worker goes through its loop, but a pause is too long to lead to another look at the root. -/
def IsStuck (pause : Pause) : Point Name → Prop
  | looping | asking | reporting _ _ | crashed => True
  | taking | looking _ | announcing _ _ => pause = .rollover
  | pausing other => other = .backOff ∨ other = pause
  | dozing other _ | waiting other _ => other = .backOff
  | _ => False

/-- A worker whose due pause is too long does not come out of its loop. -/
theorem Rule.of_isStuck {pauses : Pauses} {pause : Pause} {p q : Point Name} {h : Happening Name}
    (hrule : Rule pauses p h q) (hp : p.IsStuck pause)
    (hempty : ∀ empty, h = .askedEmpty empty → pause = if empty then .idle else .rollover)
    (hlong : ∀ deadline, h ≠ .reckoned (pauses.span pause) (some deadline))
    (hrunning : h ≠ .checked false) : q.IsStuck pause := by
  -- only a back-off can be slept here, and that leads to the head of the loop
  cases hrule with
  | leaveLoop | wake => exact absurd rfl hrunning
  | empty => exact .inr (hempty true rfl).symm
  | filled => exact hempty false rfl
  | announceLast => exact .inr hp.symm
  | pause other deadline =>
    rcases hp with rfl | rfl
    · exact rfl
    · exact absurd rfl (hlong deadline)
  | pauseTooLong other => cases other <;> exact trivial
  | rise other deadline =>
    obtain rfl : other = .backOff := hp
    exact trivial
  | report => exact .inl rfl
  | take | look | doze | sleep => exact hp
  | loop | takeNone | announce | reportFirst => exact trivial
  | _ => exact hp.elim

/-- A worker that is stuck because there are no folders announces none. -/
theorem Rule.folder?_of_isStuck {pauses : Pauses} {p q : Point Name} {h : Happening Name}
    (hrule : Rule pauses p h q) (hp : p.IsStuck .idle) : h.folder? = none := by
  cases hrule with
  | announceLast | announce => cases hp
  | _ => rfl

end Point

/-! ### From one look at the root to the next -/

section Names

variable [LT Name] {r rota rota' : Rota Name} {troubles : List Trouble} {now now' : Instant}
  {log : List (Happening Name)}

/-- The pause that is due after a round. -/
def pauseDue (r : Rota Name) : Pause := if r.names = [] then .idle else .rollover

theorem pauseDue_of_nil (h : r.names = []) : pauseDue r = .idle := if_pos h

theorem pauseDue_of_ne (h : r.names ≠ []) : pauseDue r = .rollover := if_neg h

/-- The pause that is due leads to another look at the root, if it can be slept at all. -/
theorem afterPause_pauseDue (r : Rota Name) :
    (Point.afterPause true (pauseDue r) : Point Name) = .reloading ∧
      (Point.afterPanicIn (pauseDue r) : Point Name) = .reporting .panic true := by
  rw [pauseDue]
  split <;> exact ⟨rfl, rfl⟩

variable [DecidableLT Name] [DecidableEq Name]

/-- What a rota answers to what a worker does between two looks at the root, and what it becomes. -/
def RotaAnswers (r t : Rota Name) : Happening Name → Prop
  | .refreshed _ => True
  | .askedEmpty empty => empty = r.isEmpty ∧ t = r
  | .given folder => r.next = (folder, t)
  | .askedLast last => last = r.isLast ∧ t = r
  | _ => t = r

/-- The names stay as they are between two looks. -/
theorem RotaAnswers.names_eq (hrota : RotaAnswers rota rota' h) (hlook : h.isLook = false) :
    rota'.names = rota.names := by
  cases h with
  | refreshed result => cases hlook
  | given folder =>
    rw [← Rota.names_next rota, show rota.next = (folder, rota') from hrota]
  | askedEmpty | askedLast => rw [hrota.2]
  | entered | checked | reckoned | waited | announced | reported | goodbye =>
    exact congrArg Rota.names hrota

/-- The cursor follows what is given out. -/
theorem RotaAnswers.cursor_eq (hrota : RotaAnswers rota rota' h) (hlook : h.isLook = false) :
    rota'.cursor = h.given?.or rota.cursor := by
  cases h with
  | refreshed result => cases hlook
  | given folder =>
    have hcursor := Rota.cursor_next rota
    rw [show rota.next = (folder, rota') from hrota] at hcursor
    exact hcursor
  | askedEmpty | askedLast => exact congrArg Rota.cursor hrota.2
  | entered | checked | reckoned | waited | announced | reported | goodbye =>
    exact congrArg Rota.cursor hrota

variable [LE Name]

/-- A round is over: the greatest name was announced, or there were none. -/
def Ends (r : Rota Name) (log : List (Happening Name)) : Prop :=
  (r.names = [] → ∃ front, log = front ++ [.askedEmpty true]) ∧
    (r.names ≠ [] → ∃ front folder heard, log = front ++ [.announced folder heard] ∧
      folder ∈ r.names ∧ ∀ n ∈ r.names, n ≤ folder)

/-- How far a worker has come since a look at the root that left the rota `r`: where it stands, with
the rota and the clock, and what it has done since. -/
inductive Stage (pauses : Pauses) (r : Rota Name) (troubles : List Trouble) :
    Point Name → Rota Name → Instant → List (Happening Name) → Prop where
  /-- The look failed, and is to be reported. -/
  | reporting (fault : Fault) (backOff : Bool) (now : Instant) (h : troubles = [.refresh fault]) :
      Stage pauses r troubles (.reporting (.refresh fault) backOff) r now []
  /-- Some of the round has been announced. -/
  | walking {p : Point Name} {rota : Rota Name} {now : Instant} {log : List (Happening Name)}
      (hp : p.IsWalking) (hnames : rota.names = r.names) (hreported : reported log = troubles)
      (hround : r.round = announced log ++ rota.round) (htaking : p = .taking → r.names ≠ []) :
      Stage pauses r troubles p rota now log
  /-- A folder has been taken. -/
  | looking {folder : Name} {rota : Rota Name} {now : Instant} {log : List (Happening Name)}
      (hnames : rota.names = r.names) (hreported : reported log = troubles)
      (hround : r.round = announced log ++ folder :: rota.ahead)
      (hcursor : rota.cursor = some folder) (hlast : rota.isLast = rota.ahead.isEmpty) :
      Stage pauses r troubles (.looking folder) rota now log
  /-- A folder is to be announced. -/
  | announcing {folder : Name} {last : Bool} {rota : Rota Name} {now : Instant}
      {log : List (Happening Name)} (hnames : rota.names = r.names)
      (hreported : reported log = troubles)
      (hround : r.round = announced log ++ folder :: rota.ahead)
      (hcursor : rota.cursor = some folder) (hlast : last = rota.ahead.isEmpty) :
      Stage pauses r troubles (.announcing folder last) rota now log
  /-- The round is over, and the worker is in the pause that is due. -/
  | resting {p : Point Name} {rota : Rota Name} {now : Instant} {front nap : List (Happening Name)}
      (hnap : Napping pauses (pauseDue r) p nap) (hnames : rota.names = r.names)
      (hreported : reported (front ++ nap) = troubles)
      (hround : announced (front ++ nap) = r.round) (hend : Ends r front) :
      Stage pauses r troubles p rota now (front ++ nap)
  /-- The pause is over. -/
  | rested {rota : Rota Name} {now : Instant} {front nap : List (Happening Name)}
      (hnap : Slept (pauses.span (pauseDue r)) nap) (hreported : reported (front ++ nap) = troubles)
      (hround : announced (front ++ nap) = r.round) (hend : Ends r front) :
      Stage pauses r troubles .reloading rota now (front ++ nap)
  /-- The pause that is due is too long, and so it will be. -/
  | stuck {p : Point Name} {rota : Rota Name} {now : Instant} {log : List (Happening Name)}
      (hp : p.IsStuck (pauseDue r)) (hnames : rota.names = r.names)
      (hlong : ¬ pauses.Shown (pauseDue r) now) (hannounced : r.names = [] → announced log = []) :
      Stage pauses r troubles p rota now log

/-- A round is over, and its pause begins. -/
theorem Stage.due (hnames : rota.names = r.names) (hreported : reported log = troubles)
    (hround : announced log = r.round) (hend : Ends r log) :
    Stage pauses r troubles (.pausing (pauseDue r)) rota now log := by
  rw [← List.append_nil log] at hreported hround ⊢
  exact .resting .pausing hnames hreported hround hend

/-- A worker that announces and reports nothing is as far in the round as before. -/
theorem Stage.walk_on (hq : q.IsWalking) (hnames : rota.names = r.names)
    (hreported : reported log = troubles) (hround : r.round = announced log ++ rota.round)
    (hsilent : h.folder? = none ∧ h.trouble? = none) (htaking : q = .taking → r.names ≠ []) :
    Stage pauses r troubles q rota now (log ++ [h]) := by
  refine .walking hq hnames ?_ ?_ htaking
  · rw [reported_concat_of_none _ hsilent.2, hreported]
  · rw [announced_concat_of_none _ hsilent.1, hround]

variable [Std.IsLinearOrder Name] [Std.LawfulOrderLT Name]

/-- A move of a worker that goes through its loop. -/
theorem Stage.move_walking (hp : p.IsWalking) (hnames : rota.names = r.names)
    (hreported : reported log = troubles) (hround : r.round = announced log ++ rota.round)
    (htaking : p = .taking → r.names ≠ []) (hrule : Point.Rule pauses p h q)
    (hrota : RotaAnswers rota rota' h) (hrunning : h ≠ .checked false) :
    Stage pauses r troubles q rota' now' (log ++ [h]) := by
  cases hrule with
  | loop =>
    obtain rfl : rota' = rota := hrota
    exact .walk_on trivial hnames hreported hround ⟨rfl, rfl⟩ nofun
  | empty =>
    -- there are no names, and so there was nothing to announce
    obtain ⟨hempty, rfl⟩ : true = rota.isEmpty ∧ rota' = rota := hrota
    have hnil : r.names = [] := by
      rw [← hnames]
      exact List.isEmpty_iff.1 hempty.symm
    have hround' := Rota.round_eq_nil_iff.2 hnil
    have hannounced : announced log = [] := (List.append_eq_nil_iff.1 (hround ▸ hround')).1
    rw [← pauseDue_of_nil hnil]
    exact .due hnames (by simpa [reported_concat]) (by simp [announced_concat, hannounced, hround'])
      ⟨fun _ => ⟨log, rfl⟩, absurd hnil⟩
  | filled =>
    obtain ⟨hempty, rfl⟩ : false = rota.isEmpty ∧ rota' = rota := hrota
    refine .walk_on trivial hnames hreported hround ⟨rfl, rfl⟩ fun _ hnil => ?_
    rw [Rota.isEmpty, hnames, hnil] at hempty
    cases hempty
  | take folder =>
    have hnext : rota.next = (some folder, rota') := hrota
    obtain ⟨hkept, hcursor, -⟩ := Rota.next_eq_some hnext
    refine .looking (hkept.trans hnames) (by simpa [reported_concat]) ?_ hcursor
      (Rota.isLast_eq hnext)
    simpa [announced_concat, ← Rota.round_of_next hnext]
  | takeNone => exact absurd hrota (Rota.next_ne_none (hnames ▸ htaking rfl))
  | pause | doze | sleep =>
    obtain rfl : rota' = rota := hrota
    exact .walk_on hp hnames hreported hround ⟨rfl, rfl⟩ nofun
  | pauseTooLong other | rise other =>
    -- the pause that is due does not begin before the round is over, so this one is a back-off
    obtain rfl : rota' = rota := hrota
    obtain rfl : other = .backOff := hp
    exact .walk_on trivial hnames hreported hround ⟨rfl, rfl⟩ nofun
  | leaveLoop | wake => exact absurd rfl hrunning
  | _ => exact hp.elim

/-- **A move between two looks at the root** of a worker whose service is running. -/
theorem Stage.move (hs : Stage pauses r troubles p rota now log)
    (hrule : Point.Rule pauses p h q) (hrota : RotaAnswers rota rota' h)
    (hclock : ∀ span deadline, h = .reckoned span deadline → deadline = now'.after? span)
    (hnow : now.nanos ≤ now'.nanos) (hrunning : h ≠ .checked false) (hlook : h.isLook = false) :
    Stage pauses r troubles q rota' now' (log ++ [h]) := by
  cases hs with
  | reporting fault backOff _ htroubles =>
    -- the report is the only one
    cases hrule with
    | report =>
      obtain rfl : rota' = r := hrota
      exact .walking rfl rfl htroubles.symm rfl nofun
    | reportFirst =>
      obtain rfl : rota' = r := hrota
      exact .walking trivial rfl htroubles.symm rfl nofun
  | walking hp hnames hreported hround htaking =>
    exact .move_walking hp hnames hreported hround htaking hrule hrota hrunning
  | looking hnames hreported hround hcursor hlast =>
    cases hrule with
    | look folder last =>
      obtain ⟨rfl, rfl⟩ : last = rota.isLast ∧ rota' = rota := hrota
      exact .announcing hnames (by simpa [reported_concat]) (by simpa [announced_concat]) hcursor
        hlast
  | @announcing folder _ _ _ _ hnames hreported hround hcursor hlast =>
    obtain rfl : rota' = rota := by cases hrule <;> exact hrota
    cases hrule with
    | announceLast _ heard =>
      -- no name lies ahead, so the folder is the greatest one
      have hahead : rota'.ahead = [] := List.isEmpty_iff.1 hlast.symm
      rw [hahead] at hround
      have hmem : folder ∈ r.names :=
        r.round_suffix.subset (hround ▸ List.mem_append_right _ List.mem_cons_self)
      have hne : r.names ≠ [] := List.ne_nil_of_mem hmem
      have hgreatest := (Rota.ahead_eq_nil_iff hcursor).1 hahead
      rw [← pauseDue_of_ne hne]
      exact .due hnames (by simpa [reported_concat]) (by simp [announced_concat, hround])
        ⟨fun h => absurd h hne, fun _ => ⟨log, folder, heard, rfl, hmem, hnames ▸ hgreatest⟩⟩
    | announce _ heard =>
      have hahead : rota'.ahead ≠ [] := List.isEmpty_eq_false_iff.1 hlast.symm
      refine .walking trivial hnames (by simpa [reported_concat]) ?_ nofun
      simp [announced_concat, hround, Rota.round_of_ahead hahead]
  | @resting _ _ _ front nap hnap hnames hreported hround hend =>
    -- the round is announced already, and a pause adds nothing to it
    obtain ⟨hfolder, htrouble⟩ := hnap.silent hrule
    have hnames' := (hrota.names_eq hlook).trans hnames
    rw [List.append_assoc]
    have hreported' : reported (front ++ (nap ++ [h])) = troubles := by
      rw [← List.append_assoc, reported_concat_of_none _ htrouble, hreported]
    have hround' : announced (front ++ (nap ++ [h])) = r.round := by
      rw [← List.append_assoc, announced_concat_of_none _ hfolder, hround]
    rcases hnap.move hrule hrunning with hnext | ⟨rfl, hslept⟩ | ⟨rfl, rfl⟩
    · exact .resting hnext hnames' hreported' hround' hend
    · rw [(afterPause_pauseDue r).1]
      exact .rested hslept hreported' hround' hend
    · rw [(afterPause_pauseDue r).2]
      refine .stuck trivial hnames' ?_ fun hnil => hround'.trans (Rota.round_eq_nil_iff.2 hnil)
      rw [Pauses.Shown, ← hclock _ _ rfl]
      exact Bool.false_ne_true
  | rested hnap hreported hround hend => cases hrule <;> cases hlook
  | stuck hp hnames hlong hannounced =>
    -- the clock has gone on, so the pause is too long still
    have hlong' : ¬ pauses.Shown (pauseDue r) now' := fun hshown => hlong (hshown.of_le hnow)
    have hempty : ∀ empty, h = .askedEmpty empty →
        pauseDue r = if empty then .idle else .rollover := by
      rintro empty rfl
      rw [hrota.1, pauseDue, ← hnames, Rota.isEmpty]
      cases rota.names <;> rfl
    have hnever : ∀ deadline, h ≠ .reckoned (pauses.span (pauseDue r)) (some deadline) := by
      intro deadline hd
      rw [Pauses.Shown, ← hclock _ _ hd] at hlong'
      exact hlong' rfl
    refine .stuck (hrule.of_isStuck hp hempty hnever hrunning)
      ((hrota.names_eq hlook).trans hnames) hlong' fun hnil => ?_
    rw [pauseDue_of_nil hnil] at hp
    rw [announced_concat_of_none _ (hrule.folder?_of_isStuck hp), hannounced hnil]

end Names

/-! ### From one time at the head of the loop to the next -/

/-- In what was done some pause was slept to its end. -/
def SleptIn (pauses : Pauses) (log : List (Happening Name)) : Prop :=
  ∃ front pause nap back, log = front ++ nap ++ back ∧ Slept (pauses.span pause) nap

/-- A worker has left the head of its loop and has neither announced nor slept yet. -/
def Point.IsBusy : Point Name → Prop
  | asking | taking | looking _ | announcing _ _ | reporting _ true | crashed => True
  | _ => False

/-- How far a worker has come since it left the head of its loop. -/
inductive Turning (pauses : Pauses) : Point Name → List (Happening Name) → Prop where
  /-- It has neither announced nor slept yet. -/
  | busy {p : Point Name} {log : List (Happening Name)} (hp : p.IsBusy) : Turning pauses p log
  /-- It is in a pause, other than the one after a round. -/
  | napping {p : Point Name} {pause : Pause} {front nap : List (Happening Name)}
      (hnap : Napping pauses pause p nap) (hpause : pause ≠ .rollover) :
      Turning pauses p (front ++ nap)
  /-- It has announced or slept. -/
  | done {p : Point Name} {log : List (Happening Name)}
      (h : announced log ≠ [] ∨ SleptIn pauses log) : Turning pauses p log

theorem Turning.pausing (hpause : pause ≠ .rollover) : Turning pauses (.pausing pause) log := by
  rw [← List.append_nil log]
  exact .napping .pausing hpause

/-- Each move of a worker whose service is running carries it on. -/
theorem Turning.move (ht : Turning pauses p log) (hrule : Point.Rule pauses p h q)
    (hrunning : h ≠ .checked false) : Turning pauses q (log ++ [h]) := by
  cases ht with
  | busy hp =>
    cases hrule with
    | empty => exact .pausing nofun
    | filled | take | takeNone | look => exact .busy trivial
    | announceLast folder | announce folder =>
      refine .done (.inl ?_)
      rw [announced_concat]
      exact List.append_ne_nil_of_right_ne_nil _ (List.cons_ne_nil _ _)
    | report => exact .pausing nofun
    | _ => exact hp.elim
  | @napping pause front nap hnap hpause =>
    rw [List.append_assoc]
    rcases hnap.move hrule hrunning with hnext | ⟨-, hslept⟩ | ⟨-, rfl⟩
    · exact .napping hnext hpause
    · exact .done (.inr ⟨front, pause, _, [], (List.append_nil _).symm, hslept⟩)
    · -- a pause that was too long is followed by a back-off, or by nothing
      cases pause with
      | rollover => exact absurd rfl hpause
      | idle | backOff => exact .busy trivial
  | done hdone =>
    refine .done (hdone.imp (fun hne => ?_) ?_)
    · rw [announced_concat]
      exact List.append_ne_nil_of_left_ne_nil hne _
    · rintro ⟨front, pause, nap, back, rfl, hslept⟩
      exact ⟨front, pause, nap, back ++ [h], by simp, hslept⟩

end Clamd.Watch
