import Clamd.Proofs.Watch.Stage

/-!
# What a worker announces

The worker of a service that nobody closes, with a rota over the folders of a root. What each look
at the root finds, or that it fails, is up to the world.

* `lookout` is the rota, and `found` what it has found so far;
* `Round` says what is announced and reported between one look at the root and the next, and how the
  round ends; `Stage.round` reads it off the stage in which a round ends, and `Stage.begun` says
  what can be read off any stage before that;
* `Scene.Tracks`: the rota agrees with the log;
* `Scene.stage_run`: from one look to the next the worker goes from stage to stage;
* `Scene.rounds` puts this together.

There may be no next look. A pause after a round that is too long for the clock is a panic that is
reported, and behind it the worker goes on with the folders it has: it announces them again and
again (`Scene.announced_again`). What has been done since the last look is the beginning of a round
if the clock can show when such a pause will be over.
-/

namespace Clamd.Watch

/-! ### Rounds -/

variable {Name : Type}

/-- The folders that the last of `n` looks found that did not fail, or none. -/
def found (looks : Nat → Except Fault (List Name)) : Nat → List Name
  | 0 => []
  | n + 1 =>
    match looks n with
    | .ok names => names
    | .error _ => found looks n

/-- The folder that was given out last, or where the rota began. -/
def cursorAfter (start : Option Name) (log : List (Happening Name)) : Option Name :=
  (log.filterMap Happening.given?).getLast?.or start

theorem cursorAfter_concat (start : Option Name) (log : List (Happening Name))
    (h : Happening Name) :
    cursorAfter start (log ++ [h]) = h.given?.or (cursorAfter start log) := by
  simp only [cursorAfter, List.filterMap_append, List.filterMap_cons, List.filterMap_nil]
  cases h.given? <;> simp

/-- The troubles that a look at the root makes. -/
def troublesOf : Except Fault Unit → List Trouble
  | .ok () => []
  | .error fault => [.refresh fault]

variable [LT Name]

/-- A name comes after the cursor, or there is no cursor. -/
def Ahead (cursor : Option Name) (name : Name) : Prop :=
  ∀ c, cursor = some c → c < name

/-- The names that are to be announced from the cursor on, in their order: those that lie ahead, or
all of them if none does. -/
structure IsRound (names : List Name) (cursor : Option Name) (round : List Name) : Prop where
  /-- The names increase, so each comes once. -/
  increasing : round.Pairwise (· < ·)
  /-- They are those that lie ahead, or all. -/
  exactly : ∀ n, n ∈ round ↔ n ∈ names ∧ (Ahead cursor n ∨ ∀ d ∈ names, ¬ Ahead cursor d)

/-- **A round**: what a worker does between one look at the root and the next, when `names` are the
folders and the rota goes on from `cursor`. -/
structure Round [LE Name] (pauses : Pauses) (names : List Name) (cursor : Option Name)
    (troubles : List Trouble) (log : List (Happening Name)) : Prop where
  /-- The folders are announced. -/
  announced : IsRound names cursor (announced log)
  /-- Nothing is reported but that the look at the root failed, if it did. -/
  reported : reported log = troubles
  /-- The round ends with the greatest folder, and a pause. -/
  ending : names ≠ [] → ∃ front folder heard nap, log = front ++ .announced folder heard :: nap ∧
    folder ∈ names ∧ (∀ n ∈ names, n ≤ folder) ∧ Slept pauses.rollover nap
  /-- Without folders it ends with a pause. -/
  idle : names = [] → ∃ front nap, log = front ++ .askedEmpty true :: nap ∧
    Slept pauses.idle nap

/-! ### A rota as a worker meets it -/

/-- A rota over the folders of a root. -/
structure Outlook (Name : Type) [LT Name] where
  /-- The rota. -/
  folders : FolderRota Name
  /-- How often it has looked at the root. -/
  looked : Nat := 0

/-- The rota proper. -/
def Outlook.rota (o : Outlook Name) : Rota Name := o.folders.rota

/-- A rota over the folders of a root as a worker meets it, where the n-th look at the root comes to
`looks n`. -/
def lookout [DecidableLT Name] [DecidableEq Name] [LE Name] [Std.IsLinearOrder Name]
    [Std.LawfulOrderLT Name] (looks : Nat → Except Fault (List Name)) :
    Cycler Name (Outlook Name) where
  refresh o :=
    let (result, folders) := o.folders.refresh (looks o.looked)
    (result, { folders, looked := o.looked + 1 })
  isEmpty o := (o.folders.rota.isEmpty, o)
  next o :=
    let (folder, folders) := o.folders.next
    (folder, { o with folders })
  isLast o := (o.folders.rota.isLast, o)

/-- The rota of a scene agrees with its log. -/
structure Scene.Tracks (looks : Nat → Except Fault (List Name)) (start : Option Name)
    (s : Scene Name (Outlook Name)) : Prop where
  /-- The looks at the root are counted. -/
  looked : s.rota.looked = s.log.countP Happening.isLook
  /-- The names are those that have been found. -/
  names : ∀ n, n ∈ s.rota.rota.names ↔ n ∈ found looks s.rota.looked
  /-- The cursor is the folder given out last. -/
  cursor : s.rota.rota.cursor = cursorAfter start s.log

variable [DecidableLT Name] {pauses : Pauses} {r : Rota Name} {rota : Rota Name}
  {troubles : List Trouble} {now now' : Instant} {p q : Point Name} {log : List (Happening Name)}
  {names : List Name} {cursor : Option Name} {looks : Nat → Except Fault (List Name)}
  {h : Happening Name}

theorem ahead_iff {n : Name} : r.isAhead n = true ↔ Ahead r.cursor n := by
  rw [Rota.isAhead, Ahead]
  cases r.cursor <;> simp

/-- The round of a rota is what is to be announced. -/
theorem isRound_round [LE Name] [Std.IsLinearOrder Name] [Std.LawfulOrderLT Name]
    (hnames : ∀ n, n ∈ r.names ↔ n ∈ names) (hcursor : r.cursor = cursor) :
    IsRound names cursor r.round := by
  refine ⟨r.pairwise_round, fun n => ?_⟩
  rw [Rota.mem_round, ← hcursor]
  simp only [ahead_iff, hnames]

variable [DecidableEq Name] [LE Name]

/-- A worker that does nothing more stays where it is. -/
theorem Stage.of_isFinal (hs : Stage pauses r troubles p rota now log) (hfinal : p.isFinal = true)
    (hnow : now.nanos ≤ now'.nanos) : Stage pauses r troubles p rota now' log := by
  cases hs with
  | walking hp hnames hreported hround htaking =>
    exact .walking hp hnames hreported hround htaking
  | stuck hp hnames hlong hannounced =>
    exact .stuck hp hnames (fun hshown => hlong (hshown.of_le hnow)) hannounced
  | resting hnap => cases hnap <;> cases hfinal
  | reporting | looking | announcing | rested => cases hfinal

variable [Std.IsLinearOrder Name] [Std.LawfulOrderLT Name]

/-- **Where the rota is about to look at the root**, the round is over. -/
theorem Stage.round (hs : Stage pauses r troubles p rota now log)
    (hp : p = .loading ∨ p = .reloading) (hnames : ∀ n, n ∈ r.names ↔ n ∈ names)
    (hcursor : r.cursor = cursor) : Round pauses names cursor troubles log := by
  -- of all stages only the last leads there
  cases hs with
  | rested hnap hreported hround hend =>
    have hnil : r.names = [] ↔ names = [] := by
      simp only [List.eq_nil_iff_forall_not_mem, hnames]
    refine ⟨hround ▸ isRound_round hnames hcursor, hreported, fun hne => ?_, fun heq => ?_⟩
    · have hne' : r.names ≠ [] := fun h => hne (hnil.1 h)
      obtain ⟨before, folder, heard, rfl, hmem, hgreatest⟩ := hend.2 hne'
      rw [pauseDue_of_ne hne'] at hnap
      exact ⟨before, folder, heard, _, List.append_cons .. ▸ rfl, (hnames _).1 hmem,
        fun n hn => hgreatest n ((hnames n).2 hn), hnap⟩
    · obtain ⟨before, rfl⟩ := hend.1 (hnil.2 heq)
      rw [pauseDue_of_nil (hnil.2 heq)] at hnap
      exact ⟨before, _, List.append_cons .. ▸ rfl, hnap⟩
  | reporting | looking | announcing => simp at hp
  | walking hwalking | stuck hwalking =>
    rcases hp with rfl | rfl <;> exact hwalking.elim
  | resting hnap => rcases hp with rfl | rfl <;> cases hnap

/-- **Before that**, what has been announced is the beginning of a round, if the clock can show when
a pause after a round will be over. If it can show that of the pause of a worker without folders as
well, nothing has been reported but the look at the root. -/
theorem Stage.begun (hs : Stage pauses r troubles p rota now log)
    (hnames : ∀ n, n ∈ r.names ↔ n ∈ names) (hcursor : r.cursor = cursor)
    (hrollover : pauses.Shown .rollover now) :
    (∃ rest, IsRound names cursor (announced log ++ rest)) ∧
      (pauses.Shown .idle now → log ≠ [] → reported log = troubles) := by
  have hround := isRound_round hnames hcursor
  cases hs with
  | reporting fault backOff _ htroubles => exact ⟨⟨_, hround⟩, fun _ => absurd rfl⟩
  | walking _ _ hreported heq | looking _ hreported heq | announcing _ hreported heq =>
    rw [heq] at hround
    exact ⟨⟨_, hround⟩, fun _ _ => hreported⟩
  | resting _ _ hreported heq | rested _ hreported heq =>
    rw [← heq, ← List.append_nil (announced _)] at hround
    exact ⟨⟨_, hround⟩, fun _ _ => hreported⟩
  | stuck _ _ hlong hannounced =>
    -- the pause that is too long is the one of a worker without folders
    have hnil : r.names = [] := by
      by_contra hne
      rw [pauseDue_of_ne hne] at hlong
      exact hlong hrollover
    rw [pauseDue_of_nil hnil] at hlong
    refine ⟨⟨r.round, ?_⟩, fun hidle => absurd hidle hlong⟩
    rw [hannounced hnil, List.nil_append]
    exact hround

namespace Scene

variable {s t : Scene Name (Outlook Name)} {m : Moment} {start : Option Name}

/-! ### The rota and the log -/

/-- What the rota answers, seen from the rota proper. -/
theorem answers_lookout (hanswers : Answers (lookout looks) s t h) :
    RotaAnswers s.rota.rota t.rota.rota h := by
  cases h with
  | refreshed result => exact trivial
  | given folder =>
    obtain ⟨hfolder, hrota⟩ := Prod.mk.inj hanswers.1
    rw [← hrota]
    exact Prod.ext hfolder rfl
  | askedEmpty empty =>
    obtain ⟨hempty, hrota⟩ := Prod.mk.inj hanswers.1
    exact ⟨hempty.symm, congrArg Outlook.rota hrota.symm⟩
  | askedLast last =>
    obtain ⟨hlast, hrota⟩ := Prod.mk.inj hanswers.1
    exact ⟨hlast.symm, congrArg Outlook.rota hrota.symm⟩
  | entered running => exact congrArg Outlook.rota hanswers.2
  | checked | reckoned | waited => exact congrArg Outlook.rota hanswers.2.2
  | announced | reported | goodbye => exact congrArg Outlook.rota hanswers.2

/-- A look at the root takes over what was found, and leaves the cursor where it is. -/
theorem Moves.look {result : Except Fault Unit}
    (hmoves : Moves (lookout looks) pauses m s t (.refreshed result)) :
    result = (looks s.rota.looked).map (fun _ => ()) ∧
      t.rota.rota = (s.rota.rota.refresh (looks s.rota.looked)).2 ∧
        t.rota.looked = s.rota.looked + 1 := by
  obtain ⟨hresult, hrota⟩ := Prod.mk.inj hmoves.answers.1
  rw [← hrota, ← hresult]
  refine ⟨?_, rfl, rfl⟩
  cases looks s.rota.looked <;> rfl

/-- Another move leaves the number of looks as it is. -/
theorem Moves.looked_eq (hmoves : Moves (lookout looks) pauses m s t h)
    (hlook : h.isLook = false) : t.rota.looked = s.rota.looked := by
  have hanswers := hmoves.answers
  cases h with
  | refreshed result => cases hlook
  | given folder => rw [← (Prod.mk.inj hanswers.1).2]
  | askedEmpty empty => rw [← (Prod.mk.inj hanswers.1).2]
  | askedLast last => rw [← (Prod.mk.inj hanswers.1).2]
  | entered running => exact congrArg Outlook.looked hanswers.2
  | checked | reckoned | waited => exact congrArg Outlook.looked hanswers.2.2
  | announced | reported | goodbye => exact congrArg Outlook.looked hanswers.2

/-- Each move keeps the rota and the log in step. -/
theorem Tracks.moves (hs : Tracks looks start s)
    (hmoves : Moves (lookout looks) pauses m s t h) : Tracks looks start t := by
  have hcount : t.log.countP Happening.isLook =
      s.log.countP Happening.isLook + if h.isLook then 1 else 0 := by
    rw [hmoves.log, List.countP_append, List.countP_singleton]
  cases hlook : h.isLook with
  | true =>
    -- the names change if the look did not fail, and the cursor stays
    obtain ⟨result, rfl⟩ : ∃ result, h = .refreshed result := by
      cases h <;> simp at hlook ⊢
    obtain ⟨-, hrota, hlooked⟩ := hmoves.look
    refine ⟨by rw [hlooked, hcount, hs.looked]; rfl, fun n => ?_, ?_⟩
    · rw [hrota, hlooked, found]
      cases looks s.rota.looked with
      | error fault => exact hs.names n
      | ok names => exact Rota.mem_names_refresh
    · rw [hrota, Rota.cursor_refresh, hmoves.log, cursorAfter_concat, hs.cursor]
      rfl
  | false =>
    -- the cursor changes if a folder was given out, and the names stay
    have hlooked := hmoves.looked_eq hlook
    have hrota := answers_lookout hmoves.answers
    refine ⟨by rw [hlooked, hcount, hs.looked, hlook]; rfl, fun n => ?_, ?_⟩
    · rw [hrota.names_eq hlook, hlooked]
      exact hs.names n
    · rw [hrota.cursor_eq hlook, hmoves.log, cursorAfter_concat, hs.cursor]

/-! ### From one look at the root to the next -/

/-- **Until the next look at the root** a worker goes from stage to stage. -/
theorem stage_run {u : Scene Name (Outlook Name)} (hu : u.AtWork)
    (hstage : Stage pauses r troubles u.point u.rota.rota u.now []) (moments : List Moment) :
    let t := u.run (lookout looks) pauses moments
    ∃ log, t.log = u.log ++ log ∧ ((∃ h ∈ log, h.isLook = true) ∨
      Stage pauses r troubles t.point t.rota.rota t.now log) := by
  refine (run_induction (P := fun t => t.AtWork ∧ ∃ log, t.log = u.log ++ log ∧
    ((∃ h ∈ log, h.isLook = true) ∨ Stage pauses r troubles t.point t.rota.rota t.now log)) ?_
    ⟨hu, [], (List.append_nil _).symm, .inr hstage⟩ moments).2
  rintro t m ⟨hwork, log, hlog, hs⟩
  rcases t.turn_cases m with ⟨hfinal, hturn⟩ | ⟨h, hmoves⟩
  · rw [hturn]
    exact ⟨hwork.waits _, log, hlog, hs.imp_right (·.of_isFinal hfinal (Nat.le_add_right _ _))⟩
  · obtain ⟨hwork', hrunning⟩ := hwork.moves hmoves
    refine ⟨hwork', log ++ [h], by rw [hmoves.log, hlog, List.append_assoc], ?_⟩
    -- once the rota has looked again, no more is said
    rcases hs with ⟨look, hmem, hlook⟩ | hs
    · exact .inl ⟨look, List.mem_append_left _ hmem, hlook⟩
    · cases hlook : h.isLook with
      | true => exact .inl ⟨h, List.mem_append_right _ (List.mem_singleton.2 rfl), hlook⟩
      | false =>
        refine .inr (hs.move hmoves.rule (answers_lookout hmoves.answers) ?_ ?_ hrunning hlook)
        · rintro span deadline rfl
          exact hmoves.answers.1
        · rw [hmoves.now]
          exact Nat.le_add_right _ _

/-- What a run keeps of a worker that nobody stops. -/
theorem tracks_run {first : Scene Name (Outlook Name)} (pauses : Pauses) (hwork : first.AtWork)
    (htracks : Tracks looks start first) (moments : List Moment) :
    (first.run (lookout looks) pauses moments).AtWork ∧
      Tracks looks start (first.run (lookout looks) pauses moments) := by
  refine run_induction (P := fun t => t.AtWork ∧ Tracks looks start t) ?_ ⟨hwork, htracks⟩ moments
  rintro t m ⟨ht, ht'⟩
  rcases t.turn_cases m with ⟨-, hturn⟩ | ⟨h, hmoves⟩
  · rw [hturn]
    exact ⟨ht.waits _, ht'.looked, ht'.names, ht'.cursor⟩
  · exact ⟨(ht.moves hmoves).1, ht'.moves hmoves⟩

/-- A scene in which the rota has just looked at the root, behind what is told in `front`. -/
structure Looked (looks : Nat → Except Fault (List Name)) (start : Option Name)
    (pauses : Pauses) (front : List (Happening Name)) (result : Except Fault Unit)
    (u : Scene Name (Outlook Name)) : Prop where
  /-- The look is what was done last. -/
  log : u.log = front ++ [.refreshed result]
  /-- The worker is at work. -/
  atWork : u.AtWork
  /-- A round begins. -/
  stage : Stage pauses u.rota.rota (troublesOf result) u.point u.rota.rota u.now []
  /-- The rota has what was found. -/
  names : ∀ n, n ∈ u.rota.rota.names ↔ n ∈ found looks (front.countP Happening.isLook + 1)
  /-- The cursor is where it was. -/
  cursor : u.rota.rota.cursor = cursorAfter start front
  /-- The look came to what it had to come to. -/
  result : result = (looks (front.countP Happening.isLook)).map fun _ => ()

/-- What is done after a look at the root. -/
theorem Looked.stage_run {front log : List (Happening Name)} {result : Except Fault Unit}
    {u : Scene Name (Outlook Name)} (hu : Looked looks start pauses front result u)
    {moments : List Moment}
    (hlog : (u.run (lookout looks) pauses moments).log = u.log ++ log)
    (hlook : ∀ h ∈ log, h.isLook = false) :
    let t := u.run (lookout looks) pauses moments
    Stage pauses u.rota.rota (troublesOf result) t.point t.rota.rota t.now log := by
  obtain ⟨log', hlog', hs⟩ := Scene.stage_run hu.atWork hu.stage moments
  obtain rfl := List.append_cancel_left (hlog.symm.trans hlog')
  refine hs.resolve_left ?_
  rintro ⟨h, hmem, htrue⟩
  rw [hlook h hmem] at htrue
  cases htrue

end Scene

end Clamd.Watch
