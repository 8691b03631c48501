import Clamd.Proofs.Watch.Shutdown

/-!
# A worker whose rota may panic

A rota may panic at any of its calls. Whatever it has become by then stays behind, and the worker
goes on with that: a lock that was held during a panic is taken all the same.

* `FaultyCycler` is any rota, whose calls return or panic;
* `Trial` is a scene that also keeps when the rota panicked, and `Trial.turn_cases` says what a turn
  may be: a move as in a scene without panics, or a panic;
* `Point.Breaks`: each panic is caught, and will be reported, but for one at the first look at the
  root.
-/

namespace Clamd.Watch

/-- A rota as a worker meets it. Its calls return or panic, and leave it as something. -/
structure FaultyCycler (Folder ρ : Type) where
  /-- A look at the root. -/
  refresh : ρ → Outcome (Except Fault Unit) × ρ
  /-- Whether there are no folders. -/
  isEmpty : ρ → Outcome Bool × ρ
  /-- The next folder. -/
  next : ρ → Outcome (Option Folder) × ρ
  /-- Whether the folder given out last ends the round. -/
  isLast : ρ → Outcome Bool × ρ

/-- What a call gives, if it did not panic. -/
def settle {α ρ : Type} (other : α) : Outcome α × ρ → α × ρ
  | (.returned value, rota) => (value, rota)
  | (.panicked, rota) => (other, rota)

/-- The rota without its panics. What it gives in place of one makes no difference. -/
def FaultyCycler.settled {Folder ρ : Type} (cycler : FaultyCycler Folder ρ) :
    Cycler Folder ρ where
  refresh := settle (.ok ()) ∘ cycler.refresh
  isEmpty := settle true ∘ cycler.isEmpty
  next := settle none ∘ cycler.next
  isLast := settle false ∘ cycler.isLast

/-- **Where a panic of the rota leads.** The loop is guarded, and what stands before it is not. -/
inductive Point.Breaks {Folder : Type} : Point Folder → Point Folder → Prop where
  | loading : Breaks loading crashed
  | asking : Breaks asking (reporting .panic true)
  | taking : Breaks taking (reporting .panic true)
  | looking (folder : Folder) : Breaks (looking folder) (reporting .panic true)
  | reloading : Breaks reloading (reporting .panic true)

/-- A worker at some time, whose rota may have panicked. -/
structure Trial (Folder ρ : Type) extends Scene Folder ρ where
  /-- How much the worker had done at each panic. -/
  panics : List Nat := []

namespace Trial

variable {Folder ρ : Type}

/-- The worker of a service that has been started. -/
def begin (name : String) (rota : ρ) : Trial Folder ρ :=
  { toScene := .begin name rota }

/-- What has nothing to do with the rota is as in a scene. -/
def inScene {α : Type} (act : StateM (Scene Folder ρ) α) : StateM (Trial Folder ρ) α := fun t =>
  let (answer, scene) := act t.toScene
  (answer, { t with toScene := scene })

/-- A call of the rota. What it returns is added to what the worker has done; a panic is not
anything that the worker does. -/
def call {α : Type} (f : ρ → Outcome α × ρ) (told : α → Happening Folder) :
    StateM (Trial Folder ρ) (Outcome α) := fun t =>
  match f t.rota with
  | (.returned value, rota) =>
    (.returned value, { t with toScene := { t.toScene with rota }.note (told value) })
  | (.panicked, rota) => (.panicked, { t with rota, panics := t.panics ++ [t.log.length] })

/-- What the worker finds around it. -/
def surroundings (cycler : FaultyCycler Folder ρ) (heard : Outcome Unit) :
    Surroundings Folder (StateM (Trial Folder ρ)) :=
  let scene := Scene.surroundings cycler.settled heard
  { enter := inScene scene.enter
    isRunning := inScene scene.isRunning
    reckon := fun span => inScene (scene.reckon span)
    wait := fun deadline => inScene (scene.wait deadline)
    refresh := call cycler.refresh .refreshed
    isEmpty := call cycler.isEmpty .askedEmpty
    next := call cycler.next .given
    isLast := call cycler.isLast .askedLast
    announce := fun folder => inScene (scene.announce folder)
    report := fun trouble => inScene (scene.report trouble)
    goodbye := inScene scene.goodbye }

/-- A turn of the worker. -/
def turn (cycler : FaultyCycler Folder ρ) (pauses : Pauses) (t : Trial Folder ρ) (m : Moment) :
    Trial Folder ρ :=
  let (point, u) := t.point.step (surroundings cycler m.heard) pauses { t with now := t.later m }
  { u with point }

/-- One turn after another. -/
def run (cycler : FaultyCycler Folder ρ) (pauses : Pauses) (t : Trial Folder ρ)
    (moments : List Moment) : Trial Folder ρ :=
  moments.foldl (turn cycler pauses) t

/-- The service is closed. -/
def close (t : Trial Folder ρ) : Trial Folder ρ :=
  { t with toScene := t.toScene.close }

variable {cycler : FaultyCycler Folder ρ} {pauses : Pauses} {t u : Trial Folder ρ} {m : Moment}

/-! ### What a turn comes to -/

/-- The worker has called the rota and goes where the outcome leads. -/
def hears {α : Type} (t : Trial Folder ρ) (m : Moment) (go : Outcome α → Point Folder)
    (told : α → Happening Folder) : Outcome α × ρ → Trial Folder ρ
  | (.returned value, rota) =>
    { t with toScene := { t.toScene with rota }.goes m (go (.returned value)) (told value) }
  | (.panicked, rota) =>
    { t with point := go .panicked, now := t.later m, rota, panics := t.panics ++ [t.log.length] }

theorem hears_call {α : Type} (f : ρ → Outcome α × ρ) (told : α → Happening Folder)
    (go : Outcome α → Point Folder) (t : Trial Folder ρ) (m : Moment) :
    (match (do return go (← call f told) : StateM (Trial Folder ρ) (Point Folder))
        { t with now := t.later m } with
      | (point, u) => { u with point }) = t.hears m go told (f t.rota) := by
  simp only [bind, StateT.bind, call]
  rcases f t.rota with ⟨value | _, rota⟩ <;> rfl

/-- What a turn comes to, by the move that the worker makes. -/
theorem turn_eq (t : Trial Folder ρ) (m : Moment) :
    t.turn cycler pauses m =
      match t.point.move pauses with
      | .refresh go => t.hears m go .refreshed (cycler.refresh t.rota)
      | .isEmpty go => t.hears m go .askedEmpty (cycler.isEmpty t.rota)
      | .next go => t.hears m go .given (cycler.next t.rota)
      | .isLast go => t.hears m go .askedLast (cycler.isLast t.rota)
      | _ => { t with toScene := t.toScene.turn cycler.settled pauses m } := by
  rw [turn, Point.step, Scene.turn_eq]
  cases t.point.move pauses with
  | refresh go => exact hears_call cycler.refresh .refreshed go t m
  | isEmpty go => exact hears_call cycler.isEmpty .askedEmpty go t m
  | next go => exact hears_call cycler.next .given go t m
  | isLast go => exact hears_call cycler.isLast .askedLast go t m
  | _ => rfl

/-- The call that is due panics. -/
def Panics (cycler : FaultyCycler Folder ρ) (t : Trial Folder ρ) : Prop :=
  match t.point with
  | .loading | .reloading => (cycler.refresh t.rota).1 = .panicked
  | .asking => (cycler.isEmpty t.rota).1 = .panicked
  | .taking => (cycler.next t.rota).1 = .panicked
  | .looking _ => (cycler.isLast t.rota).1 = .panicked
  | _ => False

/-- The worker comes from `t` to `u` by a panic of the rota. -/
structure Broken (cycler : FaultyCycler Folder ρ) (m : Moment) (t u : Trial Folder ρ) : Prop where
  /-- The call that was due panicked. -/
  panics : Panics cycler t
  /-- The worker goes where the panic leads. -/
  point : t.point.Breaks u.point
  /-- The service does not learn of it. -/
  service : u.service = t.service
  /-- Time has gone by. -/
  now : u.now = t.later m
  /-- The worker has done nothing. -/
  log : u.log = t.log
  /-- The panic is kept in mind. -/
  kept : u.panics = t.panics ++ [t.log.length]

theorem broken_hears {α : Type} {go : Outcome α → Point Folder} {r : Outcome α × ρ}
    (told : α → Happening Folder) (hpanics : Panics cycler t) (hr : r.1 = .panicked)
    (hgo : t.point.Breaks (go .panicked)) : Broken cycler m t (t.hears m go told r) := by
  obtain ⟨outcome, rota⟩ := r
  cases hr
  exact ⟨hpanics, hgo, rfl, rfl, rfl, rfl⟩

theorem hears_of_returned {α : Type} {r : Outcome α × ρ} (other : α)
    (go : Outcome α → Point Folder) (told : α → Happening Folder) (hr : r.1 ≠ .panicked) :
    t.hears m go told r =
      let (value, rota) := settle other r
      { t with toScene := { t.toScene with rota }.goes m (go (.returned value)) (told value) } := by
  obtain ⟨value | _, rota⟩ := r
  · rfl
  · exact absurd rfl hr

/-- **A turn at which a call panics** leads where the panic does. -/
theorem broken_of_panics (h : Panics cycler t) (pauses : Pauses) (m : Moment) :
    Broken cycler m t (t.turn cycler pauses m) := by
  have hpanics := h
  obtain ⟨⟨point, service, now, rota, log⟩, panics⟩ := t
  rw [turn_eq]
  cases point with
  | loading => exact broken_hears .refreshed hpanics h .loading
  | reloading => exact broken_hears .refreshed hpanics h .reloading
  | asking => exact broken_hears .askedEmpty hpanics h .asking
  | taking => exact broken_hears .given hpanics h .taking
  | looking folder => exact broken_hears .askedLast hpanics h (.looking folder)
  | _ => exact absurd h id

/-- **A turn at which no call panics** is a turn of the scene. -/
theorem turn_of_not_panics (h : ¬ Panics cycler t) (pauses : Pauses) (m : Moment) :
    t.turn cycler pauses m =
      { t with toScene := t.toScene.turn cycler.settled pauses m } := by
  obtain ⟨⟨point, service, now, rota, log⟩, panics⟩ := t
  rw [turn_eq, Scene.turn_eq]
  cases point with
  | loading | reloading => exact hears_of_returned (.ok ()) _ .refreshed h
  | asking => exact hears_of_returned true _ .askedEmpty h
  | taking => exact hears_of_returned none _ .given h
  | looking folder => exact hears_of_returned false _ .askedLast h
  | _ => rfl

/-- **At each turn** the worker has ended and does nothing more, or it makes a move, or the rota
panics. -/
theorem turn_cases (cycler : FaultyCycler Folder ρ) (pauses : Pauses) (t : Trial Folder ρ)
    (m : Moment) :
    (t.point.isFinal = true ∧ t.turn cycler pauses m = { t with now := t.later m }) ∨
      (∃ h, Scene.Moves cycler.settled pauses m t.toScene (t.turn cycler pauses m).toScene h ∧
        (t.turn cycler pauses m).panics = t.panics) ∨
      Broken cycler m t (t.turn cycler pauses m) := by
  by_cases h : Panics cycler t
  · exact .inr (.inr (broken_of_panics h pauses m))
  · rw [turn_of_not_panics h]
    rcases t.toScene.turn_cases m with ⟨hfinal, hturn⟩ | ⟨happening, hmoves⟩
    · rw [hturn]
      exact .inl ⟨hfinal, rfl⟩
    · exact .inr (.inl ⟨happening, hmoves, rfl⟩)

theorem now_turn (t : Trial Folder ρ) (m : Moment) : (t.turn cycler pauses m).now = t.later m := by
  rcases turn_cases cycler pauses t m with ⟨-, h⟩ | ⟨h, hmoves, -⟩ | hbroken
  · rw [h]
  · exact hmoves.now
  · exact hbroken.now

/-! ### Runs -/

theorem run_cons (t : Trial Folder ρ) (m : Moment) (moments : List Moment) :
    t.run cycler pauses (m :: moments) = (t.turn cycler pauses m).run cycler pauses moments := rfl

/-- The clock does not go back. -/
theorem now_run (t : Trial Folder ρ) (moments : List Moment) :
    t.now.nanos ≤ (t.run cycler pauses moments).now.nanos := by
  induction moments generalizing t with
  | nil => exact Nat.le_refl _
  | cons m moments ih =>
    have hturn : t.now.nanos ≤ (t.turn cycler pauses m).now.nanos := by
      rw [now_turn]
      exact Nat.le_add_right _ _
    exact Nat.le_trans hturn (ih _)

/-- **What is kept by each turn** up to some time is kept by every run that ends by then. -/
theorem run_induction {P : Trial Folder ρ → Prop} {limit : Nat}
    (hturn : ∀ t m, (t.later m).nanos ≤ limit → P t → P (t.turn cycler pauses m))
    {moments : List Moment} (hlimit : (t.run cycler pauses moments).now.nanos ≤ limit)
    (ht : P t) : P (t.run cycler pauses moments) := by
  induction moments generalizing t with
  | nil => exact ht
  | cons m moments ih =>
    rw [run_cons] at hlimit ⊢
    refine ih hlimit (hturn t m ?_ ht)
    rw [← now_turn]
    exact Nat.le_trans (now_run _ moments) hlimit

end Trial

end Clamd.Watch
