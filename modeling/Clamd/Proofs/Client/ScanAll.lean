import Clamd.Proofs.Client.Delivery

/-!
# Scans of several paths, path by path

A scan of several paths is compared with the scans of its paths alone. Each of these is made in a
session of its own, by a client that has not asked before, on the network as it is from the attempt
on that the path has in the scan of all.

* `Client.alone` is the scan of a path alone, and `Client.contacts_alone` says that it makes one
  attempt to connect, with the request for that path;
* `Client.Series`: what scans come to that are made one after another until one fails;
* `Client.scanAll_series`: a scan of several paths is the series of the scans alone.
-/

namespace Clamd

/-- The network as it is after `n` attempts to connect. -/
def Network.after (net : Network) (n : Nat) : Network := fun k errand => net (n + k) errand

namespace Client

variable (c : Client) (net : Network) (mode : ScanMode)

/-! ### The scan of one path -/

/-- The scan of a path alone, in a new session after the given number of attempts. -/
def alone (x : String × Nat) : Except Failure Verdict × Session :=
  c.scan (net.after x.2) mode x.1 {}

/-- The request for the scan of a path: the verb of the mode, and the path in the style of the
daemon's host. -/
def scanRequest (path : String) : Request :=
  { verb := mode.verb, argument := some (c.style.convert path) }

/-- The connection that a path has in the scan of several: the request is sent on it. -/
def contact (x : String × Nat) : Contact :=
  let frame := (c.scanRequest mode x.1).frame
  { errand := .exchange frame none
    outcome := (net x.2 (.exchange frame none)).map fun connection =>
      (connection.converse frame none).2 }

variable {c net mode}

/-- **The scan of a path within a session** has the answer of the scan alone, and makes the
attempts that it makes. -/
theorem scan_eq_alone (c : Client) (net : Network) (mode : ScanMode) (path : String)
    (s : Session) :
    (c.scan net mode path s).1 = (c.alone net mode (path, s.contacts.length)).1 ∧
      (c.scan net mode path s).2.contacts =
        s.contacts ++ (c.alone net mode (path, s.contacts.length)).2.contacts := by
  let frame := (c.scanRequest mode path).frame
  obtain ⟨hanswer, hcontacts⟩ := exchange_told c net frame none s
  obtain ⟨haloneAnswer, haloneContacts⟩ :=
    exchange_told c (net.after s.contacts.length) frame none {}
  rw [alone, scan, scan, ask_eq, ask_eq]
  constructor
  · exact congrArg (Except.bind · _) (hanswer.trans haloneAnswer.symm)
  · exact hcontacts.trans (congrArg (s.contacts ++ ·) haloneContacts.symm)

/-- **The scan of a path alone** makes one attempt to connect, with the request for that path. A
client whose host cannot be looked up makes none. -/
theorem contacts_alone (x : String × Nat) :
    (c.alone net mode x).2.contacts = if c.hasUsableHost then [c.contact net mode x] else [] := by
  rw [alone, scan, ask_eq]
  exact (exchange_told c (net.after x.2) (c.scanRequest mode x.1).frame none {}).2

/-- A scan that succeeds makes exactly one attempt. -/
theorem length_contacts_alone {x : String × Nat} {v : Verdict}
    (h : (c.alone net mode x).1 = .ok v) : (c.alone net mode x).2.contacts.length = 1 := by
  cases hscanned : c.scanned? (net.after x.2) mode x.1 (List.length []) with
  | none =>
    obtain ⟨failure, hfailure⟩ := scan_of_not_scanned (s := {}) hscanned
    cases h.symm.trans hfailure
  | some u => exact (scan_of_scanned? (s := {}) hscanned).2

/-- Behind an answer that was read from a reply stands an exchange that was completed. -/
theorem isOk_converse_of_isRead {x : String × Nat} {connection : Connection}
    (hmet : net x.2 (c.contact net mode x).errand = .ok connection)
    (hread : IsRead (c.alone net mode x).1) :
    (connection.converse (c.scanRequest mode x.1).frame none).1.isOk = true := by
  let frame := (c.scanRequest mode x.1).frame
  have hanswer := (exchange_told c (net.after x.2) frame none {}).1
  have hafter : net.after x.2 (Session.contacts {}).length (.exchange frame none) =
      .ok connection := hmet
  rw [hafter] at hanswer
  cases hresult : (connection.converse frame none).1 with
  | ok reply => rfl
  | error fault =>
    -- otherwise the answer would be the failure of the exchange
    refine absurd ?_ (isRead_iff.1 hread)
    rw [alone, scan, ask_eq]
    show IsLoss ((c.exchange (net.after x.2) frame none {}).1.bind _)
    rw [hanswer, Except.bind, hresult]
    split <;> exact ⟨_, rfl⟩

/-! ### One scan after another -/

/-- **What scans come to that are made one after another until one fails.** If none does, their
verdicts are merged into `verdict` from left to right; otherwise the answer is the first failure,
whatever was found before it, and what comes behind is not scanned. -/
inductive Series (c : Client) (net : Network) (mode : ScanMode) (xs : List (String × Nat))
    (verdict : Verdict) : Except Failure Verdict → List Contact → Prop where
  | completed (verdicts : List Verdict)
      (answers : xs.map (fun x => (c.alone net mode x).1) = verdicts.map .ok) :
      Series c net mode xs verdict (.ok (verdicts.foldl .merge verdict))
        (xs.flatMap fun x => (c.alone net mode x).2.contacts)
  | stopped (front behind : List (String × Nat)) {x : String × Nat} {failure : Failure}
      (split : xs = front ++ x :: behind)
      (before : ∀ y ∈ front, (c.alone net mode y).1.isOk = true)
      (failed : (c.alone net mode x).1 = .error failure) :
      Series c net mode xs verdict (.error failure)
        ((front.flatMap fun y => (c.alone net mode y).2.contacts) ++
          (c.alone net mode x).2.contacts)

/-- A scan that succeeds, in front of a series. -/
theorem Series.cons {xs : List (String × Nat)} {x : String × Nat} {verdict v : Verdict}
    {answer : Except Failure Verdict} {made : List Contact} (hx : (c.alone net mode x).1 = .ok v)
    (h : Series c net mode xs (verdict.merge v) answer made) :
    Series c net mode (x :: xs) verdict answer ((c.alone net mode x).2.contacts ++ made) := by
  cases h with
  | completed verdicts answers =>
    exact .completed (v :: verdicts) (congrArg₂ List.cons hx answers)
  | stopped front behind split before failed =>
    have hbefore : ∀ z ∈ x :: front, (c.alone net mode z).1.isOk = true := by
      intro z hz
      rcases List.mem_cons.1 hz with rfl | hz
      · rw [hx]
        rfl
      · exact before z hz
    rw [← List.append_assoc]
    exact .stopped (x :: front) behind (congrArg (x :: ·) split) hbefore failed

/-- Scanning further paths is a series of the scans alone. -/
theorem scanRest_series (verdict : Verdict) (paths : List String) (s : Session) :
    let t := c.scanRest net mode verdict paths s
    ∃ made, t.2.contacts = s.contacts ++ made ∧
      Series c net mode (attempts paths s) verdict t.1 made := by
  induction paths generalizing verdict s with
  | nil => exact ⟨[], (List.append_nil _).symm, .completed [] rfl⟩
  | cons path paths ih =>
    obtain ⟨hanswer, hcontacts⟩ := scan_eq_alone c net mode path s
    rw [scanRest]
    split
    next failure t hscan =>
      -- the first failure ends the series
      rw [hscan] at hanswer hcontacts
      have hbefore : ∀ y ∈ [], (c.alone net mode y).1.isOk = true := by simp
      exact ⟨_, hcontacts, .stopped [] _ rfl hbefore hanswer.symm⟩
    next v t hscan =>
      rw [hscan] at hanswer hcontacts
      have hlength : t.contacts.length = s.contacts.length + 1 := by
        rw [hcontacts, List.length_append, length_contacts_alone hanswer.symm]
      obtain ⟨made, hmade, hseries⟩ := ih (verdict.merge v) t
      rw [attempts, hlength] at hseries
      exact ⟨_, by rw [hmade, hcontacts, List.append_assoc], hseries.cons hanswer.symm⟩

/-- **A scan of several paths is a series of scans alone.** It makes their attempts to connect and
no others, one for each path, in the order of the paths. What is sent on each is the request for its
path, as far as the connection takes it, and all of it if a reply was read. Without any paths
nothing is asked and the verdict is clean. -/
theorem scanAll_series (c : Client) (net : Network) (mode : ScanMode) (paths : List String)
    (s : Session) :
    let t := c.scanAll net mode paths s
    (∃ made, t.2.contacts = s.contacts ++ made ∧
        Series c net mode (attempts paths s) .clean t.1 made) ∧
      (∀ x ∈ attempts paths s, (c.alone net mode x).2.contacts =
        if c.hasUsableHost then [c.contact net mode x] else []) ∧
      (∀ x ∈ attempts paths s, ∀ before after,
        net x.2 (c.contact net mode x).errand = .ok before →
        (c.contact net mode x).outcome = .ok after →
          let frame := (c.scanRequest mode x.1).frame
          before.delivered after = frame.data.toList.take (before.outgoing.room frame.size) ∧
            (IsRead (c.alone net mode x).1 → before.delivered after = frame.data.toList)) ∧
      (paths = [] → t = (.ok .clean, s)) := by
  intro t
  refine ⟨scanRest_series .clean paths s, fun x _ => contacts_alone x, ?_, ?_⟩
  · intro x _ before after hmet houtcome
    have hafter : after = (before.converse (c.scanRequest mode x.1).frame none).2 := by
      change (net x.2 (c.contact net mode x).errand).map _ = _ at houtcome
      rw [hmet] at houtcome
      exact (Except.ok.inj houtcome).symm
    obtain ⟨htaken, hwhole⟩ := Connection.delivered_converse (c.scanRequest mode x.1).frame before
    rw [hafter]
    exact ⟨htaken, fun hread => hwhole (isOk_converse_of_isRead hmet hread)⟩
  · rintro rfl
    rfl

end Client

end Clamd
