import Clamd.Client
import Clamd.Proofs.Reply.ScanReply
import Clamd.Proofs.Verdict

/-!
# Scans of paths

A scan of several paths makes one exchange after another, and each exchange is an attempt to connect
with a number of its own. What an exchange comes to depends on that number alone, so the scan can be
told path by path.

* `Client.reply?`: the reply to a frame at the n-th attempt to connect;
* `Client.exchange_of_reply?` and `Client.exchange_of_no_reply`: what an exchange comes to;
* `Client.scanned?`: the verdict on a path at the n-th attempt;
* `Client.scanAll_eq_ok_iff`: the scan of some paths succeeds exactly if the scan of each of them
  does, and then gives their verdicts merged in the order of the paths;
* `Client.clean_scanAll_iff` and `Client.infected_scanAll_iff`: what the verdict says of the
  replies.
-/

namespace Clamd.Client

variable (c : Client) (net : Network)

/-! ### One exchange -/

/-- The reply that an exchange obtains at the n-th attempt to connect, if it is completed. -/
def reply? (n : Nat) (frame : ByteArray) (payload : Option Payload) : Option String :=
  if c.hasUsableHost then
    match net n (.exchange frame payload) with
    | .error _ => none
    | .ok connection => (connection.converse frame payload).1.toOption
  else none

variable {c net}

/-- A completed exchange gives its reply and is one more attempt. -/
theorem exchange_of_reply? {frame : ByteArray} {payload : Option Payload} {s : Session}
    {raw : String} (h : c.reply? net s.contacts.length frame payload = some raw) :
    (c.exchange net frame payload s).1 = .ok raw ∧
      (c.exchange net frame payload s).2.contacts.length = s.contacts.length + 1 := by
  unfold reply? at h
  unfold exchange
  by_cases hhost : c.hasUsableHost = true
  · rw [if_pos hhost] at h ⊢
    cases hnet : net s.contacts.length (.exchange frame payload) with
    | error fault =>
      simp only [hnet] at h
      cases h
    | ok connection =>
      rcases hconverse : connection.converse frame payload with ⟨result, left⟩
      simp only [hnet, hconverse] at h ⊢
      cases result with
      | error fault => cases h
      | ok reply =>
        cases h
        exact ⟨rfl, by simp [Session.record]⟩
  · rw [if_neg hhost] at h
    cases h

/-- An exchange without a reply is a failed one. -/
theorem exchange_of_no_reply {frame : ByteArray} {payload : Option Payload} {s : Session}
    (h : c.reply? net s.contacts.length frame payload = none) :
    ∃ fault, (c.exchange net frame payload s).1 = .error (.communication fault) := by
  unfold reply? at h
  unfold exchange
  by_cases hhost : c.hasUsableHost = true
  · rw [if_pos hhost] at h ⊢
    cases hnet : net s.contacts.length (.exchange frame payload) with
    | error fault =>
      simp only [hnet]
      exact ⟨fault, rfl⟩
    | ok connection =>
      rcases hconverse : connection.converse frame payload with ⟨result, left⟩
      simp only [hnet, hconverse] at h ⊢
      cases result with
      | error fault => exact ⟨fault, rfl⟩
      | ok reply => cases h
  · rw [if_neg hhost]
    exact ⟨_, rfl⟩

/-- What a command comes to whose exchange is completed. -/
theorem ask_of_reply? {α : Type} {command : Command α} {s : Session} {raw : String}
    (h : c.reply? net s.contacts.length command.request.frame none = some raw) :
    (c.ask net command s).1 = command.read raw ∧
      (c.ask net command s).2.contacts.length = s.contacts.length + 1 := by
  obtain ⟨hresult, hlength⟩ := exchange_of_reply? h
  rw [ask]
  split
  next failure t hfailure =>
    rw [hfailure] at hresult
    cases hresult
  next reply t hreply =>
    rw [hreply] at hresult hlength
    cases hresult
    exact ⟨rfl, hlength⟩

/-- A command fails whose exchange is not completed. -/
theorem ask_of_no_reply {α : Type} {command : Command α} {s : Session}
    (h : c.reply? net s.contacts.length command.request.frame none = none) :
    ∃ fault, (c.ask net command s).1 = .error (.communication fault) := by
  obtain ⟨fault, hfault⟩ := exchange_of_no_reply h
  rw [ask]
  split
  next failure t hfailure =>
    rw [hfailure] at hfault
    cases hfault
    exact ⟨fault, rfl⟩
  next reply t hreply =>
    rw [hreply] at hfault
    cases hfault

/-! ### One path -/

variable (c net)

/-- The command that asks for the scan of a path. -/
def scanCommand (mode : ScanMode) (path : String) : Command Verdict :=
  .scan mode (c.style.convert path)

/-- The reply to the scan of a path at the n-th attempt to connect, if the exchange is completed. -/
def scanReply? (mode : ScanMode) (path : String) (n : Nat) : Option String :=
  c.reply? net n (c.scanCommand mode path).request.frame none

/-- The verdict on a path at the n-th attempt to connect, if there is one. -/
def scanned? (mode : ScanMode) (path : String) (n : Nat) : Option Verdict :=
  (c.scanReply? net mode path n).bind fun raw => ((c.scanCommand mode path).read raw).toOption

variable {c net}

/-- A verdict on a path is read from a reply. -/
theorem scanned?_eq_some_iff {mode : ScanMode} {path : String} {n : Nat} {v : Verdict} :
    c.scanned? net mode path n = some v ↔
      ∃ raw, c.scanReply? net mode path n = some raw ∧
        (c.scanCommand mode path).read raw = .ok v := by
  rw [scanned?, Option.bind_eq_some_iff]
  refine exists_congr fun raw => and_congr_right fun _ => ?_
  cases (c.scanCommand mode path).read raw with
  | error failure => simp [Except.toOption]
  | ok u => simp [Except.toOption]

/-- A scan that reaches a verdict, and what it adds to the session. -/
theorem scan_of_scanned? {mode : ScanMode} {path : String} {s : Session} {v : Verdict}
    (h : c.scanned? net mode path s.contacts.length = some v) :
    (c.scan net mode path s).1 = .ok v ∧
      (c.scan net mode path s).2.contacts.length = s.contacts.length + 1 := by
  obtain ⟨raw, hraw, hread⟩ := scanned?_eq_some_iff.1 h
  obtain ⟨hresult, hlength⟩ := ask_of_reply? hraw
  exact ⟨hresult.trans hread, hlength⟩

/-- A scan that reaches no verdict fails. -/
theorem scan_of_not_scanned {mode : ScanMode} {path : String} {s : Session}
    (h : c.scanned? net mode path s.contacts.length = none) :
    ∃ failure, (c.scan net mode path s).1 = .error failure := by
  cases hreply : c.scanReply? net mode path s.contacts.length with
  | none =>
    obtain ⟨fault, hfault⟩ := ask_of_no_reply hreply
    exact ⟨_, hfault⟩
  | some raw =>
    rw [scanned?, hreply, Option.bind_some] at h
    obtain ⟨hresult, -⟩ := ask_of_reply? hreply
    cases hread : (c.scanCommand mode path).read raw with
    | error failure => exact ⟨failure, hresult.trans hread⟩
    | ok v =>
      rw [hread] at h
      cases h

/-! ### Several paths -/

/-- The paths of a scan, each with the number of its attempt to connect. -/
def attempts (paths : List String) (s : Session) : List (String × Nat) :=
  paths.zipIdx s.contacts.length

/-- Scanning further paths succeeds exactly if the scan of each of them does, each at an attempt of
its own. -/
theorem scanRest_eq_ok_iff {mode : ScanMode} {verdict v : Verdict} {paths : List String}
    {s : Session} :
    (c.scanRest net mode verdict paths s).1 = .ok v ↔
      (∀ x ∈ attempts paths s, (c.scanned? net mode x.1 x.2).isSome) ∧
        v = ((attempts paths s).filterMap fun x => c.scanned? net mode x.1 x.2).foldl .merge
          verdict := by
  induction paths generalizing verdict s with
  | nil =>
    rw [scanRest, attempts, List.zipIdx_nil, List.filterMap_nil, List.foldl_nil, Except.ok.injEq]
    constructor
    · rintro rfl
      exact ⟨fun x hx => absurd hx List.not_mem_nil, rfl⟩
    · exact fun h => h.2.symm
  | cons path paths ih =>
    -- the first path has the attempt that comes next, and makes the session one attempt longer
    rw [attempts, List.zipIdx_cons, List.forall_mem_cons, List.filterMap_cons, scanRest]
    cases hscanned : c.scanned? net mode path s.contacts.length with
    | none =>
      -- the first failure ends the scan
      obtain ⟨failure, hfailure⟩ := scan_of_not_scanned hscanned
      split
      next => simp
      next u t hu =>
        rw [hu] at hfailure
        cases hfailure
    | some u =>
      obtain ⟨hresult, hlength⟩ := scan_of_scanned? hscanned
      split
      next failure t hfailure =>
        rw [hfailure] at hresult
        cases hresult
      next w t hw =>
        rw [hw] at hresult hlength
        obtain rfl := Except.ok.inj hresult
        rw [ih, attempts, hlength, List.foldl_cons]
        exact and_congr_left fun _ => (and_iff_right rfl).symm

/-- **A scan of paths succeeds** exactly if the scan of each of them does, and its verdict is then
all of theirs together. -/
theorem scanAll_eq_ok_iff {mode : ScanMode} {v : Verdict} {paths : List String} {s : Session} :
    (c.scanAll net mode paths s).1 = .ok v ↔
      (∀ x ∈ attempts paths s, (c.scanned? net mode x.1 x.2).isSome) ∧
        v = .collect ((attempts paths s).filterMap fun x => c.scanned? net mode x.1 x.2) :=
  scanRest_eq_ok_iff

/-- The verdict of a scan is clean exactly if nothing is found on any of the paths. -/
theorem isClean_of_scanAll {mode : ScanMode} {v : Verdict} {paths : List String} {s : Session}
    (h : (c.scanAll net mode paths s).1 = .ok v) :
    v.isClean = true ↔
      ∀ x ∈ attempts paths s, ∀ u, c.scanned? net mode x.1 x.2 = some u → u.isClean = true := by
  obtain ⟨-, rfl⟩ := scanAll_eq_ok_iff.1 h
  rw [Verdict.isClean_collect, List.all_eq_true]
  constructor
  · exact fun hall x hx u hu => hall u (List.mem_filterMap.2 ⟨x, hx, hu⟩)
  · intro hall u hmem
    obtain ⟨x, hx, hu⟩ := List.mem_filterMap.1 hmem
    exact hall x hx u hu

/-! ### What the replies say -/

/-- A reply to the scan of a path is read as a verdict. -/
def Answered (c : Client) (net : Network) (mode : ScanMode) (x : String × Nat) : Prop :=
  ∃ raw v, c.scanReply? net mode x.1 x.2 = some raw ∧ (c.scanCommand mode x.1).read raw = .ok v

/-- A reply to the scan of a path says that all is clean. -/
def AnsweredClean (c : Client) (net : Network) (mode : ScanMode) (x : String × Nat) : Prop :=
  ∃ raw, c.scanReply? net mode x.1 x.2 = some raw ∧ Reply.SaysClean raw

/-- A reply to the scan of a path reports a detection. -/
def AnsweredFound (c : Client) (net : Network) (mode : ScanMode) (x : String × Nat) : Prop :=
  ∃ raw, c.scanReply? net mode x.1 x.2 = some raw ∧ Reply.SaysFound raw

variable {mode : ScanMode} {paths : List String} {s : Session} {x : String × Nat}

theorem isSome_scanned?_iff :
    (c.scanned? net mode x.1 x.2).isSome ↔ c.Answered net mode x := by
  rw [Option.isSome_iff_exists, Answered]
  simp only [scanned?_eq_some_iff]
  exact exists_comm

/-- A path is found clean exactly if the reply to its scan says so. -/
theorem answeredClean_iff :
    c.AnsweredClean net mode x ↔
      ∃ v, c.scanned? net mode x.1 x.2 = some v ∧ v.isClean = true := by
  simp only [AnsweredClean, scanned?_eq_some_iff]
  constructor
  · rintro ⟨raw, hraw, hclean⟩
    obtain ⟨v, hread, hv⟩ := Command.isClean_read_scan_iff.2 hclean
    exact ⟨v, ⟨raw, hraw, hread⟩, hv⟩
  · rintro ⟨v, ⟨raw, hraw, hread⟩, hv⟩
    exact ⟨raw, hraw, Command.isClean_read_scan_iff.1 ⟨v, hread, hv⟩⟩

/-- A path that is scanned at all is found infected exactly if the reply to its scan reports a
detection. -/
theorem answeredFound_iff {v : Verdict} (h : c.scanned? net mode x.1 x.2 = some v) :
    c.AnsweredFound net mode x ↔ v.isClean = false := by
  obtain ⟨raw, hraw, hread⟩ := scanned?_eq_some_iff.1 h
  rw [AnsweredFound, hraw, Command.infected_read_scan_iff hread]
  constructor
  · rintro ⟨_, hraw', hfound⟩
    exact Option.some.inj hraw' ▸ hfound
  · exact fun hfound => ⟨raw, rfl, hfound⟩

/-- A path about which a detection is reported is not found clean. -/
theorem not_answeredClean_of_answeredFound (h : c.AnsweredFound net mode x) :
    ¬ c.AnsweredClean net mode x := by
  obtain ⟨raw, hraw, hfound⟩ := h
  rintro ⟨raw', hraw', hclean⟩
  rw [hraw] at hraw'
  obtain rfl := Option.some.inj hraw'
  exact Reply.not_saysClean_of_saysFound hfound hclean

/-- **A scan is clean** exactly if every reply says that all is clean. -/
theorem clean_scanAll_iff :
    (∃ v, (c.scanAll net mode paths s).1 = .ok v ∧ v.isClean = true) ↔
      ∀ x ∈ attempts paths s, c.AnsweredClean net mode x := by
  constructor
  · rintro ⟨v, hv, hclean⟩ x hx
    obtain ⟨u, hu⟩ := Option.isSome_iff_exists.1 ((scanAll_eq_ok_iff.1 hv).1 x hx)
    exact answeredClean_iff.2 ⟨u, hu, (isClean_of_scanAll hv).1 hclean x hx u hu⟩
  · intro hall
    have hsome : ∀ x ∈ attempts paths s, (c.scanned? net mode x.1 x.2).isSome := by
      intro x hx
      obtain ⟨u, hu, -⟩ := answeredClean_iff.1 (hall x hx)
      exact Option.isSome_iff_exists.2 ⟨u, hu⟩
    have hv := scanAll_eq_ok_iff.2 ⟨hsome, rfl⟩
    refine ⟨_, hv, (isClean_of_scanAll hv).2 fun x hx u hu => ?_⟩
    obtain ⟨w, hw, hclean⟩ := answeredClean_iff.1 (hall x hx)
    rw [hu] at hw
    exact Option.some.inj hw ▸ hclean

/-- **A scan is infected** exactly if every reply can be read and one reports a detection. -/
theorem infected_scanAll_iff :
    (∃ v, (c.scanAll net mode paths s).1 = .ok v ∧ v.isClean = false) ↔
      (∀ x ∈ attempts paths s, c.Answered net mode x) ∧
        ∃ x ∈ attempts paths s, c.AnsweredFound net mode x := by
  constructor
  · rintro ⟨v, hv, hinfected⟩
    have hsome := (scanAll_eq_ok_iff.1 hv).1
    refine ⟨fun x hx => isSome_scanned?_iff.1 (hsome x hx), ?_⟩
    -- were there no report of a detection, each path would be found clean
    refine Classical.byContradiction fun hnone => ?_
    rw [Bool.eq_false_iff] at hinfected
    refine hinfected ((isClean_of_scanAll hv).2 fun x hx u hu => ?_)
    rw [← Bool.not_eq_false]
    exact fun hfound => hnone ⟨x, hx, (answeredFound_iff hu).2 hfound⟩
  · rintro ⟨hall, x, hx, hfound⟩
    have hv := scanAll_eq_ok_iff.2 ⟨fun x hx => isSome_scanned?_iff.2 (hall x hx), rfl⟩
    obtain ⟨u, hu⟩ := Option.isSome_iff_exists.1 (isSome_scanned?_iff.2 (hall x hx))
    refine ⟨_, hv, Bool.eq_false_iff.2 fun hclean => ?_⟩
    have hfalse := (answeredFound_iff hu).1 hfound
    rw [(isClean_of_scanAll hv).1 hclean x hx u hu] at hfalse
    cases hfalse

end Clamd.Client
