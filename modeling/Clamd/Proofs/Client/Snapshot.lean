import Clamd.Peer
import Clamd.Proofs.Client.Scan
import Clamd.Proofs.Exchange

/-!
# The report of the last exchange

A session remembers the last exchange that obtained a reply. The history of its attempts to connect
tells which exchanges did, and what they obtained; the report agrees with that history, whatever
calls were made and whatever the network did.

* `Session.obtained` are the exchanges of a session that obtained a reply, and `Session.Tracks` says
  that the report is that of the last of them;
* `Command.isCommunication_of_read`: a reply that has come never reads as a failure of the exchange;
* `Client.accounted_exchange`: an exchange fails and leaves no trace, or obtains a reply and is
  reported;
* `Client.Call` are the calls of a client, and `Client.tracks_run` says that any of them, one after
  another, keep the report in step;
* `Client.lastRun_run` adds what a further call comes to: its answer tells whether it is reported.
-/

namespace Clamd

/-! ### The exchanges of a session -/

/-- An exchange that obtained a reply. -/
structure Obtained where
  /-- The frame that was sent. -/
  frame : ByteArray
  /-- The bytes of the reply. -/
  reply : ByteArray

/-- A report is that of an exchange: its command is the text of the frame with control characters
made visible, and its response the text of the reply. -/
structure RunReport.IsOf (report : RunReport) (a : Obtained) : Prop where
  command : report.command = Text.visible (Text.Utf8.decodeLenient a.frame)
  response : report.response = Text.Utf8.decodeLenient a.reply

/-- What the n-th attempt to connect obtains. -/
def Network.obtained? (net : Network) (n : Nat) : Errand → Option Obtained
  | .probe => none
  | .exchange frame payload =>
    match net n (.exchange frame payload) with
    | .error _ => none
    | .ok connection =>
      match connection.converse frame payload with
      | (.error _, _) => none
      | (.ok _, left) => some { frame, reply := connection.taken left }

namespace Session

variable {net : Network} {s : Session}

/-- The exchanges of a session that obtained a reply, in their order. -/
def obtained (net : Network) (s : Session) : List Obtained :=
  s.contacts.zipIdx.filterMap fun x => net.obtained? x.2 x.1.errand

/-- **The report of a session is that of the last exchange that obtained a reply**, and there is
none if no exchange did. -/
def Tracks (net : Network) (s : Session) : Prop :=
  match (s.obtained net).getLast? with
  | none => s.lastRun = none
  | some a => ∃ report, s.lastRun = some report ∧ report.IsOf a

/-- An attempt adds what it obtains. -/
theorem obtained_record (net : Network) (s : Session) (errand : Errand)
    (outcome : Except Fault Connection) :
    (s.record errand outcome).obtained net =
      s.obtained net ++ (net.obtained? s.contacts.length errand).toList := by
  rw [obtained, record, List.zipIdx_append, List.filterMap_append, obtained, Nat.zero_add]
  cases h : net.obtained? s.contacts.length errand <;> simp [h]

theorem tracks_new : Tracks net {} := rfl

/-- A session that obtained nothing more is still in step. -/
theorem Tracks.of_eq {t : Session} (h : s.Tracks net) (hobtained : t.obtained net = s.obtained net)
    (hlast : t.lastRun = s.lastRun) : t.Tracks net := by
  rw [Tracks, hobtained, hlast]
  exact h

/-- A session that reports what it obtained last is in step. -/
theorem tracks_of_concat {a : Obtained} {front : List Obtained} {report : RunReport}
    (hobtained : s.obtained net = front ++ [a]) (hlast : s.lastRun = some report)
    (hreport : report.IsOf a) : s.Tracks net := by
  rw [Tracks, hobtained, List.getLast?_concat]
  exact ⟨report, hlast, hreport⟩

end Session

/-! ### Reading a reply -/

namespace Reply

variable {verb text : String} {failure : Failure}

/-- A body that cannot be had was refused by the daemon. -/
theorem isCommunication_of_body {request : Request}
    (h : body request text = .error failure) : failure.isCommunication = false := by
  rw [body] at h
  split at h
  · cases h
    rfl
  · cases h

theorem isCommunication_of_commandNames (h : commandNames verb text = .error failure) :
    failure.isCommunication = false := by
  rw [commandNames] at h
  split at h
  · cases h
    rfl
  · cases h

theorem isCommunication_of_reloading (h : reloading verb text = .error failure) :
    failure.isCommunication = false := by
  rw [reloading] at h
  split at h
  · cases h
  · cases h
    rfl

theorem isCommunication_of_verdict (h : verdict verb text = .error failure) :
    failure.isCommunication = false := by
  rw [verdict] at h
  split at h
  · cases h
  · split at h
    · split at h
      all_goals
        cases h
        try rfl
    · split at h
      all_goals
        cases h
        rfl

end Reply

/-- **A reply that has come** never reads as a failure of the exchange, whatever was asked. -/
theorem Command.isCommunication_of_read {α : Type} {command : Command α} {raw : String}
    {failure : Failure} (h : command.read raw = .error failure) :
    failure.isCommunication = false := by
  rw [read] at h
  cases hbody : Reply.body command.request raw with
  | error e =>
    rw [hbody] at h
    cases h
    exact Reply.isCommunication_of_body hbody
  | ok text =>
    rw [hbody] at h
    cases command with
    | ping | version | stats | shutdown => cases h
    | commands => exact Reply.isCommunication_of_commandNames h
    | reload => exact Reply.isCommunication_of_reloading h
    | scan | stream => exact Reply.isCommunication_of_verdict h

namespace Client

variable {c : Client} {net : Network} {frame : ByteArray} {s : Session} {α : Type}

/-! ### One exchange -/

/-- A call that left no trace in a session. -/
structure Lost (net : Network) (s t : Session) : Prop where
  /-- Nothing has been obtained. -/
  obtained : t.obtained net = s.obtained net
  /-- The report is the one that there was. -/
  lastRun : t.lastRun = s.lastRun

/-- A call that obtained a reply to `frame` and is reported. -/
structure Kept (net : Network) (frame : ByteArray) (s t : Session) (a : Obtained) : Prop where
  /-- The frame is the one that was sent. -/
  frame : a.frame = frame
  /-- It is what has been obtained last. -/
  obtained : t.obtained net = s.obtained net ++ [a]
  /-- The report is that of it. -/
  lastRun : ∃ report, t.lastRun = some report ∧ report.IsOf a

/-- An answer says that the exchange itself failed. -/
def IsLoss (answer : Except Failure α) : Prop :=
  ∃ fault, answer = .error (.communication fault)

instance (answer : Except Failure α) : Decidable (IsLoss answer) :=
  match answer with
  | .ok _ => isFalse fun ⟨_, h⟩ => nomatch h
  | .error (.communication fault) => isTrue ⟨fault, rfl⟩
  | .error (.unknownCommand _) => isFalse fun ⟨_, h⟩ => nomatch h
  | .error (.invalidReply _ _) => isFalse fun ⟨_, h⟩ => nomatch h
  | .error (.scanFailed _) => isFalse fun ⟨_, h⟩ => nomatch h

/-- An answer was read from a reply: it is a success or tells what is wrong with the reply. -/
def IsRead (answer : Except Failure α) : Prop :=
  (∃ a, answer = .ok a) ∨ (∃ verb, answer = .error (.unknownCommand verb)) ∨
    (∃ verb reply, answer = .error (.invalidReply verb reply)) ∨
      ∃ text, answer = .error (.scanFailed text)

/-- Every answer is one or the other. -/
theorem isRead_iff {answer : Except Failure α} : IsRead answer ↔ ¬ IsLoss answer := by
  cases answer with
  | ok a => simp [IsRead, IsLoss]
  | error failure => cases failure <;> simp [IsRead, IsLoss]

/-- What a call comes to that makes one exchange: it fails and leaves no trace, or it reads a reply
and is reported. -/
def Accounted (net : Network) (frame : ByteArray) (s : Session)
    (x : Except Failure α × Session) : Prop :=
  IsLoss x.1 ∧ Lost net s x.2 ∨ IsRead x.1 ∧ ∃ a, Kept net frame s x.2 a

/-- An attempt that obtains nothing leaves no trace. -/
theorem lost_record {errand : Errand} (h : net.obtained? s.contacts.length errand = none)
    (outcome : Except Fault Connection) : Lost net s (s.record errand outcome) := by
  refine ⟨?_, rfl⟩
  rw [Session.obtained_record, h]
  exact List.append_nil _

/-- **An exchange** fails and leaves no trace, or obtains a reply and is reported. -/
theorem accounted_exchange (c : Client) (net : Network) (frame : ByteArray)
    (payload : Option Payload) (s : Session) :
    Accounted net frame s (c.exchange net frame payload s) := by
  rw [exchange]
  -- without a host there is no attempt, and an attempt may fail at any step
  by_cases hhost : c.hasUsableHost = true
  · rw [if_pos hhost]
    cases hnet : net s.contacts.length (.exchange frame payload) with
    | error fault =>
      simp only [hnet]
      exact .inl ⟨⟨fault, rfl⟩, lost_record (by simp only [Network.obtained?, hnet]) _⟩
    | ok connection =>
      rcases hconverse : connection.converse frame payload with ⟨result, left⟩
      have hobtained := Session.obtained_record net s (.exchange frame payload) (.ok left)
      simp only [Network.obtained?, hnet, hconverse] at hobtained ⊢
      cases result with
      | error fault =>
        exact .inl ⟨⟨fault, rfl⟩, lost_record (by simp only [Network.obtained?, hnet, hconverse]) _⟩
      | ok reply =>
        have hreply := Connection.decode_of_converse hconverse
        exact .inr ⟨.inl ⟨reply, rfl⟩, { frame, reply := connection.taken left }, rfl, hobtained,
          _, rfl, rfl, hreply⟩
  · rw [if_neg hhost]
    exact .inl ⟨⟨_, rfl⟩, rfl, rfl⟩

/-- An upload in chunks of no bytes is refused and changes nothing. -/
theorem exchangeUpload_of_empty {payload : Payload} (h : payload.chunkSize = 0) :
    c.exchangeUpload net frame payload s = (.error (.communication .emptyChunks), s) :=
  if_pos h

theorem accounted_exchangeUpload (c : Client) (net : Network) (frame : ByteArray)
    (payload : Payload) (s : Session) :
    Accounted net frame s (c.exchangeUpload net frame payload s) := by
  rw [exchangeUpload]
  split
  · exact .inl ⟨⟨_, rfl⟩, rfl, rfl⟩
  · exact accounted_exchange c net frame (some payload) s

/-! ### What is made of a reply -/

/-- A failure that is not one of the exchange was read from a reply. -/
theorem isRead_error {failure : Failure} (h : failure.isCommunication = false) :
    IsRead (.error failure : Except Failure α) := by
  cases failure with
  | communication fault => cases h
  | unknownCommand verb => exact .inr (.inl ⟨verb, rfl⟩)
  | invalidReply verb reply => exact .inr (.inr (.inl ⟨verb, reply, rfl⟩))
  | scanFailed text => exact .inr (.inr (.inr ⟨text, rfl⟩))

/-- The answer of a command is read from a reply. -/
theorem isRead_read (command : Command α) (raw : String) : IsRead (command.read raw) := by
  cases h : command.read raw with
  | error failure => exact isRead_error (Command.isCommunication_of_read h)
  | ok a => exact .inl ⟨a, rfl⟩

/-- What is read from the reply of an exchange is accounted for like the exchange. -/
theorem Accounted.read {x : Except Failure String × Session} (h : Accounted net frame s x)
    (command : Command α) : Accounted net frame s (x.1.bind command.read, x.2) := by
  rcases h with ⟨⟨fault, hfault⟩, hlost⟩ | ⟨hread, hkept⟩
  · rw [hfault]
    exact .inl ⟨⟨fault, rfl⟩, hlost⟩
  · refine .inr ⟨?_, hkept⟩
    cases hx : x.1 with
    | error failure =>
      -- the failure is one that is read from a reply, and stays what it is
      rw [hx] at hread
      refine isRead_iff.2 ?_
      rintro ⟨fault, hfault⟩
      cases hfault
      exact isRead_iff.1 hread ⟨fault, rfl⟩
    | ok raw => exact isRead_read command raw

theorem ask_eq (c : Client) (net : Network) (command : Command α) (s : Session) :
    c.ask net command s =
      let x := c.exchange net command.request.frame none s
      (x.1.bind command.read, x.2) := by
  rw [ask]
  split
  all_goals
    next h => rw [h]; rfl

theorem scanPayload_eq (c : Client) (net : Network) (payload : Payload) (s : Session) :
    c.scanPayload net payload s =
      let x := c.exchangeUpload net Command.stream.request.frame payload s
      (x.1.bind Command.stream.read, x.2) := by
  rw [scanPayload]
  split
  all_goals
    next h => rw [h]; rfl

/-- **A command** is accounted for. -/
theorem accounted_ask (c : Client) (net : Network) (command : Command α) (s : Session) :
    Accounted net command.request.frame s (c.ask net command s) := by
  rw [ask_eq]
  exact (accounted_exchange c net _ none s).read command

/-- The scan of an upload is accounted for. -/
theorem accounted_scanPayload (c : Client) (net : Network) (payload : Payload) (s : Session) :
    Accounted net Command.stream.request.frame s (c.scanPayload net payload s) := by
  rw [scanPayload_eq]
  exact (accounted_exchangeUpload c net _ payload s).read .stream

/-! ### Calls -/

/-- The report stays in step, whether a call left no trace or was reported. -/
theorem Accounted.tracks {x : Except Failure α × Session} (h : Accounted net frame s x)
    (hs : s.Tracks net) : x.2.Tracks net := by
  rcases h with ⟨-, hlost⟩ | ⟨-, a, hkept⟩
  · exact hs.of_eq hlost.obtained hlost.lastRun
  · obtain ⟨report, hlast, hreport⟩ := hkept.lastRun
    exact Session.tracks_of_concat hkept.obtained hlast hreport

/-- A scan of several paths keeps the report in step, also if it fails on the way. -/
theorem tracks_scanRest (c : Client) (mode : ScanMode) (verdict : Verdict) (paths : List String)
    (hs : s.Tracks net) : (c.scanRest net mode verdict paths s).2.Tracks net := by
  induction paths generalizing verdict s with
  | nil => exact hs
  | cons path paths ih =>
    have hscan := (accounted_ask c net (.scan mode (c.style.convert path)) s).tracks hs
    rw [scanRest, scan]
    split
    next failure t h =>
      rw [h] at hscan
      exact hscan
    next v t h =>
      rw [h] at hscan
      exact ih (verdict.merge v) hscan

/-- A look whether the daemon can be reached obtains nothing. -/
theorem lost_isReachable (c : Client) (net : Network) (s : Session) :
    Lost net s (c.isReachable net s).2 := by
  rw [isReachable]
  split
  · exact lost_record rfl _
  · exact ⟨rfl, rfl⟩

/-- A call of a client. -/
inductive Call : Type 1 where
  /-- Send a command and read its answer. -/
  | ask {α : Type} (command : Command α)
  /-- Scan a path. -/
  | scan (mode : ScanMode) (path : String)
  /-- Scan some paths one after another. -/
  | scanAll (mode : ScanMode) (paths : List String)
  /-- Scan an upload, in chunks of a size of its own. -/
  | scanPayload (payload : Payload)
  /-- Scan an upload, in chunks of the client's size. -/
  | scanSource (source : Source)
  /-- Send a frame and take the reply as it is. -/
  | send (frame : ByteArray)
  /-- Send a frame with an upload and take the reply as it is. -/
  | sendUpload (frame : ByteArray) (payload : Payload)
  /-- See whether the daemon can be reached. -/
  | probe

namespace Call

/-- Makes a call. Of its answer only remains whether it is a failure, and which. -/
def perform (c : Client) (net : Network) (s : Session) : Call → Except Failure Unit × Session
  | ask command => (c.ask net command s).map (·.map fun _ => ()) id
  | scan mode path => (c.scan net mode path s).map (·.map fun _ => ()) id
  | scanAll mode paths => (c.scanAll net mode paths s).map (·.map fun _ => ()) id
  | scanPayload payload => (c.scanPayload net payload s).map (·.map fun _ => ()) id
  | scanSource source => (c.scanSource net source s).map (·.map fun _ => ()) id
  | send frame => (c.exchange net frame none s).map (·.map fun _ => ()) id
  | sendUpload frame payload => (c.exchangeUpload net frame payload s).map (·.map fun _ => ()) id
  | probe => (.ok (), (c.isReachable net s).2)

/-- The frame of a call that makes one exchange. -/
def frame? (c : Client) : Call → Option ByteArray
  | ask command => some command.request.frame
  | scan mode path => some (c.scanCommand mode path).request.frame
  | scanAll _ _ | probe => none
  | scanPayload _ | scanSource _ => some Command.stream.request.frame
  | send frame | sendUpload frame _ => some frame

/-- The upload of a call. -/
def payload? (c : Client) : Call → Option Payload
  | ask _ | scan _ _ | scanAll _ _ | send _ | probe => none
  | scanPayload payload | sendUpload _ payload => some payload
  | scanSource source => some { source, chunkSize := c.chunkSize }

end Call

/-- Makes one call after another. -/
def run (c : Client) (net : Network) (calls : List Call) (s : Session) : Session :=
  calls.foldl (fun s call => (call.perform c net s).2) s

theorem isLoss_map {β : Type} {answer : Except Failure α} (f : α → β) :
    IsLoss (answer.map f) ↔ IsLoss answer := by
  cases answer <;> simp [IsLoss, Except.map]

/-- What remains of an answer is accounted for like the answer. -/
theorem Accounted.forget {x : Except Failure α × Session} (h : Accounted net frame s x) :
    Accounted net frame s (x.map (·.map fun _ => ()) id) := by
  rw [Accounted, isRead_iff] at h ⊢
  rw [Prod.map_fst, isLoss_map]
  exact h

/-- **A call that makes one exchange** is accounted for. -/
theorem accounted_perform {call : Call} (net : Network) (s : Session)
    (h : call.frame? c = some frame) : Accounted net frame s (call.perform c net s) := by
  cases call with
  | ask command => cases h; exact (accounted_ask c net command s).forget
  | scan mode path => cases h; exact (accounted_ask c net (c.scanCommand mode path) s).forget
  | scanAll mode paths => cases h
  | scanPayload payload => cases h; exact (accounted_scanPayload c net payload s).forget
  | scanSource source => cases h; exact (accounted_scanPayload c net _ s).forget
  | send frame => cases h; exact (accounted_exchange c net frame none s).forget
  | sendUpload frame payload =>
    cases h
    exact (accounted_exchangeUpload c net frame payload s).forget
  | probe => cases h

/-- **Any call keeps the report in step.** -/
theorem tracks_perform (c : Client) (call : Call) (hs : s.Tracks net) :
    (call.perform c net s).2.Tracks net := by
  cases hframe : call.frame? c with
  | some frame => exact (accounted_perform net s hframe).tracks hs
  | none =>
    cases call with
    | scanAll mode paths => exact tracks_scanRest c mode .clean paths hs
    | probe =>
      have hlost := lost_isReachable c net s
      exact hs.of_eq hlost.obtained hlost.lastRun
    | _ => cases hframe

/-- Calls one after another keep the report in step. -/
theorem tracks_run (c : Client) (calls : List Call) (hs : s.Tracks net) :
    (c.run net calls s).Tracks net := by
  induction calls generalizing s with
  | nil => exact hs
  | cons call calls ih => exact ih (tracks_perform c call hs)

/-- An upload in chunks of no bytes is refused and changes nothing. -/
theorem perform_of_empty {call : Call} {payload : Payload} (net : Network) (s : Session)
    (h : call.payload? c = some payload) (hempty : payload.chunkSize = 0) :
    call.perform c net s = (.error (.communication .emptyChunks), s) := by
  cases call with
  | ask _ | scan _ _ | scanAll _ _ | send _ | probe => cases h
  | scanPayload _ | scanSource _ =>
    cases h
    simp only [Call.perform, scanSource, scanPayload, exchangeUpload_of_empty hempty]
    rfl
  | sendUpload _ _ =>
    cases h
    simp only [Call.perform, exchangeUpload_of_empty hempty]
    rfl

/-- **The report of the last exchange.** Whatever calls were made of a client, and whatever the
network did, the report is that of the last exchange that obtained a reply. Of a further call it
holds, if it makes one exchange: it fails in the exchange exactly if it leaves no trace, and it ends
in any other way exactly if it obtains a reply to its frame and is reported. Neither a look whether
the daemon can be reached nor an upload that is refused for its chunks of no bytes changes the
report. -/
theorem lastRun_run (c : Client) (net : Network) (calls : List Call) (call : Call) :
    let s := c.run net calls {}
    let answer := (call.perform c net s).1
    let t := (call.perform c net s).2
    s.Tracks net ∧ t.Tracks net ∧
      (∀ frame, call.frame? c = some frame →
        (IsLoss answer ↔ Lost net s t) ∧ (IsRead answer ↔ ∃ a, Kept net frame s t a)) ∧
      (call = .probe → t.lastRun = s.lastRun) ∧
      ∀ payload, call.payload? c = some payload → payload.chunkSize = 0 →
        IsLoss answer ∧ t = s := by
  intro s answer t
  have hs : s.Tracks net := tracks_run c calls Session.tracks_new
  refine ⟨hs, tracks_perform c call hs, fun frame hframe => ?_, ?_, fun payload hp hempty => ?_⟩
  · -- a trace that is left is one reply more, so the two cases exclude each other
    have hnot : ∀ a, Kept net frame s t a → ¬ Lost net s t := by
      intro a hkept hlost
      have hlength := congrArg List.length (hlost.obtained.symm.trans hkept.obtained)
      rw [List.length_append, List.length_singleton] at hlength
      omega
    rcases accounted_perform net s hframe with ⟨hloss, hlost⟩ | ⟨hread, a, hkept⟩
    · refine ⟨iff_of_true hloss hlost, iff_of_false ?_ ?_⟩
      · exact fun hread => isRead_iff.1 hread hloss
      · rintro ⟨a, hkept⟩
        exact hnot a hkept hlost
    · exact ⟨iff_of_false (isRead_iff.1 hread) (hnot a hkept), iff_of_true hread ⟨a, hkept⟩⟩
  · rintro rfl
    exact (lost_isReachable c net s).lastRun
  · have hperform := perform_of_empty net s hp hempty
    exact ⟨⟨.emptyChunks, congrArg Prod.fst hperform⟩, congrArg Prod.snd hperform⟩

/-- A daemon answers a ping and then falls silent: the report of the ping stays. -/
theorem lastRun_run_silent :
    let c : Client := { host := "localhost", port := 3310, style := .unix, chunkSize := 0 }
    let net := Peer.network 0 [{ reply := Text.Utf8.encode "PONG\x00" }]
    let s := c.run net [.ask .ping] {}
    s.lastRun = some { command := "zPING\\0", response := "PONG\x00", elapsed := {} } ∧
      Lost net s ((Call.ask .version).perform c net s).2 ∧
      ((Call.scanSource { bytes := .empty }).perform c net s).2 = s := by
  intro c net s
  obtain ⟨-, -, hversion, -, -⟩ := lastRun_run c net [.ask .ping] (.ask .version)
  obtain ⟨-, -, -, -, hscan⟩ := lastRun_run c net [.ask .ping] (.scanSource { bytes := .empty })
  have hsilent : IsLoss ((Call.ask .version).perform c net s).1 := by decide +kernel
  exact ⟨by decide +kernel, (hversion _ rfl).1.1 hsilent, (hscan _ rfl rfl).2⟩

end Client

end Clamd
