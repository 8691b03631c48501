import Clamd.Command
import Clamd.Exchange
import Clamd.PathStyle

/-!
# The client

A client asks one daemon. Every call makes the connections it needs, one for each exchange, and
nothing is kept open or tried twice. The network is a parameter: it decides, for the n-th attempt to
connect and what the client means to do, whether there is a connection and what the client will meet
on it.

A session is the history of such calls: the attempts that were made, with what became of each, and a
report of the last exchange that obtained a reply.
-/

namespace Clamd

/-- What the client means to do with a connection. -/
inductive Errand where
  /-- See whether the daemon can be reached, and close. -/
  | probe
  /-- Send a request, with an upload behind it if there is one, and read the reply. -/
  | exchange (frame : ByteArray) (payload : Option Payload)

/-- Decides what meets the n-th attempt to connect. -/
abbrev Network := Nat → Errand → Except Fault Connection

/-- An attempt to connect. -/
structure Contact where
  /-- What the client meant to do. -/
  errand : Errand
  /-- The connection as the client left it, or why there was none. -/
  outcome : Except Fault Connection

/-- The history of a client's calls. -/
structure Session where
  /-- The attempts to connect, in their order. -/
  contacts : List Contact := []
  /-- The last exchange that obtained a reply. -/
  lastRun : Option RunReport := none

/-- Adds an attempt to the history. -/
def Session.record (s : Session) (errand : Errand) (outcome : Except Fault Connection) : Session :=
  { s with contacts := s.contacts ++ [{ errand, outcome }] }

/-- A client of one daemon. -/
structure Client where
  /-- The daemon's host. -/
  host : String
  /-- The daemon's port. -/
  port : Nat
  /-- How the daemon's host writes paths. -/
  style : PathStyle
  /-- The chunk size of uploads. -/
  chunkSize : Nat

namespace Client

/-- The address of the daemon. -/
def address (c : Client) : String :=
  c.host ++ ":" ++ toString c.port

/-- Whether the host can be looked up at all: a name with a NUL is refused before. -/
def hasUsableHost (c : Client) : Bool :=
  !c.host.toList.contains '\x00'

/-- Exchanges a frame, and an upload behind it, for the reply. The session remembers the exchange if
there was a reply. -/
def exchange (c : Client) (net : Network) (frame : ByteArray) (payload : Option Payload)
    (s : Session) : Except Failure String × Session :=
  if c.hasUsableHost then
    let errand := .exchange frame payload
    match net s.contacts.length errand with
    | .error fault => (.error (.communication fault), s.record errand (.error fault))
    | .ok connection =>
      match connection.converse frame payload with
      | (.error fault, left) => (.error (.communication fault), s.record errand (.ok left))
      | (.ok reply, left) =>
        (.ok reply,
          { s.record errand (.ok left) with
            lastRun := some (.ofExchange frame reply connection.elapsed) })
  else (.error (.communication .nulInName), s)

/-- Exchanges a frame with an upload for the reply. Chunks of no bytes are refused before anything
else. -/
def exchangeUpload (c : Client) (net : Network) (frame : ByteArray) (payload : Payload)
    (s : Session) : Except Failure String × Session :=
  if payload.chunkSize = 0 then (.error (.communication .emptyChunks), s)
  else c.exchange net frame (some payload) s

/-- Sends a command and reads its answer. -/
def ask {α : Type} (c : Client) (net : Network) (command : Command α) (s : Session) :
    Except Failure α × Session :=
  match c.exchange net command.request.frame none s with
  | (.error failure, s) => (.error failure, s)
  | (.ok raw, s) => (command.read raw, s)

/-- Scans a path, which is first brought into the style of the daemon's host. -/
def scan (c : Client) (net : Network) (mode : ScanMode) (path : String) (s : Session) :
    Except Failure Verdict × Session :=
  c.ask net (.scan mode (c.style.convert path)) s

/-- Scans further paths and merges their verdicts into `verdict`. -/
def scanRest (c : Client) (net : Network) (mode : ScanMode) (verdict : Verdict) :
    List String → Session → Except Failure Verdict × Session
  | [], s => (.ok verdict, s)
  | path :: paths, s =>
    match c.scan net mode path s with
    | (.error failure, s) => (.error failure, s)
    | (.ok v, s) => scanRest c net mode (verdict.merge v) paths s

/-- Scans the paths one after another and merges the verdicts. The first failure ends the scan. -/
def scanAll (c : Client) (net : Network) (mode : ScanMode) (paths : List String) (s : Session) :
    Except Failure Verdict × Session :=
  c.scanRest net mode .clean paths s

/-- Uploads bytes and reads the verdict on them. -/
def scanPayload (c : Client) (net : Network) (payload : Payload) (s : Session) :
    Except Failure Verdict × Session :=
  match c.exchangeUpload net Command.stream.request.frame payload s with
  | (.error failure, s) => (.error failure, s)
  | (.ok raw, s) => (Command.stream.read raw, s)

/-- Uploads what a source holds, in chunks of the client's own size. -/
def scanSource (c : Client) (net : Network) (source : Source) (s : Session) :
    Except Failure Verdict × Session :=
  c.scanPayload net { source, chunkSize := c.chunkSize } s

/-- Whether a connection can be made. -/
def isReachable (c : Client) (net : Network) (s : Session) : Bool × Session :=
  if c.hasUsableHost then
    let outcome := net s.contacts.length .probe
    (outcome.isOk, s.record .probe outcome)
  else (false, s)

end Client

end Clamd
