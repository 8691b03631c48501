import Clamd.Client

/-!
# Scripted daemons

A daemon that follows a script, for rehearsing a client without a network. A script says how much of
a request the daemon reads, what it answers and how it closes; from it follow the connection that
the client meets and, after the exchange, what the daemon has seen.
-/

namespace Clamd.Peer

/-- How a scripted daemon treats a request. -/
inductive Manner where
  /-- It reads the request, and the upload behind it, replies and closes. -/
  | attentive
  /-- It replies without reading anything and resets the connection. -/
  | hasty
  /-- It reads exactly `n` bytes, replies and closes, also while an upload goes on. -/
  | curt (n : Nat)
  /-- It reads like an attentive daemon and then never replies. -/
  | silent
  deriving DecidableEq, Repr

/-- What a daemon does with one connection. -/
structure Script where
  /-- How it treats the request. -/
  manner : Manner := .attentive
  /-- Its reply. -/
  reply : ByteArray := .empty
  /-- The greatest upload that it accepts. -/
  streamLimit : Nat := Upload.defaultLimit

/-- The frame of an errand, which is empty for a probe. -/
def frameOf : Errand → ByteArray
  | .probe => .empty
  | .exchange frame _ => frame

/-- The upload of an errand. -/
def payloadOf : Errand → Option Payload
  | .probe => none
  | .exchange _ payload => payload

/-- What would go over the wire behind the frame if nothing stopped it. -/
def wireOf (errand : Errand) : ByteArray :=
  match payloadOf errand with
  | none => .empty
  | some p => (Upload.send p.chunkSize p.source {}).sink.received

/-- How an attentive daemon reads an upload. -/
def Script.receive (script : Script) (wire : ByteArray) : Upload.Received :=
  Upload.receive script.streamLimit { bytes := wire }

/-- How many bytes may be on their way, sent but not read: two and a half mebibytes. -/
def transitSize : Nat := 2621440

/-- A connection whose peer reads `n` bytes and closes. What still fits on the way behind them is
sent in vain; a write of more than that fails. -/
def closing (n : Nat) (reply : ByteArray) : Connection where
  outgoing := { capacity := some (n + transitSize), refusal := .system .brokenPipe }
  incoming := { bytes := reply, ending := some (.system .connectionReset) }

/-- A connection whose peer reads everything, replies and closes. -/
def replying (reply : ByteArray) : Connection where
  incoming := { bytes := reply }

/-- A connection whose peer reads everything and never replies. -/
def waiting : Connection where
  incoming := { bytes := .empty, ending := some (.system .wouldBlock) }

/-- The connection that a client with this errand meets. A daemon that closes with bytes unread
resets the connection, which a client that goes on sending a little does not notice before it asks
for the reply. -/
def Script.connection (script : Script) (errand : Errand) : Connection :=
  let frame := frameOf errand
  match script.manner with
  | .attentive =>
    let received := script.receive (wireOf errand)
    match received.result with
    | .error .streamLimit => closing (frame.size + received.source.position) script.reply
    | _ => replying script.reply
  | .hasty =>
    { incoming := { bytes := script.reply, ending := some (.system .connectionReset) } }
  | .curt n =>
    match payloadOf errand with
    | none =>
      if n < frame.size then closing frame.size script.reply
      else if n = frame.size then replying script.reply
      else waiting
    | some _ =>
      let total := frame.size + (wireOf errand).size
      if n < total then closing (max n frame.size) script.reply
      else if n = total then replying script.reply
      else waiting
  | .silent => waiting

/-- What a daemon has seen of an exchange. -/
structure Seen where
  /-- The bytes that it read. -/
  request : ByteArray
  /-- The upload, put together, if it read one. -/
  payload : Option (Except Fault ByteArray)

/-- What a daemon that follows `script` has seen when the client has sent the bytes `sent`. -/
def Script.seen (script : Script) (errand : Errand) (sent : ByteArray) : Seen :=
  let frame := frameOf errand
  match script.manner with
  | .hasty => { request := .empty, payload := none }
  | .curt n => { request := sent.extract 0 n, payload := none }
  | .attentive | .silent =>
    match payloadOf errand with
    | none => { request := sent, payload := none }
    | some _ =>
      let received := script.receive (sent.extract frame.size sent.size)
      { request := sent.extract 0 (frame.size + received.source.position),
        payload := some received.result }

/-- A network on which a daemon serves the connections by the scripts, one after the other, from the
attempt `start` on. While it is silent on one connection it serves no other, and when the scripts
are used up it serves none: then connections can still be made, but wait for a reply in vain. -/
def network (start : Nat) (scripts : List Script) : Network := fun n errand =>
  if (scripts.take (n - start)).any (·.manner == .silent) then .ok waiting
  else
    match scripts[n - start]? with
    | some script => .ok (script.connection errand)
    | none => .ok waiting

/-- What the daemon has seen on the connections of `contacts`, which follow the scripts. What came
while it was silent on another connection it reads in the end. -/
def seen (scripts : List Script) (contacts : List Contact) : List Seen :=
  (scripts.zip contacts).filterMap fun (script, contact) =>
    match contact.outcome with
    | .ok connection => some (script.seen contact.errand connection.outgoing.received)
    | .error _ => none

/-- A network that cannot be reached. -/
def unreachable : Network := fun _ _ => .error (.system .networkUnreachable)

/-- A network on which no daemon listens. -/
def refusing : Network := fun _ _ => .error (.system .connectionRefused)

end Clamd.Peer
