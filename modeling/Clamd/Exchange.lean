import Clamd.Clock
import Clamd.Request
import Clamd.Stream.Chunk
import Clamd.Text.Quoted

/-!
# One exchange over one connection

Every exchange has a connection of its own: the request is written, then the upload if there is one,
and the reply is read until the daemon closes its side.

A connection is described by what the client meets on it: a sink for what it writes and a source for
what it reads. Two facts of the daemon shape the rules:

* it closes the connection as soon as an upload grows too long, with its reply sent before; so after
  a write that failed because the other side hung up, the reply is read all the same;
* closing with an unread upload resets the connection; so a reset behind some text ends the reply.
-/

namespace Clamd

/-- A connection as the client meets it. -/
structure Connection where
  /-- What the client writes goes here. -/
  outgoing : Sink := {}
  /-- What the client reads comes from here. -/
  incoming : Source := { bytes := .empty }
  /-- How long the exchange takes. -/
  elapsed : Span := {}

/-- Bytes to upload behind a request. -/
structure Payload where
  /-- Where the bytes come from. -/
  source : Source
  /-- The greatest number of bytes in a chunk. -/
  chunkSize : Nat

namespace Connection

/-- The greatest number of bytes that one read asks for. -/
def readSize : Nat := 4096

/-- The length of the longest reply. -/
def replyLimit : Nat := Upload.defaultLimit

/-- Reads the rest of a reply that begins with `raw`, at most `limit` bytes in all, and decodes all
of it at once. A reset ends the reply if some of it has come. -/
def readReplyFrom (limit : Nat) (source : Source) (raw : ByteArray) :
    Except Fault String × Source :=
  match hread : source.readSome readSize with
  | (.error fault, left) =>
    if fault.kind = .system .connectionReset && raw.size != 0 then
      (.ok (Text.Utf8.decodeLenient raw), left)
    else (.error fault, left)
  | (.ok data, left) =>
    if hdata : data.size = 0 then (.ok (Text.Utf8.decodeLenient raw), left)
    else if limit < raw.size + data.size then (.error (.replyLimit limit), left)
    else
      have : left.remaining < source.remaining := by
        have := (Source.size_readSome hread).1
        have := hdata
        omega
      readReplyFrom limit left (raw ++ data)
termination_by source.remaining

/-- Reads the reply, at most `limit` bytes of it. -/
def readReply (limit : Nat) (c : Connection) : Except Fault String × Connection :=
  let (reply, incoming) := readReplyFrom limit c.incoming .empty
  (reply, { c with incoming })

/-- Writes what belongs to a request after its frame: the upload, or nothing. -/
def writeUpload (payload : Option Payload) (c : Connection) : Except Fault Unit × Connection :=
  match payload with
  | none =>
    let (result, outgoing) := c.outgoing.flush
    (result, { c with outgoing })
  | some p =>
    let sent := Upload.send p.chunkSize p.source c.outgoing
    (sent.result.map fun _ => (), { c with outgoing := sent.sink })

/-- Carries out an exchange: writes the frame and the upload and reads the reply. A reply that the
daemon sent before it hung up on an upload is the answer, unless it is empty. -/
def converse (frame : ByteArray) (payload : Option Payload) (c : Connection) :
    Except Fault String × Connection :=
  match c.outgoing.writeAll frame with
  | (.error fault, outgoing) => (.error fault, { c with outgoing })
  | (.ok (), outgoing) =>
    match writeUpload payload { c with outgoing } with
    | (.ok (), c) => c.readReply replyLimit
    | (.error fault, c) =>
      if payload.isSome && fault.isHangUp then
        match c.readReply replyLimit with
        | (.ok reply, c) => if reply.isEmpty then (.error fault, c) else (.ok reply, c)
        | (.error _, c) => (.error fault, c)
      else (.error fault, c)

end Connection

/-- What is remembered of the last exchange that obtained a reply. -/
structure RunReport where
  /-- The request, with control characters made visible. -/
  command : String
  /-- The reply as it came. -/
  response : String
  /-- How long the exchange took. -/
  elapsed : Span
  deriving DecidableEq, Repr

namespace RunReport

/-- The report of an exchange of `frame` for `response`. -/
def ofExchange (frame : ByteArray) (response : String) (elapsed : Span) : RunReport :=
  { command := Text.visible (Text.Utf8.decodeLenient frame), response, elapsed }

/-- The report on one line. -/
def text (r : RunReport) : String :=
  r.command ++ " -> " ++ Text.visible r.response ++ " (" ++ toString r.elapsed.inMillis ++ " ms)"

end RunReport

end Clamd
