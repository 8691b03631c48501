import Clamd.Proofs.Client.Snapshot
import Clamd.Proofs.Request
import Clamd.Proofs.Stream.Truncation

/-!
# What reaches the daemon

The bytes that an exchange writes to its connection are the frame and, behind it, the upload if
there is one. A daemon that reads a request from them and then an upload gets what the client meant.

* `Connection.delivered` are the bytes that reach the daemon;
* `Connection.delivered_converse`: without an upload, as much of the frame as the connection takes;
* `Upload.exists_reads_of_send`: an upload that is completed has come to the end of its source;
* `Connection.delivered_upload`: behind the frame, the wire of the pieces that were read;
* `Client.exchange_told`: an exchange by what the network decides for the number of its attempt;
* `Client.requests_decodable`: requests, also those with an upload, are read as they were meant.
-/

namespace Clamd

namespace Source

/-- What reads give and what they leave make up what there was. -/
theorem Reads.rest {n : Nat} {s left : Source} {pieces : List ByteArray}
    {ending : Except Fault Unit} (h : Reads n s pieces ending left) :
    s.rest = (Chunk.payload pieces).data.toList ++ left.rest := by
  induction h with
  | ended hread hdata =>
    rw [rest_readSome hread, ByteArray.size_eq_zero_iff.1 hdata]
    rfl
  | failed hread => exact (rest_of_readSome_error hread).symm
  | piece hread _ _ ih =>
    rw [rest_readSome hread, ih, Chunk.payload, ByteArray.data_append, Array.toList_append,
      List.append_assoc]

end Source

namespace Sink

theorem received_flush (s : Sink) : s.flush.2.received = s.received := by
  rw [flush]
  split <;> rfl

/-- A write that succeeds finds room for all of its bytes. -/
theorem eq_append_of_writeAll {s t : Sink} {bytes : ByteArray}
    (h : s.writeAll bytes = (.ok (), t)) : t = s.append bytes := by
  rw [writeAll] at h
  split at h
  · exact (congrArg Prod.snd h).symm
  · cases h

end Sink

/-- **An upload that is completed** has a possible chunk size, has come to the end of its source,
and has written the wire of the pieces that were read. -/
theorem Upload.exists_reads_of_send {n total : Nat} {source : Source} {sink : Sink}
    (h : (send n source sink).result = .ok total) :
    Chunk.isValidSize n = true ∧ ∃ pieces left, source.Reads n pieces (.ok ()) left ∧
      (send n source sink).sink.received = sink.received ++ Chunk.wire pieces := by
  by_cases hvalid : Chunk.isValidSize n = true
  · rw [send, if_pos hvalid] at h ⊢
    obtain ⟨pieces, ending, left, hreads⟩ := source.exists_reads n
    by_cases hroom : sink.room (Chunk.script ending pieces).size = (Chunk.script ending pieces).size
    · rw [sendRest_of_room hreads hroom] at h ⊢
      cases ending with
      | error fault => cases h
      | ok done =>
        refine ⟨hvalid, pieces, left, hreads, ?_⟩
        rw [concluded, Sink.received_flush, Chunk.script_ok]
        rfl
    · rw [(sendRest_of_full sink hreads hroom 0).1] at h
      cases h
  · rw [send_of_invalid hvalid] at h
    cases h

namespace Connection

/-- The bytes that reach the other side on the way from `before` to `after`. -/
def delivered (before after : Connection) : List UInt8 :=
  after.outgoing.received.data.toList.drop before.outgoing.received.data.toList.length

/-- Writes a request: the frame, and the upload behind it if there is one. -/
def writeRequest (frame : ByteArray) (payload : Option Payload) (c : Connection) :
    Except Fault Unit × Connection :=
  match c.outgoing.writeAll frame with
  | (.error fault, outgoing) => (.error fault, { c with outgoing })
  | (.ok (), outgoing) => writeUpload payload { c with outgoing }

variable {frame : ByteArray} {payload : Option Payload} {c : Connection}

/-- An exchange writes its request and nothing else. -/
theorem outgoing_converse (frame : ByteArray) (payload : Option Payload) (c : Connection) :
    (c.converse frame payload).2.outgoing = (c.writeRequest frame payload).2.outgoing := by
  have hreply : ∀ d : Connection, (d.readReply replyLimit).2.outgoing = d.outgoing := fun _ => rfl
  rw [converse, writeRequest]
  rcases c.outgoing.writeAll frame with ⟨_ | _, outgoing⟩
  · rfl
  · simp only
    rcases writeUpload payload { c with outgoing } with ⟨fault | _, d⟩
    · simp only
      split
      · -- whatever becomes of the reply, it is read from the connection and not written
        have hd := hreply d
        rcases hread : d.readReply replyLimit with ⟨_ | reply, e⟩
        all_goals rw [hread] at hd
        · exact hd
        · simp only
          split <;> exact hd
      · rfl
    · exact hreply d

/-- What has been written behind what there was before has been delivered. -/
theorem delivered_eq {before after : Connection} {bytes : List UInt8}
    (h : after.outgoing.received.data.toList =
      before.outgoing.received.data.toList ++ bytes) : before.delivered after = bytes := by
  rw [delivered, h, List.drop_left]

/-- **Without an upload** as much of the frame is delivered as the connection takes, and all of it
if there is a reply. -/
theorem delivered_converse (frame : ByteArray) (c : Connection) :
    c.delivered (c.converse frame none).2 =
        frame.data.toList.take (c.outgoing.room frame.size) ∧
      ((c.converse frame none).1.isOk = true →
        c.delivered (c.converse frame none).2 = frame.data.toList) := by
  have hreceived : (c.converse frame none).2.outgoing.received =
      (c.outgoing.writeAll frame).2.received := by
    rw [outgoing_converse, writeRequest]
    rcases c.outgoing.writeAll frame with ⟨_ | _, outgoing⟩
    · rfl
    · exact Sink.received_flush outgoing
  have htaken : c.delivered (c.converse frame none).2 =
      frame.data.toList.take (c.outgoing.room frame.size) := by
    refine delivered_eq ?_
    rw [hreceived, Sink.received_writeAll]
  refine ⟨htaken, fun hreply => ?_⟩
  -- a frame that was cut off ends the exchange
  have hroom : c.outgoing.room frame.size = frame.size := by
    refine Classical.byContradiction fun hfull => ?_
    rw [converse, Sink.writeAll_of_full hfull] at hreply
    cases hreply
  rw [htaken, hroom]
  exact List.take_of_length_le (Nat.le_of_eq rfl)

/-- **A completed upload** is delivered behind the frame: the wire of the pieces that its source
gave up to its end. -/
theorem delivered_upload {payload : Payload}
    (h : (c.writeRequest frame (some payload)).1 = .ok ()) :
    Chunk.isValidSize payload.chunkSize = true ∧
      ∃ pieces left, payload.source.Reads payload.chunkSize pieces (.ok ()) left ∧
        c.delivered (c.converse frame (some payload)).2 =
          frame.data.toList ++ (Chunk.wire pieces).data.toList := by
  have houtgoing := outgoing_converse frame (some payload) c
  rw [writeRequest] at h houtgoing
  rcases hframe : c.outgoing.writeAll frame with ⟨fault | _, outgoing⟩
  · rw [hframe] at h
    cases h
  · rw [hframe] at h houtgoing
    cases hsent : (Upload.send payload.chunkSize payload.source outgoing).result with
    | error fault =>
      simp only [writeUpload, hsent] at h
      cases h
    | ok total =>
      obtain ⟨hvalid, pieces, left, hreads, hreceived⟩ := Upload.exists_reads_of_send hsent
      -- the upload finds the frame in front of it
      refine ⟨hvalid, pieces, left, hreads, delivered_eq ?_⟩
      rw [houtgoing]
      show (Upload.send payload.chunkSize payload.source outgoing).sink.received.data.toList = _
      rw [hreceived, Sink.eq_append_of_writeAll hframe, Sink.append, ByteArray.data_append,
        ByteArray.data_append, Array.toList_append, Array.toList_append, List.append_assoc]

end Connection

namespace Client

/-! ### Exchanges -/

/-- The answer of an exchange and the attempt that it makes, both told by what the network decides
for the number of the attempt. -/
theorem exchange_told (c : Client) (net : Network) (frame : ByteArray) (payload : Option Payload)
    (s : Session) :
    let met := net s.contacts.length (.exchange frame payload)
    let x := c.exchange net frame payload s
    (x.1 = if c.hasUsableHost then
        (met.bind fun connection => (connection.converse frame payload).1).mapError .communication
      else .error (.communication .nulInName)) ∧
      x.2.contacts = s.contacts ++ if c.hasUsableHost then
        [{ errand := .exchange frame payload
           outcome := met.map fun connection => (connection.converse frame payload).2 }]
      else [] := by
  intro met x
  unfold x exchange
  by_cases hhost : c.hasUsableHost = true
  · simp only [if_pos hhost]
    cases hmet : met with
    | error fault =>
      simp only [show net s.contacts.length (.exchange frame payload) = .error fault from hmet]
      exact ⟨rfl, rfl⟩
    | ok connection =>
      rcases hconverse : connection.converse frame payload with ⟨result, left⟩
      simp only [show net s.contacts.length (.exchange frame payload) = .ok connection from hmet,
        hconverse, Except.bind, Except.map]
      cases result <;> exact ⟨rfl, rfl⟩
  · rw [if_neg hhost, if_neg hhost, if_neg hhost, List.append_nil]
    exact ⟨rfl, rfl⟩

/-- **The scan of an upload whose request is written to its end**, on the connection `before`. -/
structure Completes (c : Client) (net : Network) (payload : Payload) (s : Session)
    (before : Connection) : Prop where
  host : c.hasUsableHost = true
  met : net s.contacts.length (.exchange Command.stream.request.frame (some payload)) = .ok before
  written : (before.writeRequest Command.stream.request.frame (some payload)).1 = .ok ()

variable {c : Client} {net : Network} {payload : Payload} {s : Session} {before : Connection}

/-- The attempt of such a scan ends with the connection as the exchange leaves it. -/
theorem Completes.contacts (h : c.Completes net payload s before) :
    let frame := Command.stream.request.frame
    (c.scanPayload net payload s).2.contacts = s.contacts ++
      [{ errand := .exchange frame (some payload)
         outcome := .ok (before.converse frame (some payload)).2 }] := by
  intro frame
  have hsize : payload.chunkSize ≠ 0 := by
    have hpos := (Upload.isValidSize_iff.1 (Connection.delivered_upload h.written).1).1
    omega
  have hcontacts := (exchange_told c net frame (some payload) s).2
  rw [if_pos h.host, h.met] at hcontacts
  rw [scanPayload_eq, exchangeUpload, if_neg hsize]
  exact hcontacts

theorem plain_stream : Command.stream.request.Plain :=
  ⟨by decide, by decide, by decide, nofun⟩

/-- **Requests are uniquely decodable.**

* Whoever reads a plain request from its frame gets the request, and what follows it is left.
* So two plain requests have the same frame only if they are the same, and no frame is the beginning
  of another one.
* If the scan of an upload writes its request to its end, then the daemon can read the request for
  an upload from what is delivered, and from the rest the payload: all that was read of the source
  up to its end. That needs a limit as great as the payload, and leaves what follows it. -/
theorem requests_decodable :
    (∀ r : Request, r.Plain → ∀ tail,
        Request.read? (r.frame.data.toList ++ tail) = some (r, tail)) ∧
      (∀ r t : Request, r.Plain → t.Plain → r.frame = t.frame → r = t) ∧
      (∀ r t : Request, r.Plain → t.Plain →
        r.frame.data.toList <+: t.frame.data.toList → r = t) ∧
      ∀ (c : Client) (net : Network) (payload : Payload) (s : Session) (before : Connection),
        c.Completes net payload s before →
          ∃ after pieces left,
            (c.scanPayload net payload s).2.contacts = s.contacts ++
              [{ errand := .exchange Command.stream.request.frame (some payload)
                 outcome := .ok after }] ∧
            payload.source.Reads payload.chunkSize pieces (.ok ()) left ∧
            payload.source.rest = (Chunk.payload pieces).data.toList ++ left.rest ∧
            (∀ tail, Request.read? (before.delivered after ++ tail) =
              some (Command.stream.request, (Chunk.wire pieces).data.toList ++ tail)) ∧
            Upload.DecodesTo (Chunk.wire pieces) (Chunk.payload pieces) := by
  refine ⟨fun r hr => hr.read?_frame, ?_, fun r t hr ht => Request.eq_of_frame_prefix hr ht, ?_⟩
  · intro r t hr ht h
    exact Request.eq_of_frame_prefix hr ht (h ▸ List.prefix_refl _)
  · intro c net payload s before h
    obtain ⟨hvalid, pieces, left, hreads, hdelivered⟩ := Connection.delivered_upload h.written
    have hsendable := hreads.sendable (Upload.isValidSize_iff.1 hvalid).2
    refine ⟨_, pieces, left, h.contacts, hreads, hreads.rest, fun tail => ?_,
      Upload.decodesTo_wire hsendable⟩
    rw [hdelivered, List.append_assoc]
    exact plain_stream.read?_frame _

/-- A path that begins with a space and has a line feed in it, and an upload of two end marks. -/
theorem requests_decodable_zeros :
    let request : Request := { verb := "SCAN", argument := some " a\nb c" }
    let c : Client := { host := "localhost", port := 3310, style := .unix, chunkSize := 5 }
    let net : Network := fun _ _ => .ok {}
    let payload : Payload := { source := { bytes := ⟨#[0, 0, 0, 0, 0, 0, 0, 0]⟩ }, chunkSize := 5 }
    Request.read? (request.frame.data.toList ++ [0]) = some (request, [0]) ∧
      c.Completes net payload {} {} ∧
      ∃ after pieces, (c.scanPayload net payload {}).2.contacts =
          [{ errand := .exchange Command.stream.request.frame (some payload)
             outcome := .ok after }] ∧
        Request.read? (Connection.delivered {} after) =
          some (Command.stream.request, (Chunk.wire pieces).data.toList) ∧
        Upload.DecodesTo (Chunk.wire pieces) (Chunk.payload pieces) := by
  intro request c net payload
  obtain ⟨hread, -, -, hupload⟩ := requests_decodable
  have hcompletes : c.Completes net payload {} {} := ⟨by decide, rfl, by decide +kernel⟩
  obtain ⟨after, pieces, _, hcontacts, -, -, hrequest, hpayload⟩ := hupload _ _ _ _ _ hcompletes
  have hwhole := hrequest []
  rw [List.append_nil, List.append_nil] at hwhole
  have hplain : request.Plain := by
    refine ⟨by decide, by decide, by decide, ?_⟩
    rintro a ⟨⟩
    decide
  exact ⟨hread request hplain [0], hcompletes, after, pieces, hcontacts, hwhole, hpayload⟩

end Client

end Clamd
