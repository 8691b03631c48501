import Clamd.Proofs.Client.Delivery
import Clamd.Proofs.Text.Utf8

/-!
# Uploads that do not come to their end

An upload ends early when the other side hangs up or when its source fails. The two are told apart
by the kind of the fault only.

* `Source.Replies` says that a reply has been sent that can be taken;
  `Connection.readReply_eq_ok_iff`: these replies are taken, and of the others only empty ones;
* `Source.Steady.replies`: it does not matter how the bytes of a reply are cut;
* `Client.exchangeUpload_cutOff`: a reply is taken whenever the other side hangs up, and if there is
  none the hang-up is what is told;
* `Client.exchangeUpload_failing`: a source that fails makes the exchange fail, unless it fails as
  if the other side had hung up and there is a reply to be taken.
-/

namespace Clamd

/-! ### Replies -/

/-- A source holds a reply that can be taken: some bytes, and not too many, behind which there is
the end or a reset. -/
def Source.Replies (source : Source) (reply : ByteArray) : Prop :=
  ∃ pieces ending left, source.Reads Connection.readSize pieces ending left ∧
    reply = Chunk.payload pieces ∧ reply.size ≠ 0 ∧ reply.size ≤ Connection.replyLimit ∧
      (ending = .ok () ∨ ending = .error (.system .connectionReset))

namespace Source

variable {n : Nat} {s left : Source} {pieces : List ByteArray} {ending : Except Fault Unit}

/-- A steady source fails by its final fault only. -/
theorem Steady.ending_eq {fault : Fault} (h : s.Steady)
    (hread : s.readSome n = (.error fault, left)) : s.ending = some fault := by
  have hhead := List.head?_dropWhile_not Source.readSome.isInterruption s.steps
  rw [Source.readSome, Source.read] at hread
  split at hread
  next other steps hsteps =>
    -- the interruptions in front have been skipped, and a steady source does not fail otherwise
    simp only at hsteps
    have hmem : ReadStep.fails other ∈ s.steps :=
      (List.dropWhile_sublist Source.readSome.isInterruption).subset (hsteps ▸ List.mem_cons_self)
    have hinterruption : Source.readSome.isInterruption (.fails other) = true := h _ hmem
    rw [hsteps] at hhead
    simp [hinterruption] at hhead
  next => cases hread
  next =>
    split at hread
    next hending _ =>
      cases hread
      exact hending
    next => cases hread

/-- **The reads of a steady source** give all its bytes, and then find the end or the final
fault. -/
theorem Reads.of_steady (hreads : Reads n s pieces ending left) (h : s.Steady) (hn : 0 < n) :
    (Chunk.payload pieces).data.toList = s.rest ∧
      ∀ fault, ending = .error fault → s.ending = some fault := by
  -- where reads end, a source that still held something would have given some of it
  induction hreads with
  | @ended s left data hread hdata =>
    refine ⟨?_, nofun⟩
    by_contra hrest
    obtain ⟨_, _, hother, hsize, -⟩ := h.readSome hn (.inl (Ne.symm hrest))
    cases hread.symm.trans hother
    exact hrest (hsize.1 hdata).symm
  | @failed s left fault hread =>
    refine ⟨?_, fun other hother => ?_⟩
    · by_contra hrest
      obtain ⟨_, _, hother, -⟩ := h.readSome hn (.inl (Ne.symm hrest))
      cases hread.symm.trans hother
    · cases hother
      exact h.ending_eq hread
  | @piece s t left data pieces ending hread hdata _ ih =>
    have hrest : s.rest ≠ [] := by
      rw [rest_readSome hread]
      intro hnil
      have hlength := congrArg List.length (List.append_eq_nil_iff.1 hnil).1
      exact hdata hlength
    obtain ⟨_, _, hother, -, hsplit, ht, hending⟩ := h.readSome hn (.inl hrest)
    cases hread.symm.trans hother
    obtain ⟨hpayload, hfault⟩ := ih ht
    refine ⟨?_, hending ▸ hfault⟩
    rw [Chunk.payload, ByteArray.data_append, Array.toList_append, hpayload, hsplit]

/-- **What a steady source holds is a reply** if there is anything and not too much of it, whether
its bytes come at once or in many pieces. -/
theorem Steady.replies {reply : ByteArray} (h : s.Steady) (hrest : s.rest = reply.data.toList)
    (hsize : reply.size ≠ 0) (hlimit : reply.size ≤ Connection.replyLimit)
    (hending : ∀ fault, s.ending = some fault → fault = .system .connectionReset) :
    s.Replies reply := by
  obtain ⟨pieces, ending, left, hreads⟩ := s.exists_reads Connection.readSize
  obtain ⟨hpayload, hfault⟩ := hreads.of_steady h (by decide)
  refine ⟨pieces, ending, left, hreads, ?_, hsize, hlimit, ?_⟩
  · exact ByteArray.ext (Array.ext' (hrest.symm.trans hpayload.symm))
  · cases ending with
    | ok done => exact .inl rfl
    | error fault => exact .inr (congrArg _ (hending fault (hfault fault rfl)))

end Source

namespace Connection

/-- Some bytes are a reply if there is the end or a reset behind them. -/
theorem replied_eq_ok_iff {ending : Except Fault Unit} {raw : ByteArray} {text : String}
    (hraw : raw.size ≠ 0) :
    replied ending raw = .ok text ↔ text = Text.Utf8.decodeLenient raw ∧
      (ending = .ok () ∨ ending = .error (.system .connectionReset)) := by
  cases ending with
  | ok done => simp [replied, eq_comm]
  | error fault =>
    have hkind : fault.kind = .system .connectionReset ↔ fault = .system .connectionReset := by
      cases fault <;> simp [Fault.kind]
    simp only [replied, hkind]
    -- of all faults only a reset lets the bytes in front of it count
    by_cases hreset : fault = .system .connectionReset
    · rw [if_pos (by simp [hreset, hraw]), Except.ok.injEq, hreset, eq_comm]
      exact (and_iff_left (.inr rfl)).symm
    · rw [if_neg (by simp [hreset])]
      simp [hreset]

/-- No bytes are no reply, or an empty one. -/
theorem eq_empty_of_replied {ending : Except Fault Unit} {raw : ByteArray} {text : String}
    (hraw : raw.size = 0) (h : replied ending raw = .ok text) : text = "" := by
  cases ending with
  | ok done =>
    cases h
    exact Text.Utf8.decodeLenient_eq_empty_iff.2 hraw
  | error fault => simp [replied, hraw] at h

/-- What is read in all, told by the reads. -/
theorem fst_readReply {source left : Source} {pieces : List ByteArray}
    {ending : Except Fault Unit} (hreads : source.Reads readSize pieces ending left) :
    (readReplyFrom replyLimit source .empty).1 =
      if replyLimit < (Chunk.payload pieces).size then .error (.replyLimit replyLimit)
      else replied ending (Chunk.payload pieces) := by
  rw [fst_readReplyFrom hreads (Nat.zero_le _), ByteArray.empty_append, ByteArray.size_empty,
    Nat.zero_add]

/-- **The replies that are taken** are those that are not empty. -/
theorem readReply_eq_ok_iff {source : Source} {text : String} :
    (readReplyFrom replyLimit source .empty).1 = .ok text ∧ text ≠ "" ↔
      ∃ reply, source.Replies reply ∧ text = Text.Utf8.decodeLenient reply := by
  constructor
  · rintro ⟨htaken, htext⟩
    obtain ⟨pieces, ending, left, hreads⟩ := source.exists_reads readSize
    rw [fst_readReply hreads] at htaken
    split at htaken
    next => cases htaken
    next hlimit =>
      have hsize : (Chunk.payload pieces).size ≠ 0 :=
        fun hzero => htext (eq_empty_of_replied hzero htaken)
      obtain ⟨rfl, hending⟩ := (replied_eq_ok_iff hsize).1 htaken
      exact ⟨_, ⟨pieces, ending, left, hreads, rfl, hsize, Nat.not_lt.1 hlimit, hending⟩, rfl⟩
  · rintro ⟨_, ⟨pieces, ending, left, hreads, rfl, hsize, hlimit, hending⟩, rfl⟩
    refine ⟨?_, fun hempty => hsize (Text.Utf8.decodeLenient_eq_empty_iff.1 hempty)⟩
    rw [fst_readReply hreads, if_neg (Nat.not_lt.2 hlimit)]
    exact (replied_eq_ok_iff hsize).2 ⟨rfl, hending⟩

/-- A failed upload is answered by a reply that can be taken, if the fault is a hang-up. -/
theorem answered_of_replies {source : Source} {fault : Fault} {reply : ByteArray}
    (hfault : fault.isHangUp = true) (hreply : source.Replies reply) :
    answered fault (readReplyFrom replyLimit source .empty).1 =
      .ok (Text.Utf8.decodeLenient reply) := by
  obtain ⟨hread, htext⟩ := readReply_eq_ok_iff.2 ⟨reply, hreply, rfl⟩
  rw [hread, answered, hfault, String.isEmpty_eq_false_iff.2 htext]
  rfl

/-- Without such a reply, or without a hang-up, the fault is told. -/
theorem answered_of_not_replies {source : Source} {fault : Fault}
    (h : fault.isHangUp = true → ¬ ∃ reply, source.Replies reply) :
    answered fault (readReplyFrom replyLimit source .empty).1 = .error fault := by
  cases hread : (readReplyFrom replyLimit source .empty).1 with
  | error other => rfl
  | ok text =>
    rw [answered]
    split
    next htaken =>
      rw [Bool.and_eq_true, Bool.not_eq_true', String.isEmpty_eq_false_iff] at htaken
      obtain ⟨reply, hreply, -⟩ := readReply_eq_ok_iff.1 ⟨hread, htaken.2⟩
      exact absurd ⟨reply, hreply⟩ (h htaken.1)
    next => rfl

/-- If the first read gives nothing, there is no reply. -/
theorem not_replies_of_reads_nil {source left : Source} {ending : Except Fault Unit}
    (hreads : source.Reads readSize [] ending left) : ¬ ∃ reply, source.Replies reply := by
  rintro ⟨reply, hreply⟩
  obtain ⟨hread, htext⟩ := readReply_eq_ok_iff.2 ⟨reply, hreply, rfl⟩
  rw [fst_readReply hreads, Chunk.payload, ByteArray.size_empty,
    if_neg (Nat.not_lt_zero _)] at hread
  exact htext (eq_empty_of_replied rfl hread)

/-- A request that could not be written fails with what stopped the writing, if there is no reply. -/
theorem fst_converse_of_not_replies {frame : ByteArray} {payload : Payload} {c : Connection}
    {fault : Fault} (hwritten : (c.writeRequest frame (some payload)).1 = .error fault)
    (hnone : ¬ ∃ reply, c.incoming.Replies reply) :
    (c.converse frame (some payload)).1 = .error fault := by
  by_cases hframe : c.outgoing.room frame.size = frame.size
  · rw [writeRequest, Sink.writeAll_of_room hframe] at hwritten
    rw [fst_converse_upload hframe]
    cases hsent : (Upload.send payload.chunkSize payload.source
        (c.outgoing.append frame)).result with
    | ok total =>
      simp only [writeUpload, hsent] at hwritten
      cases hwritten
    | error other =>
      simp only [writeUpload, hsent] at hwritten
      cases hwritten
      exact answered_of_not_replies fun _ => hnone
  · -- not even the frame could be written, and nothing is read
    rw [writeRequest, Sink.writeAll_of_full hframe] at hwritten
    rw [converse, Sink.writeAll_of_full hframe]
    cases hwritten
    rfl

end Connection

/-! ### Hanging up -/

/-- A sink that refuses only as if the other side had hung up. -/
structure Sink.HangsUp (s : Sink) : Prop where
  /-- So does a write that finds the sink full. -/
  refusal : s.capacity ≠ none → s.refusal.isHangUp = true
  /-- So does a flush. -/
  flushFault : ∀ fault, s.flushFault = some fault → fault.isHangUp = true

/-- **An upload whose source comes to its end** can fail by a hang-up only, if its sink can. -/
theorem Upload.isHangUp_of_send {n : Nat} {source left : Source} {pieces : List ByteArray}
    {sink : Sink} {fault : Fault} (hsink : sink.HangsUp) (hvalid : Chunk.isValidSize n = true)
    (hreads : source.Reads n pieces (.ok ()) left)
    (hfault : (send n source sink).result = .error fault) : fault.isHangUp = true := by
  rw [send, if_pos hvalid] at hfault
  by_cases hroom : sink.room (Chunk.script (.ok ()) pieces).size =
      (Chunk.script (.ok ()) pieces).size
  · -- all was written, so the flush has failed
    rw [sendRest_of_room hreads hroom, concluded, Sink.flush] at hfault
    cases hflush : sink.flushFault with
    | none =>
      simp only [Sink.append, hflush] at hfault
      cases hfault
    | some other =>
      simp only [Sink.append, hflush] at hfault
      cases hfault
      exact hsink.flushFault _ hflush
  · -- there is a bound, at which the sink has refused
    rw [(sendRest_of_full sink hreads hroom 0).1] at hfault
    cases hfault
    refine hsink.refusal fun hnone => hroom ?_
    rw [Sink.room, hnone]

/-- An upload to a sink that takes everything fails as its source does. -/
theorem Upload.result_send_of_failing {n : Nat} {source left : Source} {pieces : List ByteArray}
    {sink : Sink} {fault : Fault} (hsink : sink.AcceptsAll) (hvalid : Chunk.isValidSize n = true)
    (hreads : source.Reads n pieces (.error fault) left) :
    (send n source sink).result = .error fault := by
  rw [send, if_pos hvalid, sendRest_of_room hreads (hsink.room _)]
  rfl

namespace Client

variable {c : Client} {net : Network} {frame : ByteArray} {payload : Payload} {s : Session}
  {connection : Connection}

/-- The exchange of an upload meets `connection`. -/
structure Meets (c : Client) (net : Network) (frame : ByteArray) (payload : Payload) (s : Session)
    (connection : Connection) : Prop where
  /-- The host can be looked up. -/
  host : c.hasUsableHost = true
  /-- The network gives the connection. -/
  met : net s.contacts.length (.exchange frame (some payload)) = .ok connection
  /-- The chunk size is possible. -/
  chunkSize : Chunk.isValidSize payload.chunkSize = true

/-- The client takes `text` for the answer, and remembers the exchange. -/
def Takes (frame : ByteArray) (connection : Connection) (text : String)
    (x : Except Failure String × Session) : Prop :=
  x.1 = .ok text ∧ x.2.lastRun = some (.ofExchange frame text connection.elapsed)

/-- The exchange fails with `fault`, and nothing is remembered of it. -/
def FailsWith (s : Session) (fault : Fault) (x : Except Failure String × Session) : Prop :=
  x.1 = .error (.communication fault) ∧ x.2.lastRun = s.lastRun

theorem Meets.exchangeUpload_eq (h : c.Meets net frame payload s connection) :
    c.exchangeUpload net frame payload s = c.exchange net frame (some payload) s := by
  have hpos := (Upload.isValidSize_iff.1 h.chunkSize).1
  exact if_neg (by omega)

/-- What the exchange comes to is what the two sides come to on the connection. -/
theorem Meets.told (h : c.Meets net frame payload s connection) :
    match (connection.converse frame (some payload)).1 with
    | .ok text => Takes frame connection text (c.exchangeUpload net frame payload s)
    | .error fault => FailsWith s fault (c.exchangeUpload net frame payload s) := by
  rcases hconverse : connection.converse frame (some payload) with ⟨result, left⟩
  rw [h.exchangeUpload_eq, exchange, if_pos h.host]
  simp only [h.met, hconverse]
  cases result <;> exact ⟨rfl, rfl⟩

theorem Meets.takes (h : c.Meets net frame payload s connection) {text : String}
    (hanswer : (connection.converse frame (some payload)).1 = .ok text) :
    Takes frame connection text (c.exchangeUpload net frame payload s) := by
  have htold := h.told
  rw [hanswer] at htold
  exact htold

theorem Meets.failsWith (h : c.Meets net frame payload s connection) {fault : Fault}
    (hanswer : (connection.converse frame (some payload)).1 = .error fault) :
    FailsWith s fault (c.exchangeUpload net frame payload s) := by
  have htold := h.told
  rw [hanswer] at htold
  exact htold

/-! ### The source comes to its end -/

/-- **A hang-up hides no reply.** Let the source of an upload come to its end, and let there be room
for the frame on a connection that can only be broken by a hang-up. If a reply has been sent, it is
taken, at whatever byte of the upload the hang-up is noticed, or if it is not noticed at all.

If no byte has been sent and the request could not be written, the exchange fails with what stopped
the writing, however the reads end. -/
theorem exchangeUpload_cutOff (h : c.Meets net frame payload s connection) :
    (∀ reply pieces left, payload.source.Reads payload.chunkSize pieces (.ok ()) left →
        connection.outgoing.room frame.size = frame.size → connection.outgoing.HangsUp →
          connection.incoming.Replies reply →
            Takes frame connection (Text.Utf8.decodeLenient reply)
              (c.exchangeUpload net frame payload s)) ∧
      ∀ fault ending left, connection.incoming.Reads Connection.readSize [] ending left →
        (connection.writeRequest frame (some payload)).1 = .error fault →
          FailsWith s fault (c.exchangeUpload net frame payload s) := by
  constructor
  · intro reply pieces left hreads hframe hhangsUp hreply
    refine h.takes ?_
    rw [Connection.fst_converse_upload hframe]
    -- the hang-up was not noticed, or it was: the same reply is read
    cases hsent : (Upload.send payload.chunkSize payload.source
        (connection.outgoing.append frame)).result with
    | ok total => exact (Connection.readReply_eq_ok_iff.2 ⟨reply, hreply, rfl⟩).1
    | error fault =>
      have happend : (connection.outgoing.append frame).HangsUp :=
        ⟨hhangsUp.refusal, hhangsUp.flushFault⟩
      have hfault := Upload.isHangUp_of_send happend h.chunkSize hreads hsent
      exact Connection.answered_of_replies hfault hreply
  · intro fault ending left hreads hwritten
    have hnone := Connection.not_replies_of_reads_nil hreads
    exact h.failsWith (Connection.fst_converse_of_not_replies hwritten hnone)

/-- Five bytes in chunks of three. The connection breaks in the second chunk, or behind the end mark,
where nobody notices; and it breaks with no reply. -/
theorem exchangeUpload_cutOff_chunk :
    let c : Client := { host := "localhost", port := 3310, style := .unix, chunkSize := 3 }
    let frame := Command.stream.request.frame
    let payload : Payload := { source := { bytes := ⟨#[1, 2, 3, 4, 5]⟩ }, chunkSize := 3 }
    let met (room : Nat) (reply : String) : Connection :=
      { outgoing := { capacity := some room, refusal := .system .brokenPipe }
        incoming :=
          { bytes := Text.Utf8.encode reply, ending := some (.system .connectionReset) } }
    let answer := "stream: OK\x00"
    let upload (connection : Connection) :=
      c.exchangeUpload (fun _ _ => .ok connection) frame payload {}
    Takes frame (met 19 answer) answer (upload (met 19 answer)) ∧
      Takes frame (met 27 answer) answer (upload (met 27 answer)) ∧
      FailsWith {} (.system .brokenPipe) (upload (met 19 "")) := by
  intro c frame payload met answer upload
  have hmeets : ∀ connection : Connection,
      c.Meets (fun _ _ => .ok connection) frame payload {} connection :=
    fun _ => ⟨by decide, rfl, rfl⟩
  have hreads : payload.source.Reads payload.chunkSize [⟨#[1, 2, 3]⟩, ⟨#[4, 5]⟩] (.ok ())
      { payload.source with position := 5 } :=
    .piece (t := { payload.source with position := 3 }) rfl (by decide) <|
    .piece (t := { payload.source with position := 5 }) rfl (by decide) <| .ended rfl rfl
  have hhangsUp : ∀ room reply, (met room reply).outgoing.HangsUp :=
    fun _ _ => ⟨fun _ => rfl, nofun⟩
  have hreply : ∀ room, (met room answer).incoming.Replies (Text.Utf8.encode answer) := by
    intro room
    refine Source.Steady.replies nofun rfl (by decide +kernel) (by decide +kernel) ?_
    rintro fault ⟨⟩
    rfl
  have hdecode : Text.Utf8.decodeLenient (Text.Utf8.encode answer) = answer := by decide +kernel
  have htakes : ∀ room, (met room answer).outgoing.room frame.size = frame.size →
      Takes frame (met room answer) answer (upload (met room answer)) := by
    intro room hframe
    have h := (exchangeUpload_cutOff (hmeets (met room answer))).1 _ _ _ hreads hframe
      (hhangsUp room answer) (hreply room)
    rwa [hdecode] at h
  refine ⟨htakes 19 (by decide +kernel), htakes 27 (by decide +kernel), ?_⟩
  exact (exchangeUpload_cutOff (hmeets (met 19 ""))).2 _ (.error (.system .connectionReset)) _
    (.failed rfl) (by decide +kernel)

/-! ### The source fails -/

/-- **A source that fails.** Let a connection take everything that is written to it, and let the
source of an upload fail with `fault`. Then the exchange fails with `fault`, unless it is of a kind
by which a hang-up is told and there is a reply: that is then taken, as an answer to an upload of
which the daemon has not got the end. -/
theorem exchangeUpload_failing (h : c.Meets net frame payload s connection)
    (haccepts : connection.outgoing.AcceptsAll) {fault : Fault} {pieces : List ByteArray}
    {left : Source}
    (hreads : payload.source.Reads payload.chunkSize pieces (.error fault) left) :
    ((fault.isHangUp = true → ¬ ∃ reply, connection.incoming.Replies reply) →
        FailsWith s fault (c.exchangeUpload net frame payload s)) ∧
      ∀ reply, fault.isHangUp = true → connection.incoming.Replies reply →
        Takes frame connection (Text.Utf8.decodeLenient reply)
          (c.exchangeUpload net frame payload s) := by
  have happend : (connection.outgoing.append frame).AcceptsAll :=
    ⟨haccepts.capacity, haccepts.flushFault⟩
  have hconverse : (connection.converse frame (some payload)).1 =
      Connection.answered fault
        (Connection.readReplyFrom Connection.replyLimit connection.incoming .empty).1 := by
    rw [Connection.fst_converse_upload (haccepts.room _),
      Upload.result_send_of_failing happend h.chunkSize hreads]
  constructor
  · intro hnone
    exact h.failsWith (hconverse.trans (Connection.answered_of_not_replies hnone))
  · intro reply hfault hreply
    exact h.takes (hconverse.trans (Connection.answered_of_replies hfault hreply))

/-- A disk that fails after three bytes is told, although the daemon has answered. -/
theorem exchangeUpload_failing_disk :
    let c : Client := { host := "localhost", port := 3310, style := .unix, chunkSize := 8 }
    let frame := Command.stream.request.frame
    let source : Source := { bytes := ⟨#[1, 2, 3]⟩, ending := some (.reported "disk failure") }
    let connection := Peer.replying (Text.Utf8.encode "stream: OK\x00")
    FailsWith {} (.reported "disk failure")
      (c.exchangeUpload (fun _ _ => .ok connection) frame { source, chunkSize := 8 } {}) := by
  intro c frame source connection
  have hmeets : c.Meets (fun _ _ => .ok connection) frame { source, chunkSize := 8 } {}
      connection := ⟨by decide, rfl, rfl⟩
  have hreads : source.Reads 8 [⟨#[1, 2, 3]⟩] (.error (.reported "disk failure"))
      { source with position := 3 } :=
    .piece (t := { source with position := 3 }) rfl (by decide) <| .failed rfl
  exact (exchangeUpload_failing hmeets ⟨rfl, rfl⟩ hreads).1 nofun

/-- **A source that fails as if the other side had hung up** after three bytes: the daemon has got no
end mark, and what it has said is taken for the answer to the upload. -/
theorem exchangeUpload_failing_reset :
    let c : Client := { host := "localhost", port := 3310, style := .unix, chunkSize := 8 }
    let frame := Command.stream.request.frame
    let source : Source :=
      { bytes := ⟨#[1, 2, 3]⟩, ending := some (.system .connectionReset) }
    let connection := Peer.replying (Text.Utf8.encode "stream: OK\x00")
    let net : Network := fun _ _ => .ok connection
    let payload : Payload := { source, chunkSize := 8 }
    let x := c.exchangeUpload net frame payload {}
    c.Meets net frame payload {} connection ∧ connection.outgoing.AcceptsAll ∧
      source.Reads 8 [⟨#[1, 2, 3]⟩] (.error (.system .connectionReset))
        { source with position := 3 } ∧
      (Fault.system .connectionReset).isInterruption = false ∧
      Takes frame connection "stream: OK\x00" x ∧ ¬ FailsWith {} (.system .connectionReset) x := by
  intro c frame source connection net payload x
  have htakes : Takes frame connection "stream: OK\x00" x := by
    constructor <;> decide +kernel
  refine ⟨⟨by decide, rfl, rfl⟩, ⟨rfl, rfl⟩, ?_, rfl, htakes, fun hfails => ?_⟩
  · exact .piece (t := { source with position := 3 }) rfl (by decide) <| .failed rfl
  · cases htakes.1.symm.trans hfails.1

end Client

end Clamd
