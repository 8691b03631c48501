import Clamd.Exchange
import Clamd.Proofs.Stream.RoundTrip

/-!
# What a reply is made of

The reply of an exchange is the text of the bytes that the exchange takes from its connection, all
of them, decoded at once.

* `Connection.decode_of_readReplyFrom`: the bytes that are read go on where those that have been
  read before end;
* `Connection.fst_readReplyFrom`: what is read depends on the pieces that the reads give only by the
  bytes that they make up together, and on how the reads end;
* `Connection.fst_converse_upload`: when the upload has failed by a hang-up, the reply is the answer
  all the same, unless it is empty;
* `Connection.decode_of_converse`: the reply of an exchange is the text of the bytes it took.
-/

namespace Clamd

/-- A read that fails takes nothing. -/
theorem Source.rest_of_readSome_error {s t : Source} {n : Nat} {fault : Fault}
    (h : s.readSome n = (.error fault, t)) : t.rest = s.rest := by
  rw [readSome, read] at h
  split at h
  · cases h
    rfl
  · cases h
  · split at h
    · cases h
      rfl
    · cases h

namespace Connection

/-- The bytes that have been taken from a connection on the way from `before` to `after`. -/
def taken (before after : Connection) : ByteArray :=
  ⟨(before.incoming.rest.take
    (before.incoming.rest.length - after.incoming.rest.length)).toArray⟩

/-- What lies in front of what is left has been taken. -/
theorem taken_eq {before after : Connection} {bytes : ByteArray}
    (h : before.incoming.rest = bytes.data.toList ++ after.incoming.rest) :
    taken before after = bytes := by
  apply ByteArray.ext
  apply Array.ext'
  rw [taken, h, List.length_append, Nat.add_sub_cancel, List.take_left]

/-- **Reading the rest of a reply**: its text is that of what has been read before and of what is
read now. -/
theorem decode_of_readReplyFrom {limit : Nat} {source left : Source} {raw : ByteArray}
    {reply : String} (h : readReplyFrom limit source raw = (.ok reply, left)) :
    ∃ bytes : ByteArray, source.rest = bytes.data.toList ++ left.rest ∧
      reply = Text.Utf8.decodeLenient (raw ++ bytes) := by
  -- on the number of bytes that are left, which every read makes smaller
  induction hlen : source.remaining using Nat.strongRecOn generalizing source raw with
  | ind k ih =>
    have hdone : ∀ t : Source, t.rest = source.rest →
        ((.ok (Text.Utf8.decodeLenient raw), t) : Except Fault String × Source) =
          (.ok reply, left) →
        ∃ bytes : ByteArray, source.rest = bytes.data.toList ++ left.rest ∧
          reply = Text.Utf8.decodeLenient (raw ++ bytes) := by
      intro t hrest heq
      cases heq
      exact ⟨.empty, hrest.symm, by rw [ByteArray.append_empty]⟩
    rw [readReplyFrom] at h
    split at h
    next fault t hread =>
      -- a reset ends the reply
      split at h
      · exact hdone t (Source.rest_of_readSome_error hread) h
      · cases h
    next data t hread =>
      have hsplit := Source.rest_readSome hread
      split at h
      next hdata =>
        refine hdone t ?_ h
        rw [hsplit, ByteArray.size_eq_zero_iff.1 hdata]
        rfl
      next hdata =>
        split at h
        · cases h
        · have hsize := (Source.size_readSome hread).1
          obtain ⟨bytes, hrest, rfl⟩ := ih t.remaining (by omega) h rfl
          refine ⟨data ++ bytes, ?_, by rw [ByteArray.append_assoc]⟩
          rw [hsplit, hrest, ByteArray.data_append, Array.toList_append, List.append_assoc]

/-- What the bytes of a reply come to, by how the reads behind them end. -/
def replied (ending : Except Fault Unit) (raw : ByteArray) : Except Fault String :=
  match ending with
  | .ok () => .ok (Text.Utf8.decodeLenient raw)
  | .error fault =>
    if fault.kind = .system .connectionReset && raw.size != 0 then
      .ok (Text.Utf8.decodeLenient raw)
    else .error fault

theorem readReplyFrom_of_error {limit : Nat} {source left : Source} {raw : ByteArray}
    {fault : Fault} (hread : source.readSome readSize = (.error fault, left)) :
    (readReplyFrom limit source raw).1 = replied (.error fault) raw := by
  rw [readReplyFrom]
  split
  next hother =>
    cases hread.symm.trans hother
    simp only [replied]
    split <;> rfl
  next hother => cases hread.symm.trans hother

theorem readReplyFrom_of_ok {limit : Nat} {source left : Source} {raw data : ByteArray}
    (hread : source.readSome readSize = (.ok data, left)) :
    (readReplyFrom limit source raw).1 =
      if data.size = 0 then replied (.ok ()) raw
      else if limit < raw.size + data.size then .error (.replyLimit limit)
      else (readReplyFrom limit left (raw ++ data)).1 := by
  rw [readReplyFrom]
  split
  next hother => cases hread.symm.trans hother
  next hother =>
    cases hread.symm.trans hother
    split
    · rfl
    · split <;> rfl

/-- **Reading a reply, told by the reads**: it is what the pieces that are read come to together, or
too long. -/
theorem fst_readReplyFrom {limit : Nat} {source left : Source} {pieces : List ByteArray}
    {ending : Except Fault Unit} (hreads : source.Reads readSize pieces ending left)
    {raw : ByteArray} (hraw : raw.size ≤ limit) :
    (readReplyFrom limit source raw).1 =
      if limit < raw.size + (Chunk.payload pieces).size then .error (.replyLimit limit)
      else replied ending (raw ++ Chunk.payload pieces) := by
  have hshort : ¬ limit < raw.size + ByteArray.empty.size := Nat.not_lt.2 hraw
  induction hreads generalizing raw with
  | ended hread hdata =>
    rw [readReplyFrom_of_ok hread, if_pos hdata, Chunk.payload, if_neg hshort,
      ByteArray.append_empty]
  | failed hread =>
    rw [readReplyFrom_of_error hread, Chunk.payload, if_neg hshort, ByteArray.append_empty]
  | @piece s t left data pieces ending hread hdata hrest ih =>
    rw [readReplyFrom_of_ok hread, if_neg hdata, Chunk.payload, ByteArray.size_append,
      ← Nat.add_assoc, ← ByteArray.append_assoc]
    by_cases hlong : limit < raw.size + data.size
    · rw [if_pos hlong, if_pos (by omega)]
    · have hmore : (raw ++ data).size ≤ limit := by
        rw [ByteArray.size_append]
        omega
      rw [if_neg hlong, ih hmore (Nat.not_lt.2 hmore), ByteArray.size_append]

/-- Reading a reply takes the bytes of which it is the text. -/
theorem decode_of_readReply {limit : Nat} {c left : Connection} {reply : String}
    (h : c.readReply limit = (.ok reply, left)) :
    ∃ bytes : ByteArray, c.incoming.rest = bytes.data.toList ++ left.incoming.rest ∧
      reply = Text.Utf8.decodeLenient bytes := by
  rcases hread : readReplyFrom limit c.incoming .empty with ⟨result, incoming⟩
  rw [readReply, hread] at h
  cases h
  obtain ⟨bytes, hrest, hreply⟩ := decode_of_readReplyFrom hread
  rw [ByteArray.empty_append] at hreply
  exact ⟨bytes, hrest, hreply⟩

/-- Uploading takes nothing from the other side. -/
theorem incoming_writeUpload (payload : Option Payload) (c : Connection) :
    (writeUpload payload c).2.incoming = c.incoming := by
  cases payload <;> rfl

/-- What is answered when an upload has failed: the reply that was sent before the other side hung
up, or that the upload has failed. -/
def answered (fault : Fault) (reply : Except Fault String) : Except Fault String :=
  match reply with
  | .ok text => if fault.isHangUp && !text.isEmpty then .ok text else .error fault
  | .error _ => .error fault

/-- **An exchange with an upload**, if there is room for the frame: what becomes of the upload
decides how the reply is taken. -/
theorem fst_converse_upload {frame : ByteArray} {c : Connection}
    (hframe : c.outgoing.room frame.size = frame.size) (payload : Payload) :
    (c.converse frame (some payload)).1 =
      match (Upload.send payload.chunkSize payload.source (c.outgoing.append frame)).result with
      | .ok _ => (readReplyFrom replyLimit c.incoming .empty).1
      | .error fault => answered fault (readReplyFrom replyLimit c.incoming .empty).1 := by
  rw [converse, Sink.writeAll_of_room hframe]
  simp only [writeUpload]
  cases (Upload.send payload.chunkSize payload.source (c.outgoing.append frame)).result with
  | ok total => rfl
  | error fault =>
    simp only [Except.map, Option.isSome_some, Bool.true_and, readReply]
    rcases readReplyFrom replyLimit c.incoming .empty with ⟨_ | text, incoming⟩
    · cases fault.isHangUp <;> rfl
    · simp only [answered]
      cases fault.isHangUp <;> cases text.isEmpty <;> rfl

/-- **The reply of an exchange is the text of the bytes that it took**, whether the upload was
finished or cut off. -/
theorem decode_of_converse {frame : ByteArray} {payload : Option Payload} {c left : Connection}
    {reply : String} (h : c.converse frame payload = (.ok reply, left)) :
    reply = Text.Utf8.decodeLenient (c.taken left) := by
  have hread : ∀ {d : Connection}, d.incoming = c.incoming →
      d.readReply replyLimit = (.ok reply, left) →
        reply = Text.Utf8.decodeLenient (c.taken left) := by
    intro d hd hreply
    obtain ⟨bytes, hrest, hdecode⟩ := decode_of_readReply hreply
    rw [taken_eq (hd ▸ hrest), hdecode]
  rw [converse] at h
  split at h
  · cases h
  next outgoing hframe =>
    have hincoming := incoming_writeUpload payload { c with outgoing }
    split at h
    next d hupload =>
      rw [hupload] at hincoming
      exact hread hincoming h
    next fault d hupload =>
      rw [hupload] at hincoming
      split at h
      · -- the other side hung up on the upload, and has answered before
        split at h
        next answer e hanswer =>
          split at h
          · cases h
          · cases h
            exact hread hincoming hanswer
        · cases h
      · cases h

end Connection

end Clamd
