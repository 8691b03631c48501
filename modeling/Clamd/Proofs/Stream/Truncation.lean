import Clamd.Proofs.Stream.Grammar

/-!
# Uploads that break off

An upload breaks off when its source fails, when its sink is full, or when the chunk size is not
possible. Whatever the reason is, the sink is left with the beginning of what it would have been
given otherwise, and that is never read as a complete upload.

* `Upload.sendRest_of_full`: a sink that does not take the whole script of a sender refuses it, and
  is left with as much of it as it takes;
* `Upload.send_bounded`: how an upload goes by the bound of its sink;
* `Upload.send_truncated`: what has been received of a broken upload is never accepted.
-/

namespace Clamd

namespace Source

/-- The pieces that reads give can go over the wire, if as many bytes as a read asks for can. -/
theorem Reads.sendable {n : Nat} {s left : Source} {pieces : List ByteArray}
    {ending : Except Fault Unit} (h : Reads n s pieces ending left) (hn : n < Word.end32) :
    Chunk.Sendable pieces := by
  induction h with
  | ended | failed => exact nofun
  | piece hread hdata _ ih =>
    have hle := (size_readSome hread).2
    exact Chunk.sendable_cons.2 ⟨⟨hdata, by omega⟩, ih⟩

end Source

namespace Sink

variable {s : Sink} {a : ByteArray}

/-- A sink that takes `room` bytes and no more. -/
def bounded (room : Nat) (refusal : Fault) (flushFault : Option Fault) : Sink :=
  { capacity := some room, refusal, flushFault }

/-- A write that does not fit is refused. -/
theorem writeAll_of_full (h : s.room a.size ≠ a.size) :
    s.writeAll a =
      (.error s.refusal, { s with received := s.received ++ a.extract 0 (s.room a.size) }) := by
  rw [writeAll]
  exact if_neg h

end Sink

namespace Upload

variable {n : Nat} {source left : Source} {pieces : List ByteArray} {ending : Except Fault Unit}
  {sink : Sink}

/-- **A sink that does not take the whole script** refuses it, with as much of it as it takes. -/
theorem sendRest_of_full (sink : Sink) (hreads : source.Reads n pieces ending left)
    (hroom : sink.room (Chunk.script ending pieces).size ≠ (Chunk.script ending pieces).size)
    (sent : Nat) :
    (sendRest n source sink sent).result = .error sink.refusal ∧
      (sendRest n source sink sent).sink.flushes = sink.flushes ∧
      (sendRest n source sink sent).sink.received.data.toList =
        sink.received.data.toList ++ (Chunk.script ending pieces).data.toList.take
          (sink.room (Chunk.script ending pieces).size) := by
  induction hreads generalizing sink sent with
  | failed hread =>
    -- nothing is to be written, so there is room for it
    exact absurd (Nat.le_zero.1 (sink.room_le 0)) hroom
  | ended hread hdata =>
    rw [Chunk.script, Chunk.mark, ← Chunk.encode_of_size_eq_zero hdata] at hroom ⊢
    rw [sendRest_of_readSome hread, Sink.writeAll_of_full hroom]
    exact ⟨rfl, rfl, by simp [ByteArray.data_extract]⟩
  | @piece s t left data pieces ending hread hdata hrest ih =>
    rw [Chunk.script, ByteArray.size_append] at hroom ⊢
    rw [ByteArray.data_append, Array.toList_append, sendRest_of_readSome hread]
    by_cases hfirst : sink.room (Chunk.encode data).size = (Chunk.encode data).size
    · -- the chunk of the piece fits, and the rest of the script does not
      rw [Sink.writeAll_of_room hfirst]
      simp only [if_neg hdata]
      rw [Ne, Sink.room_add_eq_iff, and_iff_right hfirst] at hroom
      obtain ⟨hresult, hflushes, hreceived⟩ := ih _ hroom (sent + data.size)
      refine ⟨hresult, hflushes, ?_⟩
      have hlength : (Chunk.encode data).data.toList.length = (Chunk.encode data).size := rfl
      rw [hreceived, Sink.room_add hfirst, ← hlength, List.take_length_add_append, Sink.append,
        ByteArray.data_append, Array.toList_append, List.append_assoc]
    · -- the chunk of the piece does not fit, and nothing of what follows is taken
      rw [Sink.writeAll_of_full hfirst, Sink.room_add_of_full hfirst]
      have hle := sink.room_le (Chunk.encode data).size
      refine ⟨rfl, rfl, ?_⟩
      rw [List.take_append_of_le_length (by simpa using hle)]
      simp [ByteArray.data_extract]

/-! ### Uploads to a sink with a bound -/

theorem isValidSize_iff : Chunk.isValidSize n = true ↔ 1 ≤ n ∧ n < Word.end32 := by
  rw [Chunk.isValidSize, Bool.and_eq_true, decide_eq_true_eq, decide_eq_true_eq]
  rfl

/-- A sink without bounds is given the whole script. -/
theorem received_send (hvalid : Chunk.isValidSize n = true)
    (hreads : source.Reads n pieces ending left) :
    (send n source {}).sink.received = Chunk.script ending pieces := by
  rw [send, if_pos hvalid, sendRest_of_room hreads rfl]
  cases ending <;> exact ByteArray.empty_append

section Bounded

variable {room : Nat} {refusal : Fault} {flushFault : Option Fault}

/-- **How an upload to a sink with a bound goes**, by whether the script is within the bound. -/
theorem send_bounded (room : Nat) (refusal : Fault) (flushFault : Option Fault)
    (hvalid : Chunk.isValidSize n = true) (hreads : source.Reads n pieces ending left) :
    let sent := send n source (.bounded room refusal flushFault)
    let script := Chunk.script ending pieces
    sent.sink.received.data.toList = script.data.toList.take room ∧
      (room < script.size → sent.result = .error refusal ∧ sent.sink.flushes = 0) ∧
      (script.size ≤ room → sent =
        concluded ending left { Sink.bounded room refusal flushFault with received := script }
          (Chunk.payload pieces).size) := by
  intro sent script
  have hsent : sent = sendRest n source (.bounded room refusal flushFault) 0 := if_pos hvalid
  rcases Nat.lt_or_ge room script.size with hroom | hroom
  · have hfull : (Sink.bounded room refusal flushFault).room script.size = room :=
      Nat.min_eq_right (Nat.le_of_lt hroom)
    obtain ⟨hresult, hflushes, hreceived⟩ :=
      sendRest_of_full (.bounded room refusal flushFault) hreads
        (by rw [hfull]; exact Nat.ne_of_lt hroom) 0
    rw [← hsent] at hresult hflushes hreceived
    rw [hfull] at hreceived
    exact ⟨hreceived, fun _ => ⟨hresult, hflushes⟩, fun hle => absurd hroom (Nat.not_lt.2 hle)⟩
  · have hfits : (Sink.bounded room refusal flushFault).room script.size = script.size :=
      Nat.min_eq_left hroom
    have hconcluded : sent = _ := hsent.trans (sendRest_of_room hreads hfits 0)
    rw [Sink.append, Nat.zero_add] at hconcluded
    have hempty : (Sink.bounded room refusal flushFault).received ++ script = script :=
      ByteArray.empty_append
    rw [hempty] at hconcluded
    refine ⟨?_, fun hlt => absurd hlt (Nat.not_lt.2 hroom), fun _ => hconcluded⟩
    have hreceived : sent.sink.received = script := by
      rw [hconcluded]
      cases ending with
      | error fault => rfl
      | ok done => cases flushFault <;> rfl
    rw [hreceived, List.take_of_length_le (by simpa using hroom)]

/-- **An upload that fails before the final flush** has not written its wire to the end. -/
theorem length_received_lt {fault : Fault} (hvalid : Chunk.isValidSize n = true)
    (hreads : source.Reads n pieces ending left)
    (hresult : (send n source (.bounded room refusal flushFault)).result = .error fault)
    (hflushes : (send n source (.bounded room refusal flushFault)).sink.flushes = 0) :
    (send n source (.bounded room refusal flushFault)).sink.received.data.toList.length <
      (Chunk.wire pieces).size := by
  obtain ⟨hreceived, -, hconcluded⟩ :=
    send_bounded room refusal flushFault hvalid hreads
  have hle := (Chunk.script_prefix ending pieces).length_le
  rw [Array.length_toList, Array.length_toList, ByteArray.size_data, ByteArray.size_data] at hle
  rw [hreceived, List.length_take, Array.length_toList, ByteArray.size_data]
  rcases Nat.lt_or_ge room (Chunk.script ending pieces).size with hroom | hroom
  · omega
  · -- all was written, so the source has failed, and the end mark is missing
    rw [hconcluded hroom] at hresult hflushes
    cases ending with
    | ok done =>
      rw [concluded, Sink.flush] at hflushes
      split at hflushes <;> cases hflushes
    | error fault' =>
      have hsize := congrArg ByteArray.size (Chunk.script_error_append fault' pieces)
      rw [ByteArray.size_append] at hsize
      have hmark : (Chunk.header 0).size = 4 := rfl
      omega

/-- **An upload whose source comes to its end** succeeds exactly if the sink takes the whole wire
and its flush succeeds. -/
theorem result_send_eq_ok_iff (hvalid : Chunk.isValidSize n = true)
    (hreads : source.Reads n pieces (.ok ()) left) :
    (∃ total, (send n source (.bounded room refusal flushFault)).result = .ok total) ↔
      flushFault = none ∧ (Chunk.wire pieces).size ≤ room := by
  obtain ⟨-, hfull, hconcluded⟩ :=
    send_bounded room refusal flushFault hvalid hreads
  rw [Chunk.script_ok] at hfull hconcluded
  rcases Nat.lt_or_ge room (Chunk.wire pieces).size with hroom | hroom
  · rw [(hfull hroom).1]
    constructor
    · rintro ⟨total, htotal⟩
      cases htotal
    · exact fun h => absurd hroom (Nat.not_lt.2 h.2)
  · rw [hconcluded hroom, and_iff_left hroom, concluded, Sink.flush]
    cases flushFault with
    | none => simp [Sink.bounded, Except.map]
    | some fault => simp [Sink.bounded, Except.map]

end Bounded

/-! ### Broken uploads -/

/-- A chunk size that is not possible stops an upload before it begins. -/
theorem send_of_invalid (h : ¬ Chunk.isValidSize n = true) (sink : Sink) :
    send n source sink = { result := .error (.chunkSize n), source, sink } :=
  if_neg h

/-- **A broken upload is never read as a complete one.** Let a sink take `room` bytes and no more,
however it refuses the others and whatever its flush comes to.

* It is left with the first `room` bytes of what a sink without bounds would have been given.
* If the upload fails before the final flush, then no reader accepts what has been received,
  whatever its limit is and however it cuts the bytes.
* If the source comes to its end and the chunk size is possible, then the upload succeeds exactly
  if the sink has room for the whole wire and its flush succeeds. -/
theorem send_truncated (n : Nat) (source : Source) (room : Nat) (refusal : Fault)
    (flushFault : Option Fault) :
    let sent := send n source (.bounded room refusal flushFault)
    let whole := (send n source {}).sink.received
    sent.sink.received.data.toList = whole.data.toList.take room ∧
      (∀ fault, sent.result = .error fault → sent.sink.flushes = 0 →
        ∀ (limit : Nat) (reader : Source), reader.rest = sent.sink.received.data.toList →
          ∃ fault', (receive limit reader).result = .error fault') ∧
      ∀ pieces left, 1 ≤ n → n < Word.end32 → source.Yields n pieces left →
        whole = Chunk.wire pieces ∧
          ((∃ total, sent.result = .ok total) ↔
            flushFault = none ∧ (Chunk.wire pieces).size ≤ room) := by
  intro sent whole
  by_cases hvalid : Chunk.isValidSize n = true
  · obtain ⟨pieces, ending, left, hreads⟩ := source.exists_reads n
    have hwhole : whole = Chunk.script ending pieces := received_send hvalid hreads
    have hreceived : sent.sink.received.data.toList = whole.data.toList.take room :=
      hwhole ▸ (send_bounded room refusal flushFault hvalid hreads).1
    refine ⟨hreceived, fun fault hresult hflushes limit reader hrest => ?_, ?_⟩
    · have hshort := length_received_lt hvalid hreads hresult hflushes
      have hbegins : reader.rest <+: (Chunk.wire pieces).data.toList := by
        rw [hrest, hreceived, hwhole]
        exact (List.take_prefix _ _).trans (Chunk.script_prefix ending pieces)
      exact receive_of_prefix (hreads.sendable (isValidSize_iff.1 hvalid).2) hbegins
        (hrest ▸ hshort) limit
    · intro pieces left _ _ hyields
      refine ⟨?_, result_send_eq_ok_iff hvalid hyields.reads⟩
      rw [← Chunk.script_ok]
      exact received_send hvalid hyields.reads
  · -- nothing is written, and nothing is not a wire
    have hsent : sent = _ := send_of_invalid hvalid _
    have hwhole : whole = .empty := congrArg (·.sink.received) (send_of_invalid hvalid {})
    rw [hsent, hwhole]
    refine ⟨List.take_nil.symm, fun fault _ _ limit reader hrest => ?_, ?_⟩
    · have hnil : reader.rest = [] := hrest
      have hnone : Chunk.Sendable [] := nofun
      refine receive_of_prefix hnone ?_ ?_ limit <;> rw [hnil]
      · exact List.nil_prefix
      · decide
    · intro pieces left hpos hfit _
      exact absurd (isValidSize_iff.2 ⟨hpos, hfit⟩) hvalid

/-- Five bytes of which four look like an end mark, to a sink that takes ten bytes of thirteen. -/
theorem send_truncated_zeros :
    let source (position : Nat) : Source := { bytes := ⟨#[0, 0, 0, 0, 7]⟩, position }
    let sent := send 5 (source 0) (.bounded 10 .writeZero none)
    (source 0).Yields 5 [⟨#[0, 0, 0, 0, 7]⟩] (source 5) ∧
      sent.result = .error .writeZero ∧ sent.sink.flushes = 0 ∧
      sent.sink.received.data.toList = [0, 0, 0, 5, 0, 0, 0, 0, 7, 0] ∧
      (∃ fault, (receive 100 { bytes := sent.sink.received }).result = .error fault) ∧
      ¬ ∃ total, sent.result = .ok total := by
  intro source sent
  have hyields : (source 0).Yields 5 [⟨#[0, 0, 0, 0, 7]⟩] (source 5) :=
    .piece (t := source 5) rfl (by decide) <| .ended rfl rfl
  obtain ⟨hreceived, hbroken, hcomplete⟩ := send_truncated 5 (source 0) 10 .writeZero none
  obtain ⟨hwire, hok⟩ := hcomplete _ _ (by decide) (by decide) hyields
  obtain ⟨hresult, hflushes⟩ :=
    (send_bounded 10 .writeZero none rfl hyields.reads).2.1 (by decide)
  refine ⟨hyields, hresult, hflushes, ?_, hbroken _ hresult hflushes 100 _ rfl, ?_⟩
  · rw [hwire] at hreceived
    exact hreceived
  · rw [hok]
    decide

end Upload

end Clamd
