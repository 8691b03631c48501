import Clamd.Proofs.Stream.Reading
import Clamd.Word

/-!
# Uploads come back as they were sent

An upload is cut into chunks by the reads of its sender, and its reader puts the chunks together
again. The pieces that the sender's reads give fix what goes over the wire (`Chunk.wire`), and the
wire fixes what is read from it, whatever follows the end mark:

* `Chunk.script` is what a sender writes for the reads of its source, the wire of the pieces if they
  find the end; `Upload.sendRest_of_room`: it does so if the sink takes all of it;
* `Upload.receiveRest_chunk`: a chunk that comes next is refused if it would exceed the limit, and
  is put behind what has been read otherwise;
* `Upload.decodesTo_wire`: reading the wire of some pieces gives the pieces, put together;
* `Upload.receive_send`: the round trip. What is read depends neither on the chunk size nor on how
  the source was cut.
-/

namespace Clamd

namespace Chunk

/-- Four bytes hold every length below 2³². -/
theorem lengthOf_header {n : Nat} (h : n < Word.end32) : lengthOf (header n) = n := by
  have hbytes : lengthOf (header n) =
      (((0 * 256 + n / 0x1000000 % 256) * 256 + n / 0x10000 % 256) * 256 + n / 0x100 % 256) * 256 +
        n % 256 := by
    simp [lengthOf, header]
  have hend : Word.end32 = 0x100000000 := rfl
  omega

/-- The bytes that some pieces make up together. -/
def payload : List ByteArray → ByteArray
  | [] => .empty
  | data :: pieces => data ++ payload pieces

/-- **What goes over the wire for some pieces**: a chunk for each of them, and the end mark. -/
def wire : List ByteArray → ByteArray
  | [] => header 0
  | data :: pieces => encode data ++ wire pieces

/-- What a sender writes behind the last chunk: the end mark, or nothing after a fault. -/
def mark : Except Fault Unit → ByteArray
  | .ok () => header 0
  | .error _ => .empty

/-- **What a sender writes** for the reads of a source: a chunk for each piece, and the end mark if
the source has come to its end. -/
def script (ending : Except Fault Unit) : List ByteArray → ByteArray
  | [] => mark ending
  | data :: pieces => encode data ++ script ending pieces

theorem script_ok (pieces : List ByteArray) : script (.ok ()) pieces = wire pieces := by
  induction pieces with
  | nil => rfl
  | cons data pieces ih => rw [script, ih, wire]

/-- After a fault the end mark is missing. -/
theorem script_error_append (fault : Fault) (pieces : List ByteArray) :
    script (.error fault) pieces ++ header 0 = wire pieces := by
  induction pieces with
  | nil => exact ByteArray.empty_append
  | cons data pieces ih => rw [script, ByteArray.append_assoc, ih, wire]

/-- A sender writes a wire, or the beginning of one. -/
theorem script_prefix (ending : Except Fault Unit) (pieces : List ByteArray) :
    (script ending pieces).data.toList <+: (wire pieces).data.toList := by
  cases ending with
  | ok done =>
    exact ⟨[], by rw [script_ok, List.append_nil]⟩
  | error fault =>
    rw [← script_error_append fault, ByteArray.data_append, Array.toList_append]
    exact List.prefix_append _ _

/-- A chunk of no bytes is the end mark. -/
theorem encode_of_size_eq_zero {data : ByteArray} (h : data.size = 0) : encode data = header 0 := by
  rw [encode, ByteArray.size_eq_zero_iff.1 h, ByteArray.append_empty]
  rfl

theorem toList_payload (pieces : List ByteArray) :
    (payload pieces).data.toList = pieces.flatMap (·.data.toList) := by
  induction pieces with
  | nil => rfl
  | cons data pieces ih =>
    rw [payload, ByteArray.data_append, Array.toList_append, ih, List.flatMap_cons]

end Chunk

/-! ### Sending -/

namespace Sink

/-- A sink that takes every write and every flush. -/
structure AcceptsAll (s : Sink) : Prop where
  /-- There is no bound on what it takes. -/
  capacity : s.capacity = none
  /-- Flushing does not fail. -/
  flushFault : s.flushFault = none

/-- The sink after it took some more bytes. -/
def append (s : Sink) (bytes : ByteArray) : Sink :=
  { s with received := s.received ++ bytes }

theorem append_append (s : Sink) (a b : ByteArray) :
    (s.append a).append b = s.append (a ++ b) := by
  rw [append, append, append, ByteArray.append_assoc]

variable {s : Sink} {a : ByteArray}

/-- Behind what a sink takes it has that much less room. -/
theorem room_add (h : s.room a.size = a.size) (n : Nat) :
    s.room (a.size + n) = a.size + (s.append a).room n := by
  cases hcapacity : s.capacity with
  | none => simp only [room, append, hcapacity]
  | some c =>
    simp only [room, append, hcapacity, ByteArray.size_append] at h ⊢
    omega

/-- A sink that does not take all of `a` takes nothing of what follows. -/
theorem room_add_of_full (h : s.room a.size ≠ a.size) (n : Nat) :
    s.room (a.size + n) = s.room a.size := by
  cases hcapacity : s.capacity with
  | none => simp [room, hcapacity] at h
  | some c =>
    simp only [room, hcapacity] at h ⊢
    omega

/-- A sink takes two parts if it takes the first one and then the second one. -/
theorem room_add_eq_iff {n : Nat} :
    s.room (a.size + n) = a.size + n ↔ s.room a.size = a.size ∧ (s.append a).room n = n := by
  by_cases hfirst : s.room a.size = a.size
  · rw [room_add hfirst, Nat.add_left_cancel_iff]
    exact (and_iff_right hfirst).symm
  · have hle := s.room_le a.size
    rw [room_add_of_full hfirst]
    omega

theorem writeAll_of_room (h : s.room a.size = a.size) : s.writeAll a = (.ok (), s.append a) := by
  rw [writeAll]
  exact if_pos h

namespace AcceptsAll

theorem room (h : s.AcceptsAll) (n : Nat) : s.room n = n := by
  rw [Sink.room, h.capacity]

theorem flush (h : s.AcceptsAll) : s.flush = (.ok (), { s with flushes := s.flushes + 1 }) := by
  rw [Sink.flush]
  simp only [h.flushFault]

end AcceptsAll

end Sink

namespace Upload

variable {n limit : Nat} {source left : Source} {pieces : List ByteArray}
  {ending : Except Fault Unit} {sink : Sink}

/-- One round of a sender whose read gives `data`. -/
theorem sendRest_of_readSome {data : ByteArray} (hread : source.readSome n = (.ok data, left))
    (sent : Nat) :
    sendRest n source sink sent =
      match sink.writeAll (Chunk.encode data) with
      | (.error fault, sink) => { result := .error fault, source := left, sink }
      | (.ok (), sink) =>
        if data.size = 0 then
          match sink.flush with
          | (.error fault, sink) => { result := .error fault, source := left, sink }
          | (.ok (), sink) => { result := .ok sent, source := left, sink }
        else sendRest n left sink (sent + data.size) := by
  rw [sendRest]
  split
  next fault t hfault =>
    rw [hread] at hfault
    cases hfault
  next data' t hdata =>
    rw [hread] at hdata
    cases hdata
    rfl

/-- A round of a sender whose read fails. -/
theorem sendRest_of_fault {fault : Fault} (hread : source.readSome n = (.error fault, left))
    (sink : Sink) (sent : Nat) :
    sendRest n source sink sent = { result := .error fault, source := left, sink } := by
  rw [sendRest]
  split
  next hfault =>
    rw [hread] at hfault
    cases hfault
    rfl
  next hdata =>
    rw [hread] at hdata
    cases hdata

/-- How a sender ends that has written all that it has to write. -/
def concluded (ending : Except Fault Unit) (source : Source) (sink : Sink) (total : Nat) : Sent :=
  match ending with
  | .error fault => { result := .error fault, source, sink }
  | .ok () => { result := sink.flush.1.map fun _ => total, source, sink := sink.flush.2 }

/-- **A sink that takes the whole script** lets the sender conclude. -/
theorem sendRest_of_room (hreads : source.Reads n pieces ending left)
    (hroom : sink.room (Chunk.script ending pieces).size = (Chunk.script ending pieces).size)
    (sent : Nat) :
    sendRest n source sink sent =
      concluded ending left (sink.append (Chunk.script ending pieces))
        (sent + (Chunk.payload pieces).size) := by
  induction hreads generalizing sink sent with
  | failed hread =>
    rw [sendRest_of_fault hread, Chunk.script, Chunk.mark, Sink.append, ByteArray.append_empty]
    rfl
  | ended hread hdata =>
    rw [Chunk.script, Chunk.mark, ← Chunk.encode_of_size_eq_zero hdata] at hroom ⊢
    rw [sendRest_of_readSome hread, Sink.writeAll_of_room hroom]
    simp only [if_pos hdata, concluded]
    rcases (sink.append _).flush with ⟨result, flushed⟩
    cases result <;> rfl
  | piece hread hdata hrest ih =>
    -- the chunk of the piece goes first, and then the rest of the script has room
    rw [Chunk.script, ByteArray.size_append, Sink.room_add_eq_iff] at hroom
    rw [sendRest_of_readSome hread, Sink.writeAll_of_room hroom.1]
    simp only [if_neg hdata]
    rw [ih hroom.2, Sink.append_append, Chunk.script, Chunk.payload, ByteArray.size_append,
      Nat.add_assoc]

/-- **A sender writes the wire of the pieces that its reads give**, and then flushes. -/
theorem sendRest_of_yields (hreads : source.Yields n pieces left) (hsink : sink.AcceptsAll)
    (sent : Nat) :
    sendRest n source sink sent =
      { result := .ok (sent + (Chunk.payload pieces).size)
        source := left
        sink := { sink.append (Chunk.wire pieces) with flushes := sink.flushes + 1 } } := by
  have hall : (sink.append (Chunk.wire pieces)).AcceptsAll := ⟨hsink.capacity, hsink.flushFault⟩
  rw [sendRest_of_room hreads.reads (hsink.room _), Chunk.script_ok, concluded, hall.flush]
  rfl

/-! ### Receiving -/

/-- A reader that does not find a whole header. -/
theorem receiveRest_of_readExact_error {fault : Fault}
    (hheader : source.readExact Chunk.headerSize .empty = (.error fault, left)) (got : ByteArray) :
    receiveRest limit source got =
      { result := .error fault, source := left, reserved := got.size } := by
  rw [receiveRest]
  split
  next hfault =>
    rw [hheader] at hfault
    cases hfault
    rfl
  next hother =>
    rw [hheader] at hother
    cases hother

/-- One round of a reader that finds a whole header. -/
theorem receiveRest_of_readExact {header : ByteArray}
    (hheader : source.readExact Chunk.headerSize .empty = (.ok header, left)) (got : ByteArray) :
    receiveRest limit source got =
      let n := Chunk.lengthOf header
      if n = 0 then { result := .ok got, source := left, reserved := got.size }
      else if limit < got.size + n then
        { result := .error .streamLimit, source := left, reserved := got.size }
      else match left.readExact n got with
        | (.error fault, left) =>
          { result := .error fault, source := left, reserved := got.size + n }
        | (.ok got, behind) => receiveRest limit behind got := by
  rw [receiveRest]
  split
  next fault t hfault =>
    rw [hheader] at hfault
    cases hfault
  next header' t hheader' =>
    rw [hheader] at hheader'
    cases hheader'
    simp only
    split
    · rfl
    · split
      · rfl
      · split <;> simp_all

/-- The end mark ends the reading, and what follows it stays unread. -/
theorem receiveRest_end (hsteady : source.Steady) {tail : List UInt8}
    (hrest : source.rest = (Chunk.header 0).data.toList ++ tail) (got : ByteArray) :
    (receiveRest limit source got).result = .ok got ∧
      (receiveRest limit source got).source.rest = tail := by
  obtain ⟨t, hheader, htail, -⟩ := hsteady.readExact hrest .empty
  rw [ByteArray.empty_append] at hheader
  rw [receiveRest_of_readExact hheader]
  exact ⟨rfl, htail⟩

/-- **A chunk that comes next** is refused at its header if it would exceed the limit. Otherwise its
bytes are put behind those that have been read. -/
theorem receiveRest_chunk (hsteady : source.Steady) {data : ByteArray} (hdata : data.size ≠ 0)
    (hfit : data.size < Word.end32) {more : List UInt8}
    (hrest : source.rest = (Chunk.encode data).data.toList ++ more) (got : ByteArray) :
    if limit < got.size + data.size then
      (receiveRest limit source got).result = .error .streamLimit
    else ∃ t : Source, t.Steady ∧ t.rest = more ∧
      receiveRest limit source got = receiveRest limit t (got ++ data) := by
  rw [Chunk.encode, ByteArray.data_append, Array.toList_append, List.append_assoc] at hrest
  obtain ⟨t, hheader, htrest, ht, -⟩ := hsteady.readExact hrest .empty
  obtain ⟨u, hbytes, hurest, hu, -⟩ := ht.readExact htrest got
  rw [ByteArray.empty_append] at hheader
  rw [receiveRest_of_readExact hheader, Chunk.lengthOf_header hfit]
  simp only [if_neg hdata]
  split
  · rfl
  · refine ⟨u, hu, hurest, ?_⟩
    rw [hbytes]

/-- **What reading these bytes comes to**, whatever follows them and however they are cut: the
payload, with what follows still unread, or a refusal if the payload exceeds the limit. -/
def DecodesTo (bytes payload : ByteArray) : Prop :=
  ∀ (reader : Source) (tail : List UInt8) (limit : Nat), reader.Steady →
    reader.rest = bytes.data.toList ++ tail →
      (payload.size ≤ limit →
        (receive limit reader).result = .ok payload ∧
          (receive limit reader).source.rest = tail) ∧
      (limit < payload.size →
        ∃ fault, (receive limit reader).result = .error fault ∧ fault.kind = .invalidData)

/-- Reading the wire of some pieces behind what has been read already. -/
theorem receiveRest_wire (hsteady : source.Steady)
    (hpieces : ∀ data ∈ pieces, data.size ≠ 0 ∧ data.size < Word.end32) {tail : List UInt8}
    (hrest : source.rest = (Chunk.wire pieces).data.toList ++ tail) {got : ByteArray}
    (hgot : got.size ≤ limit) :
    if got.size + (Chunk.payload pieces).size ≤ limit then
      (receiveRest limit source got).result = .ok (got ++ Chunk.payload pieces) ∧
        (receiveRest limit source got).source.rest = tail
    else (receiveRest limit source got).result = .error .streamLimit := by
  -- the limit is for all that has been read, so what there is already is carried along
  induction pieces generalizing source got with
  | nil =>
    rw [Chunk.payload, ByteArray.append_empty, if_pos (by simpa using hgot)]
    exact receiveRest_end hsteady hrest got
  | cons data pieces ih =>
    obtain ⟨hdata, hfit⟩ := hpieces data List.mem_cons_self
    rw [Chunk.wire, ByteArray.data_append, Array.toList_append, List.append_assoc] at hrest
    have hchunk := @receiveRest_chunk limit source hsteady data hdata hfit _ hrest got
    rw [Chunk.payload, ByteArray.size_append]
    split at hchunk
    next hover =>
      rw [if_neg (by omega)]
      exact hchunk
    next hunder =>
      obtain ⟨t, ht, htrest, hround⟩ := hchunk
      have hmore : (got ++ data).size ≤ limit := by
        rw [ByteArray.size_append]
        omega
      have hwire := ih ht (fun d hd => hpieces d (List.mem_cons_of_mem _ hd)) htrest hmore
      rw [hround]
      rwa [ByteArray.size_append, Nat.add_assoc, ByteArray.append_assoc] at hwire

/-- **The wire of some pieces is read as the pieces put together.** -/
theorem decodesTo_wire (hpieces : ∀ data ∈ pieces, data.size ≠ 0 ∧ data.size < Word.end32) :
    DecodesTo (Chunk.wire pieces) (Chunk.payload pieces) := by
  intro reader tail limit hsteady hrest
  have hempty : ByteArray.empty.size ≤ limit := Nat.zero_le limit
  have hwire := receiveRest_wire hsteady hpieces hrest hempty
  rw [ByteArray.empty_append, ByteArray.size_empty, Nat.zero_add] at hwire
  constructor
  · intro hle
    rw [if_pos hle] at hwire
    exact hwire
  · intro hlt
    rw [if_neg (by omega)] at hwire
    exact ⟨.streamLimit, hwire, rfl⟩

/-! ### The round trip -/

/-- **A possible chunk size and a source that only cuts and interrupts** make an upload complete:
what it sends, and what it leaves of the source. -/
theorem send_of_yields (hpos : 1 ≤ n) (hfit : n < Word.end32)
    (hreads : source.Yields n pieces left) (hsink : sink.AcceptsAll) :
    (send n source sink).result = .ok (Chunk.payload pieces).size ∧
      (send n source sink).source = left ∧
      (send n source sink).sink.received = sink.received ++ Chunk.wire pieces := by
  have hvalid : Chunk.isValidSize n = true := by
    rw [Chunk.isValidSize, Bool.and_eq_true, decide_eq_true_eq, decide_eq_true_eq]
    exact ⟨hpos, hfit⟩
  rw [send, if_pos hvalid, sendRest_of_yields hreads hsink, Nat.zero_add]
  exact ⟨rfl, rfl, rfl⟩

/-- The wire of pieces that reads for a possible chunk size give is read as the pieces put
together. -/
theorem decodesTo_of_yields (hfit : n < Word.end32) (hreads : source.Yields n pieces left) :
    DecodesTo (Chunk.wire pieces) (Chunk.payload pieces) := by
  refine decodesTo_wire fun data hmem => ?_
  have hsize := hreads.size_mem data hmem
  exact ⟨by omega, by omega⟩

/-- **Uploads come back as they were sent.** Let the reads of a source give some pieces until one of
them finds the end, and let the sink take everything. Then the upload reports the size of the
payload, which is the pieces put together; it writes one chunk for each piece, none of them empty or
longer than the chunk size, and one end mark; and whoever reads these bytes gets the payload, if it
is within the limit, and leaves what follows unread. Any other upload of the same bytes, whatever
its chunk size and however its source is cut, is read as the same payload. -/
theorem receive_send (hpos : 1 ≤ n) (hfit : n < Word.end32)
    (hreads : source.Yields n pieces left) (hsink : sink.AcceptsAll) :
    (send n source sink).result = .ok (Chunk.payload pieces).size ∧
      (send n source sink).source = left ∧
      (send n source sink).sink.received = sink.received ++ Chunk.wire pieces ∧
      (∀ data ∈ pieces, 1 ≤ data.size ∧ data.size ≤ n ∧
        Chunk.lengthOf (Chunk.header data.size) = data.size) ∧
      DecodesTo (Chunk.wire pieces) (Chunk.payload pieces) ∧
      ∀ (m : Nat) (other : Source) (otherSink : Sink), 1 ≤ m → m < Word.end32 →
        other.Steady → other.ending = none →
        other.rest = (Chunk.payload pieces).data.toList → otherSink.AcceptsAll →
        ∃ bytes, (send m other otherSink).result = .ok (Chunk.payload pieces).size ∧
          (send m other otherSink).sink.received = otherSink.received ++ bytes ∧
          DecodesTo bytes (Chunk.payload pieces) := by
  obtain ⟨hresult, hleft, hreceived⟩ := send_of_yields hpos hfit hreads hsink
  refine ⟨hresult, hleft, hreceived, ?_, decodesTo_of_yields hfit hreads, ?_⟩
  · intro data hmem
    obtain ⟨hone, hle⟩ := hreads.size_mem data hmem
    exact ⟨hone, hle, Chunk.lengthOf_header (by omega)⟩
  · intro m other otherSink hm hmfit hsteady hending hrest hother
    obtain ⟨others, behind, hyields, hbytes⟩ := hsteady.exists_yields hm hending
    -- another way of cutting gives other pieces, but they make up the same bytes
    have hsame : Chunk.payload others = Chunk.payload pieces := by
      apply ByteArray.ext
      apply Array.ext'
      rw [Chunk.toList_payload, hbytes, hrest]
    obtain ⟨hsent, -, hwire⟩ := send_of_yields hm hmfit hyields hother
    rw [← hsame]
    exact ⟨Chunk.wire others, hsent, hwire, decodesTo_of_yields hmfit hyields⟩

/-- Five bytes of which four look like an end mark, cut by short reads and interruptions. -/
theorem receive_send_zeros :
    let source (position : Nat) (steps : List ReadStep) : Source :=
      { bytes := ⟨#[0, 0, 0, 0, 7]⟩, position, steps }
    let interrupted : ReadStep := .fails (.system .interrupted)
    let start := source 0 [interrupted, .upTo 1, .upTo 9, interrupted]
    let pieces : List ByteArray := [⟨#[0]⟩, ⟨#[0, 0, 0]⟩, ⟨#[7]⟩]
    start.Yields 3 pieces (source 5 []) ∧
      (send 3 start {}).result = .ok (Chunk.payload pieces).size ∧
      (send 3 start {}).sink.received = .empty ++ Chunk.wire pieces ∧
      DecodesTo (Chunk.wire pieces) (Chunk.payload pieces) := by
  intro source interrupted start pieces
  have hreads : start.Yields 3 pieces (source 5 []) :=
    .interrupted (t := source 0 [.upTo 1, .upTo 9, interrupted]) rfl rfl <|
      .piece (t := source 1 [.upTo 9, interrupted]) rfl (by decide) <|
      .piece (t := source 4 [interrupted]) rfl (by decide) <|
      .interrupted (t := source 4 []) rfl rfl <|
      .piece (t := source 5 []) rfl (by decide) <|
      .ended rfl rfl
  have hsink : Sink.AcceptsAll {} := ⟨rfl, rfl⟩
  obtain ⟨hresult, -, hreceived, -, hdecodes, -⟩ :=
    receive_send (by decide) (by decide) hreads hsink
  exact ⟨hreads, hresult, hreceived, hdecodes⟩

end Upload

end Clamd
