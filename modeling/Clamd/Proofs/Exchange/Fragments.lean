import Clamd.Proofs.Exchange
import Clamd.Proofs.Text.Utf8

/-!
# Replies that arrive in pieces

A network cuts a reply as it likes, and any read may be interrupted. `Source.Delivers` says what the
reads of a source deliver in the end: some bytes, and behind them the end or a fault. Nothing else
counts for the reply that is read.

* `Source.delivers_ofArrivals`: every series of pieces and interruptions is delivered by a source;
* `Source.Delivers.reads`: interruptions leave no trace in the reads that are tried again;
* `Connection.ReplyOf` is the reply that some bytes come to, by how they end, and
  `Connection.replyOf_of_delivers` says that it is the one that is read;
* `Connection.readReply_delivered`: reading a reply does not depend on how it is cut.
-/

namespace Clamd

/-! ### What reads deliver -/

/-- **What is delivered.** `Delivers n s bytes ending` says that reads for at most `n` bytes give
pieces, none of them empty, which are `bytes` when put together, and then find the end or fail. At
any point a read may fail by an interruption. -/
inductive Source.Delivers (n : Nat) : Source → ByteArray → Except Fault Unit → Prop where
  /-- A read is interrupted. -/
  | interrupted {s t : Source} {bytes : ByteArray} {ending : Except Fault Unit} {fault : Fault}
      (hread : s.read n = (.error fault, t)) (hfault : fault.isInterruption = true)
      (hrest : Delivers n t bytes ending) : Delivers n s bytes ending
  /-- A read gives a piece. -/
  | piece {s t : Source} {data bytes : ByteArray} {ending : Except Fault Unit}
      (hread : s.read n = (.ok data, t)) (hdata : data.size ≠ 0)
      (hrest : Delivers n t bytes ending) : Delivers n s (data ++ bytes) ending
  /-- A read finds the end. -/
  | ended {s t : Source} {data : ByteArray} (hread : s.read n = (.ok data, t))
      (hdata : data.size = 0) : Delivers n s .empty (.ok ())
  /-- A read fails for good. -/
  | failed {s t : Source} {fault : Fault} (hread : s.read n = (.error fault, t))
      (hfault : fault.isInterruption = false) : Delivers n s .empty (.error fault)

/-- What one read of a reply meets. -/
inductive Arrival where
  /-- The read is interrupted. -/
  | interruption
  /-- Some bytes arrive. -/
  | piece (data : ByteArray)

namespace Arrival

/-- A read for `n` bytes can meet this: a piece has some bytes, and not more than `n`. -/
def Fits (n : Nat) : Arrival → Prop
  | interruption => True
  | piece data => data.size ≠ 0 ∧ data.size ≤ n

/-- The bytes that arrive. -/
def bytes : Arrival → ByteArray
  | interruption => .empty
  | piece data => data

/-- The step of a source at which this is met. -/
def step : Arrival → ReadStep
  | interruption => .fails (.system .interrupted)
  | piece data => .upTo data.size

/-- All bytes of a series. -/
def together (arrivals : List Arrival) : ByteArray :=
  Chunk.payload (arrivals.map bytes)

end Arrival

/-- The step at which a series ends: a read finds the end, or fails. -/
def ReadStep.ofEnding : Except Fault Unit → ReadStep
  | .ok () => .upTo 0
  | .error fault => .fails fault

namespace Source

variable {n : Nat} {s t left : Source} {pieces : List ByteArray} {ending : Except Fault Unit}

theorem read_of_upTo (s : Source) (n : Nat) {k : Nat} {steps : List ReadStep}
    (h : s.steps = .upTo k :: steps) : s.read n = (.ok (({ s with steps } : Source).take (min k n)).1,
      (({ s with steps } : Source).take (min k n)).2) := by
  rw [read, h]

theorem read_of_fails (s : Source) (n : Nat) {fault : Fault} {steps : List ReadStep}
    (h : s.steps = .fails fault :: steps) : s.read n = (.error fault, { s with steps }) := by
  rw [read, h]

/-- The source whose reads meet the arrivals one after another, and then the ending. -/
def ofArrivals (arrivals : List Arrival) (ending : Except Fault Unit) : Source where
  bytes := Arrival.together arrivals
  steps := arrivals.map Arrival.step ++ [.ofEnding ending]

/-- **Every series of arrivals is delivered by a source**, with any ending. -/
theorem delivers_ofArrivals {arrivals : List Arrival} (hfits : ∀ a ∈ arrivals, a.Fits n)
    (hending : ∀ fault, ending = .error fault → fault.isInterruption = false) :
    (ofArrivals arrivals ending).Delivers n (Arrival.together arrivals) ending := by
  suffices ∀ s : Source, s.rest = (Arrival.together arrivals).data.toList →
      s.steps = arrivals.map Arrival.step ++ [.ofEnding ending] →
        s.Delivers n (Arrival.together arrivals) ending from this _ rfl rfl
  induction arrivals with
  | nil =>
    intro s _ hsteps
    cases ending with
    | ok done =>
      refine .ended (s.read_of_upTo n hsteps) ?_
      rw [← ByteArray.size_data, ← Array.length_toList, toList_take, Nat.zero_min, List.take_zero,
        List.length_nil]
    | error fault => exact .failed (s.read_of_fails n hsteps) (hending fault rfl)
  | cons a arrivals ih =>
    intro s hrest hsteps
    have hothers := ih fun b hb => hfits b (List.mem_cons_of_mem a hb)
    cases a with
    | interruption =>
      refine .interrupted (s.read_of_fails n hsteps) rfl ?_
      rw [Arrival.together, List.map_cons, Chunk.payload] at hrest ⊢
      exact hothers _ hrest rfl
    | piece data =>
      obtain ⟨hdata, hle⟩ := hfits _ List.mem_cons_self
      -- the piece comes first in what is left, and the read takes it and no more
      have hsize : data.data.toList.length = data.size := by
        rw [Array.length_toList, ByteArray.size_data]
      have hsplit : s.rest = data.data.toList ++ (Arrival.together arrivals).data.toList := by
        rw [← Array.toList_append, ← ByteArray.data_append]
        exact hrest
      set u : Source := { s with steps := arrivals.map Arrival.step ++ [.ofEnding ending] }
      have hread : s.read n = (.ok (u.take data.size).1, (u.take data.size).2) := by
        have hstep := s.read_of_upTo n hsteps
        rwa [Nat.min_eq_left hle] at hstep
      have hbytes : (u.take data.size).1 = data := by
        apply ByteArray.ext
        apply Array.ext'
        rw [toList_take]
        show s.rest.take data.size = data.data.toList
        rw [hsplit, List.take_left' hsize]
      have hleft : (u.take data.size).2.rest = (Arrival.together arrivals).data.toList := by
        rw [rest_take]
        show s.rest.drop data.size = (Arrival.together arrivals).data.toList
        rw [hsplit, List.drop_left' hsize]
      rw [hbytes] at hread
      exact .piece hread hdata (hothers _ hleft rfl)

/-- Reads that are tried again come to the same from two sources if the first one does. -/
theorem Reads.of_readSome_eq (h : s.readSome n = t.readSome n)
    (hreads : Reads n t pieces ending left) : Reads n s pieces ending left := by
  cases hreads with
  | ended hread hdata => exact .ended (h.trans hread) hdata
  | failed hread => exact .failed (h.trans hread)
  | piece hread hdata hrest => exact .piece (h.trans hread) hdata hrest

/-- **Interruptions leave no trace** in the reads that are tried again. -/
theorem Delivers.reads {bytes : ByteArray} (h : s.Delivers n bytes ending) :
    ∃ pieces left, s.Reads n pieces ending left ∧ Chunk.payload pieces = bytes := by
  induction h with
  | @interrupted s t bytes ending fault hread hfault _ ih =>
    obtain ⟨pieces, left, hreads, hbytes⟩ := ih
    -- reading goes on from here as if nothing had been met, or the same source is tried once more
    rcases readSome_eq_of_interrupted hread hfault with heq | rfl
    · exact ⟨pieces, left, hreads.of_readSome_eq heq, hbytes⟩
    · exact ⟨pieces, left, hreads, hbytes⟩
  | @piece s t data bytes ending hread hdata _ ih =>
    obtain ⟨pieces, left, hreads, rfl⟩ := ih
    exact ⟨data :: pieces, left, .piece (readSome_eq_of_ok hread) hdata hreads, rfl⟩
  | ended hread hdata => exact ⟨[], _, .ended (readSome_eq_of_ok hread) hdata, rfl⟩
  | failed hread hfault =>
    refine ⟨[], _, .failed (readSome_eq_of_read hread ?_), rfl⟩
    intro other hother
    cases hother
    exact hfault

end Source

/-! ### The reply -/

namespace Connection

/-- **The reply that some bytes come to**, of which at most `limit` are taken. -/
structure ReplyOf (limit : Nat) (bytes : ByteArray) (ending : Except Fault Unit)
    (reply : Except Fault String) : Prop where
  /-- Too many bytes are refused, whatever is behind them. -/
  refused : limit < bytes.size →
    reply = .error (.replyLimit limit) ∧ (Fault.replyLimit limit).kind = .invalidData
  /-- Bytes up to the end are decoded as a whole. -/
  ended : bytes.size ≤ limit → ending = .ok () → reply = .ok (Text.Utf8.decodeLenient bytes)
  /-- A reset behind some bytes is an end. -/
  reset : bytes.size ≤ limit → bytes.size ≠ 0 →
    ∀ fault, ending = .error fault → fault.kind = .system .connectionReset →
      reply = .ok (Text.Utf8.decodeLenient bytes)
  /-- A reset in place of a reply is told. -/
  resetAtOnce : bytes.size = 0 →
    ∀ fault, ending = .error fault → fault.kind = .system .connectionReset → reply = .error fault
  /-- Any other fault is told, whatever has arrived before it. -/
  failed : bytes.size ≤ limit →
    ∀ fault, ending = .error fault → fault.kind ≠ .system .connectionReset → reply = .error fault

/-- Replies of the same bytes with the same ending are the same. -/
theorem ReplyOf.unique {limit : Nat} {bytes : ByteArray} {ending : Except Fault Unit}
    {reply other : Except Fault String} (h : ReplyOf limit bytes ending reply)
    (h' : ReplyOf limit bytes ending other) : reply = other := by
  rcases Nat.lt_or_ge limit bytes.size with hlong | hshort
  · exact (h.refused hlong).1.trans (h'.refused hlong).1.symm
  · cases ending with
    | ok done => exact (h.ended hshort rfl).trans (h'.ended hshort rfl).symm
    | error fault =>
      by_cases hreset : fault.kind = .system .connectionReset
      · by_cases hsize : bytes.size = 0
        · exact (h.resetAtOnce hsize fault rfl hreset).trans
            (h'.resetAtOnce hsize fault rfl hreset).symm
        · exact (h.reset hshort hsize fault rfl hreset).trans
            (h'.reset hshort hsize fault rfl hreset).symm
      · exact (h.failed hshort fault rfl hreset).trans (h'.failed hshort fault rfl hreset).symm

/-- What is replied if there are not too many bytes. -/
theorem replyOf_replied (limit : Nat) (bytes : ByteArray) (ending : Except Fault Unit) :
    ReplyOf limit bytes ending
      (if limit < bytes.size then .error (.replyLimit limit) else replied ending bytes) where
  refused := fun hlong => ⟨if_pos hlong, rfl⟩
  ended := by
    rintro hshort rfl
    rw [if_neg (Nat.not_lt.2 hshort)]
    rfl
  reset := by
    rintro hshort hsize fault rfl hreset
    rw [if_neg (Nat.not_lt.2 hshort), replied, if_pos]
    simp [hreset, hsize]
  resetAtOnce := by
    rintro hsize fault rfl hreset
    rw [if_neg (by omega), replied, if_neg]
    simp [hsize]
  failed := by
    rintro hshort fault rfl hother
    rw [if_neg (Nat.not_lt.2 hshort), replied, if_neg]
    simp [hother]

/-- **What is read is the reply of the bytes that are delivered.** -/
theorem replyOf_of_delivers {c : Connection} {limit : Nat} {bytes : ByteArray}
    {ending : Except Fault Unit} (h : c.incoming.Delivers readSize bytes ending) :
    ReplyOf limit bytes ending (c.readReply limit).1 := by
  obtain ⟨pieces, left, hreads, rfl⟩ := h.reads
  have hempty : ByteArray.empty.size ≤ limit := Nat.zero_le limit
  have hreply := fst_readReplyFrom hreads hempty
  rw [ByteArray.size_empty, Nat.zero_add, ByteArray.empty_append] at hreply
  rw [readReply, hreply]
  exact replyOf_replied limit _ ending

/-- **Reading a reply does not depend on how the network cuts it.** Any bytes may be delivered in any
pieces, with interruptions at any point and any ending, and the reply that is read is the one these
bytes come to with this ending. So two deliveries of the same bytes with the same ending give the
same, a text is read as this text even if its characters are cut, and only more bytes than the limit
are too many. -/
theorem readReply_delivered :
    (∀ (arrivals : List Arrival) (ending : Except Fault Unit),
      (∀ a ∈ arrivals, a.Fits readSize) →
      (∀ fault, ending = .error fault → fault.isInterruption = false) →
        (Source.ofArrivals arrivals ending).Delivers readSize (Arrival.together arrivals) ending) ∧
    (∀ (c : Connection) (limit : Nat) (bytes : ByteArray) (ending : Except Fault Unit),
      c.incoming.Delivers readSize bytes ending →
        ReplyOf limit bytes ending (c.readReply limit).1) ∧
    (∀ (c d : Connection) (limit : Nat) (bytes : ByteArray) (ending : Except Fault Unit),
      c.incoming.Delivers readSize bytes ending → d.incoming.Delivers readSize bytes ending →
        (c.readReply limit).1 = (d.readReply limit).1) ∧
    ∀ (c : Connection) (limit : Nat) (text : String),
      c.incoming.Delivers readSize (Text.Utf8.encode text) (.ok ()) →
      (Text.Utf8.encode text).size ≤ limit → (c.readReply limit).1 = .ok text := by
  refine ⟨fun arrivals ending => Source.delivers_ofArrivals, fun c limit bytes ending =>
    replyOf_of_delivers, fun c d limit bytes ending hc hd => ?_, fun c limit text h hlimit => ?_⟩
  · exact (replyOf_of_delivers hc).unique (replyOf_of_delivers hd)
  · rw [(replyOf_of_delivers h).ended hlimit rfl, Text.Utf8.decodeLenient_encode]

/-- A character of two bytes, which arrive on both sides of an interruption. -/
theorem readReply_delivered_accent :
    let c : Connection :=
      { incoming := .ofArrivals [.piece ⟨#[0xC3]⟩, .interruption, .piece ⟨#[0xA9]⟩] (.ok ()) }
    c.incoming.Delivers readSize (Text.Utf8.encode "é") (.ok ()) ∧
      (c.readReply 2).1 = .ok "é" ∧ (c.readReply 1).1 = .error (.replyLimit 1) := by
  intro c
  have htogether : Arrival.together [.piece ⟨#[0xC3]⟩, .interruption, .piece ⟨#[0xA9]⟩] =
      Text.Utf8.encode "é" := by
    decide
  have hdelivers : c.incoming.Delivers readSize (Text.Utf8.encode "é") (.ok ()) := by
    rw [← htogether]
    refine readReply_delivered.1 _ _ ?_ nofun
    intro a ha
    simp only [List.mem_cons, List.not_mem_nil, or_false] at ha
    rcases ha with rfl | rfl | rfl
    · exact ⟨by decide, by decide⟩
    · trivial
    · exact ⟨by decide, by decide⟩
  refine ⟨hdelivers, readReply_delivered.2.2.2 c 2 "é" hdelivers (by decide), ?_⟩
  exact ((readReply_delivered.2.1 c 1 _ _ hdelivers).refused (by decide)).1

end Connection

end Clamd
