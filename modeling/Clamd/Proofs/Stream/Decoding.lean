import Clamd.Proofs.Stream.Grammar

/-!
# What a reader of uploads makes of any bytes

A reader is given any bytes at all, cut in any way. It goes from chunk to chunk, and there are five
ways in which it can stop or go on: at the end mark, at a length that exceeds the limit, where the
bytes end inside a length or inside a chunk, and behind a chunk. `Upload.Reading` says so for the
bytes alone, without any source, and everything else follows from it by induction on the chunks.

* `Upload.reading_receiveRest`: a reader goes through the bytes of a steady source in this way;
* `Upload.Accepts` and `Upload.Exceeds`: what the bytes of a complete upload look like, and those of
  one that exceeds the limit;
* `Upload.accepts_iff`, `Upload.exceeds_iff` and `Upload.cutShort_iff`: a reader returns the payload
  of the first ones, refuses the second ones at their length, and finds the end too early in all
  others;
* `Upload.receive_grammar` puts these together.
-/

namespace Clamd

namespace Chunk

/-- What goes over the wire for some pieces in front of the end mark. -/
def series : List ByteArray → ByteArray
  | [] => .empty
  | data :: pieces => encode data ++ series pieces

/-- Any four bytes are a header. -/
theorem exists_header {bytes : List UInt8} (h : headerSize ≤ bytes.length) :
    ∃ n more, n < Word.end32 ∧ bytes = (header n).data.toList ++ more := by
  have hsize : (⟨(bytes.take headerSize).toArray⟩ : ByteArray).size = headerSize :=
    List.length_take_of_le h
  obtain ⟨hheader, hfit⟩ := header_lengthOf hsize
  refine ⟨_, bytes.drop headerSize, hfit, ?_⟩
  rw [hheader]
  exact (List.take_append_drop headerSize bytes).symm

end Chunk

namespace Upload

/-- **How the reading of some bytes goes** behind what has been got already: what it comes to, which
bytes it leaves unread, and how much room it sets aside. -/
inductive Reading (limit : Nat) :
    List UInt8 → ByteArray → Except Fault ByteArray → List UInt8 → Nat → Prop where
  /-- The end mark comes next. -/
  | ended {bytes tail : List UInt8} {got : ByteArray}
      (hbytes : bytes = (Chunk.header 0).data.toList ++ tail) :
      Reading limit bytes got (.ok got) tail got.size
  /-- A length comes next with which the limit would be exceeded. -/
  | exceeds {bytes tail : List UInt8} {got : ByteArray} {n : Nat} (hfit : n < Word.end32)
      (hlimit : limit < got.size + n) (hbytes : bytes = (Chunk.header n).data.toList ++ tail) :
      Reading limit bytes got (.error .streamLimit) tail got.size
  /-- The bytes end inside a length. -/
  | noHeader {bytes : List UInt8} {got : ByteArray} (hshort : bytes.length < Chunk.headerSize) :
      Reading limit bytes got (.error .unexpectedEof) [] got.size
  /-- The bytes end inside a chunk. -/
  | noData {bytes data : List UInt8} {got : ByteArray} {n : Nat} (hlimit : got.size + n ≤ limit)
      (hshort : data.length < n) (hbytes : bytes = (Chunk.header n).data.toList ++ data) :
      Reading limit bytes got (.error .unexpectedEof) [] (got.size + n)
  /-- A chunk comes next. -/
  | chunk {bytes more tail : List UInt8} {got data : ByteArray} {result : Except Fault ByteArray}
      {reserved : Nat} (hdata : data.size ≠ 0) (hfit : data.size < Word.end32)
      (hlimit : got.size + data.size ≤ limit)
      (hbytes : bytes = (Chunk.encode data).data.toList ++ more)
      (hrest : Reading limit more (got ++ data) result tail reserved) :
      Reading limit bytes got result tail reserved

variable {limit reserved : Nat} {source : Source} {bytes tail : List UInt8}
  {got payload : ByteArray} {pieces : List ByteArray} {result : Except Fault ByteArray}

/-! ### A reader goes through its bytes -/

/-- **A reader goes through the bytes of a steady source**, however the source cuts them. -/
theorem reading_receiveRest (hsteady : source.Steady) (hending : source.ending = none)
    (got : ByteArray) :
    Reading limit source.rest got (receiveRest limit source got).result
      (receiveRest limit source got).source.rest (receiveRest limit source got).reserved := by
  -- on the number of bytes that are left, which every chunk makes smaller
  induction hlength : source.rest.length using Nat.strongRecOn generalizing source got with
  | ind k ih =>
    by_cases hshort : source.rest.length < Chunk.headerSize
    · obtain ⟨t, hheader, htail⟩ := hsteady.readExact_short hending hshort .empty
      rw [receiveRest_of_readExact_error hheader]
      exact htail ▸ .noHeader hshort
    obtain ⟨n, more, hfit, hrest⟩ := Chunk.exists_header (Nat.not_lt.1 hshort)
    obtain ⟨t, hheader, htrest, ht, htending⟩ := hsteady.readExact hrest .empty
    rw [ByteArray.empty_append] at hheader
    rw [receiveRest_of_readExact hheader, Chunk.lengthOf_header hfit]
    by_cases hzero : n = 0
    · simp only [if_pos hzero]
      exact .ended (by rw [hrest, hzero, htrest])
    by_cases hlimit : limit < got.size + n
    · simp only [if_neg hzero, if_pos hlimit]
      exact .exceeds hfit hlimit (by rw [hrest, htrest])
    simp only [if_neg hzero, if_neg hlimit]
    by_cases hmore : more.length < n
    · obtain ⟨u, hdata, hurest⟩ :=
        ht.readExact_short (htending.trans hending) (htrest ▸ hmore) got
      rw [hdata]
      exact hurest ▸ .noData (Nat.not_lt.1 hlimit) hmore hrest
    · -- the chunk is there, and what follows it is shorter
      have hsize : (⟨(more.take n).toArray⟩ : ByteArray).size = n :=
        List.length_take_of_le (Nat.not_lt.1 hmore)
      have hsplit : t.rest = (⟨(more.take n).toArray⟩ : ByteArray).data.toList ++ more.drop n :=
        htrest.trans (List.take_append_drop n more).symm
      obtain ⟨u, hdata, hurest, hu, huending⟩ := ht.readExact hsplit got
      rw [hsize] at hdata
      simp only [hdata]
      have hbytes : source.rest =
          (Chunk.encode ⟨(more.take n).toArray⟩).data.toList ++ u.rest := by
        rw [Chunk.encode, hsize, ByteArray.data_append, Array.toList_append, List.append_assoc,
          hurest, ← hsplit, htrest, hrest]
      have hlt : u.rest.length < k := by
        rw [← hlength, hbytes, List.length_append, Chunk.encode, ByteArray.data_append,
          Array.toList_append, List.length_append, Chunk.length_header]
        have hfour : 0 < Chunk.headerSize := by decide
        omega
      refine .chunk ?_ ?_ ?_ hbytes
        (ih _ hlt hu (huending.trans (htending.trans hending)) (got ++ _) rfl)
      · rwa [hsize]
      · rwa [hsize]
      · rw [hsize]
        exact Nat.not_lt.1 hlimit

/-! ### What the bytes look like -/

/-- **The bytes of a complete upload** within the limit: chunks, none of them empty, the end mark
behind them, and `tail` behind that. -/
def Accepts (limit : Nat) (bytes : List UInt8) (payload : ByteArray) (tail : List UInt8) : Prop :=
  ∃ pieces, Chunk.Sendable pieces ∧ (Chunk.payload pieces).size ≤ limit ∧
    payload = Chunk.payload pieces ∧ bytes = (Chunk.wire pieces).data.toList ++ tail

/-- **The bytes of an upload that exceeds the limit**: chunks, none of them empty, that are within
it, behind them a length with which it would be exceeded, and `tail` behind that. -/
def Exceeds (limit : Nat) (bytes tail : List UInt8) : Prop :=
  ∃ pieces n, Chunk.Sendable pieces ∧ (Chunk.payload pieces).size ≤ limit ∧ n < Word.end32 ∧
    limit < (Chunk.payload pieces).size + n ∧
    bytes = (Chunk.series pieces ++ Chunk.header n).data.toList ++ tail

/-- The bytes of an upload from which a payload is got. -/
theorem Reading.accepted (h : Reading limit bytes got result tail reserved)
    (hgot : got.size ≤ limit) (hresult : result = .ok payload) :
    ∃ pieces, Chunk.Sendable pieces ∧ got.size + (Chunk.payload pieces).size ≤ limit ∧
      payload = got ++ Chunk.payload pieces ∧
      bytes = (Chunk.wire pieces).data.toList ++ tail := by
  -- only the end mark gives a payload; a chunk in front of it is one more piece
  induction h with
  | ended hbytes =>
    cases hresult
    exact ⟨[], List.forall_mem_nil _, by simpa [Chunk.payload] using hgot,
      ByteArray.append_empty.symm, hbytes⟩
  | exceeds | noHeader | noData => cases hresult
  | @chunk bytes more tail got data result reserved hdata hfit hlimit hbytes _ ih =>
    obtain ⟨pieces, hpieces, hsize, rfl, hmore⟩ := ih (by rwa [ByteArray.size_append]) hresult
    rw [ByteArray.size_append] at hsize
    refine ⟨data :: pieces, Chunk.sendable_cons.2 ⟨⟨hdata, hfit⟩, hpieces⟩, ?_, ?_, ?_⟩
    · rw [Chunk.payload, ByteArray.size_append]
      omega
    · rw [Chunk.payload, ByteArray.append_assoc]
    · rw [hbytes, hmore, Chunk.wire, ByteArray.data_append, Array.toList_append,
        List.append_assoc]

/-- The bytes of an upload that is refused. -/
theorem Reading.exceeded (h : Reading limit bytes got result tail reserved)
    (hgot : got.size ≤ limit) (hresult : result = .error .streamLimit) :
    ∃ pieces n, Chunk.Sendable pieces ∧ got.size + (Chunk.payload pieces).size ≤ limit ∧
      n < Word.end32 ∧ limit < got.size + (Chunk.payload pieces).size + n ∧
      bytes = (Chunk.series pieces ++ Chunk.header n).data.toList ++ tail := by
  -- only a length is refused, and the chunks in front of it were not
  induction h with
  | ended | noHeader | noData => cases hresult
  | @exceeds bytes tail got n hfit hlimit hbytes =>
    refine ⟨[], n, List.forall_mem_nil _, by simpa [Chunk.payload] using hgot, hfit, hlimit, ?_⟩
    rw [hbytes, Chunk.series, ByteArray.empty_append]
  | @chunk bytes more tail got data result reserved hdata hfit hlimit hbytes _ ih =>
    obtain ⟨pieces, n, hpieces, hsize, hn, hover, hmore⟩ :=
      ih (by rwa [ByteArray.size_append]) hresult
    rw [ByteArray.size_append] at hsize hover
    refine ⟨data :: pieces, n, Chunk.sendable_cons.2 ⟨⟨hdata, hfit⟩, hpieces⟩, ?_, hn, ?_, ?_⟩
    · rw [Chunk.payload, ByteArray.size_append]
      omega
    · rw [Chunk.payload, ByteArray.size_append]
      omega
    · rw [hbytes, hmore, Chunk.series]
      simp only [ByteArray.data_append, Array.toList_append, List.append_assoc]

/-- A reader that fails has refused a length, or it has read all bytes and found the end. -/
theorem Reading.fault_cases {fault : Fault} (h : Reading limit bytes got result tail reserved)
    (hresult : result = .error fault) :
    fault = .streamLimit ∨ fault = .unexpectedEof ∧ tail = [] := by
  induction h with
  | ended => cases hresult
  | exceeds =>
    cases hresult
    exact .inl rfl
  | noHeader | noData =>
    cases hresult
    exact .inr ⟨rfl, rfl⟩
  | chunk _ _ _ _ _ ih => exact ih hresult

/-- **No more room is set aside than the limit allows.** -/
theorem Reading.reserved_le (h : Reading limit bytes got result tail reserved)
    (hgot : got.size ≤ limit) : reserved ≤ limit := by
  induction h with
  | ended | exceeds | noHeader => exact hgot
  | noData hlimit => exact hlimit
  | chunk _ _ hlimit _ _ ih => exact ih (by rwa [ByteArray.size_append])

/-! ### What becomes of them -/

/-- **Chunks within the limit** are got one after another, and the reader goes on behind them. -/
theorem receiveRest_series (hsteady : source.Steady) (hpieces : Chunk.Sendable pieces)
    (hrest : source.rest = (Chunk.series pieces).data.toList ++ tail)
    (hlimit : got.size + (Chunk.payload pieces).size ≤ limit) :
    ∃ t : Source, t.Steady ∧ t.rest = tail ∧
      receiveRest limit source got = receiveRest limit t (got ++ Chunk.payload pieces) := by
  induction pieces generalizing source got with
  | nil => exact ⟨source, hsteady, hrest, by rw [Chunk.payload, ByteArray.append_empty]⟩
  | cons data pieces ih =>
    obtain ⟨⟨hdata, hfit⟩, hpieces⟩ := Chunk.sendable_cons.1 hpieces
    rw [Chunk.series, ByteArray.data_append, Array.toList_append, List.append_assoc] at hrest
    rw [Chunk.payload, ByteArray.size_append, ← Nat.add_assoc] at hlimit
    have hchunk := @receiveRest_chunk limit source hsteady data hdata hfit _ hrest got
    rw [if_neg (by omega)] at hchunk
    obtain ⟨t, ht, htrest, hround⟩ := hchunk
    have hbehind : (got ++ data).size + (Chunk.payload pieces).size ≤ limit := by
      rwa [ByteArray.size_append]
    obtain ⟨u, hu, hurest, hrounds⟩ := ih ht hpieces htrest hbehind
    refine ⟨u, hu, hurest, ?_⟩
    rw [hround, hrounds, Chunk.payload, ByteArray.append_assoc]

/-- **An upload that exceeds the limit** is refused at the length with which it would do so, and
nothing behind that length is read. -/
theorem receive_of_exceeds (hsteady : source.Steady) (h : Exceeds limit source.rest tail) :
    (receive limit source).result = .error .streamLimit ∧
      (receive limit source).source.rest = tail := by
  obtain ⟨pieces, n, hpieces, hsize, hfit, hover, hrest⟩ := h
  rw [ByteArray.data_append, Array.toList_append, List.append_assoc] at hrest
  have hlimit : ByteArray.empty.size + (Chunk.payload pieces).size ≤ limit := by
    rwa [ByteArray.size_empty, Nat.zero_add]
  obtain ⟨t, ht, htrest, hrounds⟩ := receiveRest_series hsteady hpieces hrest hlimit
  obtain ⟨u, hheader, hurest, -⟩ := ht.readExact htrest .empty
  rw [ByteArray.empty_append] at hheader hrounds
  have hne : n ≠ 0 := by omega
  have hrefused : receiveRest limit t (Chunk.payload pieces) =
      { result := .error .streamLimit, source := u, reserved := (Chunk.payload pieces).size } := by
    rw [receiveRest_of_readExact hheader, Chunk.lengthOf_header hfit]
    exact (if_neg hne).trans (if_pos hover)
  rw [receive, hrounds, hrefused]
  exact ⟨rfl, hurest⟩

section Steady

variable (hsteady : source.Steady) (hending : source.ending = none)
include hsteady hending

/-- A reader goes through all the bytes of a steady source. -/
theorem reading_receive (limit : Nat) :
    Reading limit source.rest .empty (receive limit source).result
      (receive limit source).source.rest (receive limit source).reserved :=
  reading_receiveRest hsteady hending .empty

/-- **A reader returns a payload** exactly if the bytes are those of a complete upload of it, and
leaves what follows the end mark. -/
theorem accepts_iff :
    (receive limit source).result = .ok payload ∧ (receive limit source).source.rest = tail ↔
      Accepts limit source.rest payload tail := by
  constructor
  · rintro ⟨hresult, rfl⟩
    obtain ⟨pieces, hpieces, hsize, hpayload, hrest⟩ :=
      (reading_receive hsteady hending limit).accepted (Nat.zero_le limit) hresult
    rw [ByteArray.size_empty, Nat.zero_add] at hsize
    rw [ByteArray.empty_append] at hpayload
    exact ⟨pieces, hpieces, hsize, hpayload, hrest⟩
  · rintro ⟨pieces, hpieces, hsize, rfl, hrest⟩
    exact (decodesTo_wire hpieces source tail limit hsteady hrest).1 hsize

/-- **A reader refuses an upload** exactly if it exceeds the limit, and reads nothing behind the
length with which it does so. -/
theorem exceeds_iff :
    (receive limit source).result = .error .streamLimit ∧
        (receive limit source).source.rest = tail ↔ Exceeds limit source.rest tail := by
  constructor
  · rintro ⟨hresult, rfl⟩
    obtain ⟨pieces, n, hpieces, hsize, hfit, hover, hrest⟩ :=
      (reading_receive hsteady hending limit).exceeded (Nat.zero_le limit) hresult
    rw [ByteArray.size_empty, Nat.zero_add] at hsize hover
    exact ⟨pieces, n, hpieces, hsize, hfit, hover, hrest⟩
  · exact receive_of_exceeds hsteady

/-- A reader fails in two ways only, and in the second one it has read all bytes. -/
theorem receive_fault_cases {fault : Fault} (h : (receive limit source).result = .error fault) :
    fault = .streamLimit ∨ fault = .unexpectedEof ∧ (receive limit source).source.rest = [] :=
  (reading_receive hsteady hending limit).fault_cases h

/-- **A reader finds the end too early** exactly if the bytes are neither those of a complete upload
nor those of one that exceeds the limit. -/
theorem cutShort_iff :
    (receive limit source).result = .error .unexpectedEof ↔
      (∀ payload tail, ¬ Accepts limit source.rest payload tail) ∧
        ∀ tail, ¬ Exceeds limit source.rest tail := by
  constructor
  · intro hresult
    refine ⟨fun payload tail haccepts => ?_, fun tail hexceeds => ?_⟩
    · have hother := ((accepts_iff hsteady hending).2 haccepts).1
      rw [hresult] at hother
      cases hother
    · have hother := (receive_of_exceeds hsteady hexceeds).1
      rw [hresult] at hother
      cases hother
  · rintro ⟨haccepts, hexceeds⟩
    cases hresult : (receive limit source).result with
    | ok payload => exact absurd ((accepts_iff hsteady hending).1 ⟨hresult, rfl⟩) (haccepts _ _)
    | error fault =>
      rcases receive_fault_cases hsteady hending hresult with rfl | ⟨rfl, -⟩
      · exact absurd ((exceeds_iff hsteady hending).1 ⟨hresult, rfl⟩) (hexceeds _)
      · rfl

/-- **The outcome does not depend on how the bytes are cut.** -/
theorem receive_congr {other : Source} (hother : other.Steady) (hotherEnding : other.ending = none)
    (hrest : other.rest = source.rest) :
    (receive limit other).result = (receive limit source).result ∧
      (receive limit other).source.rest = (receive limit source).source.rest := by
  cases hresult : (receive limit source).result with
  | ok payload =>
    -- what the outcome is can be read off the bytes, and these are the same
    have haccepts := (accepts_iff hsteady hending).1 ⟨hresult, rfl⟩
    exact (accepts_iff hother hotherEnding).2 (hrest ▸ haccepts)
  | error fault =>
    rcases receive_fault_cases hsteady hending hresult with rfl | ⟨rfl, hnil⟩
    · have hexceeds := (exceeds_iff hsteady hending).1 ⟨hresult, rfl⟩
      exact (exceeds_iff hother hotherEnding).2 (hrest ▸ hexceeds)
    · have hneither := (cutShort_iff hsteady hending).1 hresult
      have hshort := (cutShort_iff hother hotherEnding).2 (hrest ▸ hneither)
      rcases receive_fault_cases hother hotherEnding hshort with hlimit | ⟨-, hotherNil⟩
      · cases hlimit
      · exact ⟨hshort, hotherNil.trans hnil.symm⟩

end Steady

/-- **A reader accepts exactly the complete uploads within its limit.** Let it be given any bytes,
cut in any way and with any interruptions.

* It returns a payload exactly if the bytes begin with a complete upload of that payload, within the
  limit, and it leaves exactly the bytes behind the end mark.
* It refuses the bytes exactly if they begin with whole chunks within the limit and a length with
  which it would be exceeded, and it leaves exactly the bytes behind that length.
* In all other cases it finds the end too early.
* It never sets aside more room than the limit allows.
* The same bytes, cut in any other way, come to the same and leave the same. -/
theorem receive_grammar (hsteady : source.Steady) (hending : source.ending = none) (limit : Nat) :
    let received := receive limit source
    (∀ payload tail, received.result = .ok payload ∧ received.source.rest = tail ↔
      Accepts limit source.rest payload tail) ∧
    (∀ tail, (∃ fault, received.result = .error fault ∧ fault.kind = .invalidData) ∧
      received.source.rest = tail ↔ Exceeds limit source.rest tail) ∧
    ((∀ payload tail, ¬ Accepts limit source.rest payload tail) →
      (∀ tail, ¬ Exceeds limit source.rest tail) → received.result = .error .unexpectedEof) ∧
    received.reserved ≤ limit ∧
    ∀ other : Source, other.Steady → other.ending = none → other.rest = source.rest →
      (receive limit other).result = received.result ∧
        (receive limit other).source.rest = received.source.rest := by
  intro received
  -- of the two ways in which a reader fails only one is of this kind
  have hkind : (∃ fault, received.result = .error fault ∧ fault.kind = .invalidData) ↔
      received.result = .error .streamLimit := by
    constructor
    · rintro ⟨fault, hresult, hinvalid⟩
      rcases receive_fault_cases hsteady hending hresult with rfl | ⟨rfl, -⟩
      · exact hresult
      · cases hinvalid
    · exact fun hresult => ⟨.streamLimit, hresult, rfl⟩
  refine ⟨fun _ _ => accepts_iff hsteady hending, fun tail => ?_, fun haccepts hexceeds => ?_, ?_,
    fun other hother hotherEnding hrest => ?_⟩
  · rw [hkind]
    exact exceeds_iff hsteady hending
  · exact (cutShort_iff hsteady hending).2 ⟨haccepts, hexceeds⟩
  · exact (reading_receive hsteady hending limit).reserved_le (Nat.zero_le limit)
  · exact receive_congr hsteady hending hother hotherEnding hrest

/-- A limit that is exceeded by one: a chunk of one byte and the length of one of two bytes, whose
first byte is left. The bytes come in pieces, with interruptions between them. -/
theorem receive_grammar_byOne :
    let interrupted : ReadStep := .fails (.system .interrupted)
    let source : Source :=
      { bytes := ⟨#[0, 0, 0, 1, 7, 0, 0, 0, 2, 8]⟩
        steps := [interrupted, .upTo 3, interrupted, .upTo 2, .upTo 1] }
    source.Steady ∧ source.ending = none ∧ Exceeds 2 source.rest [8] ∧
      (∃ fault, (receive 2 source).result = .error fault ∧ fault.kind = .invalidData) ∧
      (receive 2 source).source.rest = [8] := by
  intro interrupted source
  have hsteady : source.Steady := by
    simp [source, interrupted, Source.Steady, ReadStep.IsSteady, Fault.isInterruption, Fault.kind]
  have hpieces : Chunk.Sendable [⟨#[7]⟩] :=
    Chunk.sendable_cons.2 ⟨⟨by decide, by decide⟩, List.forall_mem_nil _⟩
  have hexceeds : Exceeds 2 source.rest [8] :=
    ⟨[⟨#[7]⟩], 2, hpieces, by decide, by decide, by decide, rfl⟩
  exact ⟨hsteady, rfl, hexceeds, ((receive_grammar hsteady rfl 2).2.1 [8]).2 hexceeds⟩

end Upload

end Clamd
