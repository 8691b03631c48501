import Clamd.Proofs.Stream.RoundTrip

/-!
# What a reader of uploads accepts

A reader that accepts has read the wire of some pieces, and of no others: wires are told apart by
their first bytes, so no wire is the beginning of another one. What it returns is those pieces put
together. None of this depends on how the bytes are cut, nor on what would follow them.

* `Chunk.eq_of_prefix_wire`: wires are prefix-free;
* `Upload.wire_of_receive`: whoever accepts has read a wire;
* `Upload.receive_of_prefix`: the beginning of a wire, short of its end, is never accepted.
-/

namespace Clamd

/-! ### Wires are prefix-free -/

namespace Chunk

/-- Pieces as they can go over the wire: not empty, and with a length that a header holds. -/
def Sendable (pieces : List ByteArray) : Prop :=
  ∀ data ∈ pieces, data.size ≠ 0 ∧ data.size < Word.end32

theorem sendable_cons {data : ByteArray} {pieces : List ByteArray} :
    Sendable (data :: pieces) ↔ (data.size ≠ 0 ∧ data.size < Word.end32) ∧ Sendable pieces :=
  List.forall_mem_cons

@[simp] theorem length_header (n : Nat) : (header n).data.toList.length = headerSize := rfl

/-- What four bytes hold is what a header of it holds. -/
theorem header_lengthOf {bytes : ByteArray} (h : bytes.size = headerSize) :
    header (lengthOf bytes) = bytes ∧ lengthOf bytes < Word.end32 := by
  obtain ⟨⟨list⟩⟩ := bytes
  match list, h with
  | [a, b, c, d], _ =>
    have ha := a.toNat_lt
    have hb := b.toNat_lt
    have hc := c.toNat_lt
    have hd := d.toNat_lt
    have hlength : lengthOf ⟨⟨[a, b, c, d]⟩⟩ =
        ((a.toNat * 256 + b.toNat) * 256 + c.toNat) * 256 + d.toNat := by
      simp [lengthOf]
    rw [hlength]
    refine ⟨?_, by simp only [Word.end32]; omega⟩
    -- each byte is a digit to base 256, and the others do not reach it
    have hdigit : ∀ (x : UInt8) (n : Nat), n % 256 = x.toNat → n.toUInt8 = x := by
      intro x n hn
      apply UInt8.toNat_inj.1
      rw [← hn]
      exact UInt8.toNat_ofNat'
    rw [header, hdigit a _ (by omega), hdigit b _ (by omega), hdigit c _ (by omega),
      hdigit d _ (by omega)]

/-- Headers that begin two texts, one of which begins the other, are of the same number. -/
theorem eq_of_prefix_header {m n : Nat} (hm : m < Word.end32) (hn : n < Word.end32)
    {x y : List UInt8}
    (h : (header m).data.toList ++ x <+: (header n).data.toList ++ y) : m = n ∧ x <+: y := by
  obtain ⟨z, hz⟩ := h
  rw [List.append_assoc] at hz
  obtain ⟨hheader, hrest⟩ := List.append_inj hz rfl
  have heq : header m = header n := ByteArray.ext (Array.ext' hheader)
  refine ⟨?_, z, hrest⟩
  rw [← lengthOf_header hm, heq, lengthOf_header hn]

/-- **Wires are prefix-free.** -/
theorem eq_of_prefix_wire {a b : List ByteArray} (ha : Sendable a) (hb : Sendable b)
    (h : (wire a).data.toList <+: (wire b).data.toList) : a = b := by
  have hzero : 0 < Word.end32 := by decide
  -- the first headers decide whether both go on, and with a piece of which length
  induction a generalizing b with
  | nil =>
    cases b with
    | nil => rfl
    | cons data others =>
      obtain ⟨⟨hdata, hfit⟩, -⟩ := sendable_cons.1 hb
      rw [wire, wire, encode, ByteArray.data_append, ByteArray.data_append, Array.toList_append,
        Array.toList_append, List.append_assoc, ← List.append_nil (header 0).data.toList] at h
      exact absurd (eq_of_prefix_header hzero hfit h).1.symm hdata
  | cons data pieces ih =>
    obtain ⟨⟨hdata, hfit⟩, hpieces⟩ := sendable_cons.1 ha
    rw [wire, encode, ByteArray.data_append, ByteArray.data_append, Array.toList_append,
      Array.toList_append, List.append_assoc] at h
    cases b with
    | nil =>
      rw [wire, ← List.append_nil (header 0).data.toList] at h
      exact absurd (eq_of_prefix_header hfit hzero h).1 hdata
    | cons other others =>
      obtain ⟨⟨hother, hotherFit⟩, hothers⟩ := sendable_cons.1 hb
      rw [wire, encode, ByteArray.data_append, ByteArray.data_append, Array.toList_append,
        Array.toList_append, List.append_assoc] at h
      obtain ⟨hsize, hrest⟩ := eq_of_prefix_header hfit hotherFit h
      obtain ⟨z, hz⟩ := hrest
      rw [List.append_assoc] at hz
      obtain ⟨hbytes, hmore⟩ := List.append_inj hz (by simpa using hsize)
      rw [ByteArray.ext (Array.ext' hbytes), ih hpieces hothers ⟨z, hmore⟩]

end Chunk

/-! ### Whoever accepts has read a wire -/

/-- What is read exactly comes from the front of the source, whatever the source does. -/
theorem Source.rest_readExact {s t : Source} {n : Nat} {got data : ByteArray}
    (h : s.readExact n got = (.ok data, t)) :
    ∃ bytes : ByteArray, bytes.size = n ∧ data = got ++ bytes ∧
      s.rest = bytes.data.toList ++ t.rest := by
  induction n using Nat.strongRecOn generalizing s got with
  | ind n ih =>
    rw [readExact] at h
    split at h
    next hzero =>
      cases h
      exact ⟨.empty, hzero.symm, (ByteArray.append_empty).symm, rfl⟩
    next hzero =>
      split at h
      · cases h
      next piece u hread =>
        have hsize := (size_readSome hread).2
        have hrest := rest_readSome hread
        split at h
        · cases h
        next hpiece =>
          obtain ⟨others, hothers, rfl, hmore⟩ := ih (n - piece.size) (by omega) h
          refine ⟨piece ++ others, ?_, ByteArray.append_assoc, ?_⟩
          · rw [ByteArray.size_append]
            omega
          · rw [hrest, hmore, ByteArray.data_append, Array.toList_append, List.append_assoc]

namespace Upload

variable {limit : Nat} {source : Source}

/-- Whoever accepts behind what has been read already has read a wire. -/
theorem wire_of_receiveRest {got payload : ByteArray}
    (h : (receiveRest limit source got).result = .ok payload) :
    ∃ pieces, Chunk.Sendable pieces ∧ payload = got ++ Chunk.payload pieces ∧
      source.rest = (Chunk.wire pieces).data.toList ++
        (receiveRest limit source got).source.rest := by
  induction hlen : source.remaining using Nat.strongRecOn generalizing source got with
  | ind k ih =>
    rcases hheader : source.readExact Chunk.headerSize .empty with ⟨result, left⟩
    cases result with
    | error fault =>
      -- without a header nothing is accepted
      rw [receiveRest_of_readExact_error hheader] at h
      cases h
    | ok header =>
      obtain ⟨bytes, hsize, hbytes, hrest⟩ := Source.rest_readExact hheader
      rw [ByteArray.empty_append] at hbytes
      subst hbytes
      obtain ⟨hlength, hfit⟩ := Chunk.header_lengthOf hsize
      rw [receiveRest_of_readExact hheader] at h ⊢
      simp only at h ⊢
      split at h
      next hzero =>
        -- the end mark
        cases h
        rw [if_pos hzero]
        refine ⟨[], List.forall_mem_nil _, (ByteArray.append_empty).symm, ?_⟩
        rw [hrest, ← hlength, hzero]
        rfl
      next hzero =>
        rw [if_neg hzero]
        split at h
        · cases h
        next hlimit =>
          rw [if_neg hlimit]
          split at h
          · cases h
          next more behind hdata =>
            -- a chunk, behind which the rest of the wire has been read
            obtain ⟨data, hdataSize, rfl, hmore⟩ := Source.rest_readExact hdata
            have hlt : behind.remaining < k := by
              have h₁ := Source.size_readExact hheader
              have h₂ := Source.size_readExact hdata
              omega
            obtain ⟨pieces, hpieces, rfl, hwire⟩ := ih _ hlt h rfl
            refine ⟨data :: pieces, Chunk.sendable_cons.2 ⟨⟨by omega, by omega⟩, hpieces⟩, ?_, ?_⟩
            · rw [Chunk.payload, ByteArray.append_assoc]
            · rw [hrest, hmore, hwire, Chunk.wire, Chunk.encode, hdataSize, hlength]
              simp only [ByteArray.data_append, Array.toList_append, List.append_assoc]

/-- **Whoever accepts has read a wire**, and returns the pieces of it put together. -/
theorem wire_of_receive {payload : ByteArray} (h : (receive limit source).result = .ok payload) :
    ∃ pieces, Chunk.Sendable pieces ∧ payload = Chunk.payload pieces ∧
      source.rest = (Chunk.wire pieces).data.toList ++ (receive limit source).source.rest := by
  obtain ⟨pieces, hpieces, hpayload, hrest⟩ := wire_of_receiveRest h
  rw [ByteArray.empty_append] at hpayload
  exact ⟨pieces, hpieces, hpayload, hrest⟩

/-- **The beginning of a wire, short of its end, is never accepted**, whatever the limit is and
however the bytes are cut. -/
theorem receive_of_prefix {pieces : List ByteArray} (hpieces : Chunk.Sendable pieces)
    (hbegins : source.rest <+: (Chunk.wire pieces).data.toList)
    (hshort : source.rest.length < (Chunk.wire pieces).size) (limit : Nat) :
    ∃ fault, (receive limit source).result = .error fault := by
  cases hresult : (receive limit source).result with
  | error fault => exact ⟨fault, rfl⟩
  | ok payload =>
    -- otherwise a whole wire has been read, which is this one
    obtain ⟨others, hothers, -, hrest⟩ := wire_of_receive hresult
    have hwire : (Chunk.wire others).data.toList <+: source.rest := ⟨_, hrest.symm⟩
    have hsame := Chunk.eq_of_prefix_wire hothers hpieces (hwire.trans hbegins)
    subst hsame
    have hle := hwire.length_le
    rw [Array.length_toList, ByteArray.size_data] at hle
    omega

end Upload

end Clamd
