import Clamd.Stream.Sink
import Clamd.Stream.Source

/-!
# Uploads in chunks

Behind the request line of an upload the bytes go over the wire in chunks: the length of the chunk
in four bytes, most significant first, and then that many bytes. A chunk of length zero marks the
end.

* `Upload.send` copies a source to a sink in chunks and ends them with the mark;
* `Upload.receive` is the other side: it reads chunks up to the mark and puts the bytes together,
  up to a limit.

Both end because every round takes bytes from the source.
-/

namespace Clamd

namespace Chunk

/-- The number of bytes that hold a chunk's length. -/
def headerSize : Nat := 4

/-- A length as four bytes, most significant first. -/
def header (n : Nat) : ByteArray :=
  ⟨#[(n / 0x1000000).toUInt8, (n / 0x10000).toUInt8, (n / 0x100).toUInt8, n.toUInt8]⟩

/-- The number whose digits to base 256 the bytes are, most significant first. -/
def lengthOf (header : ByteArray) : Nat :=
  header.data.foldl (fun n b => n * 256 + b.toNat) 0

/-- A chunk as it goes over the wire. -/
def encode (data : ByteArray) : ByteArray :=
  header data.size ++ data

/-- Whether chunks of up to `n` bytes are possible: `n` is positive and fits the header. -/
def isValidSize (n : Nat) : Bool :=
  1 ≤ n && n < 0x100000000

end Chunk

namespace Source

theorem size_take (s : Source) (n : Nat) :
    (s.take n).1.size + (s.take n).2.remaining = s.remaining := by
  rw [← length_rest, ← length_rest, rest_take, ← ByteArray.size_data, ← Array.length_toList,
    toList_take, List.length_take, List.length_drop]
  omega

theorem size_take_le (s : Source) (n : Nat) : (s.take n).1.size ≤ n := by
  rw [← ByteArray.size_data, ← Array.length_toList, toList_take, List.length_take]
  omega

/-- A read returns no more than was asked for. -/
theorem size_read_le {s t : Source} {capacity : Nat} {data : ByteArray}
    (h : s.read capacity = (.ok data, t)) : data.size ≤ capacity := by
  rw [read] at h
  split at h
  · cases h
  · cases h
    exact Nat.le_trans (size_take_le _ _) (Nat.min_le_right _ _)
  · split at h
    · cases h
    · cases h
      exact Nat.le_trans (size_take_le _ _) (grant_le _ _)

/-- What a read returns and what then remains make up what remained before. -/
theorem size_read {s t : Source} {capacity : Nat} {data : ByteArray}
    (h : s.read capacity = (.ok data, t)) : data.size + t.remaining = s.remaining := by
  rw [read] at h
  split at h
  · cases h
  · cases h
    exact size_take _ _
  · split at h
    · cases h
    · cases h
      exact size_take _ _

/-- What a read returns and what then remains make up what remained before, also when the read was
tried several times; and no more is returned than was asked for. -/
theorem size_readSome {s t : Source} {capacity : Nat} {data : ByteArray}
    (h : s.readSome capacity = (.ok data, t)) :
    data.size + t.remaining = s.remaining ∧ data.size ≤ capacity := by
  rw [readSome] at h
  have hsize := size_read h
  exact ⟨hsize, size_read_le h⟩

/-- Reads exactly `n` more bytes and appends them to `got`. Bytes that were read before a fault are
gone from the source all the same. -/
def readExact (s : Source) (n : Nat) (got : ByteArray) : Except Fault ByteArray × Source :=
  if n = 0 then (.ok got, s)
  else match s.readSome n with
    | (.error fault, s) => (.error fault, s)
    | (.ok piece, s) =>
      if piece.size = 0 then (.error .unexpectedEof, s)
      else readExact s (n - piece.size) (got ++ piece)
termination_by n

/-- Reading exactly `n` bytes takes `n` bytes from the source. -/
theorem size_readExact {s t : Source} {n : Nat} {got data : ByteArray}
    (h : s.readExact n got = (.ok data, t)) : n + t.remaining = s.remaining := by
  induction n using Nat.strongRecOn generalizing s got with
  | ind n ih =>
    rw [readExact] at h
    split at h
    next h0 =>
      cases h
      omega
    next h0 =>
      split at h
      · cases h
      next piece u hr =>
        have hsize := size_readSome hr
        split at h
        · cases h
        next hp =>
          have := ih (n - piece.size) (by omega) h
          omega

end Source

namespace Upload

/-- How an upload went: the number of bytes sent or the fault that stopped it, and what became of
the two sides. -/
structure Sent where
  /-- The number of bytes sent, without headers, or why not all were. -/
  result : Except Fault Nat
  /-- What is left of the source. -/
  source : Source
  /-- The sink, with what it took. -/
  sink : Sink

/-- Sends what is left of a source, `sent` bytes of which have gone already. -/
def sendRest (chunkSize : Nat) (source : Source) (sink : Sink) (sent : Nat) : Sent :=
  match hread : source.readSome chunkSize with
  | (.error fault, left) => { result := .error fault, source := left, sink }
  | (.ok data, left) =>
    match sink.writeAll (Chunk.encode data) with
    | (.error fault, sink) => { result := .error fault, source := left, sink }
    | (.ok (), sink) =>
      if hdata : data.size = 0 then
        match sink.flush with
        | (.error fault, sink) => { result := .error fault, source := left, sink }
        | (.ok (), sink) => { result := .ok sent, source := left, sink }
      else
        have : left.remaining < source.remaining := by
          have := (Source.size_readSome hread).1
          have := hdata
          omega
        sendRest chunkSize left sink (sent + data.size)
termination_by source.remaining

/-- Copies `source` to `sink` in chunks of at most `chunkSize` bytes, one for each read, then writes
the end mark and flushes. Nothing is read if the chunk size is not possible. -/
def send (chunkSize : Nat) (source : Source) (sink : Sink) : Sent :=
  if Chunk.isValidSize chunkSize then sendRest chunkSize source sink 0
  else { result := .error (.chunkSize chunkSize), source, sink }

/-- How the reading of an upload went. -/
structure Received where
  /-- The bytes of all chunks, or why they could not be had. -/
  result : Except Fault ByteArray
  /-- What is left of the source. -/
  source : Source
  /-- The room that was set aside for the bytes. -/
  reserved : Nat

/-- Reads the chunks that follow those with the given payload. -/
def receiveRest (limit : Nat) (source : Source) (payload : ByteArray) : Received :=
  match hheader : source.readExact Chunk.headerSize .empty with
  | (.error fault, left) => { result := .error fault, source := left, reserved := payload.size }
  | (.ok header, left) =>
    let n := Chunk.lengthOf header
    if n = 0 then { result := .ok payload, source := left, reserved := payload.size }
    else
      let total := payload.size + n
      if limit < total then
        { result := .error .streamLimit, source := left, reserved := payload.size }
      else match hdata : left.readExact n payload with
        | (.error fault, left) => { result := .error fault, source := left, reserved := total }
        | (.ok payload, behind) =>
          have : behind.remaining < source.remaining := by
            have h₁ := Source.size_readExact hheader
            have h₂ := Source.size_readExact hdata
            have h₃ : Chunk.headerSize = 4 := rfl
            omega
          receiveRest limit behind payload
termination_by source.remaining

/-- Reads chunks up to the end mark, at most `limit` bytes in all. A chunk that would exceed the
limit is refused at its header. -/
def receive (limit : Nat) (source : Source) : Received :=
  receiveRest limit source .empty

/-- The limit of an upload when no better one is known: 25 mebibytes. -/
def defaultLimit : Nat := 26214400

end Upload

end Clamd
