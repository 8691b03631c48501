import Clamd.Fault

/-!
# Sinks for bytes

A sink takes the bytes that are written to it, up to its capacity if it has one, and keeps them. A
write that finds it full leaves in it what still fitted and fails with the sink's refusal.

* `Sink.received_writeAll`: whether a write fails or not, the sink then holds what it held before
  and a first part of what was written.
-/

namespace Clamd

/-- A place for written bytes. -/
structure Sink where
  /-- How many bytes the sink takes in all, if there is a bound. -/
  capacity : Option Nat := none
  /-- The fault of a write that finds the sink full. -/
  refusal : Fault := .writeZero
  /-- The fault of a flush, if flushing fails. -/
  flushFault : Option Fault := none
  /-- The bytes taken so far. -/
  received : ByteArray := .empty
  /-- How often the sink has been flushed. -/
  flushes : Nat := 0

namespace Sink

/-- How many of `n` further bytes the sink will take. -/
def room (s : Sink) (n : Nat) : Nat :=
  match s.capacity with
  | none => n
  | some c => min n (c - s.received.size)

/-- Writes all of `bytes`, or as many as fit. -/
def writeAll (s : Sink) (bytes : ByteArray) : Except Fault Unit × Sink :=
  let room := s.room bytes.size
  if room = bytes.size then (.ok (), { s with received := s.received ++ bytes })
  else (.error s.refusal, { s with received := s.received ++ bytes.extract 0 room })

/-- Flushes the sink. -/
def flush (s : Sink) : Except Fault Unit × Sink :=
  let s := { s with flushes := s.flushes + 1 }
  match s.flushFault with
  | none => (.ok (), s)
  | some fault => (.error fault, s)

theorem room_le (s : Sink) (n : Nat) : s.room n ≤ n := by
  rw [room]
  split
  · exact Nat.le_refl n
  · exact Nat.min_le_left _ _

/-- What a sink holds after a write: what it held before and a first part of what was written. -/
theorem received_writeAll (s : Sink) (bytes : ByteArray) :
    (s.writeAll bytes).2.received.data.toList =
      s.received.data.toList ++ bytes.data.toList.take (s.room bytes.size) := by
  rw [writeAll]
  split
  next h =>
    rw [h, ByteArray.data_append, Array.toList_append, List.take_of_length_le]
    simp
  next h => simp [ByteArray.data_extract]

end Sink

end Clamd
