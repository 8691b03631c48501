import Clamd.Fault

/-!
# Sources of bytes

A source gives its bytes in pieces: each read asks for at most some number of bytes and gets as many
as the source likes, or a fault. How a source cuts its bytes is data here: a list of steps that the
next reads follow, one each. When the steps are used up, a read gets all that it asks for, as far as
the bytes go, and after the last byte either nothing, which is the end, or a final fault. A source
that is kept in blocks gives the rest of a block before it turns to the next one, unless a whole
block or more is asked for.

* `Source.rest` is the view of a source: the bytes that are still to come.
* `Source.toList_take` and `Source.rest_take`: what is taken comes from the front of the rest.
* `Source.grant_le`: blocks never let a read get more than it asks for.
-/

namespace Clamd

/-- What happens at one read. -/
inductive ReadStep where
  /-- At most `n` bytes are given. With `n = 0` the read finds the end of the input. -/
  | upTo (n : Nat)
  /-- The read fails. -/
  | fails (fault : Fault)
  deriving Repr

/-- Bytes with a place from which they are read, and the way in which reads will get them. -/
structure Source where
  /-- All bytes of the source. -/
  bytes : ByteArray
  /-- How many of them have been read. -/
  position : Nat := 0
  /-- What happens at the next reads. -/
  steps : List ReadStep := []
  /-- The size of the blocks in which the source is kept; zero if it is kept in none. -/
  blockSize : Nat := 0
  /-- The fault that meets a read behind the last byte, instead of the end. -/
  ending : Option Fault := none

namespace Source

/-- The number of bytes still to come. -/
def remaining (s : Source) : Nat := s.bytes.size - s.position

/-- The bytes still to come. -/
def rest (s : Source) : List UInt8 := s.bytes.data.toList.drop s.position

theorem length_rest (s : Source) : s.rest.length = s.remaining := by
  rw [rest, remaining, List.length_drop, Array.length_toList, ByteArray.size_data]

/-- Takes the next `n` bytes, or as many as there are. -/
def take (s : Source) (n : Nat) : ByteArray × Source :=
  (s.bytes.extract s.position (s.position + n),
    { s with position := min (s.position + n) s.bytes.size })

/-- How many bytes a read for `capacity` bytes may get: a read for less than a block stays inside
the block at which the source is. -/
def grant (s : Source) (capacity : Nat) : Nat :=
  if capacity < s.blockSize then min capacity (s.blockSize - s.position % s.blockSize)
  else capacity

/-- One read for at most `capacity` bytes. No bytes mean the end. -/
def read (s : Source) (capacity : Nat) : Except Fault ByteArray × Source :=
  match s.steps with
  | .fails fault :: steps => (.error fault, { s with steps })
  | .upTo n :: steps =>
    let (bytes, s) := { s with steps }.take (min n capacity)
    (.ok bytes, s)
  | [] =>
    match s.ending, s.remaining with
    | some fault, 0 => (.error fault, s)
    | _, _ =>
      let (bytes, s) := s.take (s.grant capacity)
      (.ok bytes, s)

/-- Reads once, trying again after each interruption. -/
def readSome (s : Source) (capacity : Nat) : Except Fault ByteArray × Source :=
  ({ s with steps := s.steps.dropWhile isInterruption }).read capacity
where
  /-- Whether a read that goes so is tried again. -/
  isInterruption : ReadStep → Bool
    | .fails fault => fault.isInterruption
    | .upTo _ => false

/-- No more is granted than was asked for. -/
theorem grant_le (s : Source) (capacity : Nat) : s.grant capacity ≤ capacity := by
  rw [grant]
  split
  · exact Nat.min_le_left _ _
  · exact Nat.le_refl _

/-- A source that is not kept in blocks grants all that is asked for. -/
theorem grant_of_blockSize_eq_zero {s : Source} (h : s.blockSize = 0) (capacity : Nat) :
    s.grant capacity = capacity := by
  rw [grant, if_neg (by omega)]

/-- What is taken comes from the front of the rest. -/
theorem toList_take (s : Source) (n : Nat) : (s.take n).1.data.toList = s.rest.take n := by
  simp only [take, rest, ByteArray.data_extract, Array.toList_extract, List.extract_eq_drop_take']
  rw [List.drop_take, Nat.add_sub_cancel_left]

/-- What is taken is missing from the rest. -/
theorem rest_take (s : Source) (n : Nat) : (s.take n).2.rest = s.rest.drop n := by
  simp only [take, rest, List.drop_drop]
  rcases Nat.le_total (s.position + n) s.bytes.size with h | h
  · rw [Nat.min_eq_left h]
  · rw [Nat.min_eq_right h, List.drop_eq_nil_of_le, List.drop_eq_nil_of_le] <;>
      simp only [Array.length_toList, ByteArray.size_data] <;> omega

end Source

end Clamd
