import Clamd.Proofs.Text.Utf8
import Clamd.Request

/-!
# Requests are read as they were written

The daemon's side of a request: the first byte tells the framing, the request goes up to the first
terminator of that framing, and the first space in between divides the verb from the argument. An
argument may hold anything but the terminator. In particular it may hold spaces and the terminator
of the other framing, and it may be empty.

* `Request.read?` reads a request and returns the bytes behind it;
* `Request.Plain`: the requests that can be told apart;
* `Request.read?_frame`: a plain request is read back from its frame, whatever follows it;
* `Request.eq_of_frame_prefix`: no frame is the beginning of another one.
-/

namespace Clamd

/-! ### Bytes up to a mark -/

/-- Divides bytes at the first `mark`, which belongs to neither part. -/
def divide (mark : UInt8) : List UInt8 → Option (List UInt8 × List UInt8)
  | [] => none
  | b :: bs => if b = mark then some ([], bs) else (divide mark bs).map fun x => (b :: x.1, x.2)

/-- The first mark divides the bytes in front of it from those behind it. -/
theorem divide_append_cons {mark : UInt8} {front : List UInt8} (h : mark ∉ front)
    (behind : List UInt8) : divide mark (front ++ mark :: behind) = some (front, behind) := by
  induction front with
  | nil => exact if_pos rfl
  | cons b front ih =>
    rw [List.mem_cons, not_or] at h
    rw [List.cons_append, divide, if_neg (Ne.symm h.1), ih h.2]
    rfl

theorem divide_eq_none {mark : UInt8} {bs : List UInt8} (h : mark ∉ bs) :
    divide mark bs = none := by
  induction bs with
  | nil => rfl
  | cons b bs ih =>
    rw [List.mem_cons, not_or] at h
    rw [divide, if_neg (Ne.symm h.1), ih h.2]
    rfl

namespace Framing

/-- The framing that a first byte tells. -/
def ofMark? (b : UInt8) : Option Framing :=
  [null, newline].find? (·.mark.toUInt8 == b)

theorem ofMark?_mark (framing : Framing) : ofMark? framing.mark.toUInt8 = some framing := by
  cases framing <;> rfl

theorem mark_lt (framing : Framing) : framing.mark.toNat < 0x80 := by
  cases framing <;> decide

theorem terminator_lt (framing : Framing) : framing.terminator.toNat < 0x80 := by
  cases framing <;> decide

theorem terminator_ne_space (framing : Framing) : framing.terminator.toUInt8 ≠ ' '.toUInt8 := by
  cases framing <;> decide

end Framing

namespace Request

open Text.Utf8

/-! ### The reader -/

/-- Reads what stands between the mark and the terminator. -/
def ofLine? (framing : Framing) (line : List UInt8) : Option Request :=
  match divide ' '.toUInt8 line with
  | none => do
    let verb ← ofBytes? line
    some { framing, verb }
  | some (front, behind) => do
    let verb ← ofBytes? front
    let argument ← ofBytes? behind
    some { framing, verb, argument := some argument }

/-- **Reads a request**, and returns the bytes behind it. -/
def read? : List UInt8 → Option (Request × List UInt8)
  | [] => none
  | mark :: bs => do
    let framing ← Framing.ofMark? mark
    let (line, behind) ← divide framing.terminator.toUInt8 bs
    let request ← ofLine? framing line
    some (request, behind)

/-- **A plain request**: there is no space in its verb and neither of the terminators, and its own
terminator is not in its argument. -/
structure Plain (r : Request) : Prop where
  space : ' ' ∉ r.verb.toList
  null : '\x00' ∉ r.verb.toList
  newline : '\n' ∉ r.verb.toList
  argument : ∀ a ∈ r.argument, r.framing.terminator ∉ a.toList

/-- What stands between the mark and the terminator of a request. -/
def line (r : Request) : List UInt8 :=
  match r.argument with
  | none => bytes r.verb
  | some a => bytes r.verb ++ ' '.toUInt8 :: bytes a

/-- A frame is a mark, a line and a terminator. -/
theorem toList_frame (r : Request) :
    r.frame.data.toList =
      r.framing.mark.toUInt8 :: (r.line ++ [r.framing.terminator.toUInt8]) := by
  have hspace : bytes " " = [' '.toUInt8] := rfl
  show bytes r.text = _
  rw [text, bytes_append, bytes_append, bytes_append, bytes_singleton r.framing.mark_lt,
    bytes_singleton r.framing.terminator_lt, line]
  cases r.argument with
  | none => simp [show bytes "" = [] from rfl]
  | some a => simp [bytes_append, hspace]

variable {r t : Request}

theorem Plain.terminator_notMem_verb (h : r.Plain) : r.framing.terminator ∉ r.verb.toList := by
  cases r.framing with
  | null => exact h.null
  | newline => exact h.newline

/-- The terminator does not occur before its place. -/
theorem Plain.terminator_notMem_line (h : r.Plain) :
    r.framing.terminator.toUInt8 ∉ r.line := by
  have hverb := mt (mem_bytes_iff r.framing.terminator_lt).1 h.terminator_notMem_verb
  rw [line]
  split
  next => exact hverb
  next a ha =>
    have hargument := mt (mem_bytes_iff r.framing.terminator_lt).1 (h.argument a ha)
    simp [hverb, hargument, r.framing.terminator_ne_space]

/-- The line of a plain request is read as the request. -/
theorem Plain.ofLine?_line (h : r.Plain) : ofLine? r.framing r.line = some r := by
  have hverb : ' '.toUInt8 ∉ bytes r.verb := mt (mem_bytes_iff (by decide)).1 h.space
  obtain ⟨framing, verb, argument⟩ := r
  cases argument with
  | none =>
    simp only [ofLine?, line]
    rw [divide_eq_none hverb]
    simp [ofBytes?_bytes]
  | some a =>
    simp only [ofLine?, line]
    rw [divide_append_cons hverb]
    simp [ofBytes?_bytes]

/-- **A plain request is read back from its frame**, whatever follows it, and what follows it is
left. -/
theorem Plain.read?_frame (h : r.Plain) (tail : List UInt8) :
    read? (r.frame.data.toList ++ tail) = some (r, tail) := by
  rw [toList_frame, List.cons_append, List.append_assoc, List.singleton_append, read?,
    Framing.ofMark?_mark]
  show (divide r.framing.terminator.toUInt8 _).bind _ = _
  rw [divide_append_cons h.terminator_notMem_line]
  show (ofLine? r.framing r.line).bind _ = _
  rw [h.ofLine?_line]
  rfl

/-- **No frame is the beginning of another one.** -/
theorem eq_of_frame_prefix (hr : r.Plain) (ht : t.Plain)
    (h : r.frame.data.toList <+: t.frame.data.toList) : r = t := by
  obtain ⟨tail, htail⟩ := h
  have hread := hr.read?_frame tail
  have hother := ht.read?_frame []
  rw [List.append_nil, ← htail, hread] at hother
  exact congrArg Prod.fst (Option.some.inj hother)

end Request

end Clamd
