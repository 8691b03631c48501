import Clamd.Stream.Chunk
import Mathlib.Tactic.Set

/-!
# How the reads of a source go

Two ways of saying what the reads of a source come to, whatever the source does at each of them:

* `Source.Yields n pieces` is told by the reads: reads for `n` bytes give the pieces, one after
  another, and then find the end; in between they fail by interruptions only. `Yields.readSome` says
  what a read that is tried again after interruptions then gets.
* `Source.Steady` is told by the source: it cuts its bytes as it likes and is interrupted at any
  point, but no read fails for good and none comes back empty before the last byte.

A steady source without a final fault yields all its bytes, in pieces that depend on how it cuts
them (`Steady.exists_yields`); and reading exactly `n` bytes gets the next `n` bytes of a steady
source, however it cuts them (`Steady.readExact`), or finds the end if there are fewer
(`Steady.readExact_short`).
-/

namespace Clamd.Source

/-! ### Reads up to the end -/

/-- **The reads of a copy.** `Yields n s pieces left` says that reads for at most `n` bytes give
`pieces`, none of them empty, and then nothing, which is the end. Between them a read may fail by an
interruption. What remains of the source is `left`. -/
inductive Yields (n : Nat) : Source → List ByteArray → Source → Prop where
  /-- A read is interrupted. -/
  | interrupted {s t left : Source} {pieces : List ByteArray} {fault : Fault}
      (hread : s.read n = (.error fault, t)) (hfault : fault.isInterruption = true)
      (hrest : Yields n t pieces left) : Yields n s pieces left
  /-- A read gives a piece. -/
  | piece {s t left : Source} {pieces : List ByteArray} {data : ByteArray}
      (hread : s.read n = (.ok data, t)) (hdata : data.size ≠ 0)
      (hrest : Yields n t pieces left) : Yields n s (data :: pieces) left
  /-- A read finds the end. -/
  | ended {s left : Source} {data : ByteArray}
      (hread : s.read n = (.ok data, left)) (hdata : data.size = 0) : Yields n s [] left

/-- A read is not tried again unless it was interrupted. -/
theorem readSome_eq_of_read {s t : Source} {n : Nat} {result : Except Fault ByteArray}
    (h : s.read n = (result, t))
    (hresult : ∀ fault, result = .error fault → fault.isInterruption = false) :
    s.readSome n = (result, t) := by
  -- the first step is no interruption, so none is skipped
  have hsteps : s.steps.dropWhile readSome.isInterruption = s.steps := by
    cases hs : s.steps with
    | nil => rfl
    | cons step steps =>
      cases step with
      | upTo k => rfl
      | fails fault =>
        rw [read, hs] at h
        cases h
        exact List.dropWhile_cons_of_neg (by simp [readSome.isInterruption, hresult])
  rw [readSome, hsteps]
  exact h

/-- A read that gives bytes is not tried again. -/
theorem readSome_eq_of_ok {s t : Source} {n : Nat} {data : ByteArray}
    (h : s.read n = (.ok data, t)) : s.readSome n = (.ok data, t) :=
  readSome_eq_of_read h nofun

/-- An interrupted read is tried again on what it left, or it left the source as it was. -/
theorem readSome_eq_of_interrupted {s t : Source} {n : Nat} {fault : Fault}
    (h : s.read n = (.error fault, t)) (hfault : fault.isInterruption = true) :
    s.readSome n = t.readSome n ∨ t = s := by
  cases hs : s.steps with
  | nil =>
    -- only the final fault can meet such a read, and the next one meets it again
    right
    rw [read, hs] at h
    simp only at h
    split at h
    · exact (congrArg Prod.snd h).symm
    · cases h
  | cons step steps =>
    left
    rw [read, hs] at h
    cases step with
    | upTo k => cases h
    | fails fault' =>
      cases h
      have hskip : readSome.isInterruption (.fails fault) = true := hfault
      rw [readSome, readSome, hs, List.dropWhile_cons_of_pos hskip]

namespace Yields

variable {n : Nat} {s left : Source} {pieces : List ByteArray}

/-- **What a read gets that is tried again after interruptions**: the next piece, or nothing if
there is none left. -/
theorem readSome (h : Yields n s pieces left) :
    ∃ data t, s.readSome n = (.ok data, t) ∧
      (data.size = 0 ∧ pieces = [] ∧ left = t ∨
        data.size ≠ 0 ∧ ∃ others, pieces = data :: others ∧ Yields n t others left) := by
  induction h with
  | interrupted hread hfault _ ih =>
    -- the interruption is skipped, so the read goes on as it would have from there
    rcases readSome_eq_of_interrupted hread hfault with heq | rfl
    · rw [heq]
      exact ih
    · exact ih
  | piece hread hdata hrest =>
    exact ⟨_, _, readSome_eq_of_ok hread, .inr ⟨hdata, _, rfl, hrest⟩⟩
  | ended hread hdata => exact ⟨_, _, readSome_eq_of_ok hread, .inl ⟨hdata, rfl, rfl⟩⟩

/-- No piece is empty, and none is longer than the reads ask for. -/
theorem size_mem (h : Yields n s pieces left) :
    ∀ data ∈ pieces, 1 ≤ data.size ∧ data.size ≤ n := by
  induction h with
  | interrupted _ _ _ ih => exact ih
  | piece hread hdata _ ih =>
    intro data hmem
    rcases List.mem_cons.1 hmem with rfl | hmem
    · exact ⟨Nat.one_le_iff_ne_zero.2 hdata, size_read_le hread⟩
    · exact ih data hmem
  | ended => exact fun _ hmem => absurd hmem List.not_mem_nil

/-- Interruptions in front of a read do not change what the reads come to. -/
theorem of_readSome {t : Source} {data : ByteArray} (h : s.readSome n = (.ok data, t))
    (hrest : data.size = 0 ∧ pieces = [] ∧ left = t ∨
      data.size ≠ 0 ∧ ∃ others, pieces = data :: others ∧ Yields n t others left) :
    Yields n s pieces left := by
  have hread : ∀ u : Source, u.read n = (.ok data, t) → Yields n u pieces left := by
    intro u hu
    rcases hrest with ⟨hdata, rfl, rfl⟩ | ⟨hdata, others, rfl, hothers⟩
    · exact .ended hu hdata
    · exact .piece hu hdata hothers
  -- the interruptions in front are undone one by one
  suffices ∀ steps : List ReadStep,
      ({ s with steps := steps.dropWhile readSome.isInterruption }).read n = (.ok data, t) →
        Yields n { s with steps } pieces left from this s.steps h
  intro steps
  induction steps with
  | nil => exact hread _
  | cons step steps ih =>
    intro hu
    cases hstep : readSome.isInterruption step with
    | false =>
      rw [List.dropWhile_cons_of_neg (by simp [hstep])] at hu
      exact hread _ hu
    | true =>
      rw [List.dropWhile_cons_of_pos hstep] at hu
      cases step with
      | upTo k => exact absurd hstep (by simp [readSome.isInterruption])
      | fails fault => exact .interrupted rfl hstep (ih hu)

end Yields

/-! ### Reads up to the end or a fault -/

/-- **The reads of a copy, whatever they come to.** `Reads n s pieces ending left` says that reads
for at most `n` bytes, tried again after interruptions, give `pieces`, none of them empty, and then
find the end or meet a fault. What remains of the source is `left`. -/
inductive Reads (n : Nat) : Source → List ByteArray → Except Fault Unit → Source → Prop where
  /-- A read finds the end. -/
  | ended {s left : Source} {data : ByteArray} (hread : s.readSome n = (.ok data, left))
      (hdata : data.size = 0) : Reads n s [] (.ok ()) left
  /-- A read fails. -/
  | failed {s left : Source} {fault : Fault} (hread : s.readSome n = (.error fault, left)) :
      Reads n s [] (.error fault) left
  /-- A read gives a piece. -/
  | piece {s t left : Source} {data : ByteArray} {pieces : List ByteArray}
      {ending : Except Fault Unit} (hread : s.readSome n = (.ok data, t)) (hdata : data.size ≠ 0)
      (hrest : Reads n t pieces ending left) : Reads n s (data :: pieces) ending left

/-- The reads of a source come to something. -/
theorem exists_reads (n : Nat) (s : Source) :
    ∃ pieces ending left, Reads n s pieces ending left := by
  -- on the number of bytes that are left, which every piece makes smaller
  induction hlen : s.remaining using Nat.strongRecOn generalizing s with
  | ind k ih =>
    rcases hread : s.readSome n with ⟨result, t⟩
    cases result with
    | error fault => exact ⟨[], _, _, .failed hread⟩
    | ok data =>
      by_cases hdata : data.size = 0
      · exact ⟨[], _, _, .ended hread hdata⟩
      · have hsize := (size_readSome hread).1
        obtain ⟨pieces, ending, left, hreads⟩ := ih t.remaining (by omega) t rfl
        exact ⟨data :: pieces, ending, left, .piece hread hdata hreads⟩

/-- Reads that give pieces until one of them finds the end. -/
theorem Yields.reads {n : Nat} {s left : Source} {pieces : List ByteArray}
    (h : Yields n s pieces left) : Reads n s pieces (.ok ()) left := by
  induction pieces generalizing s with
  | nil =>
    obtain ⟨data, t, hread, ⟨hdata, -, rfl⟩ | ⟨-, others, hcons, -⟩⟩ := h.readSome
    · exact .ended hread hdata
    · cases hcons
  | cons data pieces ih =>
    obtain ⟨data', t, hread, ⟨-, hcons, -⟩ | ⟨hdata, others, hcons, hothers⟩⟩ := h.readSome
    · cases hcons
    · cases hcons
      exact .piece hread hdata (ih hothers)

/-! ### What a read takes -/

/-- What a read gives comes from the front of the source. -/
theorem rest_read {s t : Source} {n : Nat} {data : ByteArray} (h : s.read n = (.ok data, t)) :
    s.rest = data.data.toList ++ t.rest := by
  have htake : ∀ (u : Source) (m : Nat), u.rest = (u.take m).1.data.toList ++ (u.take m).2.rest :=
    fun u m => by rw [toList_take, rest_take, List.take_append_drop]
  rw [read] at h
  split at h
  · cases h
  · cases h
    exact htake { s with steps := _ } _
  · split at h
    · cases h
    · cases h
      exact htake s _

/-- What a read gives that is tried again after interruptions comes from the front of the source. -/
theorem rest_readSome {s t : Source} {n : Nat} {data : ByteArray}
    (h : s.readSome n = (.ok data, t)) : s.rest = data.data.toList ++ t.rest :=
  rest_read (s := { s with steps := s.steps.dropWhile readSome.isInterruption }) h

/-- A read uses up one step, and the source ends as it would have ended. -/
theorem steps_read {s t : Source} {n : Nat} {data : ByteArray} (h : s.read n = (.ok data, t)) :
    t.steps = s.steps.tail ∧ t.ending = s.ending := by
  rw [read] at h
  split at h
  next => cases h
  next hs =>
    cases h
    rw [hs]
    exact ⟨rfl, rfl⟩
  next hs =>
    split at h
    · cases h
    · cases h
      exact ⟨hs.trans (congrArg List.tail hs).symm, rfl⟩

theorem size_take_eq_zero_iff (s : Source) {m : Nat} (hm : 0 < m) :
    (s.take m).1.size = 0 ↔ s.rest = [] := by
  rw [← ByteArray.size_data, ← Array.length_toList, toList_take, List.length_take,
    ← List.length_eq_zero_iff]
  omega

theorem grant_pos (s : Source) {n : Nat} (hn : 0 < n) : 0 < s.grant n := by
  rw [grant]
  split
  next hblock =>
    have hlt := Nat.mod_lt s.position (show 0 < s.blockSize by omega)
    omega
  next => exact hn

end Clamd.Source

/-! ### Steady sources -/

namespace Clamd

/-- Whether a read that goes so gives something or is tried again. -/
def ReadStep.IsSteady : ReadStep → Prop
  | .upTo n => n ≠ 0
  | .fails fault => fault.isInterruption = true

namespace Source

/-- **A steady source** cuts its bytes as it likes and may be interrupted at any point, but no read
fails for good, and none comes back empty before the last byte. -/
def Steady (s : Source) : Prop :=
  ∀ step ∈ s.steps, step.IsSteady

namespace Steady

variable {s : Source} {n : Nat}

/-- One read of a steady source that is not interrupted. -/
theorem read (h : s.Steady) (hn : 0 < n) (hmore : s.rest ≠ [] ∨ s.ending = none)
    (hstep : ∀ step ∈ s.steps.head?, Source.readSome.isInterruption step = false) :
    ∃ data t, s.read n = (.ok data, t) ∧ (data.size = 0 ↔ s.rest = []) := by
  cases hs : s.steps with
  | nil =>
    -- no step is left, so the read gets what there is, and the final fault is out of the way
    refine ⟨(s.take (s.grant n)).1, (s.take (s.grant n)).2, ?_,
      size_take_eq_zero_iff s (grant_pos s hn)⟩
    rw [Source.read, hs]
    simp only
    split
    next fault hending hremaining =>
      rw [← length_rest, List.length_eq_zero_iff] at hremaining
      rcases hmore with hrest | hnone
      · exact absurd hremaining hrest
      · rw [hending] at hnone
        cases hnone
    next => rfl
  | cons step steps =>
    have hsteady := h step (by rw [hs]; exact List.mem_cons_self)
    cases step with
    | upTo k =>
      have hk : k ≠ 0 := hsteady
      set taken := ({ s with steps }).take (min k n) with htaken
      refine ⟨taken.1, taken.2, ?_, size_take_eq_zero_iff { s with steps } (by omega)⟩
      rw [Source.read, hs]
    | fails fault =>
      -- a steady source fails by interruptions only, and there is none in front
      have hnot := hstep (.fails fault) (by rw [hs]; rfl)
      have hfault : fault.isInterruption = true := hsteady
      rw [Source.readSome.isInterruption, hfault] at hnot
      cases hnot

/-- **A read of a steady source that is tried again after interruptions** gives bytes from the front
of it, and none only if none is left. -/
theorem readSome (h : s.Steady) (hn : 0 < n) (hmore : s.rest ≠ [] ∨ s.ending = none) :
    ∃ data t, s.readSome n = (.ok data, t) ∧ (data.size = 0 ↔ s.rest = []) ∧
      s.rest = data.data.toList ++ t.rest ∧ t.Steady ∧ t.ending = s.ending := by
  -- `u` is what the interruptions in front leave
  set u : Source := { s with steps := s.steps.dropWhile Source.readSome.isInterruption } with hu
  have hsteady : u.Steady :=
    fun step hmem => h step ((List.dropWhile_sublist _).subset hmem)
  have hhead : ∀ step ∈ u.steps.head?, Source.readSome.isInterruption step = false := by
    intro step hmem
    have hfalse := List.head?_dropWhile_not Source.readSome.isInterruption s.steps
    rw [Option.mem_def.1 hmem] at hfalse
    simpa using hfalse
  obtain ⟨data, t, hread, hsize⟩ := hsteady.read hn hmore hhead
  obtain ⟨hsteps, hending⟩ := steps_read hread
  have hrest : u.rest = data.data.toList ++ t.rest := rest_read hread
  refine ⟨data, t, hread, hsize, hrest, ?_, hending⟩
  intro step hmem
  rw [hsteps] at hmem
  exact hsteady step (List.mem_of_mem_tail hmem)

/-- **A steady source without a final fault yields all its bytes**, however it cuts them and
however many a read asks for. -/
theorem exists_yields (h : s.Steady) (hn : 0 < n) (hending : s.ending = none) :
    ∃ pieces left, Yields n s pieces left ∧ pieces.flatMap (·.data.toList) = s.rest := by
  -- on the number of bytes that are left, which every piece makes smaller
  induction hlen : s.rest.length using Nat.strongRecOn generalizing s with
  | ind k ih =>
    obtain ⟨data, t, hread, hsize, hrest, ht, htending⟩ := h.readSome hn (.inr hending)
    by_cases hdata : data.size = 0
    · exact ⟨[], t, .of_readSome hread (.inl ⟨hdata, rfl, rfl⟩), (hsize.1 hdata).symm⟩
    · have hlt : t.rest.length < k := by
        have hsum := congrArg List.length hrest
        simp only [List.length_append, Array.length_toList, ByteArray.size_data] at hsum
        omega
      obtain ⟨pieces, left, hyields, hbytes⟩ := ih _ hlt ht (htending.trans hending) rfl
      refine ⟨data :: pieces, left, .of_readSome hread (.inr ⟨hdata, _, rfl, hyields⟩), ?_⟩
      rw [List.flatMap_cons, hbytes, hrest]

/-- **Reading exactly as many bytes as `data` has** from a steady source in which `data` comes next
gets `data`, however the source cuts it. -/
theorem readExact (h : s.Steady) {data : ByteArray} {tail : List UInt8}
    (hrest : s.rest = data.data.toList ++ tail) (got : ByteArray) :
    ∃ t, s.readExact data.size got = (.ok (got ++ data), t) ∧ t.rest = tail ∧ t.Steady ∧
      t.ending = s.ending := by
  -- on the number of bytes that are asked for, which every piece makes smaller
  induction hlen : data.size using Nat.strongRecOn generalizing s data got with
  | ind k ih =>
    subst hlen
    by_cases hdata : data.size = 0
    · rw [ByteArray.size_eq_zero_iff] at hdata
      subst hdata
      refine ⟨s, ?_, by simpa using hrest, h, rfl⟩
      rw [Source.readExact, if_pos ByteArray.size_empty, ByteArray.append_empty]
    · have hne : s.rest ≠ [] := by
        rw [hrest, Ne, List.append_eq_nil_iff, ← List.length_eq_zero_iff, Array.length_toList,
          ByteArray.size_data]
        exact fun hnil => hdata hnil.1
      obtain ⟨piece, t, hread, hsize, hsplit, ht, hending⟩ :=
        h.readSome (n := data.size) (by omega) (.inl hne)
      have hpiece : piece.size ≠ 0 := fun hzero => hne (hsize.1 hzero)
      have hle : piece.size ≤ data.size := (size_readSome hread).2
      -- the piece is a first part of `data`, and what is left of `data` comes next
      obtain ⟨others, hothers⟩ : piece.data.toList <+: data.data.toList := by
        have hfirst : piece.data.toList <+: s.rest := hsplit ▸ List.prefix_append _ _
        have hwhole : data.data.toList <+: s.rest := hrest ▸ List.prefix_append _ _
        exact List.prefix_of_prefix_length_le hfirst hwhole (by simpa using hle)
      have hsum : data = piece ++ ⟨others.toArray⟩ := by
        apply ByteArray.ext
        apply Array.ext'
        simp [hothers]
      have htrest : t.rest = others ++ tail := by
        rw [hsplit, ← hothers, List.append_assoc] at hrest
        exact List.append_cancel_left hrest
      have hothersSize : (⟨others.toArray⟩ : ByteArray).size = data.size - piece.size := by
        rw [hsum, ByteArray.size_append]
        omega
      obtain ⟨u, hu, hurest, husteady, huending⟩ := ih _ (by omega) ht (by simpa using htrest)
        (got ++ piece) hothersSize
      refine ⟨u, ?_, hurest, husteady, huending.trans hending⟩
      rw [Source.readExact, if_neg hdata, hread]
      simp only [if_neg hpiece, hu]
      rw [ByteArray.append_assoc, ← hsum]

/-- **Reading more bytes than there are** finds the end too early, and leaves nothing. -/
theorem readExact_short (h : s.Steady) (hending : s.ending = none) (hshort : s.rest.length < n)
    (got : ByteArray) : ∃ t, s.readExact n got = (.error .unexpectedEof, t) ∧ t.rest = [] := by
  induction n using Nat.strongRecOn generalizing s got with
  | ind n ih =>
    have hn : n ≠ 0 := by omega
    obtain ⟨piece, t, hread, hsize, hsplit, ht, htending⟩ :=
      h.readSome (n := n) (by omega) (.inr hending)
    rw [Source.readExact, if_neg hn, hread]
    by_cases hpiece : piece.size = 0
    · refine ⟨t, if_pos hpiece, ?_⟩
      rw [hsize.1 hpiece] at hsplit
      exact (List.append_eq_nil_iff.1 hsplit.symm).2
    · have hlength : s.rest.length = piece.size + t.rest.length := by
        rw [hsplit, List.length_append, Array.length_toList, ByteArray.size_data]
      simp only [if_neg hpiece]
      exact ih (n - piece.size) (by omega) ht (htending.trans hending) (by omega) _

end Steady

end Source

end Clamd
