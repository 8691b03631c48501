import Clamd.CommandLine.Kind
import Clamd.Proofs.Stream.Truncation

/-!
# Numbers on the command line

A number that is written out in decimal is read as what it is, up to the greatest one of its range.
Beyond that it is told to be too great, however long its text is.

* `Number.foldlM_addDigit_toDigits` says it of digits, for any greatest number;
* `Number.natural_toString` and `Kind.readCount_toString` say it of numbers of 64 bits;
* `Kind.readChunkSize_toString` says it of chunk sizes, and `Kind.readChunkSize_eq_ok` that no text
  gives any other chunk size.
-/

namespace Clamd.CommandLine

namespace Number

/-- One more digit makes a number of ten times and more, or leaves the range. -/
theorem addDigit_digitChar {d : Nat} (hd : d < 10) (top : Nat) (beyond : NumberFault) (n : Nat) :
    addDigit top beyond n d.digitChar =
      if n * 10 + d ≤ top then .ok (n * 10 + d) else .error beyond := by
  have hdigit : d.digitChar.isDigit = true := Nat.isDigit_digitChar.trans (decide_eq_true hd)
  have hvalue : digitValue d.digitChar = d := Nat.toNat_digitChar_sub_48_of_lt_ten hd
  rw [addDigit, if_pos hdigit, hvalue]

/-- **The digits of a number** are read as the number, unless it is above the greatest one. -/
theorem foldlM_addDigit_toDigits (top : Nat) (beyond : NumberFault) (n : Nat) :
    (Nat.toDigits 10 n).foldlM (addDigit top beyond) 0 =
      if n ≤ top then .ok n else .error beyond := by
  induction n using Nat.strongRecOn with
  | ind n ih =>
    rcases Nat.lt_or_ge n 10 with hn | hn
    · rw [Nat.toDigits_of_lt_base hn, List.foldlM_cons, addDigit_digitChar hn, Nat.zero_mul,
        Nat.zero_add]
      split <;> rfl
    · -- the last digit comes off the end, and it stands behind those of the tenth part
      have hsplit : n / 10 * 10 + n % 10 = n := Nat.div_add_mod' n 10
      rw [Nat.toDigits_of_base_le (by decide) hn, List.foldlM_append, ih (n / 10) (by omega)]
      by_cases hfits : n / 10 ≤ top
      · rw [if_pos hfits]
        calc [(n % 10).digitChar].foldlM (addDigit top beyond) (n / 10)
            = addDigit top beyond (n / 10) (n % 10).digitChar := by rw [List.foldlM_cons]; simp
          _ = if n ≤ top then .ok n else .error beyond := by
            rw [addDigit_digitChar (Nat.mod_lt n (by decide)), hsplit]
      · rw [if_neg hfits, if_neg (by omega)]
        rfl

/-- **A number that is written out** is read as what it is, if it has 64 bits. -/
theorem natural_toString (n : Nat) :
    natural (toString n) = if n < Word.end64 then .ok n else .error .tooLarge := by
  have htext : (toString n).toList = Nat.toDigits 10 n := Nat.toList_repr
  have hdigits : ofDigits (Word.end64 - 1) .tooLarge (Nat.toDigits 10 n) =
      if n < Word.end64 then .ok n else .error .tooLarge := by
    rw [ofDigits, if_neg (by simp [Nat.toDigits_ne_nil]), foldlM_addDigit_toDigits]
    simp only [Nat.le_sub_one_iff_lt (show 0 < Word.end64 by decide)]
  rw [natural, htext]
  split
  next heq => exact absurd heq Nat.toDigits_ne_nil
  next digits heq =>
    -- a plus sign is no digit
    have hplus : '+' ∈ Nat.toDigits 10 n := heq ▸ List.mem_cons_self
    exact absurd (Nat.isDigit_of_mem_toDigits (by decide) (by decide) hplus) (by decide)
  next => exact hdigits

end Number

namespace Kind

/-- A number of 64 bits that is written out is read as what it is. -/
theorem readCount_toString {n : Nat} (hn : n < Word.end64) : readCount (toString n) = .ok n := by
  rw [readCount, Number.natural_toString, if_pos hn]
  rfl

/-- Every chunk size that is read fits the header of a chunk. -/
theorem readChunkSize_eq_ok {text : String} {n : Nat} (h : readChunkSize text = .ok n) :
    1 ≤ n ∧ n < Word.end32 := by
  rw [readChunkSize] at h
  split at h
  · cases h
  · split at h
    next hvalid =>
      cases h
      exact Upload.isValidSize_iff.1 hvalid
    next => cases h

/-- **A chunk size that is written out** is read as what it is, exactly if it fits the header of a
chunk. -/
theorem readChunkSize_toString {n : Nat} (hn : n < Word.end64) (m : Nat) :
    readChunkSize (toString n) = .ok m ↔ (1 ≤ n ∧ n < Word.end32) ∧ m = n := by
  rw [readChunkSize, readCount_toString hn, ← Upload.isValidSize_iff]
  show (if Chunk.isValidSize n then Except.ok n else _) = _ ↔ _
  split
  next hvalid => simp [hvalid, eq_comm]
  next hvalid => simp [hvalid]

end Kind

end Clamd.CommandLine
