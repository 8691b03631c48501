import Clamd.Text.Utf8

/-!
# Text and its bytes

What the bytes of a text say about its characters. A character below `0x80` is one byte, and this
byte stands for nothing else: the bytes of all other characters are greater.

* `Text.Utf8.decode?_encode`: text survives being turned into bytes and back;
* `Text.Utf8.bytes_append`: the bytes of a text are those of its parts, one after another;
* `Text.Utf8.mem_bytes_iff`: a character below `0x80` occurs in a text exactly if its byte occurs
  among the bytes of the text;
* `Text.Utf8.decodeLenient_eq_empty_iff`: the lenient reading passes over nothing altogether;
* `Text.Utf8.decodeLenient_encode`: and it reads the bytes of a text as this text.
-/

namespace Clamd.Text.Utf8

/-- **Text survives** being turned into bytes and back. -/
theorem decode?_encode (s : String) : decode? (encode s) = some s := by
  have hvalid : s.toByteArray.IsValidUTF8 := s.isValidUTF8
  rw [decode?, encode, String.toUTF8_eq_toByteArray, String.fromUTF8?, dif_pos hvalid]
  rfl

/-- The bytes of a text, as a list. -/
def bytes (s : String) : List UInt8 :=
  (encode s).data.toList

/-- The text that some bytes are, if they are one. -/
def ofBytes? (bs : List UInt8) : Option String :=
  decode? ⟨bs.toArray⟩

theorem ofBytes?_bytes (s : String) : ofBytes? (bytes s) = some s :=
  decode?_encode s

theorem bytes_eq (s : String) : bytes s = s.toList.flatMap String.utf8EncodeChar := by
  rw [bytes, encode, String.toUTF8_eq_toByteArray, ← String.utf8Encode_toList, List.utf8Encode,
    List.toList_data_toByteArray]

theorem bytes_append (s t : String) : bytes (s ++ t) = bytes s ++ bytes t := by
  rw [bytes_eq, bytes_eq, bytes_eq, String.toList_append, List.flatMap_append]

/-! ### Characters of one byte -/

variable {c d : Char}

theorem toNat_toUInt8 (hd : d.toNat < 0x80) : d.toUInt8.toNat = d.toNat := by
  have hmod : d.toUInt8.toNat = d.toNat % 256 := rfl
  omega

/-- A character below `0x80` is one byte. -/
theorem utf8EncodeChar_eq_singleton (hd : d.toNat < 0x80) :
    String.utf8EncodeChar d = [d.toUInt8] := by
  have hle : d.val.toNat ≤ 0x7f := Nat.le_of_lt_succ hd
  rw [String.utf8EncodeChar, if_pos hle]
  rfl

/-- The bytes of a character from `0x80` on are not below it. -/
theorem le_of_mem_utf8EncodeChar {b : UInt8} (hc : 0x80 ≤ c.toNat)
    (h : b ∈ String.utf8EncodeChar c) : 0x80 ≤ b.toNat := by
  have hval : 0x80 ≤ c.val.toNat := hc
  simp only [String.utf8EncodeChar] at h
  -- one case for each number of bytes; every byte has one of its upper bits set
  split at h
  · omega
  · split at h
    · simp only [List.mem_cons, List.not_mem_nil, or_false] at h
      rcases h with rfl | rfl <;> rw [UInt8.toNat_ofNat'] <;> omega
    · split at h
      · simp only [List.mem_cons, List.not_mem_nil, or_false] at h
        rcases h with rfl | rfl | rfl <;> rw [UInt8.toNat_ofNat'] <;> omega
      · simp only [List.mem_cons, List.not_mem_nil, or_false] at h
        rcases h with rfl | rfl | rfl | rfl <;> rw [UInt8.toNat_ofNat'] <;> omega

/-- **The byte of a character below `0x80`** occurs in no other character. -/
theorem eq_of_mem_utf8EncodeChar (hd : d.toNat < 0x80)
    (h : d.toUInt8 ∈ String.utf8EncodeChar c) : c = d := by
  have hbyte := toNat_toUInt8 hd
  have hc : c.toNat < 0x80 := by
    refine Nat.lt_of_not_le fun hc => ?_
    have hle := le_of_mem_utf8EncodeChar hc h
    omega
  rw [utf8EncodeChar_eq_singleton hc, List.mem_singleton] at h
  have hnat : d.toNat = c.toNat := by rw [← hbyte, h, toNat_toUInt8 hc]
  exact Char.toNat_inj.1 hnat.symm

/-- **A character below `0x80` occurs in a text** exactly if its byte occurs among the bytes. -/
theorem mem_bytes_iff (hd : d.toNat < 0x80) {s : String} : d.toUInt8 ∈ bytes s ↔ d ∈ s.toList := by
  rw [bytes_eq, List.mem_flatMap]
  constructor
  · rintro ⟨c, hc, hmem⟩
    exact eq_of_mem_utf8EncodeChar hd hmem ▸ hc
  · intro hmem
    refine ⟨d, hmem, ?_⟩
    rw [utf8EncodeChar_eq_singleton hd]
    exact List.mem_singleton_self _

/-- The bytes of a text of one character below `0x80`. -/
theorem bytes_singleton (hd : d.toNat < 0x80) : bytes (String.singleton d) = [d.toUInt8] := by
  rw [bytes_eq, String.toList_singleton, List.flatMap_cons, List.flatMap_nil, List.append_nil,
    utf8EncodeChar_eq_singleton hd]

/-! ### Reading leniently -/

namespace Decoder

/-- A decoder has taken a byte: there is some text, or a character is pending. -/
def Begun (d : Decoder) : Prop :=
  d.text ≠ "" ∨ d.pending.owed ≠ 0

/-- A character of several bytes is pending when its first byte has come. -/
theorem owed_of_begins {b : UInt8} {p : Pending} (h : opening b = .begins p) : p.owed ≠ 0 := by
  rw [opening] at h
  -- by the range of the byte
  repeat' split at h
  all_goals simp only [reduceCtorEq, Opening.begins.injEq] at h
  all_goals
    rw [← h]
    exact Nat.succ_ne_zero _

theorem begun_start (text : String) (b : UInt8) : (start text b).Begun := by
  rw [start]
  split
  next => exact .inl String.push_ne_empty
  next p hopening => exact .inr (owed_of_begins hopening)
  next => exact .inl String.push_ne_empty

/-- **Every byte leaves something behind.** -/
theorem begun_feed (d : Decoder) (b : UInt8) : (d.feed b).Begun := by
  rw [feed]
  split
  · exact begun_start _ b
  next howed =>
    split
    · split
      · exact .inl String.push_ne_empty
      next hmore =>
        rw [beq_iff_eq] at howed hmore
        exact .inr (by simp only; omega)
    · exact begun_start _ b

theorem Begun.feedFrom {d : Decoder} (h : d.Begun) (b : ByteArray) (i : Nat) :
    (feedFrom b i d).Begun := by
  fun_induction Decoder.feedFrom b i d with
  | case1 i d hi ih => exact ih (begun_feed d _)
  | case2 => exact h

/-- What a byte leaves behind is seen in the end. -/
theorem Begun.finish_ne_empty {d : Decoder} (h : d.Begun) : d.finish ≠ "" := by
  rw [finish]
  split
  next howed => exact h.resolve_right (by simpa using howed)
  next => exact String.push_ne_empty

end Decoder

/-- **Only no bytes are read as no text.** -/
theorem decodeLenient_eq_empty_iff {b : ByteArray} : decodeLenient b = "" ↔ b.size = 0 := by
  rw [decodeLenient, Decoder.feedFrom]
  split
  next hpos =>
    have hbegun := (Decoder.begun_feed {} b[0]).feedFrom b (0 + 1)
    refine iff_of_false hbegun.finish_ne_empty ?_
    omega
  next hzero =>
    refine iff_of_true rfl ?_
    omega

/-! ### Text read leniently -/

/-- A character of which `value` has been read and `owed + 1` bytes are still to come may go on with
the byte `next`. -/
structure Pending.Awaits (p : Pending) (value owed next : Nat) : Prop where
  value : p.value = value
  owed : p.owed = owed + 1
  low : p.low.toNat ≤ next
  high : next ≤ p.high.toNat

namespace Decoder

theorem feedFrom_eq (b : ByteArray) (i : Nat) (d : Decoder) :
    feedFrom b i d = (b.data.toList.drop i).foldl feed d := by
  fun_induction Decoder.feedFrom b i d with
  | case1 i d hi ih =>
    have hlength : i < b.data.toList.length := hi
    rw [ih, List.drop_eq_getElem_cons hlength, List.foldl_cons]
    rfl
  | case2 i d hi =>
    have hlength : b.data.toList.length ≤ i := Nat.le_of_not_lt hi
    rw [List.drop_eq_nil_of_le hlength, List.foldl_nil]

/-- A byte that may come next is taken into the pending character, which is complete if no other
byte is owed. -/
theorem feed_of_awaits {p : Pending} {value owed n : Nat} (text : String)
    (h : p.Awaits value owed (n + 0x80)) (hn : n < 0x40) :
    feed { text, pending := p } (UInt8.ofNat (n + 0x80)) =
      if owed = 0 then { text := text.push (Char.ofNat (value * 64 + n)) }
      else { text, pending := { value := value * 64 + n, owed } } := by
  have hbyte : (UInt8.ofNat (n + 0x80)).toNat = n + 0x80 := by
    rw [UInt8.toNat_ofNat']
    omega
  have hin : (p.low ≤ UInt8.ofNat (n + 0x80) && UInt8.ofNat (n + 0x80) ≤ p.high) = true := by
    rw [Bool.and_eq_true, decide_eq_true_eq, decide_eq_true_eq, UInt8.le_iff_toNat_le,
      UInt8.le_iff_toNat_le, hbyte]
    exact ⟨h.low, h.high⟩
  simp only [feed, h.owed, h.value, hin, hbyte, Nat.add_sub_cancel]
  cases owed <;> rfl

theorem feed_of_begins {b : UInt8} {p : Pending} (text : String) (h : opening b = .begins p) :
    feed { text } b = { text, pending := p } := by
  show start text b = _
  rw [start, h]

end Decoder

/-- A further byte that is owed may be any that continues a character. -/
theorem awaits_next {value owed n : Nat} (hn : n < 0x40) :
    ({ value, owed := owed + 1 } : Pending).Awaits value owed (n + 0x80) where
  value := rfl
  owed := rfl
  low := show 0x80 ≤ n + 0x80 by omega
  high := show n + 0x80 ≤ 0xBF by omega

/-- The first of two bytes. -/
theorem opening_of_two {n next : Nat} (hlow : 2 ≤ n) (hhigh : n < 0x20) (hnext : next < 0x40) :
    ∃ p, opening (UInt8.ofNat (n + 0xC0)) = .begins p ∧ p.Awaits n 0 (next + 0x80) := by
  have hbyte : (UInt8.ofNat (n + 0xC0)).toNat = n + 0xC0 := by
    rw [UInt8.toNat_ofNat']
    omega
  simp only [opening, hbyte, Nat.add_sub_cancel]
  rw [if_neg (by omega), if_neg (by omega), if_pos (by omega)]
  exact ⟨_, rfl, awaits_next hnext⟩

/-- The first of three bytes. -/
theorem opening_of_three {n next : Nat} (hn : n < 0x10) (hnext : next < 0x40)
    (hshort : n = 0 → 0x20 ≤ next) (hsurrogate : n = 0xD → next < 0x20) :
    ∃ p, opening (UInt8.ofNat (n + 0xE0)) = .begins p ∧ p.Awaits n 1 (next + 0x80) := by
  have hbyte : (UInt8.ofNat (n + 0xE0)).toNat = n + 0xE0 := by
    rw [UInt8.toNat_ofNat']
    omega
  simp only [opening, hbyte, beq_iff_eq, Nat.add_sub_cancel]
  rw [if_neg (by omega), if_neg (by omega), if_neg (by omega)]
  split
  next hfirst =>
    obtain rfl : n = 0 := by omega
    have hlow : 0xA0 ≤ next + 0x80 := by omega
    have hhigh : next + 0x80 ≤ 0xBF := by omega
    exact ⟨_, rfl, rfl, rfl, hlow, hhigh⟩
  next =>
    split
    next hsurrogates =>
      obtain rfl : n = 0xD := by omega
      have hlow : 0x80 ≤ next + 0x80 := by omega
      have hhigh : next + 0x80 ≤ 0x9F := by omega
      exact ⟨_, rfl, rfl, rfl, hlow, hhigh⟩
    next =>
      rw [if_pos (by omega)]
      exact ⟨_, rfl, awaits_next hnext⟩

/-- The first of four bytes. -/
theorem opening_of_four {n next : Nat} (hn : n < 5) (hnext : next < 0x40)
    (hshort : n = 0 → 0x10 ≤ next) (hlong : n = 4 → next < 0x10) :
    ∃ p, opening (UInt8.ofNat (n + 0xF0)) = .begins p ∧ p.Awaits n 2 (next + 0x80) := by
  have hbyte : (UInt8.ofNat (n + 0xF0)).toNat = n + 0xF0 := by
    rw [UInt8.toNat_ofNat']
    omega
  simp only [opening, hbyte, beq_iff_eq, Nat.add_sub_cancel]
  rw [if_neg (by omega), if_neg (by omega), if_neg (by omega), if_neg (by omega), if_neg (by omega),
    if_neg (by omega)]
  split
  next hfirst =>
    obtain rfl : n = 0 := by omega
    have hlow : 0x90 ≤ next + 0x80 := by omega
    have hhigh : next + 0x80 ≤ 0xBF := by omega
    exact ⟨_, rfl, rfl, rfl, hlow, hhigh⟩
  next =>
    split
    next hmiddle =>
      exact ⟨_, rfl, awaits_next hnext⟩
    next =>
      obtain rfl : n = 4 := by omega
      have hlow : 0x80 ≤ next + 0x80 := by omega
      have hhigh : next + 0x80 ≤ 0x8F := by omega
      rw [if_pos rfl]
      exact ⟨_, rfl, rfl, rfl, hlow, hhigh⟩

/-- **The bytes of a character** are read as this character. -/
theorem foldl_feed_utf8EncodeChar (text : String) (c : Char) :
    (String.utf8EncodeChar c).foldl Decoder.feed { text } = { text := text.push c } := by
  have hmax : c.val.toNat < 0x110000 ∧ (c.val.toNat < 0xD800 ∨ 0xDFFF < c.val.toNat) := by
    rcases c.valid with h | h <;> omega
  have hchar : ∀ n, n = c.val.toNat → Char.ofNat n = c := by
    rintro n rfl
    exact Char.ofNat_toNat c
  simp only [String.utf8EncodeChar]
  -- by the number of bytes
  split
  next hone =>
    have hbyte : (UInt8.ofNat c.val.toNat).toNat = c.val.toNat := by
      rw [UInt8.toNat_ofNat']
      omega
    show Decoder.start text _ = _
    simp only [Decoder.start, opening, hbyte]
    rw [if_pos (by omega), hchar _ rfl]
  next hone =>
    split
    next htwo =>
      obtain ⟨p, hopening, hp⟩ := @opening_of_two (c.val.toNat / 64 % 32) (c.val.toNat % 64)
        (by omega) (by omega) (by omega)
      rw [List.foldl_cons, Decoder.feed_of_begins text hopening, List.foldl_cons,
        Decoder.feed_of_awaits text hp (by omega), if_pos rfl, hchar _ (by omega), List.foldl_nil]
    next htwo =>
      split
      next hthree =>
        obtain ⟨p, hopening, hp⟩ := @opening_of_three (c.val.toNat / 4096 % 16)
          (c.val.toNat / 64 % 64) (by omega) (by omega) (by omega) (by omega)
        rw [List.foldl_cons, Decoder.feed_of_begins text hopening, List.foldl_cons,
          Decoder.feed_of_awaits text hp (by omega), if_neg Nat.one_ne_zero, List.foldl_cons,
          Decoder.feed_of_awaits text (awaits_next (by omega)) (by omega), if_pos rfl,
          hchar _ (by omega), List.foldl_nil]
      next hthree =>
        obtain ⟨p, hopening, hp⟩ := @opening_of_four (c.val.toNat / 262144 % 8)
          (c.val.toNat / 4096 % 64) (by omega) (by omega) (by omega) (by omega)
        rw [List.foldl_cons, Decoder.feed_of_begins text hopening, List.foldl_cons,
          Decoder.feed_of_awaits text hp (by omega), if_neg (Nat.succ_ne_zero 1), List.foldl_cons,
          Decoder.feed_of_awaits text (awaits_next (by omega)) (by omega),
          if_neg Nat.one_ne_zero, List.foldl_cons,
          Decoder.feed_of_awaits text (awaits_next (by omega)) (by omega), if_pos rfl,
          hchar _ (by omega), List.foldl_nil]

/-- **The bytes of a text** are read as this text. -/
theorem decodeLenient_encode (s : String) : decodeLenient (encode s) = s := by
  have hchars : ∀ (cs : List Char) (text : String),
      (cs.flatMap String.utf8EncodeChar).foldl Decoder.feed { text } =
        { text := text ++ String.ofList cs } := by
    intro cs
    induction cs with
    | nil => simp
    | cons c cs ih =>
      intro text
      rw [List.flatMap_cons, List.foldl_append, foldl_feed_utf8EncodeChar, ih]
      have htext : text.push c ++ String.ofList cs = text ++ String.ofList (c :: cs) := by
        apply String.toList_inj.1
        simp only [String.toList_append, String.toList_push, String.toList_ofList,
          List.append_assoc, List.singleton_append]
      rw [htext]
  have hbytes : (encode s).data.toList = s.toList.flatMap String.utf8EncodeChar := bytes_eq s
  rw [decodeLenient, Decoder.feedFrom_eq, List.drop_zero, hbytes, hchars]
  simp [Decoder.finish]

end Clamd.Text.Utf8
