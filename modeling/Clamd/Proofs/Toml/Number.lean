import Clamd.Toml.Number
import Mathlib.Data.List.Basic

/-!
# Decimal numbers in TOML text

Behind the `=` of a key a number may also be a date, a time of day or a floating-point number, and
these forms are looked for first. A text of digits is none of them, and it is read as the whole
number that it denotes, if that fits 64 bits with a sign.

* `Toml.IsDecimal` are the texts of decimal numbers, and `Toml.isDecimal_toDigits` says that every
  number has one;
* `Toml.ofDigits_toDigits`: the digits of a number denote it, to any base up to sixteen;
* `Toml.number?_decimal` reads such a text, `Toml.number?_toDigits` that of a given number.
-/

namespace Clamd.Toml

/-! ### Texts of digits -/

/-- **The text of a decimal number** without a sign: digits, of which the first one is no zero,
unless it is the only one. -/
inductive IsDecimal : List Char → Prop where
  | zero : IsDecimal ['0']
  | nonzero {c : Char} {rest : List Char} (hc : isDigit c = true) (hzero : c ≠ '0')
      (hrest : ∀ d ∈ rest, isDigit d = true) : IsDecimal (c :: rest)

theorem ne_of_isDigit {c d : Char} (hc : isDigit c = true) (hd : isDigit d = false) : c ≠ d := by
  rintro rfl
  exact Bool.false_ne_true (hd.symm.trans hc)

/-- Every character of a decimal number is a digit. -/
theorem IsDecimal.isDigit_of_mem {cs : List Char} (h : IsDecimal cs) {c : Char} (hc : c ∈ cs) :
    isDigit c = true := by
  cases h with
  | zero => rw [List.mem_singleton.1 hc]; rfl
  | nonzero hfirst _ hrest =>
    rcases List.mem_cons.1 hc with rfl | hc
    · exact hfirst
    · exact hrest c hc

/-- A decimal number begins with a digit. -/
theorem IsDecimal.exists_cons {cs : List Char} (h : IsDecimal cs) :
    ∃ c rest, cs = c :: rest ∧ isDigit c = true := by
  cases h with
  | zero => exact ⟨'0', [], rfl, rfl⟩
  | @nonzero c rest hc _ _ => exact ⟨c, rest, rfl, hc⟩

/-- Only the digits of zero begin with a zero. -/
theorem eq_zero_of_toDigits_eq_cons {n : Nat} {rest : List Char}
    (h : Nat.toDigits 10 n = '0' :: rest) : n = 0 := by
  induction n using Nat.strongRecOn generalizing rest with
  | ind n ih =>
    rcases Nat.lt_or_ge n 10 with hn | hn
    · rw [Nat.toDigits_of_lt_base hn] at h
      exact Nat.digitChar_eq_zero.1 (List.cons.inj h).1
    · -- the digits of the tenth part come first
      rw [Nat.toDigits_of_base_le (by decide) hn] at h
      obtain ⟨c, front, hfront⟩ := List.exists_cons_of_ne_nil (Nat.toDigits_ne_nil (n := n / 10))
      rw [hfront, List.cons_append] at h
      have htenth : n / 10 = 0 := ih (n / 10) (by omega) ((List.cons.inj h).1 ▸ hfront)
      omega

/-- The digits of a number are the text of a decimal number. -/
theorem isDecimal_toDigits (n : Nat) : IsDecimal (Nat.toDigits 10 n) := by
  have hdigit : ∀ c ∈ Nat.toDigits 10 n, isDigit c = true := fun c hc =>
    Nat.isDigit_of_mem_toDigits (by decide) (by decide) hc
  obtain ⟨c, rest, hcons⟩ := List.exists_cons_of_ne_nil (Nat.toDigits_ne_nil (b := 10) (n := n))
  rw [hcons] at hdigit ⊢
  by_cases hzero : c = '0'
  · subst hzero
    rw [eq_zero_of_toDigits_eq_cons hcons, Nat.toDigits_zero] at hcons
    rw [← hcons]
    exact .zero
  · exact .nonzero (hdigit c List.mem_cons_self) hzero fun d hd =>
      hdigit d (List.mem_cons_of_mem c hd)

/-- Every digit of a number is that of a number below the base. -/
theorem exists_digitChar_of_mem_toDigits {base n : Nat} (hbase : 1 < base) {c : Char}
    (hc : c ∈ Nat.toDigits base n) : ∃ k < base, c = k.digitChar := by
  induction n using Nat.base_induction base hbase with
  | single m hm =>
    rw [Nat.toDigits_of_lt_base hm, List.mem_singleton] at hc
    exact ⟨m, hm, hc⟩
  | digit m k hk hm ih =>
    rw [← Nat.toDigits_append_toDigits hbase hm hk, List.mem_append] at hc
    rcases hc with hfront | hlast
    · exact ih hfront
    · rw [Nat.toDigits_of_lt_base hk, List.mem_singleton] at hlast
      exact ⟨k, hk, hlast⟩

theorem hexDigit?_digitChar : ∀ k < 16, hexDigit? k.digitChar = some k := by
  decide

/-- The last digit of a number counts once, and the others as often as the base says. -/
theorem ofDigits_append_digit {base k : Nat} (hk : k < base) (hbase : base ≤ 16)
    (front : List Char) :
    ofDigits base (front ++ Nat.toDigits base k) = ofDigits base front * base + k := by
  rw [ofDigits, List.foldl_append, Nat.toDigits_of_lt_base hk, List.foldl_cons, List.foldl_nil,
    hexDigit?_digitChar k (Nat.lt_of_lt_of_le hk hbase)]
  rfl

/-- **The digits of a number denote it**, to any base for which there are digits. -/
theorem ofDigits_toDigits {base : Nat} (hlow : 1 < base) (hhigh : base ≤ 16) (n : Nat) :
    ofDigits base (Nat.toDigits base n) = n := by
  induction n using Nat.base_induction base hlow with
  | single m hm =>
    calc ofDigits base (Nat.toDigits base m)
        = ofDigits base [] * base + m := ofDigits_append_digit hm hhigh []
      _ = m := by rw [ofDigits, List.foldl_nil, Nat.zero_mul, Nat.zero_add]
  | digit m k hk hm ih =>
    calc ofDigits base (Nat.toDigits base (base * m + k))
        = ofDigits base (Nat.toDigits base m ++ Nat.toDigits base k) := by
          rw [Nat.toDigits_append_toDigits hlow hm hk]
      _ = ofDigits base (Nat.toDigits base m) * base + k := ofDigits_append_digit hk hhigh _
      _ = base * m + k := by rw [ih, Nat.mul_comm]

/-! ### The forms of numbers -/

/-- A run of digits goes to the end of a text of digits. -/
theorem digitRun_digits {cs : List Char} (h : ∀ c ∈ cs, isDigit c = true) :
    digitRun isDigit cs = (cs, []) := by
  induction cs with
  | nil => rfl
  | cons c cs ih =>
    obtain ⟨hc, hcs⟩ := List.forall_mem_cons.1 h
    rw [digitRun, if_pos hc, ih hcs]

/-- A digit is no sign. -/
theorem sign_digit {c : Char} (hc : isDigit c = true) (rest : List Char) :
    sign (c :: rest) = (false, c :: rest) := by
  rw [sign]
  · rintro cs heq
    exact ne_of_isDigit hc rfl (List.cons.inj heq).1
  · rintro cs heq
    exact ne_of_isDigit hc rfl (List.cons.inj heq).1

/-- The text behind a fixed number of digits. -/
theorem rest_of_fixedDigits? {n k : Nat} {cs rest : List Char}
    (h : fixedDigits? n cs = some (k, rest)) : rest = cs.drop n := by
  rw [fixedDigits?] at h
  split at h
  · exact (congrArg Prod.snd (Option.some.inj h)).symm
  · cases h

theorem rest_of_twoDigits? {low high k : Nat} {cs rest : List Char}
    (h : twoDigits? low high cs = some (k, rest)) : rest = cs.drop 2 := by
  obtain ⟨⟨n, behind⟩, hfixed, hbounds⟩ := Option.bind_eq_some_iff.1 h
  dsimp only at hbounds
  split at hbounds
  · cases hbounds
    exact rest_of_fixedDigits? hfixed
  · cases hbounds

namespace IsDecimal

variable {cs : List Char}

/-- A decimal number has no other character than digits behind any of its digits. -/
theorem drop_ne_cons (h : IsDecimal cs) {d : Char} (hd : isDigit d = false) (n : Nat)
    (rest : List Char) : cs.drop n ≠ d :: rest := by
  intro heq
  have hmem : d ∈ cs := List.mem_of_mem_drop (heq ▸ List.mem_cons_self)
  exact ne_of_isDigit (h.isDigit_of_mem hmem) hd rfl

/-- A decimal number is no date and no time of day, for those have hyphens and colons. -/
theorem moment_eq (h : IsDecimal cs) : moment cs = .absent := by
  have hdate : date cs = .absent := by
    rw [date]
    split
    next heq => exact absurd (rest_of_fixedDigits? heq).symm (h.drop_ne_cons rfl 4 _)
    next => rfl
  have htime : timeOfDay cs = .absent := by
    rw [timeOfDay]
    split
    next heq => exact absurd (rest_of_twoDigits? heq).symm (h.drop_ne_cons rfl 2 _)
    next => rfl
  rw [moment, hdate, htime]

/-- A decimal number is read to its end. -/
theorem decimal?_eq (h : IsDecimal cs) : decimal? cs = some ((false, cs), []) := by
  cases h with
  | zero => rfl
  | @nonzero c rest hc hzero hrest =>
    have hdigits : digits? isDigit (c :: rest) = some (c :: rest, []) := by
      rw [digits?, if_pos (by simpa using hc),
        digitRun_digits (List.forall_mem_cons.2 ⟨hc, hrest⟩)]
    rw [decimal?, sign_digit hc]
    dsimp only
    split
    next heq => exact absurd (List.cons.inj heq).1 hzero
    next => rw [hdigits, Option.map_some]

/-- A decimal number has no fraction and no exponent. -/
theorem decimalFloat_eq (h : IsDecimal cs) : decimalFloat cs = .absent := by
  rw [decimalFloat, h.decimal?_eq]
  rfl

theorem specialFloat?_eq (h : IsDecimal cs) : specialFloat? cs = none := by
  cases h with
  | zero => rfl
  | @nonzero c rest hc _ _ =>
    rw [specialFloat?, sign_digit hc]
    dsimp only
    split
    next heq => exact absurd (List.cons.inj heq).1 (ne_of_isDigit hc rfl)
    next heq => exact absurd (List.cons.inj heq).1 (ne_of_isDigit hc rfl)
    next => rfl

/-- A decimal number is no number to another base. -/
theorem integer?_eq (h : IsDecimal cs) :
    integer? cs = (integerItem? false (ofDigits 10 cs)).map (·, []) := by
  have hread := h.decimal?_eq
  cases h with
  | zero => rfl
  | nonzero _ hzero _ =>
    rw [integer?, hread, Option.map_eq_bind]
    · rfl
    -- the mark of a base begins with a zero
    all_goals
      intro _ heq
      exact hzero (List.cons.inj heq).1

end IsDecimal

/-- **A decimal number** is read as a whole number. -/
theorem number?_decimal {cs : List Char} (h : IsDecimal cs) :
    number? cs = (integerItem? false (ofDigits 10 cs)).map (·, []) := by
  rw [number?, h.moment_eq, h.decimalFloat_eq, h.specialFloat?_eq]
  exact h.integer?_eq

/-- **A number that is written out** is read as what it is, if it fits 64 bits with a sign. -/
theorem number?_toDigits (n : Nat) :
    number? (Nat.toDigits 10 n) = if n < Word.end63 then some (.integer n, []) else none := by
  rw [number?_decimal (isDecimal_toDigits n), ofDigits_toDigits (by decide) (by decide),
    integerItem?, if_neg Bool.false_ne_true]
  split <;> rfl

end Clamd.Toml
