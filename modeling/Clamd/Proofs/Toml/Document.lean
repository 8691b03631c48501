import Clamd.Proofs.Toml.Number
import Clamd.Toml.Document

/-!
# Documents of one line

A line with a bare key, an equals sign and a decimal number is a document that defines the key, if
the number fits 64 bits with a sign, and no document otherwise.

* `Toml.key?_bare` reads a bare key up to what follows it;
* `Toml.value?_toDigits` reads the number behind the equals sign;
* `Toml.Document.definition_number` puts both together, and `Toml.Document.parse_number` says it of
  the whole document.
-/

namespace Clamd.Toml

/-! ### Keys -/

/-- **A bare key**: characters of bare keys, at least one. -/
def IsBareWord (word : List Char) : Prop :=
  word ≠ [] ∧ word.all isBareKey = true

instance (word : List Char) : Decidable (IsBareWord word) :=
  inferInstanceAs (Decidable (_ ∧ _))

theorem IsBareWord.isBareKey_of_mem {word : List Char} (h : IsBareWord word) {c : Char}
    (hc : c ∈ word) : isBareKey c = true :=
  List.all_eq_true.1 h.2 c hc

theorem ne_of_isBareKey {c d : Char} (hc : isBareKey c = true) (hd : isBareKey d = false) :
    c ≠ d := by
  rintro rfl
  exact Bool.false_ne_true (hd.symm.trans hc)

/-- Nothing is skipped before a character that is no blank. -/
theorem skipSpaces_cons {c : Char} (hc : isSpace c = false) (rest : List Char) :
    skipSpaces (c :: rest) = c :: rest :=
  List.dropWhile_cons_of_neg (by simp [hc])

/-- A character of a bare key is no blank. -/
theorem isSpace_of_isBareKey {c : Char} (hc : isBareKey c = true) : isSpace c = false := by
  rw [isSpace, Bool.or_eq_false_iff, beq_eq_false_iff_ne, beq_eq_false_iff_ne]
  exact ⟨ne_of_isBareKey hc rfl, ne_of_isBareKey hc rfl⟩

/-- A bare word is one part of a key, and ends at the first character that does not belong to it. -/
theorem keyPart?_bare {word : List Char} (hword : IsBareWord word) {d : Char}
    (hd : isBareKey d = false) (rest : List Char) :
    keyPart? (word ++ d :: rest) = some (String.ofList word, d :: rest) := by
  have htake : (word ++ d :: rest).takeWhile isBareKey = word := by
    rw [List.takeWhile_append_of_pos fun c hc => hword.isBareKey_of_mem hc,
      List.takeWhile_cons_of_neg (by simp [hd]), List.append_nil]
  obtain ⟨c, below, rfl⟩ := List.exists_cons_of_ne_nil hword.1
  have hc : isBareKey c = true := hword.isBareKey_of_mem List.mem_cons_self
  rw [keyPart?, htake, List.drop_left]
  · rfl
  · intro _ heq
    exact ne_of_isBareKey hc rfl (List.cons.inj heq).1
  · intro _ heq
    exact ne_of_isBareKey hc rfl (List.cons.inj heq).1

/-- **A bare word before an equals sign** is a key without a path. -/
theorem key?_bare {word : List Char} (hword : IsBareWord word) (rest : List Char) :
    key? (word ++ ' ' :: '=' :: rest) = some (([], String.ofList word), '=' :: rest) := by
  have hskip : skipSpaces (word ++ ' ' :: '=' :: rest) = word ++ ' ' :: '=' :: rest := by
    obtain ⟨c, below, rfl⟩ := List.exists_cons_of_ne_nil hword.1
    exact skipSpaces_cons (isSpace_of_isBareKey (hword.isBareKey_of_mem List.mem_cons_self)) _
  have hparts : keyParts depthLimit (word ++ ' ' :: '=' :: rest) =
      some ([String.ofList word], '=' :: rest) := by
    rw [show depthLimit = 79 + 1 from rfl, keyParts, hskip, keyPart?_bare hword rfl]
    rfl
  rw [key?, hparts]
  rfl

/-! ### Values -/

/-- What begins with a digit is a number, or no value. -/
theorem value?_digit {c : Char} (hc : isDigit c = true) (fuel room : Nat) (rest : List Char) :
    value? fuel room (c :: rest) = number? (c :: rest) := by
  have hne : ∀ {d : Char}, isDigit d = false → (c == d) = false := fun hd =>
    beq_eq_false_iff_ne.2 (ne_of_isDigit hc hd)
  rw [value?.eq_def]
  simp only [hne (d := '"') rfl, hne (d := '\'') rfl, hne (d := '[') rfl, hne (d := '{') rfl,
    hne (d := 't') rfl, hne (d := 'f') rfl, Bool.or_self, Bool.false_eq_true, if_false]

/-- **The digits of a number** as a value. -/
theorem value?_toDigits (fuel room n : Nat) :
    value? fuel room (Nat.toDigits 10 n) =
      if n < Word.end63 then some (.integer n, []) else none := by
  obtain ⟨c, rest, hcons, hc⟩ := (isDecimal_toDigits n).exists_cons
  rw [hcons, value?_digit hc, ← hcons, number?_toDigits]

/-- Nothing is skipped before the digits of a number. -/
theorem skipSpaces_toDigits (n : Nat) : skipSpaces (Nat.toDigits 10 n) = Nat.toDigits 10 n := by
  obtain ⟨c, rest, hcons, hc⟩ := (isDecimal_toDigits n).exists_cons
  rw [hcons]
  exact skipSpaces_cons (isSpace_of_isBareKey (by simp [isBareKey, hc])) rest

/-! ### Lines -/

/-- A text without carriage returns has its line ends written as line feeds already. -/
theorem unifyLines_of_not_mem {cs : List Char} (h : '\r' ∉ cs) : unifyLines cs = cs := by
  induction cs with
  | nil => rfl
  | cons c cs ih =>
    rw [List.mem_cons, not_or] at h
    rw [unifyLines, ih h.2]
    intro _ hc _
    exact h.1 hc.symm

namespace Document

variable {word : List Char}

/-- The text of a line that gives a number to a key. -/
def numberLine (word : List Char) (n : Nat) : List Char :=
  word ++ ' ' :: '=' :: ' ' :: Nat.toDigits 10 n

/-- Such a line begins with a character of bare keys. -/
theorem exists_numberLine_cons (hword : IsBareWord word) (n : Nat) :
    ∃ c rest, numberLine word n = c :: rest ∧ isBareKey c = true := by
  obtain ⟨c, rest, rfl⟩ := List.exists_cons_of_ne_nil hword.1
  exact ⟨c, _, rfl, hword.isBareKey_of_mem List.mem_cons_self⟩

theorem numberLine_ne_cons (hword : IsBareWord word) {d : Char} (hd : isBareKey d = false)
    (n : Nat) (rest : List Char) : numberLine word n ≠ d :: rest := by
  obtain ⟨c, below, hcons, hc⟩ := exists_numberLine_cons hword n
  intro heq
  exact ne_of_isBareKey hc hd (List.cons.inj (hcons.symm.trans heq)).1

/-- **A line that gives a number to a key** defines it in an empty table, if the number fits. -/
theorem definition_number (hword : IsBareWord word) (fuel n : Nat) :
    definition fuel {} (numberLine word n) =
      if n < Word.end63 then
        some ({ current := ⟨.declared, [(String.ofList word, .integer n)]⟩ }, [])
      else none := by
  have hvalue : value? fuel (depthLimit - 1) (skipSpaces (' ' :: Nat.toDigits 10 n)) = _ :=
    (congrArg _ (skipSpaces_toDigits n)).trans (value?_toDigits fuel (depthLimit - 1) n)
  rw [definition, numberLine, key?_bare hword]
  simp only [bind, Option.bind_some, skipChar?, if_true, hvalue]
  split <;> rfl

/-- The line is all that there is to read. -/
theorem readLines_number (hword : IsBareWord word) (fuel n : Nat) :
    readLines (fuel + 2) {} (numberLine word n) =
      if n < Word.end63 then
        some { current := ⟨.declared, [(String.ofList word, .integer n)]⟩ }
      else none := by
  obtain ⟨c, below, hcons, hc⟩ := exists_numberLine_cons hword n
  have hskip : skipSpaces (numberLine word n) = numberLine word n := by
    rw [hcons]
    exact skipSpaces_cons (isSpace_of_isBareKey hc) _
  have hread : readLines (fuel + 2) {} (numberLine word n) =
      (definition (fuel + 1) {} (numberLine word n)).bind fun read =>
        readLines (fuel + 1) read.1 read.2 := by
    rw [readLines, hskip]
    split
    next heq => exact absurd (hcons.symm.trans heq) (List.cons_ne_nil _ _)
    -- a bare key begins neither an empty line nor a comment nor a header
    next heq => exact absurd heq (numberLine_ne_cons hword rfl n _)
    next heq => exact absurd heq (numberLine_ne_cons hword rfl n _)
    next heq => exact absurd heq (numberLine_ne_cons hword rfl n _)
    next => rfl
  rw [hread, definition_number hword]
  split <;> rfl

/-- **A document of one line** that gives a number to a bare key. -/
theorem parse_number {key : String} (hkey : IsBareWord key.toList) (n : Nat) :
    parse (key ++ " = " ++ toString n) =
      if n < Word.end63 then some [(key, .integer n)] else none := by
  have htext : (key ++ " = " ++ toString n).toList = numberLine key.toList n := by
    rw [numberLine, String.toList_append, String.toList_append, Nat.toString_eq_repr,
      Nat.toList_repr, List.append_assoc]
    rfl
  have hbare : ∀ c ∈ numberLine key.toList n, isBareKey c = true ∨ c = ' ' ∨ c = '=' := by
    intro c hc
    rw [numberLine, List.mem_append] at hc
    rcases hc with hc | hc
    · exact .inl (hkey.isBareKey_of_mem hc)
    · simp only [List.mem_cons] at hc
      rcases hc with rfl | rfl | rfl | hc
      · exact .inr (.inl rfl)
      · exact .inr (.inr rfl)
      · exact .inr (.inl rfl)
      · exact .inl (by simp [isBareKey, (isDecimal_toDigits n).isDigit_of_mem hc])
  have hmark : withoutMark (numberLine key.toList n) = numberLine key.toList n := by
    rw [withoutMark]
    exact fun rest => numberLine_ne_cons hkey (by decide) n rest
  have hunify : unifyLines (numberLine key.toList n) = numberLine key.toList n := by
    refine unifyLines_of_not_mem fun hreturn => ?_
    rcases hbare '\r' hreturn with h | h | h
    all_goals exact absurd h (by decide)
  obtain ⟨fuel, hfuel⟩ : ∃ fuel, (numberLine key.toList n).length + 1 = fuel + 2 :=
    ⟨(numberLine key.toList n).length - 1, by
      simp only [numberLine, List.length_append, List.length_cons]
      omega⟩
  rw [parse, htext, hmark, hunify, hfuel, readLines_number hkey, String.ofList_toList]
  split <;> rfl

end Document

end Clamd.Toml
