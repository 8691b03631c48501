import Clamd.Toml.Scan

/-!
# Strings and keys in TOML text

The four forms of strings: basic ones between double quotes, with escapes; literal ones between
apostrophes, without; and both over several lines, between three of these marks. The readers take
the text behind the opening mark and give the string with the text behind the closing one.
-/

namespace Clamd.Toml

/-- The value of a hexadecimal digit. -/
def hexDigit? (c : Char) : Option Nat :=
  if isDigit c then some (c.toNat - '0'.toNat)
  else if 'a' ≤ c && c ≤ 'f' then some (c.toNat - 'a'.toNat + 10)
  else if 'A' ≤ c && c ≤ 'F' then some (c.toNat - 'A'.toNat + 10)
  else none

/-- The character with the code point that the hexadecimal digits give, if there is one. -/
def codePoint? (digits : List Char) : Option Char := do
  let n ← digits.foldlM (fun n c => (hexDigit? c).map (n * 16 + ·)) 0
  if n < 0xD800 || (0xDFFF < n && n ≤ 0x10FFFF) then some (Char.ofNat n) else none

/-- The character whose code point `n` hexadecimal digits give, with the text behind them. -/
def codePointOf? (n : Nat) (cs : List Char) : Option (Char × List Char) :=
  if (cs.take n).length = n then (codePoint? (cs.take n)).map (·, cs.drop n) else none

theorem length_le_of_codePointOf? {n : Nat} {c : Char} {cs rest : List Char}
    (h : codePointOf? n cs = some (c, rest)) : rest.length ≤ cs.length := by
  unfold codePointOf? at h
  split at h
  · obtain ⟨_, _, h⟩ := Option.map_eq_some_iff.1 h
    rw [← (Prod.mk.inj h).2, List.length_drop]
    exact Nat.sub_le ..
  · nomatch h

/-- The character that an escape stands for, with the text behind it. The text begins behind the
backslash. -/
def escape? : List Char → Option (Char × List Char)
  | 'b' :: cs => some ('\x08', cs)
  | 't' :: cs => some ('\t', cs)
  | 'n' :: cs => some ('\n', cs)
  | 'f' :: cs => some ('\x0C', cs)
  | 'r' :: cs => some ('\r', cs)
  | '"' :: cs => some ('"', cs)
  | '\\' :: cs => some ('\\', cs)
  | 'u' :: cs => codePointOf? 4 cs
  | 'U' :: cs => codePointOf? 8 cs
  | _ => none

/-- An escape takes up some of the text. -/
theorem length_lt_of_escape? {c : Char} {cs rest : List Char} (h : escape? cs = some (c, rest)) :
    rest.length < cs.length := by
  unfold escape? at h
  split at h
  case h_8 => exact Nat.lt_succ_of_le (length_le_of_codePointOf? h)
  case h_9 => exact Nat.lt_succ_of_le (length_le_of_codePointOf? h)
  all_goals simp_all

/-- Reads a basic string on one line. `back` holds what has been read, backwards. -/
def basicString (back : List Char) : List Char → Option (String × List Char)
  | [] => none
  | '"' :: rest => some (String.ofList back.reverse, rest)
  | '\\' :: rest =>
    match h : escape? rest with
    | none => none
    | some (c, below) =>
      have := length_lt_of_escape? h
      basicString (c :: back) below
  | c :: rest => if isVisible c then basicString (c :: back) rest else none
termination_by cs => cs.length

/-- The text behind a line end that a backslash removes, with all blanks and line ends that follow.
The text begins behind the backslash. -/
def skipFold? (cs : List Char) : Option (List Char) :=
  match skipSpaces cs with
  | '\n' :: below => some (below.dropWhile fun c => isSpace c || c == '\n')
  | _ => none

theorem length_le_of_skipFold? {cs rest : List Char} (h : skipFold? cs = some rest) :
    rest.length ≤ cs.length := by
  unfold skipFold? at h
  split at h
  next below heq =>
    have hs := (List.dropWhile_suffix isSpace (l := cs)).length_le
    have hb := (List.dropWhile_suffix (fun c => isSpace c || c == '\n') (l := below)).length_le
    rw [← Option.some.inj h]
    rw [skipSpaces] at heq
    rw [heq] at hs
    exact Nat.le_trans hb (Nat.le_of_succ_le hs)
  next => nomatch h

/-- Reads a basic string over several lines. Up to two quotes may stand before the closing mark. -/
def basicLines (back : List Char) : List Char → Option (String × List Char)
  | [] => none
  | '"' :: '"' :: '"' :: '"' :: '"' :: rest =>
    some (String.ofList ('"' :: '"' :: back).reverse, rest)
  | '"' :: '"' :: '"' :: '"' :: rest => some (String.ofList ('"' :: back).reverse, rest)
  | '"' :: '"' :: '"' :: rest => some (String.ofList back.reverse, rest)
  | '"' :: rest => basicLines ('"' :: back) rest
  | '\\' :: rest =>
    match hf : skipFold? rest with
    | some below =>
      have := length_le_of_skipFold? hf
      basicLines back below
    | none =>
      match h : escape? rest with
      | none => none
      | some (c, below) =>
        have := length_lt_of_escape? h
        basicLines (c :: back) below
  | c :: rest => if isVisible c || c == '\n' then basicLines (c :: back) rest else none
termination_by cs => cs.length

/-- Reads a literal string on one line. -/
def literalString (cs : List Char) : Option (String × List Char) :=
  let text := cs.takeWhile fun c => isVisible c && c != '\''
  match cs.drop text.length with
  | '\'' :: rest => some (String.ofList text, rest)
  | _ => none

/-- Reads a literal string over several lines. Up to two apostrophes may stand before the closing
mark. -/
def literalLines (back : List Char) : List Char → Option (String × List Char)
  | [] => none
  | '\'' :: '\'' :: '\'' :: '\'' :: '\'' :: rest =>
    some (String.ofList ('\'' :: '\'' :: back).reverse, rest)
  | '\'' :: '\'' :: '\'' :: '\'' :: rest => some (String.ofList ('\'' :: back).reverse, rest)
  | '\'' :: '\'' :: '\'' :: rest => some (String.ofList back.reverse, rest)
  | c :: rest => if isVisible c || c == '\n' then literalLines (c :: back) rest else none

/-- The text behind a line end that comes right after the opening mark of a string over several
lines, which does not belong to the string. -/
def skipFirstLineEnd : List Char → List Char
  | '\n' :: cs => cs
  | cs => cs

/-- Reads a string of any form. -/
def string? : List Char → Option (String × List Char)
  | '"' :: '"' :: '"' :: cs => basicLines [] (skipFirstLineEnd cs)
  | '"' :: cs => basicString [] cs
  | '\'' :: '\'' :: '\'' :: cs => literalLines [] (skipFirstLineEnd cs)
  | '\'' :: cs => literalString cs
  | _ => none

/-- Reads one part of a key: a bare word, or a string on one line. -/
def keyPart? : List Char → Option (String × List Char)
  | '"' :: cs => basicString [] cs
  | '\'' :: cs => literalString cs
  | cs =>
    let word := cs.takeWhile isBareKey
    if word.isEmpty then none else some (String.ofList word, cs.drop word.length)

/-- Reads the parts of a key, with the blanks around them. -/
def keyParts (fuel : Nat) (cs : List Char) : Option (List String × List Char) :=
  match fuel with
  | 0 => none
  | fuel + 1 => do
    let (part, rest) ← keyPart? (skipSpaces cs)
    match skipSpaces rest with
    | '.' :: rest => do
      let (parts, rest) ← keyParts fuel rest
      return (part :: parts, rest)
    | rest => return ([part], rest)

/-- How deep arrays and tables between braces may be nested, and how many parts a key may have:
fewer than this. -/
def depthLimit : Nat := 80

/-- Reads a key. Its parts but the last lead to a table. -/
def key? (cs : List Char) : Option ((List String × String) × List Char) := do
  let (parts, rest) ← keyParts depthLimit cs
  if parts.length < depthLimit then
    let name ← parts.getLast?
    return ((parts.dropLast, name), rest)
  else none

end Clamd.Toml
