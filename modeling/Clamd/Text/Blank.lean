/-!
# Blank characters

The characters that count as white space in replies, state files and words: the code points with
the Unicode property `White_Space`, and the operations on text that rest on it.

* `pieces_ne_nil`: a text has at least one piece;
* `mem_words_ne_nil`: no word is empty.
-/

namespace Clamd.Text

/-- The 25 code points with the property `White_Space`. The information separators
(U+001C to U+001F), the zero width space and the byte order mark are not among them. -/
def isBlank (c : Char) : Bool :=
  let n := c.toNat
  (0x09 ≤ n && n ≤ 0x0D) || n == 0x20 || n == 0x85 || n == 0xA0 || n == 0x1680 ||
    (0x2000 ≤ n && n ≤ 0x200A) || n == 0x2028 || n == 0x2029 || n == 0x202F || n == 0x205F ||
    n == 0x3000

/-- `cs` without the blanks at its end. -/
def trimEnd (cs : List Char) : List Char :=
  (cs.reverse.dropWhile isBlank).reverse

/-- `cs` without the blanks at its two ends. -/
def trim (cs : List Char) : List Char :=
  trimEnd (cs.dropWhile isBlank)

/-- The text `s` without the blanks at its two ends. -/
def trimmed (s : String) : String :=
  String.ofList (trim s.toList)

/-- The pieces of `cs` between the characters that satisfy `isSeparator`: one more than there are
such characters, so a text without any is its own only piece. -/
def pieces (isSeparator : Char → Bool) (cs : List Char) : List (List Char) :=
  cs.foldr
    (fun c rest =>
      if isSeparator c then [] :: rest
      else match rest with
        | [] => [[c]]
        | piece :: others => (c :: piece) :: others)
    [[]]

/-- The words of `cs`: its longest runs of characters that are not blank. -/
def words (cs : List Char) : List (List Char) :=
  (pieces isBlank cs).filter (!·.isEmpty)

/-- What follows the first occurrence of `pattern` in a text, if there is one. -/
def afterFirst (pattern : List Char) : List Char → Option (List Char)
  | [] => if pattern.isEmpty then some [] else none
  | c :: cs =>
    if pattern.isPrefixOf (c :: cs) then some ((c :: cs).drop pattern.length)
    else afterFirst pattern cs

/-- Whether `pattern` occurs in a text. -/
def occurs (pattern cs : List Char) : Bool :=
  (afterFirst pattern cs).isSome

@[simp] theorem pieces_nil (p : Char → Bool) : pieces p [] = [[]] := rfl

theorem pieces_cons (p : Char → Bool) (c : Char) (cs : List Char) :
    pieces p (c :: cs) =
      if p c then [] :: pieces p cs
      else match pieces p cs with
        | [] => [[c]]
        | piece :: others => (c :: piece) :: others := rfl

/-- A text has at least one piece. -/
theorem pieces_ne_nil (p : Char → Bool) (cs : List Char) : pieces p cs ≠ [] := by
  cases cs with
  | nil => simp
  | cons c cs =>
    rw [pieces_cons]
    split
    · simp
    · split <;> simp

/-- No word is empty. -/
theorem mem_words_ne_nil {cs w : List Char} (h : w ∈ words cs) : w ≠ [] := by
  rw [words, List.mem_filter] at h
  intro hw
  simp [hw] at h

end Clamd.Text
