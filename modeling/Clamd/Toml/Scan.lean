/-!
# Characters of TOML text

The character classes of TOML, and the steps that pass over blanks, comments and line ends. A line
ends at a line feed; `unifyLines` makes one of a carriage return with a line feed, and any other
carriage return is left where it is refused.
-/

namespace Clamd.Toml

/-- Writes every line end as a line feed. -/
def unifyLines : List Char → List Char
  | [] => []
  | '\r' :: '\n' :: cs => '\n' :: unifyLines cs
  | c :: cs => c :: unifyLines cs

/-- A space or a tab. -/
def isSpace (c : Char) : Bool := c == ' ' || c == '\t'

/-- A decimal digit. -/
def isDigit (c : Char) : Bool := '0' ≤ c && c ≤ '9'

/-- A character that a comment or a string may hold: a tab, or anything but a control character of
ASCII. -/
def isVisible (c : Char) : Bool := c == '\t' || (0x20 ≤ c.toNat && c.toNat != 0x7F)

/-- A character of a bare key. -/
def isBareKey (c : Char) : Bool :=
  isDigit c || ('a' ≤ c && c ≤ 'z') || ('A' ≤ c && c ≤ 'Z') || c == '_' || c == '-'

/-- The text behind spaces and tabs. -/
def skipSpaces (cs : List Char) : List Char := cs.dropWhile isSpace

/-- The text behind a comment's `#`, up to the end of its line, if the comment is well formed. -/
def skipComment (cs : List Char) : Option (List Char) :=
  let rest := cs.dropWhile isVisible
  match rest with
  | [] => some []
  | '\n' :: _ => some rest
  | _ => none

/-- The text behind the end of a line that may still hold spaces and a comment. -/
def endLine (cs : List Char) : Option (List Char) :=
  let behind : List Char → Option (List Char)
    | [] => some []
    | '\n' :: rest => some rest
    | _ => none
  match skipSpaces cs with
  | '#' :: rest => (skipComment rest).bind behind
  | rest => behind rest

/-- The text behind blanks, comments and line ends, as between the items of an array. A comment has
to be followed by a line end. -/
def skipGaps : Nat → List Char → Option (List Char)
  | 0, cs => some cs
  | fuel + 1, cs =>
    match skipSpaces cs with
    | '\n' :: rest => skipGaps fuel rest
    | '#' :: rest =>
      match skipComment rest with
      | some ('\n' :: rest) => skipGaps fuel rest
      | _ => none
    | rest => some rest

end Clamd.Toml
