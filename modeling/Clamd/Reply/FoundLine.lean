/-!
# Lines that report a detection

A line of a scan reply that reports a detection ends in ` FOUND` and names an object and a
signature, with a colon and a space between them: `object: signature FOUND`. The line may begin with
a note of its own, also ended by a colon and a space. Since all three may contain that separator
themselves, the reading is fixed by preference: the longest note that leaves room for the rest, then
the shortest object, then everything up to the ending as the signature.

* `FoundLine.ofLine?` is that reading: candidates are tried in order of preference and the first
  that fits wins.
-/

namespace Clamd

/-- What a line reports: a signature was found in an object. -/
structure FoundLine where
  /-- The object that was scanned. -/
  object : List Char
  /-- The signature that it matched. -/
  signature : List Char
  deriving DecidableEq, Repr

namespace FoundLine

/-- How such a line ends. -/
def ending : List Char := [' ', 'F', 'O', 'U', 'N', 'D']

/-- The positions of `cs` where a colon is followed by a space, in increasing order. -/
def separators (cs : List Char) : List Nat :=
  ((cs.zip cs.tail).zipIdx).filterMap fun ((a, b), i) =>
    if a = ':' ∧ b = ' ' then some i else none

/-- Where the object of a line may start, most preferred first: behind each separator that has a
character before it, the last one first, and at the start of the line if there is no note. -/
def starts (separators : List Nat) : List Nat :=
  ((separators.filter (1 ≤ ·)).reverse.map (· + 2)) ++ [0]

/-- The separator that ends an object starting at `start`: the first one that leaves the object and,
in a line whose ending begins at `stop`, the signature at least one character. -/
def objectEnd? (separators : List Nat) (stop start : Nat) : Option Nat :=
  separators.find? fun q => start + 1 ≤ q && q + 2 < stop

/-- Reads `line` as a report of a detection. -/
def ofLine? (line : List Char) : Option FoundLine :=
  if ending.isSuffixOf line then
    let stop := line.length - ending.length
    let marks := separators line
    (starts marks).findSome? fun start =>
      (objectEnd? marks stop start).map fun q =>
        { object := (line.take q).drop start, signature := (line.take stop).drop (q + 2) }
  else none

end FoundLine

end Clamd
