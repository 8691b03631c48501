/-!
# UTF-8, strictly and leniently

Bytes are decoded one at a time by a small machine that knows which bytes may come next. The lenient
reading `decodeLenient` writes one replacement character U+FFFD for each maximal piece that cannot
begin or continue a character; the strict reading `decode?` refuses any such piece.

Since the machine takes single bytes, a text that arrives in several parts is decoded alike however
it was cut.
-/

namespace Clamd.Text.Utf8

/-- What the machine has seen of the character it is reading: the value of the bits so far, the
number of bytes still owed, and the bounds of the next byte. Nothing is pending when no byte is
owed. -/
structure Pending where
  /-- The bits of the character read so far. -/
  value : Nat := 0
  /-- How many bytes the character still needs. -/
  owed : Nat := 0
  /-- The least byte that may come next. -/
  low : UInt8 := 0x80
  /-- The greatest byte that may come next. -/
  high : UInt8 := 0xBF
  deriving Repr, DecidableEq

/-- The machine: the text decoded so far and the character being read. -/
structure Decoder where
  /-- The text decoded so far. -/
  text : String := ""
  /-- The character being read. -/
  pending : Pending := {}

/-- What a byte does between two characters: it is a character of its own, it begins a longer one,
or it is neither. -/
inductive Opening where
  | whole (c : Char)
  | begins (p : Pending)
  | stray

/-- The meaning of `b` between two characters. The bounds of the second byte leave out overlong
forms, surrogates and values above U+10FFFF. -/
def opening (b : UInt8) : Opening :=
  let n := b.toNat
  if n < 0x80 then .whole (Char.ofNat n)
  else if n < 0xC2 then .stray
  else if n < 0xE0 then .begins { value := n - 0xC0, owed := 1 }
  else if n == 0xE0 then .begins { value := 0, owed := 2, low := 0xA0 }
  else if n == 0xED then .begins { value := 0xD, owed := 2, high := 0x9F }
  else if n < 0xF0 then .begins { value := n - 0xE0, owed := 2 }
  else if n == 0xF0 then .begins { value := 0, owed := 3, low := 0x90 }
  else if n < 0xF4 then .begins { value := n - 0xF0, owed := 3 }
  else if n == 0xF4 then .begins { value := 4, owed := 3, high := 0x8F }
  else .stray

/-- The character that stands for a piece that is not UTF-8. -/
def replacement : Char := '\uFFFD'

/-- Takes a byte between two characters. -/
def Decoder.start (text : String) (b : UInt8) : Decoder :=
  match opening b with
  | .whole c => { text := text.push c }
  | .begins p => { text, pending := p }
  | .stray => { text := text.push replacement }

/-- Takes one byte. A byte that cannot continue the pending character ends it as a replacement
character and is then read afresh. -/
def Decoder.feed (d : Decoder) (b : UInt8) : Decoder :=
  let p := d.pending
  if p.owed == 0 then Decoder.start d.text b
  else if p.low ≤ b && b ≤ p.high then
    let value := p.value * 64 + (b.toNat - 0x80)
    if p.owed == 1 then { text := d.text.push (Char.ofNat value) }
    else { text := d.text, pending := { value, owed := p.owed - 1 } }
  else Decoder.start (d.text.push replacement) b

/-- The text of a decoder at the end of the bytes: a character still pending is a replacement
character. -/
def Decoder.finish (d : Decoder) : String :=
  if d.pending.owed == 0 then d.text else d.text.push replacement

/-- Feeds the bytes of `b` from position `i` on. -/
def Decoder.feedFrom (b : ByteArray) (i : Nat) (d : Decoder) : Decoder :=
  if h : i < b.size then feedFrom b (i + 1) (d.feed b[i]) else d
termination_by b.size - i

/-- The text of `b`, with a replacement character for each maximal piece that is not UTF-8. -/
def decodeLenient (b : ByteArray) : String :=
  (Decoder.feedFrom b 0 {}).finish

/-- The text of `b`, if all of it is UTF-8. -/
def decode? (b : ByteArray) : Option String :=
  String.fromUTF8? b

/-- The bytes of `s`. -/
def encode (s : String) : ByteArray :=
  s.toUTF8

end Clamd.Text.Utf8
