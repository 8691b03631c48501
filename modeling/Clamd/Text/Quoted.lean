import Clamd.Text.Printable

/-!
# Quoted text

How a text is shown inside a message: between double quotes, with everything that could mislead a
reader written as an escape. A double quote and a backslash are escaped, the four common controls
have short escapes, and every other character that is not printable, or that would combine with the
character before it, is written as its code point in lower-case hexadecimal. An apostrophe stays.
-/

namespace Clamd.Text

/-- The code point of `c` as an escape: behind a backslash and a `u`, its hexadecimal digits between
braces, without padding. -/
def codePointEscape (c : Char) : List Char :=
  ['\\', 'u', '{'] ++ Nat.toDigits 16 c.toNat ++ ['}']

/-- The form of one character inside a quoted text. -/
def quotedChar (c : Char) : List Char :=
  match c with
  | '"' => ['\\', '"']
  | '\\' => ['\\', '\\']
  | '\n' => ['\\', 'n']
  | '\r' => ['\\', 'r']
  | '\t' => ['\\', 't']
  | '\x00' => ['\\', '0']
  | c => if isCombining c || !isPrintable c then codePointEscape c else [c]

/-- The text `s` between double quotes, with its escapes. -/
def quoted (s : String) : String :=
  String.ofList ('"' :: (s.toList.flatMap quotedChar ++ ['"']))

/-- Whether `c` is a control character: U+0000 to U+001F and U+007F to U+009F. -/
def isControl (c : Char) : Bool :=
  c.toNat < 0x20 || (0x7F ≤ c.toNat && c.toNat < 0xA0)

/-- The form of one character in a text without control characters: the four common controls have
short escapes, the others are written as their code point, and all else stays. -/
def visibleChar (c : Char) : List Char :=
  match c with
  | '\x00' => ['\\', '0']
  | '\n' => ['\\', 'n']
  | '\r' => ['\\', 'r']
  | '\t' => ['\\', 't']
  | c => if isControl c then codePointEscape c else [c]

/-- The text `s` with its control characters made visible. A backslash is not escaped. -/
def visible (s : String) : String :=
  String.ofList (s.toList.flatMap visibleChar)

end Clamd.Text
