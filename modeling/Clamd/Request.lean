import Clamd.Text.Utf8

/-!
# Requests

A request is one line: a mark that names the framing, a verb, an optional argument after one space,
and the framing's terminator. The daemon ends its reply with the same terminator. The argument is
not escaped.
-/

namespace Clamd

/-- How a request is delimited. -/
inductive Framing where
  /-- Marked `z` and ended by NUL. -/
  | null
  /-- Marked `n` and ended by a line feed. -/
  | newline
  deriving DecidableEq, Repr

namespace Framing

/-- The character that opens a request. -/
def mark : Framing → Char
  | null => 'z'
  | newline => 'n'

/-- The character that closes a request and the reply to it. -/
def terminator : Framing → Char
  | null => '\x00'
  | newline => '\n'

/-- The text without one terminator at its end. Earlier terminators separate lines and stay. -/
def strip (framing : Framing) (text : String) : String :=
  let cs := text.toList
  if cs.getLast? == some framing.terminator then String.ofList cs.dropLast else text

end Framing

/-- One request to the daemon. An argument may be empty, which is not the same as none. -/
structure Request where
  /-- How the request is delimited. -/
  framing : Framing := .null
  /-- The word that says what to do. -/
  verb : String
  /-- What to do it to. -/
  argument : Option String := none
  deriving DecidableEq, Repr

namespace Request

/-- The request as text: mark, verb, the argument after a space if there is one, terminator. -/
def text (r : Request) : String :=
  let argument := match r.argument with
    | none => ""
    | some a => " " ++ a
  String.singleton r.framing.mark ++ r.verb ++ argument ++ String.singleton r.framing.terminator

/-- The bytes that go to the daemon. -/
def frame (r : Request) : ByteArray :=
  Text.Utf8.encode r.text

end Request

end Clamd
