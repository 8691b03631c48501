import Clamd.Verdict

/-!
# Verdicts as JSON text

A verdict is written as an object with the member `status`, which is `ok` or `virus`, and in the
second case the member `detections`: an object that maps each object's name to the array of its
signatures. The text has two layouts: compact, without any blank, and indented, with every member
and element on a line of its own, two spaces deeper than what holds it.
-/

namespace Clamd.Json

/-- How a JSON text is laid out. -/
inductive Layout where
  | compact
  | indented
  deriving DecidableEq, Repr

/-- The hexadecimal digits of a control character below U+0020, padded to two places. -/
def twoHexDigits (n : Nat) : List Char :=
  [Nat.digitChar (n / 16), Nat.digitChar (n % 16)]

/-- The form of one character inside a JSON string: only the double quote, the backslash and the
characters below U+0020 are escaped. -/
def stringChar (c : Char) : List Char :=
  match c with
  | '"' => ['\\', '"']
  | '\\' => ['\\', '\\']
  | '\x08' => ['\\', 'b']
  | '\x0C' => ['\\', 'f']
  | '\n' => ['\\', 'n']
  | '\r' => ['\\', 'r']
  | '\t' => ['\\', 't']
  | c => if c.toNat < 0x20 then ['\\', 'u', '0', '0'] ++ twoHexDigits c.toNat else [c]

/-- The text `s` as a JSON string. -/
def string (s : String) : List Char :=
  '"' :: (s.toList.flatMap stringChar ++ ['"'])

namespace Layout

/-- What stands between two parts of a block: the start of a line at `depth`, or nothing. -/
def lineStart : Layout → Nat → List Char
  | compact, _ => []
  | indented, depth => '\n' :: List.replicate (2 * depth) ' '

/-- The items of an array or object at `depth`, between its brackets. An empty block is written
without a line break. -/
def block (layout : Layout) (depth : Nat) (opening closing : Char) (items : List (List Char)) :
    List Char :=
  match items with
  | [] => [opening, closing]
  | first :: rest =>
    let start := layout.lineStart (depth + 1)
    opening :: (start ++ first ++ rest.flatMap (fun item => ',' :: (start ++ item)) ++
      layout.lineStart depth ++ [closing])

/-- A member of an object: its name, a colon, a space if the text is indented, and its value. -/
def pair (layout : Layout) (name : String) (value : List Char) : List Char :=
  string name ++ (if layout = compact then [':'] else [':', ' ']) ++ value

end Layout

end Clamd.Json

namespace Clamd.Verdict

open Json

/-- The detections as a JSON object at `depth`. -/
def detectionsText (layout : Layout) (depth : Nat) (found : Detections) : List Char :=
  layout.block depth '{' '}' <| found.entries.map fun e =>
    layout.pair e.1 (layout.block (depth + 1) '[' ']' (e.2.map string))

/-- The verdict as JSON text. -/
def jsonText (layout : Layout) (v : Verdict) : List Char :=
  match v.detections? with
  | none => layout.block 0 '{' '}' [layout.pair "status" (string "ok")]
  | some found =>
    layout.block 0 '{' '}'
      [layout.pair "status" (string "virus"),
        layout.pair "detections" (detectionsText layout 1 found)]

/-- The verdict as JSON text in the given layout. -/
def json (layout : Layout) (v : Verdict) : String :=
  String.ofList (v.jsonText layout)

end Clamd.Verdict
