import Clamd.Command
import Clamd.CommandLine.Number
import Clamd.PathStyle
import Clamd.Stream.Chunk

/-!
# Kinds of values

The values of options and operands are of a few kinds, each with a type and a way to read it from
the text of an argument.
-/

namespace Clamd.CommandLine

/-- The kinds of values. -/
inductive Kind where
  /-- The path of a file or folder, which may not be empty. -/
  | path
  /-- Any text. -/
  | text
  /-- The number of a port. -/
  | port
  /-- A number of 64 bits: of seconds or milliseconds. -/
  | count
  /-- The size of chunks. -/
  | chunkSize
  /-- A style of paths. -/
  | style
  /-- A mode of scanning. -/
  | mode
  /-- No value, the option says all by being there. -/
  | presence
  deriving DecidableEq, Repr

/-- Why a text is no value of a kind. -/
inductive Refusal where
  /-- It is not one of those that are possible. -/
  | impossible
  /-- It cannot be read. -/
  | unreadable (cause : String)
  deriving DecidableEq, Repr

namespace Kind

/-- The values of a kind. -/
abbrev Value : Kind → Type
  | path | text => String
  | port | count | chunkSize => Nat
  | style => PathStyle
  | mode => ScanMode
  | presence => Unit

/-- Whether an option of this kind is followed by a value. -/
def hasValue : Kind → Bool
  | presence => false
  | _ => true

/-- The name of a mode on the command line. -/
def modeName : ScanMode → String
  | .first => "scan"
  | .onward => "cont"
  | .pooled => "multi"
  | .allMatches => "all-match"

/-- The modes in the order in which they are listed. -/
def modes : List ScanMode :=
  [.first, .onward, .pooled, .allMatches]

/-- Reads a number. -/
def readCount (text : String) : Except Refusal Nat :=
  (Number.natural text).mapError fun fault => .unreadable fault.message

/-- The greatest port. -/
def topPort : Nat := Word.end16 - 1

/-- Reads a port. Ports have a range, and it is checked after the number has been read. -/
def readPort (text : String) : Except Refusal Nat :=
  match Number.signed text with
  | .error fault => .error (.unreadable fault.message)
  | .ok n =>
    if 0 ≤ n ∧ n ≤ topPort then .ok n.toNat
    else .error (.unreadable (toString n ++ " is not in 0..=" ++ toString topPort))

/-- Reads a chunk size, which has to be positive and to fit the header of a chunk. -/
def readChunkSize (text : String) : Except Refusal Nat :=
  match readCount text with
  | .error refusal => .error refusal
  | .ok n =>
    if Chunk.isValidSize n then .ok n
    else .error (.unreadable
      ("chunk size must be between 1 and " ++ toString (Word.end32 - 1) ++ ", got " ++ toString n))

/-- Reads a value. -/
def read : (kind : Kind) → String → Except Refusal kind.Value
  | path, arg => if arg.isEmpty then .error .impossible else .ok arg
  | text, arg => .ok arg
  | port, arg => readPort arg
  | count, arg => readCount arg
  | chunkSize, arg => readChunkSize arg
  | style, arg => (PathStyle.parse arg).mapError .unreadable
  | mode, arg =>
    match modes.find? (modeName · == arg) with
    | some found => .ok found
    | none => .error .impossible
  | presence, _ => .ok ()

end Kind

end Clamd.CommandLine
