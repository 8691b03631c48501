import Clamd.Failure
import Clamd.Reply.FoundLine
import Clamd.Request
import Clamd.Text.Blank
import Clamd.Verdict

/-!
# Replies

What the daemon's reply text means for each kind of request.

* `Reply.body` removes the terminator and recognises the refusal `UNKNOWN COMMAND`;
* `Reply.verdict` reads a scan reply. Its shapes are tried in order: every line ends in ` OK`; the
  text speaks of `FOUND`, and the lines that end in ` FOUND` are reports; a line ends in ` ERROR`.
-/

namespace Clamd.Reply

/-- The text by which the daemon refuses a verb. -/
def refusal : List Char := "UNKNOWN COMMAND".toList

/-- What precedes the list of commands in a reply. -/
def commandsMarker : List Char := "| COMMANDS:".toList

/-- The body of a reply: the text without its terminator, unless the daemon refused the verb. -/
def body (request : Request) (raw : String) : Except Failure String :=
  let text := request.framing.strip raw
  if Text.trim text.toList = refusal then .error (.unknownCommand request.verb) else .ok text

/-- Whether a body says that the daemon is alive: `PONG` between blanks. Letters from A to Z count
as equal to their small forms, and no other letter is folded. -/
def isPong (body : String) : Bool :=
  (Text.trim body.toList).map Char.toLower == ['p', 'o', 'n', 'g']

/-- The names of the commands that a body lists behind its marker. -/
def commandNames (verb body : String) : Except Failure (List String) :=
  match Text.afterFirst commandsMarker body.toList with
  | none => .error (.invalidReply verb body)
  | some names => .ok ((Text.words names).map String.ofList)

/-- A reload is confirmed by exactly the body `RELOADING`. -/
def reloading (verb body : String) : Except Failure Unit :=
  if body = "RELOADING" then .ok () else .error (.invalidReply verb body)

/-- A piece of a body without the carriage returns at its end. -/
def withoutReturns (piece : List Char) : List Char :=
  (piece.reverse.dropWhile (· == '\r')).reverse

/-- Whether `c` separates the lines of a reply. -/
def isLineEnd (c : Char) : Bool :=
  c == '\x00' || c == '\n'

/-- The lines of a body: what stands between NULs and line feeds, without the carriage returns at
its end. A line of blanks only does not count. -/
def lines (body : List Char) : List (List Char) :=
  ((Text.pieces isLineEnd body).map withoutReturns).filter fun l => !(Text.trim l).isEmpty

/-- Whether a line says that an object is clean. -/
def isOk (line : List Char) : Bool := [' ', 'O', 'K'].isSuffixOf line

/-- Whether a line reports a detection. -/
def isFound (line : List Char) : Bool := FoundLine.ending.isSuffixOf line

/-- Whether a line reports that a scan failed. -/
def isError (line : List Char) : Bool := [' ', 'E', 'R', 'R', 'O', 'R'].isSuffixOf line

/-- The detections that the lines report, or nothing if one of them cannot be read. -/
def reports (lines : List (List Char)) : Option (List (String × String)) :=
  (lines.filter isFound).mapM fun line =>
    (FoundLine.ofLine? line).map fun f => (String.ofList f.object, String.ofList f.signature)

/-- The verdict that the body of a scan reply gives. -/
def verdict (verb body : String) : Except Failure Verdict :=
  let text := body.toList
  let found := lines text
  if !found.isEmpty && found.all isOk then .ok .clean
  else if Text.occurs ['F', 'O', 'U', 'N', 'D'] text then
    match reports found with
    | none => .error (.invalidReply verb body)
    | some [] => .error (.invalidReply verb body)
    | some rs => .ok (.infected (.ofReports rs))
  else if found.any isError then .error (.scanFailed (String.ofList (Text.trim text)))
  else .error (.invalidReply verb body)

end Clamd.Reply
