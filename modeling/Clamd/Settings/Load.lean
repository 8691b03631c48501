import Clamd.Settings
import Clamd.Toml.Document
import Clamd.Word

/-!
# Settings from a TOML document

A document names any of the settings and nothing else. The names are checked in the order of the
document, and the first that does not fit is reported. Names that are missing keep their defaults.
-/

namespace Clamd.Settings

/-- The names of the settings in a document. -/
inductive Field where
  | host
  | port
  | connectTimeoutMs
  | readTimeoutMs
  | fileSeparator
  | chunkSize
  deriving DecidableEq, Repr

namespace Field

/-- All settings, in the order in which they are listed. -/
def all : List Field :=
  [host, port, connectTimeoutMs, readTimeoutMs, fileSeparator, chunkSize]

/-- The name of a setting. -/
def name : Field → String
  | host => "host"
  | port => "port"
  | connectTimeoutMs => "connect_timeout_ms"
  | readTimeoutMs => "read_timeout_ms"
  | fileSeparator => "file_separator"
  | chunkSize => "chunk_size"

/-- The setting of a name. -/
def ofName? (name : String) : Option Field :=
  all.find? (·.name == name)

end Field

/-- Whole numbers that a setting may hold, from zero up to a greatest one. -/
inductive Range where
  | word16
  | word64
  | size
  deriving DecidableEq, Repr

namespace Range

/-- The greatest number of the range. -/
def top : Range → Nat
  | word16 => Word.end16 - 1
  | word64 => Word.end64 - 1
  | size => Word.end64 - 1

/-- What messages call the range. -/
def name : Range → String
  | word16 => "u16"
  | word64 => "u64"
  | size => "usize"

end Range

/-- Why a document holds no settings. -/
inductive Problem where
  /-- The text is not a TOML document. -/
  | syntaxError
  /-- The document defines a name that is no setting. -/
  | unknownField (name : String)
  /-- A setting has an item of another type than `expected`; `found` describes it. -/
  | wrongType (found expected : String)
  /-- A number is outside the range of its setting. -/
  | outOfRange (n : Int) (range : Range)
  /-- A path style has an unknown name. -/
  | unknownStyle (name : String)
  /-- A path style is neither a string nor a table. -/
  | noStyle
  /-- A path style is a table without exactly one member. -/
  | styleMembers (many : Bool)
  /-- The member of a table that names a path style is no empty table or array. -/
  | styleMember (expected : String)
  /-- The chunk size is zero. -/
  | emptyChunks
  deriving DecidableEq, Repr

/-- The names, each between backquotes, with commas between. -/
def backquoted (names : List String) : String :=
  ", ".intercalate (names.map fun n => "\x60" ++ n ++ "\x60")

namespace Problem

/-- The text of a problem. -/
def message : Problem → String
  | syntaxError => "TOML parse error"
  | unknownField name =>
    "unknown field " ++ backquoted [name] ++ ", expected one of " ++
      backquoted (Field.all.map Field.name)
  | wrongType found expected => "invalid type: " ++ found ++ ", expected " ++ expected
  | outOfRange n range =>
    "invalid value: integer " ++ backquoted [toString n] ++ ", expected " ++ range.name
  | unknownStyle name =>
    "unknown variant " ++ backquoted [name] ++ ", expected one of " ++
      backquoted ([PathStyle.native, .unix, .windows].map PathStyle.name)
  | noStyle => "wanted string or table"
  | styleMembers many =>
    "wanted exactly 1 element, " ++ if many then "more than 1 element" else "found 0 elements"
  | styleMember expected => "expected " ++ expected
  | emptyChunks => "chunk_size must be greater than zero"

/-- Whether the document, though well formed, holds no settings. -/
def isMismatch : Problem → Bool
  | syntaxError => false
  | emptyChunks => false
  | _ => true

end Problem

/-- How messages describe an item that has the wrong type. -/
def describe : Toml.Item → String
  | .string text => "string " ++ Text.quoted text
  | .integer n => "integer " ++ backquoted [toString n]
  | .float x => "floating point " ++ backquoted [x.text]
  | .boolean b => "boolean " ++ backquoted [if b then "true" else "false"]
  | .moment => "map"
  | .array _ => "sequence"
  | .inline _ _ => "map"
  | .table _ _ => "map"
  | .tables _ => "sequence"

/-- The text that an item holds. -/
def readText : Toml.Item → Except Problem String
  | .string text => .ok text
  | item => .error (.wrongType (describe item) "a string")

/-- The number that an item holds, if it lies in the range. -/
def readNumber (range : Range) : Toml.Item → Except Problem Nat
  | .integer n => if 0 ≤ n ∧ n ≤ range.top then .ok n.toNat else .error (.outOfRange n range)
  | item => .error (.wrongType (describe item) range.name)

/-- A name of a path style that is written as the only member of a table has to stand for nothing:
an empty table or array. Messages ask for an empty table, except where an array of tables stands. -/
def readStyleMember : Toml.Item → Except Problem Unit
  | .array items => if items.isEmpty then .ok () else .error (.styleMember "empty table")
  | .tables each => if each.isEmpty then .ok () else .error (.styleMember "empty array")
  | .inline _ entries => if entries.isEmpty then .ok () else .error (.styleMember "empty table")
  | .table _ entries => if entries.isEmpty then .ok () else .error (.styleMember "empty table")
  | item => .error (.styleMember ("table, found " ++ item.typeName))

/-- The path style of a name. -/
def readStyleName (name : String) : Except Problem PathStyle :=
  match PathStyle.ofName? name with
  | some style => .ok style
  | none => .error (.unknownStyle name)

/-- The path style of a table, whose only member has the style's name. -/
def readStyleTable : Toml.Entries → Except Problem PathStyle
  | [] => .error (.styleMembers false)
  | [(name, item)] => do
    let style ← readStyleName name
    readStyleMember item
    return style
  | _ => .error (.styleMembers true)

/-- The path style that an item names. -/
def readStyle : Toml.Item → Except Problem PathStyle
  | .string name => readStyleName name
  | .inline _ entries => readStyleTable entries
  | .table _ entries => readStyleTable entries
  | _ => .error .noStyle

/-- Takes over one setting from a document. -/
def take (s : Settings) (name : String) (item : Toml.Item) : Except Problem Settings :=
  match Field.ofName? name with
  | none => .error (.unknownField name)
  | some .host => do return { s with host := ← readText item }
  | some .port => do return { s with port := ← readNumber .word16 item }
  | some .connectTimeoutMs => do return { s with connectTimeoutMs := ← readNumber .word64 item }
  | some .readTimeoutMs => do return { s with readTimeoutMs := ← readNumber .word64 item }
  | some .fileSeparator => do return { s with pathStyle := ← readStyle item }
  | some .chunkSize => do return { s with chunkSize := ← readNumber .size item }

/-- The settings that the entries of a document give. -/
def ofEntries (entries : Toml.Entries) : Except Problem Settings :=
  entries.foldlM (fun s e => s.take e.1 e.2) {}

/-- Refuses settings by which nothing could be uploaded. -/
def check (s : Settings) : Except Problem Settings :=
  if s.chunkSize = 0 then .error .emptyChunks else .ok s

/-- The settings of a TOML document. -/
def ofToml (text : String) : Except Problem Settings :=
  match Toml.Document.parse text with
  | none => .error .syntaxError
  | some entries => (ofEntries entries).bind check

/-- Why a settings file gives no settings. -/
inductive LoadFailure where
  /-- The file at `path` could not be read as text. -/
  | unreadable (path : String) (fault : Fault)
  /-- The file at `path` holds no settings. -/
  | unusable (path : String) (problem : Problem)
  deriving DecidableEq, Repr

/-- The text of such a failure. All trouble with the document itself is summed up in one phrase. -/
def LoadFailure.message : LoadFailure → String
  | unreadable path fault => "failed to read " ++ path ++ ": " ++ fault.message
  | unusable path problem =>
    "failed to parse " ++ path ++ ": " ++
      (if problem.isMismatch then Problem.syntaxError.message else problem.message)

/-- The settings of the file at `path`, given what reading it gave. -/
def load (path : String) (content : Except Fault ByteArray) : Except LoadFailure Settings :=
  match content with
  | .error fault => .error (.unreadable path fault)
  | .ok bytes =>
    match Text.Utf8.decode? bytes with
    | none => .error (.unreadable path .notText)
    | some text =>
      match ofToml text with
      | .error problem => .error (.unusable path problem)
      | .ok s => .ok s

end Clamd.Settings
