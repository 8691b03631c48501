import Clamd.CommandLine.UsageError

/-!
# Reading arguments

Arguments are read one by one. An option may have its value in the same argument, behind an equals
sign, or in the next one. Behind two dashes alone every argument is an operand, even if it looks
like an option.

What an argument gives is not taken over at once: it is pending until the next option or the end.
So an unknown argument is reported before a bad value in front of it, and a bad value before a
second one behind it.

* `Word.ofArg` tells options from other arguments by their text.
* `Reading.take` reads one argument, `Reading.settle` takes over what is pending.
-/

namespace Clamd.CommandLine

/-- What an argument looks like. -/
inductive Word where
  /-- Two dashes alone. -/
  | dashes
  /-- An option by its name, with a value if there is an equals sign. -/
  | long (name : String) (value : Option String)
  /-- An option by its letter. -/
  | short (letter : Char)
  /-- Anything else, a dash alone included. -/
  | plain
  deriving DecidableEq, Repr

/-- What an argument looks like. -/
def Word.ofArg (arg : String) : Word :=
  match arg.toList with
  | ['-', '-'] => dashes
  | '-' :: '-' :: rest =>
    long (String.ofList (rest.takeWhile (· != '=')))
      (match rest.dropWhile (· != '=') with
        | [] => none
        | _ :: value => some (String.ofList value))
  | '-' :: letter :: _ => short letter
  | _ => plain

/-- What has been read and is not taken over yet. -/
inductive Pending where
  | nothing
  /-- An option, with its value if that has come. -/
  | flag (f : Flag) (value : Option String)
  /-- Operands. -/
  | operands (values : List String)

/-- How far the arguments of one level have been read. -/
structure Reading where
  /-- The level. -/
  level : Level
  /-- The options taken over. -/
  given : Given := {}
  /-- The operands taken over. -/
  operands : List String := []
  /-- What is not taken over yet. -/
  pending : Pending := .nothing
  /-- Whether only operands can follow. -/
  literal : Bool := false

namespace Reading

/-- The option whose value has to come in the next argument. -/
def awaited? (r : Reading) : Option Flag :=
  match r.pending with
  | .flag f none => if r.literal then none else some f
  | _ => none

/-- Takes over an option with the text of its value. -/
def give (r : Reading) (f : Flag) (text : String) : Except UsageError Reading :=
  if r.given.has f then .error (.repeated f.written)
  else
    match f.kind.read text with
    | .ok value => .ok { r with given := r.given.set f value }
    | .error refusal => .error (.ofRefusal f.written refusal)

/-- Takes over an operand. -/
def giveOperand (r : Reading) (text : String) : Except UsageError Reading :=
  match Kind.path.read text with
  | .ok value => .ok { r with operands := r.operands ++ [value] }
  | .error refusal => .error (.ofRefusal r.level.operands.shown refusal)

/-- Takes over what is pending. -/
def settle (r : Reading) : Except UsageError Reading :=
  let free := { r with pending := .nothing }
  match r.pending with
  | .nothing => .ok r
  | .flag f none => .error (.invalidValue f.written)
  | .flag f (some text) => free.give f text
  | .operands values => values.foldlM giveOperand free

/-- The number of operands read so far. -/
def operandCount (r : Reading) : Nat :=
  r.operands.length + match r.pending with
    | .operands values => values.length
    | _ => 0

/-- The error of an argument that is neither an option nor an expected operand. Before the verb it
should be a verb; but behind two dashes no verb can follow. -/
def surplus (r : Reading) (arg : String) : UsageError :=
  match r.level with
  | .behind _ => .unknownArgument arg
  | .top =>
    if r.literal && ((Verb.ofName? arg).isSome || arg == "help") then .unknownArgument arg
    else .unknownCommand arg

/-- Reads an operand. -/
def takeOperand (r : Reading) (arg : String) : Except UsageError Reading :=
  if r.level.operands.admits r.operandCount then
    match r.pending with
    | .operands values => .ok { r with pending := .operands (values ++ [arg]) }
    | _ => do return { ← r.settle with pending := .operands [arg] }
  else .error (r.surplus arg)

/-- Reads a request for help. -/
def takeHelp (r : Reading) : Except UsageError Reading := do
  let r ← r.settle
  .error (.help r.level)

/-- Reads a request for the program's version. -/
def takeVersion (r : Reading) : Except UsageError Reading := do
  let _ ← r.settle
  .error .version

/-- Whether the program's version can be asked for here. -/
def knowsVersion (r : Reading) : Bool := r.level == .top

/-- Reads an option by its name. -/
def takeLong (r : Reading) (arg name : String) (value : Option String) :
    Except UsageError Reading :=
  match r.level.flag? name with
  | some f =>
    if f.kind.hasValue then do
      let r ← r.settle
      match value with
      | some text => r.give f text
      | none => return { r with pending := .flag f none }
    else if value.isSome then .error (.unexpectedValue f.written)
    else do (← r.settle).give f ""
  | none =>
    if name == "help" || (name == "version" && r.knowsVersion) then
      if value.isSome then .error (.unexpectedValue ("--" ++ name))
      else if name == "help" then r.takeHelp
      else r.takeVersion
    else .error (.unknownArgument arg)

/-- Reads an option by its letter. -/
def takeShort (r : Reading) (arg : String) (letter : Char) : Except UsageError Reading :=
  if letter = 'h' then r.takeHelp
  else if letter = 'V' && r.knowsVersion then r.takeVersion
  else .error (.unknownArgument arg)

/-- Reads one argument. -/
def take (r : Reading) (arg : String) : Except UsageError Reading :=
  if r.literal then r.takeOperand arg
  else
    match Word.ofArg arg with
    | .dashes => .ok { r with literal := true }
    | .long name value => r.takeLong arg name value
    | .short letter => r.takeShort arg letter
    | .plain =>
      match r.awaited? with
      | some f => .ok { r with pending := .flag f (some arg) }
      | none => r.takeOperand arg

/-- Reads the options that are missing and that the environment gives, in the order of the level's
options. -/
def takeEnvironment (r : Reading) (environment : String → Option String) :
    Except UsageError Reading :=
  r.level.flags.foldlM (fun r f =>
    if r.given.has f then .ok r
    else
      match f.environmentName?.bind environment with
      | some text => r.give f text
      | none => .ok r) r

end Reading

end Clamd.CommandLine
