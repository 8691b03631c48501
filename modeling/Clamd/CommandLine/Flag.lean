import Clamd.CommandLine.Kind

/-!
# Options

The options that take part in an invocation, by name, each with the kind of its value. Some of them
may be given by an environment variable instead.

`Given` holds the options that were given, each with a value of its own type:

* `Given.value?_set_self` and `Given.value?_set_of_ne`: setting an option changes that option alone.
-/

namespace Clamd.CommandLine

/-- The options. -/
inductive Flag where
  | config
  | host
  | port
  | connectTimeout
  | readTimeout
  | separator
  | mode
  | json
  | chunkSize
  | idle
  | rollover
  | backOff
  | stateFile
  | runFor
  deriving DecidableEq, Repr

namespace Flag

/-- All options. -/
def all : List Flag :=
  [config, host, port, connectTimeout, readTimeout, separator, mode, json, chunkSize, idle,
    rollover, backOff, stateFile, runFor]

/-- The name of an option, which is written behind two dashes. -/
def name : Flag → String
  | config => "config"
  | host => "host"
  | port => "port"
  | connectTimeout => "connect-timeout-ms"
  | readTimeout => "read-timeout-ms"
  | separator => "separator"
  | mode => "mode"
  | json => "json"
  | chunkSize => "chunk-size"
  | idle => "idle-secs"
  | rollover => "rollover-secs"
  | backOff => "error-backoff-secs"
  | stateFile => "state-file"
  | runFor => "run-for-secs"

/-- An option as it is written. -/
def written (f : Flag) : String := "--" ++ f.name

/-- The kind of an option's value. -/
def kind : Flag → Kind
  | config => .path
  | host => .text
  | port => .port
  | connectTimeout => .count
  | readTimeout => .count
  | separator => .style
  | mode => .mode
  | json => .presence
  | chunkSize => .chunkSize
  | idle => .count
  | rollover => .count
  | backOff => .count
  | stateFile => .path
  | runFor => .count

/-- The values of an option. -/
abbrev Value (f : Flag) : Type := f.kind.Value

/-- The environment variable that may give an option. -/
def environmentName? : Flag → Option String
  | config => some "CLAMWIRE_CONFIG"
  | host => some "CLAMD_HOST"
  | port => some "CLAMD_PORT"
  | connectTimeout => some "CLAMD_CONNECT_TIMEOUT_MS"
  | readTimeout => some "CLAMD_READ_TIMEOUT_MS"
  | _ => none

end Flag

/-- The options that were given. -/
structure Given where
  /-- The value of an option, if it was given. -/
  value? : (f : Flag) → Option f.Value := fun _ => none

namespace Given

/-- Whether an option was given. -/
def has (g : Given) (f : Flag) : Bool := (g.value? f).isSome

/-- Whether nothing was given. -/
def isEmpty (g : Given) : Bool := Flag.all.all (!g.has ·)

/-- Sets the value of an option. -/
def set (g : Given) (f : Flag) (value : f.Value) : Given where
  value? other := if h : f = other then some (h ▸ value) else g.value? other

@[simp] theorem value?_set_self (g : Given) (f : Flag) (value : f.Value) :
    (g.set f value).value? f = some value := by
  simp [set]

theorem value?_set_of_ne (g : Given) {f other : Flag} (value : f.Value) (h : f ≠ other) :
    (g.set f value).value? other = g.value? other := by
  simp [set, h]

end Given

end Clamd.CommandLine
