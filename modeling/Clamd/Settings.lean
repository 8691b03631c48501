import Clamd.Client
import Clamd.Clock

/-!
# Settings

How to reach the daemon and how to treat uploads and paths. Every setting has a default.
-/

namespace Clamd

/-- The settings of a client. -/
structure Settings where
  /-- The daemon's host. -/
  host : String := "localhost"
  /-- The daemon's port. -/
  port : Nat := 3310
  /-- How long to wait for a connection, in milliseconds; zero is no limit. -/
  connectTimeoutMs : Nat := 3000
  /-- How long to wait for each read and write, in milliseconds; zero is no limit. -/
  readTimeoutMs : Nat := 20000
  /-- How the daemon's host writes paths. -/
  pathStyle : PathStyle := .native
  /-- The chunk size of uploads. It has to stay below what the daemon accepts. -/
  chunkSize : Nat := 2048
  deriving DecidableEq, Repr

namespace Settings

/-- How long to wait for a connection. -/
def connectTimeout (s : Settings) : Span := .ofMillis s.connectTimeoutMs

/-- How long to wait for each read and write. -/
def readTimeout (s : Settings) : Span := .ofMillis s.readTimeoutMs

/-- The client with these settings. -/
def client (s : Settings) : Client :=
  { host := s.host, port := s.port, style := s.pathStyle, chunkSize := s.chunkSize }

end Settings

end Clamd
