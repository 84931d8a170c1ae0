import StubSdk.Level
import StubSdk.Redactor

/-!
Service settings.

A factory gives every service it builds the same settings: the origin copied into events,
the starting log level (tracing is on exactly when it is TRACE), and the keys to redact. A
redactor is installed only when there is at least one key.
-/

namespace StubSdk

/-- Settings a factory gives its services. -/
structure Settings where
  origin : String := ""
  level : Level := .info
  redactKeys : List String := []
  deriving DecidableEq, Repr

namespace Settings

/-- Whether services built with these settings start tracing. -/
def traceEnabled (s : Settings) : Bool :=
  s.level == .trace

/-- The redactor these settings install, if any. -/
def redactor (s : Settings) : Option Redactor :=
  if s.redactKeys.isEmpty then none else some ⟨s.redactKeys⟩

end Settings

end StubSdk
