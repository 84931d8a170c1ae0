import StubSdk.Component
import StubSdk.Level
import StubSdk.Details
import StubSdk.Failure

/-!
Loggers and trace records.

A service writes its trace records through one logger: the default one, which writes console
lines, or one the caller supplies, which keeps its records under a tag and refuses the levels
of its own choosing with failures of its own. Building a service may also warn about the
loggers injected into it.
-/

namespace StubSdk

/-- The kinds of logger. -/
inductive LoggerKind where
  /-- The default logger, writing console lines. -/
  | console
  /-- A logger the caller supplies, keeping its records under a tag. It refuses each level its
  table lists, with the failure listed, and takes every other level; it reports the last level
  it took, and passes the codes at or above that level. -/
  | supplied (tag : String) (refusals : List (Level × Failure))
  deriving DecidableEq, Repr

/-- Where a written record goes. -/
inductive Sink where
  /-- A console line. -/
  | console
  /-- Kept by a logger under a tag. -/
  | kept (tag : String)
  deriving DecidableEq, Repr

/-- A warning about the loggers of a service. -/
inductive Warning where
  /-- An injected logger refused the service's starting level. -/
  | refusedStartLevel (level : Level)
  /-- A logger was injected while another was already in use, and was ignored. -/
  | loggerInUse
  deriving DecidableEq, Repr

/-- The text of a warning. -/
def Warning.message : Warning → String
  | .refusedStartLevel _ => "injected logger rejected initial level"
  | .loggerInUse => "logger already in use, injected logger ignored"

/-- One trace record: a record written by a logger, or a warning. -/
inductive Trace where
  /-- A record with a code and details, written by a logger of a component. -/
  | record (sink : Sink) (component : Component) (code : Nat) (details : Details)
  /-- A warning about the loggers of a component. -/
  | warning (component : Component) (w : Warning)
  deriving DecidableEq, Repr

/-- A logger: its kind, the component it writes for and its level, the one it last took. -/
structure Logger where
  kind : LoggerKind
  component : Component
  level : Level
  deriving DecidableEq, Repr

namespace Logger

/-- The default logger of a component at a level. -/
def console (c : Component) (level : Level) : Logger :=
  ⟨.console, c, level⟩

/-- Where the logger's records go. -/
def sink (l : Logger) : Sink :=
  match l.kind with
  | .console => .console
  | .supplied tag _ => .kept tag

/-- Whether a record with this code passes the logger's level. -/
def isEnabled (l : Logger) (code : Nat) : Bool :=
  decide (l.level ≤ Level.forMessage code)

/-- The logger at a new level, or the failure of a logger that refuses it. -/
def setLevel (l : Logger) (level : Level) : Except Failure Logger :=
  match l.kind with
  | .console => .ok { l with level }
  | .supplied _ refusals =>
    match refusals.lookup level with
    | some f => .error f
    | none => .ok { l with level }

/-- Whether the logger understands a level name: every logger understands the names of the
seven levels and no other. -/
def isValidLevelName (_ : Logger) (name : String) : Bool :=
  Level.isValidName name

/-- The record the logger writes for a code and details, whatever its level. -/
def write (l : Logger) (code : Nat) (details : Details) : Trace :=
  .record l.sink l.component code details

/-- The records the logger writes when asked to log: the record if its level passes,
nothing otherwise. -/
def log (l : Logger) (code : Nat) (details : Details) : List Trace :=
  if l.isEnabled code then [l.write code details] else []

end Logger

end StubSdk
