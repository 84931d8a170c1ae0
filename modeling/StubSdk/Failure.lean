import StubSdk.Component
import StubSdk.Level

/-!
Failures of an SDK operation: an invalid argument, a failing observer, or an SDK error with a
code. Each has a written form (`SzEngine (6034): invalid argument: m`, `observer "o" failed: r`,
`SZSDK60344001: m`), a label and a short message.
-/

namespace StubSdk

/-- Why an SDK operation failed. -/
inductive Failure where
  /-- A component was given an argument it cannot use. -/
  | invalidArgument (component : Component) (message : String)
  /-- An observer failed to take an event. -/
  | observerFailure (observer : String) (reason : String)
  /-- The SDK reported an error with a code. -/
  | sdk (component : Component) (code : Nat) (message : String)
  deriving DecidableEq, Repr

namespace Failure

/-- The written form of a failure. -/
def render : Failure → String
  | .invalidArgument c m => c.name ++ " (" ++ Text.decimal c.id ++ "): invalid argument: " ++ m
  | .observerFailure o r => "observer " ++ Text.quote o ++ " failed: " ++ r
  | .sdk c code m => c.messageId code ++ ": " ++ m

/-- The label of the kind of failure. -/
def label : Failure → String
  | .invalidArgument .. => "sz_invalid_argument"
  | .observerFailure .. => "sz_observer_failure"
  | .sdk .. => "sz_sdk"

/-- The kind of failure and its message, without the component. -/
def summary : Failure → String
  | .invalidArgument _ m => "invalid argument: " ++ m
  | .observerFailure _ r => "observer failure: " ++ r
  | .sdk _ _ m => "sdk: " ++ m

/-- The component a failure names; an observer failure names none. -/
def component? : Failure → Option Component
  | .invalidArgument c _ => some c
  | .observerFailure .. => none
  | .sdk c _ _ => some c

/-- Whether the failure is an invalid argument. -/
def isInvalidArgument : Failure → Bool
  | .invalidArgument .. => true
  | _ => false

/-- The failure of a component asked to use a text that names no level. -/
def unknownLevel (c : Component) (name : String) : Failure :=
  .invalidArgument c (Level.unknownMessage name)

/-- The failure of a logger that refuses a level, with code 4001. -/
def levelRefused (c : Component) (l : Level) : Failure :=
  .sdk c 4001 ("level " ++ l.name ++ " rejected")

end Failure

end StubSdk
