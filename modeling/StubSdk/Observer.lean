import StubSdk.Component
import StubSdk.Details
import StubSdk.Failure
import StubSdk.Text.Quoted

/-!
Events and observers. An event carries the service's origin and component, the event code,
the failure if any and the details; an observer is an id and one of four kinds, and a delivery
records who saw which event by which path.
-/

namespace StubSdk

/-- What observers are told about one operation. -/
structure Event where
  origin : String
  component : Component
  code : Nat
  error : Option Failure
  details : Details
  deriving DecidableEq, Repr

/-- Whether the event reports a failure. -/
def Event.isError (e : Event) : Bool :=
  e.error.isSome

/-- How an observer made by a script answers after recording an event. -/
inductive Reaction where
  | accept
  | fail
  | panic
  deriving DecidableEq, Repr

/-- The kinds of observer. -/
inductive ObserverKind where
  /-- Made by a script: records the event, then reacts. -/
  | script (reaction : Reaction)
  /-- Hands the event to a function, which records it and may fail. -/
  | function (fails : Bool)
  /-- Sends the event down a channel, while the receiving end is open. -/
  | channel (listening : Bool)
  /-- Writes one console line per event. -/
  | log
  deriving DecidableEq, Repr

/-- An observer: an id and a kind. -/
structure Observer where
  id : String
  kind : ObserverKind
  deriving DecidableEq, Repr

/-- The path by which a delivery became visible. -/
inductive Via where
  /-- Recorded by a script observer. -/
  | script
  /-- Recorded by the function of a function observer. -/
  | function
  /-- Received from the channel of a channel observer. -/
  | channel
  /-- Written as a console line by a log observer. -/
  | log
  deriving DecidableEq, Repr

/-- One visible delivery: the observer, the path, the event. -/
structure Delivery where
  observer : String
  via : Via
  event : Event
  deriving DecidableEq, Repr

namespace Delivery

/-- The name a delivery is reported under: the observer's id, or `~log` for the console line
of a log observer, which does not name its observer. -/
def reportName (d : Delivery) : String :=
  match d.via with
  | .log => "~log"
  | _ => d.observer

/-- When a delivery becomes visible to the caller: while it runs (recorded by script and
function observers, or written as a console line by log observers), or only after the step,
when channels are drained. -/
def stage (d : Delivery) : Nat :=
  match d.via with
  | .script | .function | .log => 0
  | .channel => 1

/-- Deliveries run concurrently, so a report orders them by the name they are reported
under, in byte order. Under one name, those visible earlier come first, and those visible at
the same stage keep the order they were made in. -/
def inReportOrder (ds : List Delivery) : List Delivery :=
  ds.mergeSort fun a b =>
    decide (a.reportName < b.reportName ∨ (a.reportName = b.reportName ∧ a.stage ≤ b.stage))

end Delivery

/-- How an observer's handling of an event ended. -/
inductive Outcome where
  | taken
  | failed
  | panicked
  deriving DecidableEq, Repr

namespace Observer

/-- The id a log observer gets when none is given. -/
def defaultLogId : String := "LogObserver"

/-- What an observer leaves visible when it takes an event, and how its handling ends. -/
def take (o : Observer) (e : Event) : List Delivery × Outcome :=
  match o.kind with
  | .script .accept => ([⟨o.id, .script, e⟩], .taken)
  | .script .fail => ([⟨o.id, .script, e⟩], .failed)
  | .script .panic => ([⟨o.id, .script, e⟩], .panicked)
  | .function fails => ([⟨o.id, .function, e⟩], if fails then .failed else .taken)
  | .channel true => ([⟨o.id, .channel, e⟩], .taken)
  | .channel false => ([], .failed)
  | .log => ([⟨o.id, .log, e⟩], .taken)

/-- The observer a script asks for by a behaviour word and an id: `ok`, `fail`, `panic`,
`panic_string`, `panic_other`, `fn`, `fn_fail`, `channel`, `channel_closed`, `log` or
`log_default`; the last one takes the default log id whatever id is given. -/
def ofBehavior? (id word : String) : Option Observer :=
  if word = "ok" then some ⟨id, .script .accept⟩
  else if word = "fail" then some ⟨id, .script .fail⟩
  else if word = "panic" ∨ word = "panic_string" ∨ word = "panic_other" then
    some ⟨id, .script .panic⟩
  else if word = "fn" then some ⟨id, .function false⟩
  else if word = "fn_fail" then some ⟨id, .function true⟩
  else if word = "channel" then some ⟨id, .channel true⟩
  else if word = "channel_closed" then some ⟨id, .channel false⟩
  else if word = "log" then some ⟨id, .log⟩
  else if word = "log_default" then some ⟨defaultLogId, .log⟩
  else none

/-- Two observers are the same observer when their ids are equal. -/
def same (a b : Observer) : Bool :=
  a.id == b.id

/-- The debug view of a function observer with an id. -/
def functionDebugText (id : String) : String :=
  "FnObserver \x7b id: " ++ Text.quote id ++ " \x7d"

/-- The debug view of a log observer with an id. -/
def logDebugText (id : String) : String :=
  "LogObserver \x7b id: " ++ Text.quote id ++ " \x7d"

end Observer

end StubSdk
