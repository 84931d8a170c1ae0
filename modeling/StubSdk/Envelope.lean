import StubSdk.Catalog
import StubSdk.Logger
import StubSdk.Registry
import StubSdk.Settings
import StubSdk.Text.Decimal

/-!
The call envelope: the instrumentation state of a service (tracing flag, starting level,
logger, origin, observer registry and redactor) and the operations that run inside it. An
operation writes its entry record when tracing is on, does its work, notifies the observers
unless the caller cancelled, and writes the owed exit record; with no clock, `elapsed` is 0.
-/

namespace StubSdk

/-- The instrumentation state of one service. -/
structure Envelope where
  component : Component
  /-- Whether entry and exit records are written. -/
  trace : Bool
  /-- The level the default logger starts at. -/
  startLevel : Level
  /-- The logger, once one is built or injected. -/
  logger? : Option Logger
  /-- The origin copied into events. -/
  origin : String
  /-- The observers; absent until the first registration and after the last leaves. -/
  observers : Option Registry
  redactor : Option Redactor
  deriving DecidableEq, Repr

/-- What an action writes and sends: trace records in write order, and deliveries. -/
structure Effects where
  traces : List Trace := []
  deliveries : List Delivery := []
  deriving DecidableEq, Repr

instance : Append Effects :=
  ⟨fun a b => ⟨a.traces ++ b.traces, a.deliveries ++ b.deliveries⟩⟩

/-- An exit record that is owed: its code, the arguments it starts from, and whether the
operation's result has been put in. -/
structure ExitRecord where
  code : Nat
  details : Details
  recorded : Bool
  deriving DecidableEq, Repr

namespace ExitRecord

/-- Puts an operation's result in: its rendered answer under `return`, if it has one, or
its failure under `error`. -/
def record (x : ExitRecord) (result : Except Failure (Option String)) : ExitRecord :=
  match result with
  | .ok (some v) => { x with details := x.details.insert "return" v, recorded := true }
  | .ok none => { x with recorded := true }
  | .error f => { x with details := x.details.insert "error" f.render, recorded := true }

/-- The details of the exit record when it is written: with `outcome` set to `abandoned`
if no result was put in, and with the elapsed time. -/
def finalDetails (x : ExitRecord) : Details :=
  let d := if x.recorded then x.details else x.details.insert "outcome" "abandoned"
  d.insert "elapsed" (Text.decimal 0)

end ExitRecord

namespace Envelope

/-- The envelope of a freshly built service: no tracing, level INFO, no logger, empty
origin, no observers, no redactor. -/
def fresh (c : Component) : Envelope :=
  { component := c, trace := false, startLevel := .info, logger? := none, origin := "",
    observers := none, redactor := none }

/-- The observer and logging operations of the service. -/
def codes (e : Envelope) : ObservableCodes :=
  e.component.observable

/-- The logger in use: the built or injected one, or else the default logger that would be
built now. -/
def logger (e : Envelope) : Logger :=
  e.logger?.getD (Logger.console e.component e.startLevel)

/-- The envelope once its logger is built. -/
def withLogger (e : Envelope) : Envelope :=
  { e with logger? := some e.logger }

/-- The level in effect: the logger's once there is one, the starting level before. -/
def level (e : Envelope) : Level :=
  e.logger.level

/-- Details with the envelope's redaction applied. -/
def redact (e : Envelope) (d : Details) : Details :=
  d.redactWith e.redactor

/-- Whether some observer is registered. -/
def hasObservers (e : Envelope) : Bool :=
  match e.observers with
  | some r => r.hasObservers
  | none => false

/-- The event the envelope sends now for a code, a failure and (unredacted) details. -/
def event (e : Envelope) (code : Nat) (error : Option Failure) (details : Details) : Event :=
  { origin := e.origin, component := e.component, code, error, details := e.redact details }

/-- The deliveries of an event to the registered observers; none without a registry. -/
def notify (e : Envelope) (code : Nat) (error : Option Failure) (details : Details) :
    List Delivery :=
  match e.observers with
  | none => []
  | some r => r.deliver (e.event code error details)

/-- Writes an owed exit record through the current logger, redacted. -/
def writeExit (e : Envelope) (x : ExitRecord) : Trace :=
  e.logger.write x.code (e.redact x.finalDetails)

/-- Writes the entry record of an operation when tracing is on and the logger passes the
entry code, and then owes its exit record. -/
def traceEntry (e : Envelope) (op : Operation) (args : Details) :
    Envelope × Option ExitRecord × List Trace :=
  if e.trace then
    let e := e.withLogger
    if e.logger.isEnabled op.entry then
      (e, some ⟨op.exit, args, false⟩, [e.logger.write op.entry (e.redact args)])
    else (e, none, [])
  else (e, none, [])

/-- The details of an operation's event: the arguments, plus the answer under `return`
when the operation returns and succeeded with an answer. -/
def eventDetails (op : Operation) (args : Details) (answer : Except Failure (Option String)) :
    Details :=
  match answer with
  | .ok (some v) => if op.returns then args.insert "return" v else args
  | _ => args

/-- The failure of a result, if it failed. -/
def failureOf {α : Type} : Except Failure α → Option Failure
  | .ok _ => none
  | .error f => some f

/-- Runs an operation inside the envelope: entry record, work, event, exit record. The work
may change the envelope and gives a result; `detail` renders an answer for records. -/
def run {α : Type} (detail : α → Option String) (e : Envelope) (op : Operation)
    (args : Details) (cancelled : Bool) (work : Envelope → Envelope × Except Failure α) :
    Envelope × Except Failure α × Effects :=
  let (e₁, owed, entry) := e.traceEntry op args
  let (e₂, result) := work e₁
  let answer := result.map detail
  let sent :=
    match op.event with
    | some code =>
      if cancelled then [] else e₂.notify code (failureOf result) (eventDetails op args answer)
    | none => []
  let exit :=
    match owed with
    | some x => [e₂.writeExit (x.record answer)]
    | none => []
  (e₂, result, { traces := entry ++ exit, deliveries := sent })

/-- Registers an observer. If its id is new, the observers already registered are told
first; a taken id changes nothing. The caller's cancellation plays no part. -/
def register (e : Envelope) (o : Observer) : Envelope × Effects :=
  let op := e.codes.registerObserver
  let args := Details.empty.insert "observerID" o.id
  let (e₁, owed, entry) := e.traceEntry op args
  let reg := e₁.observers.getD Registry.empty
  let (e₂, sent) :=
    if reg.contains o.id then ({ e₁ with observers := some reg }, [])
    else
      let sent :=
        match op.event with
        | some code => if reg.hasObservers then reg.deliver (e₁.event code none args) else []
        | none => []
      ({ e₁ with observers := some (reg.register o).1 }, sent)
  let exit :=
    match owed with
    | some x => [e₂.writeExit (x.record (.ok none))]
    | none => []
  (e₂, { traces := entry ++ exit, deliveries := sent })

/-- Unregisters the observer with an id. If it is registered, every observer is told, the
departing one included, and then it is removed; the registry becomes absent when it
empties. An unknown id changes nothing. The caller's cancellation plays no part. -/
def unregister (e : Envelope) (id : String) : Envelope × Effects :=
  let op := e.codes.unregisterObserver
  let args := Details.empty.insert "observerID" id
  let (e₁, owed, entry) := e.traceEntry op args
  let (e₂, sent) :=
    match e₁.observers with
    | some reg =>
      if reg.contains id then
        let sent :=
          match op.event with
          | some code => e₁.notify code none args
          | none => []
        let kept := (reg.unregister id).1
        ({ e₁ with observers := if kept.isEmpty then none else some kept }, sent)
      else (e₁, [])
    | none => (e₁, [])
  let exit :=
    match owed with
    | some x => [e₂.writeExit (x.record (.ok none))]
    | none => []
  (e₂, { traces := entry ++ exit, deliveries := sent })

/-- The work of setting the log level by name: the name must denote a level and the logger
must take it; then the starting level follows and tracing is on exactly at TRACE. -/
def applyLevel (name : String) (e : Envelope) : Envelope × Except Failure Unit :=
  match Level.parse? name with
  | none => (e, .error (Failure.unknownLevel e.component name))
  | some level =>
    let e := e.withLogger
    match e.logger.setLevel level with
    | .error f => (e, .error f)
    | .ok l => ({ e with logger? := some l, startLevel := level, trace := level == .trace }, .ok ())

/-- Sets the log level by name, as an operation with arguments `{logLevel}`. -/
def setLogLevel (e : Envelope) (name : String) (cancelled : Bool) :
    Envelope × Except Failure Unit × Effects :=
  e.run (fun _ => none) e.codes.setLogLevel (Details.empty.insert "logLevel" name) cancelled
    (applyLevel name)

/-- Sets the observer origin, as an operation with arguments `{origin}`; its own event
already carries the new origin. -/
def setOrigin (e : Envelope) (origin : String) (cancelled : Bool) :
    Envelope × Except Failure Unit × Effects :=
  e.run (fun _ => none) e.codes.setObserverOrigin (Details.empty.insert "origin" origin)
    cancelled (fun e => ({ e with origin }, .ok ()))

/-- Reads the observer origin, as a traced operation with no event. -/
def getOrigin (e : Envelope) (cancelled : Bool) : Envelope × Except Failure String × Effects :=
  e.run some e.codes.getObserverOrigin Details.empty cancelled (fun e => (e, .ok e.origin))

/-- The starting level of a service with no logger yet; tracing is on exactly at TRACE. -/
def startAt (e : Envelope) (level : Level) : Envelope :=
  { e with startLevel := level, trace := level == .trace }

/-- The envelope of a service built by a factory with settings: its origin, its starting
level and its redactor. -/
def configured (c : Component) (s : Settings) : Envelope :=
  { (fresh c).startAt s.level with origin := s.origin, redactor := s.redactor }

/-- The envelope of a service built by another service: the parent's origin, level (its
logger's once it has one), tracing and redactor. -/
def inheriting (c : Component) (parent : Envelope) : Envelope :=
  let level :=
    match parent.logger? with
    | some l => l.level
    | none => parent.startLevel
  { (fresh c).startAt level with
    origin := parent.origin, trace := parent.trace, redactor := parent.redactor }

/-- Injects a logger. A service that already has one keeps it and warns. Otherwise the
logger is brought to the starting level, with a warning if it refuses, and installed. -/
def inject (e : Envelope) (l : Logger) : Envelope × List Trace :=
  match e.logger? with
  | some _ => (e, [.warning e.component .loggerInUse])
  | none =>
    match l.setLevel e.startLevel with
    | .ok l' => ({ e with logger? := some l' }, [])
    | .error _ =>
      ({ e with logger? := some l }, [.warning e.component (.refusedStartLevel e.startLevel)])

/-- The debug view:
`Envelope { component: C, trace: b, origin: "o", observers: None | Some(..) }`. -/
def debugText (e : Envelope) : String :=
  let observers :=
    match e.observers with
    | none => "None"
    | some r => "Some(" ++ r.debugText ++ ")"
  "Envelope \x7b component: " ++ e.component.shortName ++ ", trace: " ++
    (if e.trace then "true" else "false") ++ ", origin: " ++ Text.quote e.origin ++
    ", observers: " ++ observers ++ " \x7d"

end Envelope

end StubSdk
