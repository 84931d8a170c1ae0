import StubSdk.Envelope
import StubSdk.Canned

/-!
Services: the five SDK components, each answering from a bag of canned values inside its
envelope. A value is read from the bag under the operation's name followed by `Result`, and a
config manager's config methods build a config from the manager's bag and settings.
-/

namespace StubSdk

/-- A value given for a method argument. -/
inductive Argument where
  | text (value : String)
  | int64 (value : Int)
  | handle (value : Nat)
  deriving DecidableEq, Repr

/-- How an argument is recorded in details: texts as they are, numbers in base ten. -/
def Argument.render : Argument → String
  | .text s => s
  | .int64 i => Text.signedDecimal i
  | .handle h => Text.decimal h

/-- The details of a method call: each recorded argument under its key. -/
def Method.details (m : Method) (args : List Argument) : Details :=
  (m.params.zip args).foldl
    (fun d (p, a) =>
      match p.key with
      | some k => d.insert k a.render
      | none => d)
    Details.empty

/-- One service: its component, its canned values, the fragments of its export streams by
method name, and its envelope. -/
structure Service where
  component : Component
  values : Bag
  fragments : List (String × List String)
  envelope : Envelope
  deriving Repr

/-- What a method call answers. -/
inductive Value where
  | nothing
  | text (value : String)
  | int64 (value : Int)
  | handle (value : Nat)
  /-- A new config service. -/
  | config (service : Service)
  deriving Repr

/-- How an answer is written in trace records and events: texts as they are, numbers in base
ten; nothing and new services are not written. -/
def Value.detail : Value → Option String
  | .nothing => none
  | .text s => some s
  | .int64 i => some (Text.signedDecimal i)
  | .handle h => some (Text.decimal h)
  | .config _ => none

namespace Service

/-- A service answering from a bag, with a fresh envelope and no fragments. -/
def ofBag (c : Component) (values : Bag) : Service :=
  { component := c, values, fragments := [], envelope := Envelope.fresh c }

/-- The fragments the export stream of a method yields. -/
def fragmentsOf (s : Service) (method : String) : List String :=
  (s.fragments.lookup method).getD []

/-- The config service a config manager builds: the manager's bag, and an envelope taking
the manager's origin, level, tracing and redaction. -/
def child (s : Service) (parent : Envelope) : Service :=
  { component := .config, values := s.values, fragments := [],
    envelope := Envelope.inheriting .config parent }

/-- The answer of a method, given the envelope as it is while the method works. -/
def answer (s : Service) (m : Method) (e : Envelope) : Value :=
  match m.answer with
  | .nothing => .nothing
  | .text => .text (s.values.text m.resultKey)
  | .int64 => .int64 (s.values.int64 m.resultKey)
  | .handle => .handle (s.values.handle m.resultKey)
  | .config => .config (s.child e)
  | .fragments => .nothing

/-- Calls the method at place `n` of the service's code table with arguments. Service
methods never fail. -/
def call (s : Service) (n : Nat) (m : Method) (args : List Argument) (cancelled : Bool) :
    Service × Except Failure Value × Effects :=
  let (e, result, fx) :=
    s.envelope.run Value.detail (m.operationAt n) (m.details args) cancelled
      (fun e => (e, .ok (s.answer m e)))
  ({ s with envelope := e }, result, fx)

/-- Registers an observer with the service. -/
def register (s : Service) (o : Observer) : Service × Effects :=
  let (e, fx) := s.envelope.register o
  ({ s with envelope := e }, fx)

/-- Unregisters the observer with an id from the service. -/
def unregister (s : Service) (id : String) : Service × Effects :=
  let (e, fx) := s.envelope.unregister id
  ({ s with envelope := e }, fx)

/-- Sets the service's log level by name. -/
def setLogLevel (s : Service) (name : String) (cancelled : Bool) :
    Service × Except Failure Unit × Effects :=
  let (e, r, fx) := s.envelope.setLogLevel name cancelled
  ({ s with envelope := e }, r, fx)

/-- Sets the service's observer origin. -/
def setOrigin (s : Service) (origin : String) (cancelled : Bool) :
    Service × Except Failure Unit × Effects :=
  let (e, r, fx) := s.envelope.setOrigin origin cancelled
  ({ s with envelope := e }, r, fx)

/-- Reads the service's observer origin. -/
def getOrigin (s : Service) (cancelled : Bool) : Service × Except Failure String × Effects :=
  let (e, r, fx) := s.envelope.getOrigin cancelled
  ({ s with envelope := e }, r, fx)

/-- Injects loggers one after the other; only the first is kept, the others are ignored
with a warning. -/
def injectAll (s : Service) (loggers : List Logger) : Service × List Trace :=
  loggers.foldl
    (fun (acc : Service × List Trace) l =>
      let (e, ws) := acc.1.envelope.inject l
      ({ acc.1 with envelope := e }, acc.2 ++ ws))
    (s, [])

/-- The name of the service's type in debug views. -/
def typeName (s : Service) : String :=
  "Mock" ++ s.component.shortName

/-- How the value a method answers is shown in the debug view. -/
def shownResult (s : Service) (m : Method) : String :=
  match m.answer with
  | .text => Text.quote (s.values.text m.resultKey)
  | .int64 => Text.signedDecimal (s.values.int64 m.resultKey)
  | .handle => "Handle(" ++ Text.decimal (s.values.handle m.resultKey) ++ ")"
  | .fragments => Text.quoteList (s.fragmentsOf m.name)
  | .nothing | .config => ""

/-- The debug view: the type name, then each answered value as `name_result: v` in code
table order, a config manager's bag, and the envelope. -/
def debugText (s : Service) : String :=
  let results := (s.component.methods.filter (·.showsResult)).map fun m =>
    m.name ++ "_result: " ++ s.shownResult m
  let bag := if s.component = .configManager then ["config_values: " ++ s.values.debugText] else []
  let fields := results ++ bag ++ ["envelope: " ++ s.envelope.debugText]
  s.typeName ++ " \x7b " ++ ", ".intercalate fields ++ " \x7d"

end Service

end StubSdk
