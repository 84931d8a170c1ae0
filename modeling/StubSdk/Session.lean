import StubSdk.Stream
import StubSdk.Factory

/-!
Scripted sessions: steps run against the services, streams and observers a session holds by
name. Each step answers a reply or a problem with the records it wrote and the deliveries it
caused, and a refused step changes nothing.
-/

namespace StubSdk

/-- A value a script gives for an argument, before it is checked. -/
inductive Given where
  | text (value : String)
  | integer (value : Int)
  | null
  /-- Anything else: a fractional number, a flag, a list or a map. -/
  | other
  deriving DecidableEq, Repr

/-- The least signed 64-bit integer. -/
def int64Min : Int := -9223372036854775808

/-- The greatest signed 64-bit integer. -/
def int64Max : Int := 9223372036854775807

/-- The greatest unsigned 64-bit integer. -/
def uint64Max : Nat := 18446744073709551615

/-- Reads the value given for an argument: a missing or null text is empty, a missing or
null number is 0, and a value of another kind or out of range is refused. -/
def Param.read (p : Param) (g : Option Given) : Except String Argument :=
  match p.kind, g with
  | _, none | _, some .null =>
    .ok (match p.kind with
      | .text => .text ""
      | .int64 => .int64 0
      | .handle => .handle 0)
  | .text, some (.text s) => .ok (.text s)
  | .text, _ => .error ("field " ++ p.name ++ " must be a string")
  | .int64, some (.integer i) =>
    if int64Min ≤ i ∧ i ≤ int64Max then .ok (.int64 i)
    else .error ("field " ++ p.name ++ " must be an i64 integer")
  | .int64, _ => .error ("field " ++ p.name ++ " must be an i64 integer")
  | .handle, some (.integer i) =>
    if 0 ≤ i ∧ i ≤ uint64Max then .ok (.handle i.toNat)
    else .error ("field " ++ p.name ++ " must be a u64 integer")
  | .handle, _ => .error ("field " ++ p.name ++ " must be a u64 integer")

/-- Reads the arguments of a method from the values given by name. -/
def Method.readArgs (m : Method) (given : List (String × Given)) : Except String (List Argument) :=
  m.params.mapM fun p => p.read (given.lookup p.name)

/-- Reads a text argument that belongs to no method table, such as an observer id. -/
def readText (name : String) (given : List (String × Given)) : Except String String :=
  match (Param.text name name).read (given.lookup name) with
  | .ok (.text s) => .ok s
  | .ok _ => .ok ""
  | .error msg => .error msg

/-- Reads a word that has a default: the text given, or the default when no text is given
(a value of another kind counts as none). An empty text is kept, not defaulted. -/
def readWord (name default : String) (given : List (String × Given)) : String :=
  match given.lookup name with
  | some (.text s) => s
  | _ => default

/-- The loggers a script can inject. -/
inductive LoggerChoice where
  /-- A logger keeping every record. -/
  | keeper
  /-- A keeping logger that refuses every level. -/
  | refuser
  deriving DecidableEq, Repr

/-- The keeping logger of a script: it takes every level, starting at INFO. -/
def Logger.keeper (c : Component) (tag : String) : Logger :=
  ⟨.supplied tag [], c, .info⟩

/-- The refusing logger of a script: it refuses every level with the SDK failure 4001 naming
the level, and so stays at INFO. -/
def Logger.refuser (c : Component) (tag : String) : Logger :=
  ⟨.supplied tag (Level.all.map fun l => (l, Failure.levelRefused c l)), c, .info⟩

/-- How a directly built service is set up. -/
structure Options where
  /-- Loggers injected in order; none keeps the default logger. -/
  loggers : List LoggerChoice := []
  /-- Keys to redact, if a redactor is installed. -/
  redact : Option (List String) := none
  /-- Fragments of the export streams, by method name. -/
  fragments : List (String × List String) := []
  deriving Repr

/-- Where a directly built service takes its canned values from. -/
inductive Source where
  /-- The session's bag. -/
  | bag
  /-- An empty bag. -/
  | blank
  deriving DecidableEq, Repr

/-- How a service is built. -/
inductive Build where
  /-- Directly, with options. -/
  | own (source : Source) (options : Options)
  /-- By the session's factory. -/
  | factory
  deriving Repr

/-- What a step asks of the session's factory. -/
inductive FactoryAction where
  | destroy
  | renew (configId : Int)
  /-- The size of the factory's bag. -/
  | canned
  deriving DecidableEq, Repr

/-- One step of a script. -/
inductive Step where
  /-- Builds a service under a name, replacing a service of that name. -/
  | new (name : String) (component : Component) (build : Build)
  /-- Calls a method of a named service. A new config service it answers is kept under the
  name `child` gives, if that is a nonempty text; `child` plays no part in other calls. -/
  | call (target method : String) (args : List (String × Given)) (cancelled : Bool)
      (child : Given)
  /-- Opens an export stream of a named engine under a stream name. -/
  | openStream (target method : String) (args : List (String × Given)) (name : String)
      (cancelled : Bool)
  /-- Polls a stream at most `count` times. -/
  | poll (stream : String) (count : Nat)
  | cancelStream (stream : String)
  | dropStream (stream : String)
  /-- Drops a named service. -/
  | drop (target : String)
  | factory (action : FactoryAction)
  /-- The debug view of a directly built service. -/
  | debug (target : String)
  deriving Repr

/-- What a step answers when it does not fail. -/
inductive Reply where
  | none
  | text (value : String)
  | int (value : Int)
  | flag (value : Bool)
  /-- The fragments the polls of a step yielded, and whether one of them answered the end. -/
  | items (values : List String) (ended : Bool)
  /-- The size of a bag. -/
  | bagSize (size : Nat) (empty : Bool)
  deriving DecidableEq, Repr

/-- Why a step gave no reply. -/
inductive Problem where
  /-- The SDK failed. -/
  | failure (f : Failure)
  /-- The step was refused, with a message. -/
  | refused (message : String)
  deriving DecidableEq, Repr

/-- The answer of a step: its reply or problem, and its effects, deliveries in report
order. -/
structure Answer where
  result : Except Problem Reply
  effects : Effects
  deriving Repr

/-- A service held by a session, and whether it was built directly. -/
structure Member where
  service : Service
  direct : Bool
  deriving Repr

/-- Whose envelope a stream reads. -/
inductive Owner where
  /-- The service of that name. -/
  | service (name : String)
  /-- Its own, kept when its service went away. -/
  | own (envelope : Envelope)
  deriving Repr

/-- An open stream and whose envelope it reads. -/
structure OpenStream where
  stream : Stream
  owner : Owner
  deriving Repr

/-- A session. -/
structure Session where
  values : Bag
  factory : Factory
  services : List (String × Member)
  streams : List (String × OpenStream)
  observers : List (String × Observer)
  deriving Repr

/-- Replaces the entry of a name, or adds it at the end. -/
def putNamed {α : Type} (name : String) (a : α) : List (String × α) → List (String × α)
  | [] => [(name, a)]
  | (n, b) :: rest => if n = name then (name, a) :: rest else (n, b) :: putNamed name a rest

/-- Removes the entry of a name. -/
def eraseNamed {α : Type} (name : String) (xs : List (String × α)) : List (String × α) :=
  xs.filter fun p => p.1 != name

namespace Session

/-- A session with a bag for direct services and a factory, holding nothing yet. -/
def start (values : Bag) (factory : Factory) : Session :=
  { values, factory, services := [], streams := [], observers := [] }

/-- The service of a name. -/
def member? (s : Session) (name : String) : Option Member :=
  s.services.lookup name

/-- The streams of a service keep its envelope as it is now, before it goes away. -/
def detach (s : Session) (name : String) : Session :=
  match s.member? name with
  | none => s
  | some m =>
    { s with streams := s.streams.map fun (n, o) =>
        match o.owner with
        | .service owner =>
          if owner = name then (n, { o with owner := .own m.service.envelope }) else (n, o)
        | .own _ => (n, o) }

/-- Keeps a service under a name, replacing the one there. -/
def install (s : Session) (name : String) (m : Member) : Session :=
  let s := s.detach name
  { s with services := putNamed name m s.services }

/-- Stores a changed service back under its name. -/
def update (s : Session) (name : String) (svc : Service) : Session :=
  match s.member? name with
  | none => s
  | some m => { s with services := putNamed name { m with service := svc } s.services }

/-- The envelope a stream reads. -/
def ownerEnvelope? (s : Session) (o : OpenStream) : Option Envelope :=
  match o.owner with
  | .service name => (s.member? name).map (·.service.envelope)
  | .own e => some e

/-- Stores the envelope a stream changed back where it came from. -/
def storeEnvelope (s : Session) (o : OpenStream) (e : Envelope) : Session × OpenStream :=
  match o.owner with
  | .service name =>
    match s.member? name with
    | some m => (s.update name { m.service with envelope := e }, o)
    | none => (s, o)
  | .own _ => (s, { o with owner := .own e })

/-- A reply with its effects. -/
def replied (r : Reply) (fx : Effects := {}) : Answer :=
  { result := .ok r, effects := fx }

/-- A refusal, with no effects. -/
def refuse (message : String) : Answer :=
  { result := .error (.refused message), effects := {} }

/-- A result of the SDK as an answer. -/
def answered {α : Type} (reply : α → Reply) (r : Except Failure α) (fx : Effects) : Answer :=
  match r with
  | .ok v => { result := .ok (reply v), effects := fx }
  | .error f => { result := .error (.failure f), effects := fx }

/-- The tag of the `k`-th logger injected into the service of a name: the name itself for
the first, `name#k` for a later one. -/
def loggerTag (name : String) (k : Nat) : String :=
  if k = 1 then name else name ++ "#" ++ Text.decimal k

/-- The loggers a list of choices injects into the service of a name. -/
def loggersFor (c : Component) (name : String) (choices : List LoggerChoice) : List Logger :=
  (Component.numberFrom 1 choices).map fun (k, choice) =>
    match choice with
    | .keeper => Logger.keeper c (loggerTag name k)
    | .refuser => Logger.refuser c (loggerTag name k)

/-- Builds a service directly with options, and the warnings that building writes. -/
def buildOwn (s : Session) (name : String) (c : Component) (source : Source) (opts : Options) :
    Service × List Trace :=
  let values := match source with
    | .bag => s.values
    | .blank => Bag.empty
  let svc := { Service.ofBag c values with fragments := opts.fragments }
  let (svc, warnings) := svc.injectAll (loggersFor c name opts.loggers)
  let svc := match opts.redact with
    | some keys => { svc with envelope := { svc.envelope with redactor := some ⟨keys⟩ } }
    | none => svc
  (svc, warnings)

/-- The observer registered under an id: the one made before, whatever behaviour is asked
for now, or a new one with the behaviour asked for. -/
def observerFor (s : Session) (id word : String) : Except String (Session × Observer) :=
  match s.observers.lookup id with
  | some o => .ok (s, o)
  | none =>
    match Observer.ofBehavior? id word with
    | some o => .ok ({ s with observers := s.observers ++ [(id, o)] }, o)
    | none => .error ("unknown behavior " ++ Text.quote word)

/-- Calls one of the observer and logging methods every service has, if `method` names one. -/
def callObservable (s : Session) (name : String) (svc : Service) (method : String)
    (args : List (String × Given)) (cancelled : Bool) : Option (Session × Answer) :=
  if method = "register_observer" then
    some <| match readText "observer_id" args with
      | .ok id =>
        match s.observerFor id (readWord "behavior" "ok" args) with
        | .ok (s, o) =>
          let (svc, fx) := svc.register o
          (s.update name svc, replied .none fx)
        | .error msg => (s, refuse msg)
      | .error msg => (s, refuse msg)
  else if method = "unregister_observer" then
    some <| match readText "observer_id" args with
      | .ok id =>
        let (svc, fx) := svc.unregister id
        (s.update name svc, replied .none fx)
      | .error msg => (s, refuse msg)
  else if method = "has_observers" then
    some (s, replied (.flag svc.envelope.hasObservers))
  else if method = "set_log_level" then
    some <| match readText "log_level" args with
      | .ok level =>
        let (svc, r, fx) := svc.setLogLevel level cancelled
        (s.update name svc, answered (fun _ => .none) r fx)
      | .error msg => (s, refuse msg)
  else if method = "set_observer_origin" then
    some <| match readText "origin" args with
      | .ok origin =>
        let (svc, r, fx) := svc.setOrigin origin cancelled
        (s.update name svc, answered (fun _ => .none) r fx)
      | .error msg => (s, refuse msg)
  else if method = "get_observer_origin" then
    let (svc, r, fx) := svc.getOrigin cancelled
    some (s.update name svc, answered .text r fx)
  else none

/-- The reply for the value of a method call. -/
def Value.reply : Value → Reply
  | .nothing => .none
  | .text v => .text v
  | .int64 v => .int v
  | .handle v => .int v
  | .config _ => .none

/-- Keeps the config service a call answered under the name `child` gives. The call has
already run, so a name that is not a text refuses the step with the call's effects. -/
def keepChild (s : Session) (made : Service) (child : Given) (a : Answer) : Session × Answer :=
  match child with
  | .text "" | .null => (s, a)
  | .text name => (s.install name ⟨made, false⟩, a)
  | _ => (s, { a with result := .error (.refused "field as must be a string") })

/-- Calls a method of a named service. -/
def call (s : Session) (target method : String) (args : List (String × Given))
    (cancelled : Bool) (child : Given) : Session × Answer :=
  match s.member? target with
  | none => (s, refuse ("no facade named " ++ Text.quote target))
  | some m =>
    match s.callObservable target m.service method args cancelled with
    | some done => done
    | none =>
      match m.service.component.method? method with
      | some (n, meth) =>
        if meth.answer = .fragments then (s, refuse ("unknown method " ++ Text.quote method))
        else
          match meth.readArgs args with
          | .error msg => (s, refuse msg)
          | .ok argv =>
            let (svc, r, fx) := m.service.call n meth argv cancelled
            let s := s.update target svc
            let a := answered Value.reply r fx
            match r with
            | .ok (.config made) => s.keepChild made child a
            | _ => (s, a)
      | none => (s, refuse ("unknown method " ++ Text.quote method))

/-- Drops a stream: what its drop writes, and the session without it. -/
def dropStream (s : Session) (name : String) : Session × List Trace :=
  match s.streams.lookup name with
  | none => (s, [])
  | some o =>
    let written := match s.ownerEnvelope? o with
      | some e => o.stream.drop e
      | none => []
    ({ s with streams := eraseNamed name s.streams }, written)

/-- The export stream method of an engine that a name denotes. -/
def iterator? (method : String) : Option (Nat × Method) :=
  match Component.engine.method? method with
  | some (n, meth) => if meth.answer = .fragments then some (n, meth) else none
  | none => none

/-- Opens an export stream of a named engine. -/
def openStream (s : Session) (target method : String) (args : List (String × Given))
    (name : String) (cancelled : Bool) : Session × Answer :=
  match s.member? target with
  | none => (s, refuse ("no facade named " ++ Text.quote target))
  | some m =>
    if m.service.component ≠ .engine then (s, refuse "iterators exist only on engines")
    else
      match iterator? method with
      | none => (s, refuse ("unknown iterator " ++ Text.quote method))
      | some (n, meth) =>
        match meth.readArgs args with
        | .error msg => (s, refuse msg)
        | .ok argv =>
          let (s, written) := s.dropStream name
          let st := Stream.opened m.service n meth argv cancelled
          ({ s with streams := s.streams ++ [(name, ⟨st, .service target⟩)] },
            replied .none { traces := written })

/-- Polls a named stream at most `count` times; the reply says whether one of these polls
answered the end. -/
def poll (s : Session) (name : String) (count : Nat) : Session × Answer :=
  match s.streams.lookup name with
  | none => (s, refuse ("no stream named " ++ Text.quote name))
  | some o =>
    match s.ownerEnvelope? o with
    | none => (s, replied (.items [] (decide (0 < count))))
    | some e =>
      let (st, e, items, ended, fx) := o.stream.pollMany e count
      let (s, o) := s.storeEnvelope o e
      ({ s with streams := putNamed name { o with stream := st } s.streams },
        replied (.items items ended) fx)

/-- Runs one step. -/
def step (s : Session) : Step → Session × Answer
  | .new name c build =>
    let (svc, warnings, direct) := match build with
      | .own source opts =>
        let (svc, warnings) := s.buildOwn name c source opts
        (svc, warnings, true)
      | .factory => (s.factory.build c, [], false)
    (s.install name ⟨svc, direct⟩, replied .none { traces := warnings })
  | .call target method args cancelled child => s.call target method args cancelled child
  | .openStream target method args name cancelled =>
    s.openStream target method args name cancelled
  | .poll name count => s.poll name count
  | .cancelStream name =>
    match s.streams.lookup name with
    | none => (s, refuse ("no stream named " ++ Text.quote name))
    | some o =>
      ({ s with streams := putNamed name { o with stream := o.stream.cancel } s.streams },
        replied .none)
  | .dropStream name =>
    match s.streams.lookup name with
    | none => (s, refuse ("no stream named " ++ Text.quote name))
    | some _ =>
      let (s, written) := s.dropStream name
      (s, replied .none { traces := written })
  | .drop target =>
    match s.member? target with
    | none => (s, refuse ("no facade named " ++ Text.quote target))
    | some _ =>
      let s := s.detach target
      ({ s with services := eraseNamed target s.services }, replied .none)
  | .factory action =>
    match action with
    | .destroy => (s, replied .none)
    | .renew _ => (s, replied .none)
    | .canned => (s, replied (.bagSize s.factory.values.size s.factory.values.isEmpty))
  | .debug target =>
    match s.member? target with
    | some m =>
      if !m.direct then (s, refuse ("no direct facade named " ++ Text.quote target))
      else if m.service.component = .configManager ∧ s.values.size > 1 then
        (s, refuse "config manager Debug prints a HashMap; needs at most one canned value")
      else (s, replied (.text m.service.debugText))
    | none => (s, refuse ("no direct facade named " ++ Text.quote target))

/-- Runs one step and reports its deliveries in report order. -/
def run (s : Session) (st : Step) : Session × Answer :=
  let (s, a) := s.step st
  (s, { a with effects := { a.effects with deliveries := Delivery.inReportOrder a.effects.deliveries } })

/-- Ends the session: the open streams are dropped in byte order of their names, then the
services. Only the streams write anything. -/
def teardown (s : Session) : Effects :=
  let names := (s.streams.map (·.1)).mergeSort fun a b => decide (a ≤ b)
  let (_, written) := names.foldl
    (fun (acc : Session × List Trace) name =>
      let (s, w) := acc.1.dropStream name
      (s, acc.2 ++ w))
    (s, [])
  { traces := written }

end Session

end StubSdk
