import StubSdk.Session
import StubSdk.Proofs.Envelope

/-!
A service with its export streams, driven one request at a time. A facade is reachable when
the public API brings it about (built directly with the loggers and redaction a script can ask
for, by a factory, or as a manager's config, then driven by requests), paired with the level
last applied to it.
-/

namespace StubSdk

/-- One request a caller makes of a service, or of one of the export streams it opened. -/
inductive Request where
  /-- Calls the method at place `n` of the service's code table. -/
  | call (n : Nat) (m : Method) (args : List Argument) (cancelled : Bool)
  | register (o : Observer)
  | unregister (id : String)
  | setLogLevel (name : String) (cancelled : Bool)
  | setOrigin (origin : String) (cancelled : Bool)
  | getOrigin (cancelled : Bool)
  /-- Opens the export stream of the method at place `n`, numbered after the others. -/
  | openStream (n : Nat) (m : Method) (args : List Argument) (cancelled : Bool)
  /-- Polls the stream of a number once. -/
  | poll (k : Nat)
  | cancelStream (k : Nat)
  | dropStream (k : Nat)

/-- What a request answers. -/
inductive Response where
  /-- The result of a method call. -/
  | value (result : Except Failure Value)
  /-- The result of an operation answering nothing. -/
  | done (result : Except Failure Unit)
  /-- The observer origin that was read. -/
  | text (result : Except Failure String)
  /-- What a poll yielded: a fragment, or nothing once the stream ended. -/
  | item (fragment : Option String)
  /-- Requests that answer nothing and cannot fail. -/
  | none

/-- The level a request applied, given its reply: the level named by a level change that
succeeded. -/
def Request.applies : Request → Response → Option Level
  | .setLogLevel name _, .done (.ok ()) => Level.parse? name
  | _, _ => none

/-- A service and the export streams opened from it, by number. -/
structure Facade where
  service : Service
  streams : List (Option Stream)

namespace Facade

/-- A service with no stream open. -/
def ofService (s : Service) : Facade :=
  ⟨s, []⟩

/-- The stream of a number, if it is open. -/
def stream? (f : Facade) (k : Nat) : Option Stream :=
  (f.streams[k]?).getD none

/-- The facade with its service replaced. -/
def withService (f : Facade) (s : Service) : Facade :=
  { f with service := s }

/-- Polls the stream of a number once against the service's envelope. -/
def pollStream (f : Facade) (k : Nat) : Facade × Response × Effects :=
  match f.stream? k with
  | none => (f, .item none, {})
  | some st =>
    let (st', e, item, fx) := st.poll f.service.envelope
    (⟨{ f.service with envelope := e }, f.streams.set k (some st')⟩, .item item, fx)

/-- Serves one request. -/
def step (f : Facade) : Request → Facade × Response × Effects
  | .call n m args cancelled =>
    let (s, r, fx) := f.service.call n m args cancelled
    (f.withService s, .value r, fx)
  | .register o =>
    let (s, fx) := f.service.register o
    (f.withService s, .none, fx)
  | .unregister id =>
    let (s, fx) := f.service.unregister id
    (f.withService s, .none, fx)
  | .setLogLevel name cancelled =>
    let (s, r, fx) := f.service.setLogLevel name cancelled
    (f.withService s, .done r, fx)
  | .setOrigin origin cancelled =>
    let (s, r, fx) := f.service.setOrigin origin cancelled
    (f.withService s, .done r, fx)
  | .getOrigin cancelled =>
    let (s, r, fx) := f.service.getOrigin cancelled
    (f.withService s, .text r, fx)
  | .openStream n m args cancelled =>
    ({ f with streams := f.streams ++ [some (Stream.opened f.service n m args cancelled)] },
      .none, {})
  | .poll k => f.pollStream k
  | .cancelStream k =>
    match f.stream? k with
    | none => (f, .none, {})
    | some st => ({ f with streams := f.streams.set k (some st.cancel) }, .none, {})
  | .dropStream k =>
    match f.stream? k with
    | none => (f, .none, {})
    | some st =>
      ({ f with streams := f.streams.set k none }, .none,
        { traces := st.drop f.service.envelope })

/-- Serves requests one after the other: the facade at the end, and each request's reply and
effects in order. -/
def run (f : Facade) : List Request → Facade × List (Response × Effects)
  | [] => (f, [])
  | r :: rest =>
    let (f₁, a, fx) := f.step r
    let (f₂, out) := f₁.run rest
    (f₂, (a, fx) :: out)

@[simp] theorem step_call_service (f : Facade) (n : Nat) (m : Method) (args : List Argument)
    (cancelled : Bool) :
    (f.step (.call n m args cancelled)).1.service = (f.service.call n m args cancelled).1 := rfl

@[simp] theorem step_register_service (f : Facade) (o : Observer) :
    (f.step (.register o)).1.service = (f.service.register o).1 := rfl

@[simp] theorem step_unregister_service (f : Facade) (id : String) :
    (f.step (.unregister id)).1.service = (f.service.unregister id).1 := rfl

@[simp] theorem step_setLogLevel_service (f : Facade) (name : String) (cancelled : Bool) :
    (f.step (.setLogLevel name cancelled)).1.service = (f.service.setLogLevel name cancelled).1 :=
  rfl

@[simp] theorem step_setOrigin_service (f : Facade) (origin : String) (cancelled : Bool) :
    (f.step (.setOrigin origin cancelled)).1.service = (f.service.setOrigin origin cancelled).1 :=
  rfl

@[simp] theorem step_getOrigin_service (f : Facade) (cancelled : Bool) :
    (f.step (.getOrigin cancelled)).1.service = (f.service.getOrigin cancelled).1 := rfl

@[simp] theorem step_openStream_service (f : Facade) (n : Nat) (m : Method)
    (args : List Argument) (cancelled : Bool) :
    (f.step (.openStream n m args cancelled)).1.service = f.service := rfl

/-- A poll leaves the service with the envelope the stream's poll leaves, if the stream is
open. -/
theorem step_poll_service (f : Facade) (k : Nat) :
    (f.step (.poll k)).1.service =
      match f.stream? k with
      | none => f.service
      | some st => { f.service with envelope := (st.poll f.service.envelope).2.1 } := by
  show (f.pollStream k).1.service = _
  unfold pollStream
  split <;> rfl

theorem step_cancelStream_service (f : Facade) (k : Nat) :
    (f.step (.cancelStream k)).1.service = f.service := by
  show (match f.stream? k with
    | none => (f, Response.none, ({} : Effects))
    | some st => ({ f with streams := f.streams.set k (some st.cancel) }, .none, {})).1.service = _
  split <;> rfl

theorem step_dropStream_service (f : Facade) (k : Nat) :
    (f.step (.dropStream k)).1.service = f.service := by
  show (match f.stream? k with
    | none => (f, Response.none, ({} : Effects))
    | some st =>
      ({ f with streams := f.streams.set k none }, .none,
        { traces := st.drop f.service.envelope })).1.service = _
  split <;> rfl

/-- A config a method call answers is the manager's child, made from the envelope as the
call's entry record leaves it. -/
theorem step_call_made {f : Facade} {n : Nat} {m : Method} {args : List Argument}
    {cancelled : Bool} {made : Service}
    (h : (f.step (.call n m args cancelled)).2.1 = .value (.ok (.config made))) :
    made = f.service.child (f.service.envelope.traceEntry (m.operationAt n) (m.details args)).1 := by
  have hans : f.service.answer m (f.service.envelope.traceEntry (m.operationAt n)
      (m.details args)).1 = .config made := by
    simpa [step, Service.call, Envelope.run] using h
  unfold Service.answer at hans
  split at hans <;> cases hans
  rfl

end Facade

namespace Stream

/-- The first poll leaves the envelope as its entry record leaves it; later polls leave it
alone. -/
theorem poll_envelope (st : Stream) (e : Envelope) :
    (st.poll e).2.1 = if st.phase = .waiting then (e.traceEntry st.operation st.details).1 else e := by
  unfold poll
  cases st.phase <;> rfl

end Stream

/-- The facades the public API brings about, each with the level last applied to it. -/
inductive Reachable : Facade → Level → Prop
  /-- Built directly, with the loggers and redaction a script asks for; INFO applies. -/
  | direct (s : Session) (name : String) (c : Component) (source : Source) (opts : Options) :
      Reachable (.ofService (s.buildOwn name c source opts).1) .info
  /-- Built by a factory, at the factory's level. -/
  | factory (fac : Factory) (c : Component) :
      Reachable (.ofService (fac.build c)) fac.settings.level
  /-- A config made by a config manager, at the manager's level. -/
  | child {f : Facade} {level : Level} {n : Nat} {m : Method} {args : List Argument}
      {cancelled : Bool} {made : Service} (hf : Reachable f level)
      (hmade : (f.step (.call n m args cancelled)).2.1 = .value (.ok (.config made))) :
      Reachable (.ofService made) level
  /-- Any request, which may apply a new level. -/
  | step {f : Facade} {level : Level} (r : Request) (hf : Reachable f level) :
      Reachable (f.step r).1 (((r.applies (f.step r).2.1)).getD level)

end StubSdk
