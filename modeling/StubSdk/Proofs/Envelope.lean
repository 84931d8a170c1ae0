import StubSdk.Envelope
import StubSdk.Proofs.Registry

/-!
What the envelope's steps touch. Building the logger changes nothing else, so an operation's
event and exit record are those the envelope it started from would build; `run` is taken apart
into its envelope, result, records and deliveries, so that later proofs do not unfold it.
-/

namespace StubSdk

namespace Logger

/-- A logger that takes a level is the same logger at that level. -/
theorem setLevel_ok_eq {l l' : Logger} {level : Level} (h : l.setLevel level = .ok l') :
    l' = { l with level } := by
  unfold setLevel at h
  split at h
  · cases h
    rfl
  · split at h <;> cases h
    rfl

/-- A logger that takes a level reports it from then on. -/
theorem setLevel_ok_level {l l' : Logger} {level : Level} (h : l.setLevel level = .ok l') :
    l'.level = level := by
  rw [setLevel_ok_eq h]

end Logger

namespace Envelope

/-- The observers registered, in registration order; none while the registry is absent. -/
def registered (e : Envelope) : List Observer :=
  match e.observers with
  | some r => r.observers
  | none => []

/-- The ids registered, in registration order. -/
def registeredIds (e : Envelope) : List String :=
  e.registered.map (·.id)

theorem observers_getD_eq (e : Envelope) : e.observers.getD Registry.empty = ⟨e.registered⟩ := by
  unfold registered
  cases e.observers <;> rfl

theorem registered_of_observers {e : Envelope} {r : Registry} (h : e.observers = some r) :
    e.registered = r.observers := by
  simp [registered, h]

theorem registered_eq_of_observers {e e' : Envelope} (h : e'.observers = e.observers) :
    e'.registered = e.registered := by
  simp [registered, h]

/-- An envelope with a registered id has its registry. -/
theorem observers_of_mem_registeredIds {e : Envelope} {id : String} (h : id ∈ e.registeredIds) :
    e.observers = some ⟨e.registered⟩ := by
  cases hobs : e.observers with
  | none => simp [registeredIds, registered, hobs] at h
  | some r => rw [registered_of_observers hobs]

theorem contains_registered_iff (e : Envelope) (id : String) :
    (⟨e.registered⟩ : Registry).contains id = true ↔ id ∈ e.registeredIds := by
  rw [Registry.contains_iff, Registry.ids_mk, registeredIds]

/-- Notifying hands one event, built from the envelope, to every registered observer. -/
theorem notify_eq (e : Envelope) (code : Nat) (error : Option Failure) (d : Details) :
    e.notify code error d = e.registered.flatMap fun o => (o.take (e.event code error d)).1 := by
  unfold notify registered
  cases e.observers <;> rfl

/-! ## Building the logger -/

section WithLogger

variable (e : Envelope)

@[simp] theorem withLogger_component : e.withLogger.component = e.component := rfl
@[simp] theorem withLogger_trace : e.withLogger.trace = e.trace := rfl
@[simp] theorem withLogger_startLevel : e.withLogger.startLevel = e.startLevel := rfl
@[simp] theorem withLogger_logger? : e.withLogger.logger? = some e.logger := rfl
@[simp] theorem withLogger_origin : e.withLogger.origin = e.origin := rfl
@[simp] theorem withLogger_observers : e.withLogger.observers = e.observers := rfl
@[simp] theorem withLogger_redactor : e.withLogger.redactor = e.redactor := rfl
@[simp] theorem withLogger_logger : e.withLogger.logger = e.logger := rfl
@[simp] theorem withLogger_level : e.withLogger.level = e.level := rfl

end WithLogger

/-! ## The entry record -/

section TraceEntry

variable (e : Envelope) (op : Operation) (args : Details)

theorem traceEntry_fst : (e.traceEntry op args).1 = if e.trace then e.withLogger else e := by
  unfold traceEntry
  by_cases h : e.trace
  · simp only [h, ↓reduceIte]
    split <;> rfl
  · simp [h]

/-- The entry record is owed exactly when tracing is on and the logger passes the entry
code; it is then written with the redacted arguments. -/
theorem traceEntry_snd :
    (e.traceEntry op args).2 =
      if e.trace ∧ e.logger.isEnabled op.entry = true then
        (some ⟨op.exit, args, false⟩, [e.logger.write op.entry (e.redact args)])
      else (none, []) := by
  unfold traceEntry
  by_cases h : e.trace
  · by_cases hon : e.logger.isEnabled op.entry = true
    · simp only [h, hon, withLogger_logger, ↓reduceIte, and_self]
      rfl
    · simp [h, hon]
  · simp [h]

/-- A field the logger cell does not hold is the same after the entry record. -/
theorem traceEntry_field {β : Type} (f : Envelope → β) (hf : f e.withLogger = f e) :
    f (e.traceEntry op args).1 = f e := by
  rw [traceEntry_fst]
  split <;> simp [hf]

@[simp] theorem traceEntry_component : (e.traceEntry op args).1.component = e.component :=
  traceEntry_field e op args _ rfl
@[simp] theorem traceEntry_trace : (e.traceEntry op args).1.trace = e.trace :=
  traceEntry_field e op args _ rfl
@[simp] theorem traceEntry_startLevel : (e.traceEntry op args).1.startLevel = e.startLevel :=
  traceEntry_field e op args _ rfl
@[simp] theorem traceEntry_origin : (e.traceEntry op args).1.origin = e.origin :=
  traceEntry_field e op args _ rfl
@[simp] theorem traceEntry_observers : (e.traceEntry op args).1.observers = e.observers :=
  traceEntry_field e op args _ rfl
@[simp] theorem traceEntry_redactor : (e.traceEntry op args).1.redactor = e.redactor :=
  traceEntry_field e op args _ rfl
@[simp] theorem traceEntry_logger : (e.traceEntry op args).1.logger = e.logger :=
  traceEntry_field e op args _ rfl
@[simp] theorem traceEntry_level : (e.traceEntry op args).1.level = e.level :=
  traceEntry_field e op args _ rfl
@[simp] theorem traceEntry_registered : (e.traceEntry op args).1.registered = e.registered :=
  traceEntry_field e op args _ rfl

@[simp] theorem traceEntry_event :
    (e.traceEntry op args).1.event = e.event :=
  traceEntry_field e op args _ rfl

@[simp] theorem traceEntry_notify :
    (e.traceEntry op args).1.notify = e.notify :=
  traceEntry_field e op args _ rfl

@[simp] theorem traceEntry_writeExit :
    (e.traceEntry op args).1.writeExit = e.writeExit :=
  traceEntry_field e op args _ rfl

end TraceEntry

/-! ## Running an operation -/

section Run

variable {α : Type} (detail : α → Option String) (e : Envelope) (op : Operation)
  (args : Details) (cancelled : Bool) (work : Envelope → Envelope × Except Failure α)

/-- The envelope after an operation is the one its work leaves. -/
theorem run_fst :
    (e.run detail op args cancelled work).1 = (work (e.traceEntry op args).1).1 := rfl

/-- The result of an operation is the result of its work. -/
theorem run_result :
    (e.run detail op args cancelled work).2.1 = (work (e.traceEntry op args).1).2 := rfl

/-- The records of an operation: its entry record, then the owed exit record, completed
with the result and written from the envelope the work leaves. -/
theorem run_traces :
    (e.run detail op args cancelled work).2.2.traces =
      (e.traceEntry op args).2.2 ++
        ((e.traceEntry op args).2.1.map fun x =>
          (work (e.traceEntry op args).1).1.writeExit
            (x.record ((work (e.traceEntry op args).1).2.map detail))).toList := by
  simp only [run]
  cases (e.traceEntry op args).2.1 <;> rfl

/-- The deliveries of an operation: its event, built by the envelope the work leaves, to
every observer registered then, unless the caller cancelled. -/
theorem run_deliveries :
    (e.run detail op args cancelled work).2.2.deliveries =
      match op.event with
      | some code =>
        if cancelled then []
        else
          (e.run detail op args cancelled work).1.notify code
            (failureOf (e.run detail op args cancelled work).2.1)
            (eventDetails op args ((e.run detail op args cancelled work).2.1.map detail))
      | none => [] := rfl

/-- An operation not marked as returning sends its arguments alone. -/
theorem eventDetails_of_not_returns {op : Operation} (h : op.returns = false) (args : Details)
    (answer : Except Failure (Option String)) : eventDetails op args answer = args := by
  unfold eventDetails
  split
  · simp [h]
  · rfl

/-- Work that leaves the registry alone leaves it alone for the whole operation. -/
theorem run_observers (hkeep : ∀ e', (work e').1.observers = e'.observers) :
    (e.run detail op args cancelled work).1.observers = e.observers := by
  rw [run_fst, hkeep, traceEntry_observers]

/-- When the work leaves the registry alone, an operation's event goes to every observer
registered when it started, each once and in order, unless the caller cancelled. -/
theorem run_deliveries_of_keeps {code : Nat} (hcode : op.event = some code)
    (hkeep : ∀ e', (work e').1.observers = e'.observers) :
    (e.run detail op args cancelled work).2.2.deliveries =
      if cancelled then []
      else
        e.registered.flatMap fun o =>
          (o.take ((e.run detail op args cancelled work).1.event code
            (failureOf (e.run detail op args cancelled work).2.1)
            (eventDetails op args ((e.run detail op args cancelled work).2.1.map detail)))).1 := by
  rw [run_deliveries, hcode]
  cases cancelled
  · simp only [Bool.false_eq_true, ↓reduceIte]
    rw [notify_eq, registered_eq_of_observers (run_observers detail e op args false work hkeep)]
  · rfl

end Run

/-! ## Registering and unregistering -/

section Registration

variable (e : Envelope)

@[simp] theorem codes_registerObserver_event :
    e.codes.registerObserver.event = some (8000 + (e.component.methods.length + 2)) := rfl

@[simp] theorem codes_unregisterObserver_event :
    e.codes.unregisterObserver.event = some (8000 + (e.component.methods.length + 5)) := rfl

/-- Registering leaves the registry as the registry's own registration leaves it. -/
theorem register_fst (o : Observer) :
    (e.register o).1 =
      { (e.traceEntry e.codes.registerObserver (Details.empty.insert "observerID" o.id)).1 with
        observers := some (Registry.register ⟨e.registered⟩ o).1 } := by
  unfold register
  simp only [traceEntry_observers, observers_getD_eq]
  split
  · rename_i h
    simp [Registry.register, h]
  · rfl

/-- Registering a new id notifies the observers registered before; a taken id sends
nothing. -/
theorem register_deliveries (o : Observer) :
    (e.register o).2.deliveries =
      if o.id ∈ e.registeredIds then []
      else e.notify (8000 + (e.component.methods.length + 2)) none
        (Details.empty.insert "observerID" o.id) := by
  unfold register
  simp only [traceEntry_observers, traceEntry_event, observers_getD_eq,
    codes_registerObserver_event]
  by_cases h : o.id ∈ e.registeredIds
  · simp [(contains_registered_iff e o.id).2 h, h]
  · have hc : (⟨e.registered⟩ : Registry).contains o.id = false := by
      rw [← Bool.not_eq_true, contains_registered_iff]
      exact h
    simp only [hc, h, ↓reduceIte, Bool.false_eq_true, notify_eq]
    split
    · rfl
    · rename_i hno
      simp [Registry.hasObservers, Registry.isEmpty] at hno
      simp [hno]

/-- Unregistering a registered id erases its observer, and drops the registry once it is
empty; an unknown id leaves the registry alone. -/
theorem unregister_fst (id : String) :
    (e.unregister id).1 =
      if id ∈ e.registeredIds then
        { (e.traceEntry e.codes.unregisterObserver (Details.empty.insert "observerID" id)).1 with
          observers :=
            if e.registered.eraseP (·.id == id) = [] then none
            else some ⟨e.registered.eraseP (·.id == id)⟩ }
      else (e.traceEntry e.codes.unregisterObserver (Details.empty.insert "observerID" id)).1 := by
  unfold unregister
  simp only [traceEntry_observers]
  cases hobs : e.observers with
  | none => simp [registeredIds, registered, hobs]
  | some r =>
      have hreg : e.registered = r.observers := registered_of_observers hobs
      have hc := contains_registered_iff e id
      rw [hreg] at hc
      by_cases h : id ∈ e.registeredIds
      · rw [hreg]
        simp only [hc.2 h, h, ↓reduceIte, Registry.isEmpty, List.isEmpty_iff]
        rw [Registry.unregister_eq]
      · have hc' : r.contains id = false := by
          rw [← Bool.not_eq_true]
          exact fun h' => h (hc.1 h')
        simp [hc', h]

/-- Unregistering a registered id notifies every registered observer, the departing one
included; an unknown id sends nothing. -/
theorem unregister_deliveries (id : String) :
    (e.unregister id).2.deliveries =
      if id ∈ e.registeredIds then
        e.notify (8000 + (e.component.methods.length + 5)) none
          (Details.empty.insert "observerID" id)
      else [] := by
  unfold unregister
  simp only [traceEntry_observers, codes_unregisterObserver_event]
  cases hobs : e.observers with
  | none => simp [registeredIds, registered, hobs]
  | some r =>
      have hreg : e.registered = r.observers := registered_of_observers hobs
      have hc := contains_registered_iff e id
      rw [hreg] at hc
      by_cases h : id ∈ e.registeredIds
      · simp [hc.2 h, h]
      · have hc' : r.contains id = false := by
          rw [← Bool.not_eq_true]
          exact fun h' => h (hc.1 h')
        simp [hc', h]

end Registration

end Envelope

end StubSdk
