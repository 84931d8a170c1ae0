import StubSdk.Stream
import StubSdk.Proofs.Envelope

/-!
Who receives an event: the observers registered when it is sent, each once, in registration
order. Registration sends before it adds the newcomer, unregistration before it removes the
departing observer, and an export stream sends at its first poll.
-/

namespace StubSdk

namespace Envelope

theorem applyLevel_observers (name : String) (e : Envelope) :
    (applyLevel name e).1.observers = e.observers := by
  unfold applyLevel
  split
  · rfl
  · simp only
    split <;> rfl

end Envelope

namespace Stream

/-- The first poll sends the stream's event, unless its cancellation was asked for, to the
observers registered with the envelope it is polled against. -/
theorem poll_deliveries_of_waiting {st : Stream} (e : Envelope) (h : st.phase = .waiting) :
    (st.poll e).2.2.2.deliveries =
      match st.operation.event with
      | some code => if st.cancelled then [] else e.notify code none st.details
      | none => [] := by
  unfold poll
  rw [h]
  exact congrArg (fun n => match st.operation.event with
    | some code => if st.cancelled then [] else n code none st.details
    | none => []) (Envelope.traceEntry_notify e st.operation st.details)

/-- Only the first poll sends anything. -/
theorem poll_deliveries_of_started {st : Stream} (e : Envelope) (h : st.phase ≠ .waiting) :
    (st.poll e).2.2.2.deliveries = [] := by
  unfold poll
  cases hp : st.phase with
  | waiting => exact absurd hp h
  | running => rfl
  | finished => rfl

end Stream

/-- An event goes to the observers registered when it is sent, each once, in registration order. -/
theorem event_recipients_are_registered_at_dispatch :
    (∀ (s : Service) (o : Observer),
      (o.id ∉ s.envelope.registeredIds →
        (s.register o).2.deliveries =
            s.envelope.registered.flatMap (fun p =>
              (p.take (s.envelope.event (8000 + (s.envelope.component.methods.length + 2)) none
                (Details.empty.insert "observerID" o.id))).1) ∧
          (s.register o).1.envelope.registered = s.envelope.registered ++ [o]) ∧
      (o.id ∈ s.envelope.registeredIds →
        (s.register o).2.deliveries = [] ∧
          (s.register o).1.envelope.observers = s.envelope.observers)) ∧
    (∀ (s : Service) (id : String),
      (id ∈ s.envelope.registeredIds →
        (s.unregister id).2.deliveries =
            s.envelope.registered.flatMap (fun p =>
              (p.take (s.envelope.event (8000 + (s.envelope.component.methods.length + 5)) none
                (Details.empty.insert "observerID" id))).1) ∧
          (s.unregister id).1.envelope.observers =
            if s.envelope.registered.eraseP (·.id == id) = [] then none
            else some ⟨s.envelope.registered.eraseP (·.id == id)⟩) ∧
      (id ∉ s.envelope.registeredIds →
        (s.unregister id).2.deliveries = [] ∧
          (s.unregister id).1.envelope.observers = s.envelope.observers)) ∧
    (∀ (s : Service) (n : Nat) (m : Method) (args : List Argument) (cancelled : Bool),
      (s.call n m args cancelled).2.2.deliveries =
          (if cancelled then []
          else
            s.envelope.registered.flatMap fun p =>
              (p.take ((s.call n m args cancelled).1.envelope.event (8000 + n)
                (Envelope.failureOf (s.call n m args cancelled).2.1)
                (Envelope.eventDetails (m.operationAt n) (m.details args)
                  ((s.call n m args cancelled).2.1.map Value.detail)))).1) ∧
        (s.call n m args cancelled).1.envelope.observers = s.envelope.observers) ∧
    (∀ (s : Service) (name : String) (cancelled : Bool),
      (s.setLogLevel name cancelled).2.2.deliveries =
          (if cancelled then []
          else
            s.envelope.registered.flatMap fun p =>
              (p.take ((s.setLogLevel name cancelled).1.envelope.event
                (8000 + (s.envelope.component.methods.length + 3))
                (Envelope.failureOf (s.setLogLevel name cancelled).2.1)
                (Details.empty.insert "logLevel" name))).1) ∧
        (s.setLogLevel name cancelled).1.envelope.observers = s.envelope.observers) ∧
    (∀ (s : Service) (origin : String) (cancelled : Bool),
      (s.setOrigin origin cancelled).2.2.deliveries =
          (if cancelled then []
          else
            s.envelope.registered.flatMap fun p =>
              (p.take ((s.setOrigin origin cancelled).1.envelope.event
                (8000 + (s.envelope.component.methods.length + 4)) none
                (Details.empty.insert "origin" origin))).1) ∧
        (s.setOrigin origin cancelled).1.envelope.observers = s.envelope.observers) ∧
    (∀ (s : Service) (cancelled : Bool), (s.getOrigin cancelled).2.2.deliveries = []) ∧
    (∀ (engine : Service) (n : Nat) (m : Method) (args : List Argument) (cancelled : Bool)
      (e : Envelope),
      ((Stream.opened engine n m args cancelled).poll e).2.2.2.deliveries =
        if cancelled then []
        else
          e.registered.flatMap fun p =>
            (p.take (e.event (8000 + n) none (m.details args))).1) ∧
    (∀ (st : Stream) (e : Envelope), st.phase ≠ .waiting → (st.poll e).2.2.2.deliveries = []) := by
  refine ⟨?register, ?unregister, ?call, ?level, ?origin, ?read, ?first, ?later⟩
  case register =>
    intro s o
    have hsent := s.envelope.register_deliveries o
    have hobs : (s.register o).1.envelope.observers =
        some (Registry.register ⟨s.envelope.registered⟩ o).1 := by
      rw [show (s.register o).1.envelope = (s.envelope.register o).1 from rfl,
        s.envelope.register_fst o]
    constructor
    · intro hnew
      have hreg : o.id ∉ (⟨s.envelope.registered⟩ : Registry).ids := by
        simpa [Envelope.registeredIds] using hnew
      refine ⟨by simp [Service.register, hsent, hnew, Envelope.notify_eq], ?_⟩
      rw [Envelope.registered_of_observers hobs, Registry.register_of_not_mem hreg]
    · intro htaken
      have hreg : o.id ∈ (⟨s.envelope.registered⟩ : Registry).ids := by
        simpa [Envelope.registeredIds] using htaken
      refine ⟨by simp [Service.register, hsent, htaken], ?_⟩
      rw [hobs, Registry.register_of_mem hreg, Envelope.observers_of_mem_registeredIds htaken]
  case unregister =>
    intro s id
    have hfst := s.envelope.unregister_fst id
    have hsent := s.envelope.unregister_deliveries id
    constructor
    · intro hin
      exact ⟨by simp [Service.unregister, hsent, hin, Envelope.notify_eq],
        by simp [Service.unregister, hfst, hin]⟩
    · intro hout
      exact ⟨by simp [Service.unregister, hsent, hout],
        by simp [Service.unregister, hfst, hout]⟩
  case call =>
    intro s n m args cancelled
    let work := fun e => (e, (.ok (s.answer m e) : Except Failure Value))
    exact ⟨Envelope.run_deliveries_of_keeps Value.detail s.envelope (m.operationAt n)
        (m.details args) cancelled work rfl (fun _ => rfl),
      Envelope.run_observers Value.detail s.envelope (m.operationAt n) (m.details args)
        cancelled work (fun _ => rfl)⟩
  case level =>
    intro s name cancelled
    have hsent := Envelope.run_deliveries_of_keeps (fun _ => none) s.envelope
        s.envelope.codes.setLogLevel (Details.empty.insert "logLevel" name) cancelled
        (Envelope.applyLevel name) rfl (Envelope.applyLevel_observers name)
    rw [Envelope.eventDetails_of_not_returns rfl] at hsent
    exact ⟨hsent,
      Envelope.run_observers (fun _ => none) s.envelope s.envelope.codes.setLogLevel
        (Details.empty.insert "logLevel" name) cancelled (Envelope.applyLevel name)
        (Envelope.applyLevel_observers name)⟩
  case origin =>
    intro s origin cancelled
    let work := fun e : Envelope => ({ e with origin }, (.ok () : Except Failure Unit))
    exact ⟨Envelope.run_deliveries_of_keeps (fun _ => none) s.envelope
        s.envelope.codes.setObserverOrigin (Details.empty.insert "origin" origin) cancelled
        work rfl (fun _ => rfl),
      Envelope.run_observers (fun _ => none) s.envelope s.envelope.codes.setObserverOrigin
        (Details.empty.insert "origin" origin) cancelled work (fun _ => rfl)⟩
  case read =>
    intro s cancelled
    rfl
  case first =>
    intro engine n m args cancelled e
    rw [Stream.poll_deliveries_of_waiting e rfl]
    simp [Stream.opened, Method.operationAt, Operation.numbered, Envelope.notify_eq]
  case later =>
    intro st e h
    exact Stream.poll_deliveries_of_started e h

end StubSdk
