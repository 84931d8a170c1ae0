import StubSdk.Proofs.Redaction

/-!
What the caller's token changes: a cancelled token keeps an operation from sending its event,
and nothing else. Registering and unregistering take no token, and an export stream reads its
token at its first poll, where a cancelled one also ends the stream.
-/

namespace StubSdk

namespace Envelope

/-- Cancelling an operation drops its event and nothing else. -/
theorem run_cancelled {α : Type} (detail : α → Option String) (e : Envelope) (op : Operation)
    (args : Details) (work : Envelope → Envelope × Except Failure α) :
    e.run detail op args true work =
      ((e.run detail op args false work).1, (e.run detail op args false work).2.1,
        { traces := (e.run detail op args false work).2.2.traces, deliveries := [] }) := by
  cases hcode : op.event <;> simp [run, hcode]

theorem applyLevel_component (name : String) (e : Envelope) :
    (applyLevel name e).1.component = e.component := by
  rcases e.applyLevel_cases name with ⟨-, h | h⟩ | ⟨level, l, -, -, -, h⟩ <;> simp [h]

/-- An operation whose work keeps the registry and the component sends at most one event, with
its own event code and the envelope's component, to every observer registered when it started,
in registration order. -/
theorem run_sends_to_registered {α : Type} (detail : α → Option String) (e : Envelope)
    (op : Operation) (args : Details) (cancelled : Bool)
    (work : Envelope → Envelope × Except Failure α)
    (hkeep : ∀ e', (work e').1.observers = e'.observers)
    (hcomp : ∀ e', (work e').1.component = e'.component) :
    ∃ sent : Option Event, (∀ ev ∈ sent, some ev.code = op.event ∧ ev.component = e.component) ∧
      (e.run detail op args cancelled work).2.2.deliveries =
        (sent.map fun ev => e.registered.flatMap fun o => (o.take ev).1).getD [] := by
  cases hcode : op.event with
  | none => exact ⟨none, by simp, by rw [run_deliveries, hcode]; rfl⟩
  | some code =>
      cases cancelled
      · refine ⟨some ((e.run detail op args false work).1.event code
          (failureOf (e.run detail op args false work).2.1)
          (eventDetails op args ((e.run detail op args false work).2.1.map detail))), ?_, ?_⟩
        · -- the event is built by the envelope the work leaves, whose component is the same
          intro ev hev
          rw [Option.mem_some_iff] at hev
          subst hev
          exact ⟨rfl, (hcomp _).trans (traceEntry_component e op args)⟩
        · rw [run_deliveries_of_keeps detail e op args false work hcode hkeep]
          rfl
      · exact ⟨none, by simp, by rw [run_deliveries, hcode]; rfl⟩

/-- A registration sends at most one event, its own, to every observer registered before. -/
theorem register_sends_to_registered (e : Envelope) (o : Observer) :
    ∃ sent : Option Event,
      (∀ ev ∈ sent, some ev.code = e.codes.registerObserver.event ∧ ev.component = e.component) ∧
      (e.register o).2.deliveries =
        (sent.map fun ev => e.registered.flatMap fun p => (p.take ev).1).getD [] := by
  rw [register_deliveries]
  by_cases h : o.id ∈ e.registeredIds
  · exact ⟨none, by simp, by simp [h]⟩
  · refine ⟨some (e.event (8000 + (e.component.methods.length + 2)) none
      (Details.empty.insert "observerID" o.id)), ?_, ?_⟩
    · intro ev hev
      rw [Option.mem_some_iff] at hev
      subst hev
      exact ⟨rfl, rfl⟩
    · simp [h, notify_eq]

/-- An unregistration sends at most one event, its own, to every observer registered, the
departing one included. -/
theorem unregister_sends_to_registered (e : Envelope) (id : String) :
    ∃ sent : Option Event,
      (∀ ev ∈ sent, some ev.code = e.codes.unregisterObserver.event ∧ ev.component = e.component) ∧
      (e.unregister id).2.deliveries =
        (sent.map fun ev => e.registered.flatMap fun p => (p.take ev).1).getD [] := by
  rw [unregister_deliveries]
  by_cases h : id ∈ e.registeredIds
  · refine ⟨some (e.event (8000 + (e.component.methods.length + 5)) none
      (Details.empty.insert "observerID" id)), ?_, ?_⟩
    · intro ev hev
      rw [Option.mem_some_iff] at hev
      subst hev
      exact ⟨rfl, rfl⟩
    · simp [h, notify_eq]
  · exact ⟨none, by simp, by simp [h]⟩

end Envelope

namespace Request

/-- The request with the caller's token cancelled or live. Registering and unregistering take
no token and stay as they are, as do the stream requests after the opening one. -/
def withToken (cancelled : Bool) : Request → Request
  | .call n m args _ => .call n m args cancelled
  | .setLogLevel name _ => .setLogLevel name cancelled
  | .setOrigin origin _ => .setOrigin origin cancelled
  | .getOrigin _ => .getOrigin cancelled
  | .openStream n m args _ => .openStream n m args cancelled
  | r => r

/-- Whether the request takes the caller's token. -/
def takesToken : Request → Bool
  | .call .. | .setLogLevel .. | .setOrigin .. | .getOrigin _ | .openStream .. => true
  | _ => false

/-- Setting the token keeps the operation a request runs. -/
@[simp] theorem operation?_withToken (c : Component) (cancelled : Bool) (r : Request) :
    (r.withToken cancelled).operation? c = r.operation? c := by
  cases r <;> rfl

end Request

namespace Facade

open Envelope

variable (f : Facade)

/-- A service operation run with a cancelled token ends as it ends with a live one, and sends
nothing; registering and unregistering are the same request either way. -/
theorem step_withToken_cancelled {r : Request} {op : Operation}
    (hop : r.operation? f.service.envelope.component = some op) :
    f.step (r.withToken true) =
      if r.takesToken then
        ((f.step (r.withToken false)).1, (f.step (r.withToken false)).2.1,
          { traces := (f.step (r.withToken false)).2.2.traces, deliveries := [] })
      else f.step (r.withToken false) := by
  cases r with
  | call n m args cancelled =>
      simp only [Request.withToken, Request.takesToken, ↓reduceIte, step, Service.call,
        run_cancelled]
  | setLogLevel name cancelled =>
      simp only [Request.withToken, Request.takesToken, ↓reduceIte, step, Service.setLogLevel,
        Envelope.setLogLevel, run_cancelled]
  | setOrigin origin cancelled =>
      simp only [Request.withToken, Request.takesToken, ↓reduceIte, step, Service.setOrigin,
        Envelope.setOrigin, run_cancelled]
  | getOrigin cancelled =>
      simp only [Request.withToken, Request.takesToken, ↓reduceIte, step, Service.getOrigin,
        Envelope.getOrigin, run_cancelled]
  | register o => rfl
  | unregister id => rfl
  | openStream | poll | cancelStream | dropStream => cases hop

/-- A service operation sends at most one event, with its own event code and the service's
component, to every observer registered when it started. -/
theorem step_sends_to_registered {r : Request} {op : Operation}
    (hop : r.operation? f.service.envelope.component = some op) :
    ∃ sent : Option Event,
      (∀ ev ∈ sent, some ev.code = op.event ∧ ev.component = f.service.envelope.component) ∧
      (f.step r).2.2.deliveries =
        (sent.map fun ev => f.service.envelope.registered.flatMap fun o => (o.take ev).1).getD [] := by
  cases r with
  | call n m args cancelled =>
      cases hop
      exact run_sends_to_registered Value.detail _ _ _ cancelled
        (fun e => (e, .ok (f.service.answer m e))) (fun _ => rfl) (fun _ => rfl)
  | setLogLevel name cancelled =>
      cases hop
      exact run_sends_to_registered _ _ _ _ cancelled (applyLevel name)
        (fun e => applyLevel_observers name e) (fun e => applyLevel_component name e)
  | setOrigin origin cancelled =>
      cases hop
      exact run_sends_to_registered (fun _ => none) _ _ _ cancelled
        (fun e => ({ e with origin }, .ok ())) (fun _ => rfl) (fun _ => rfl)
  | getOrigin cancelled =>
      cases hop
      exact run_sends_to_registered some _ _ _ cancelled (fun e => (e, .ok e.origin))
        (fun _ => rfl) (fun _ => rfl)
  | register o =>
      cases hop
      exact f.service.envelope.register_sends_to_registered o
  | unregister id =>
      cases hop
      exact f.service.envelope.unregister_sends_to_registered id
  | openStream | poll | cancelStream | dropStream => cases hop

end Facade

/-- Cancelling an operation drops its event and changes nothing else. -/
theorem cancelling_drops_only_the_event (f : Facade) (r : Request) (op : Operation)
    (hop : r.operation? f.service.envelope.component = some op) :
    (f.step (r.withToken true)).1 = (f.step (r.withToken false)).1 ∧
    (f.step (r.withToken true)).2.1 = (f.step (r.withToken false)).2.1 ∧
    (f.step (r.withToken true)).2.2.traces = (f.step (r.withToken false)).2.2.traces ∧
    (f.step (r.withToken true)).2.2.deliveries =
      (if r.takesToken then [] else (f.step (r.withToken false)).2.2.deliveries) ∧
    ∃ sent : Option Event,
      (∀ ev ∈ sent, some ev.code = op.event ∧ ev.component = f.service.envelope.component) ∧
      (f.step (r.withToken false)).2.2.deliveries =
        (sent.map fun ev => f.service.envelope.registered.flatMap fun o => (o.take ev).1).getD [] := by
  have hsent := f.step_sends_to_registered ((Request.operation?_withToken _ false r).trans hop)
  rw [f.step_withToken_cancelled hop]
  cases r.takesToken <;> exact ⟨rfl, rfl, rfl, rfl, hsent⟩

/-- A product of the default factory with an observer registered. -/
def observedProduct : Facade :=
  ((Facade.ofService (Factory.initial.build .product)).step (.register ⟨"O", .script .accept⟩)).1

/-- Cancelling an origin change of a product with an observer: the same state, answer and
records, and of the live run's one event nothing. -/
theorem cancelled_origin_change_of_observed_product :
    (Request.setOrigin "billing" false).operation? observedProduct.service.envelope.component =
      some Component.product.observable.setObserverOrigin ∧
    (observedProduct.step ((Request.setOrigin "billing" false).withToken true)).1 =
      (observedProduct.step ((Request.setOrigin "billing" false).withToken false)).1 ∧
    (observedProduct.step ((Request.setOrigin "billing" false).withToken true)).2.1 =
      (observedProduct.step ((Request.setOrigin "billing" false).withToken false)).2.1 ∧
    (observedProduct.step ((Request.setOrigin "billing" false).withToken true)).2.2.traces =
      (observedProduct.step ((Request.setOrigin "billing" false).withToken false)).2.2.traces ∧
    (observedProduct.step ((Request.setOrigin "billing" false).withToken true)).2.2.deliveries =
      (if (Request.setOrigin "billing" false).takesToken then []
      else (observedProduct.step ((Request.setOrigin "billing" false).withToken false)).2.2.deliveries) ∧
    (∃ sent : Option Event,
      (∀ ev ∈ sent, some ev.code = Component.product.observable.setObserverOrigin.event ∧
        ev.component = observedProduct.service.envelope.component) ∧
      (observedProduct.step ((Request.setOrigin "billing" false).withToken false)).2.2.deliveries =
        (sent.map fun ev =>
          observedProduct.service.envelope.registered.flatMap fun o => (o.take ev).1).getD []) ∧
    (observedProduct.step ((Request.setOrigin "billing" false).withToken false)).2.2.deliveries.length = 1 := by
  obtain ⟨hstate, hanswer, htraces, hdeliveries, hsent⟩ :=
    cancelling_drops_only_the_event observedProduct (.setOrigin "billing" false) _ rfl
  exact ⟨rfl, hstate, hanswer, htraces, hdeliveries, hsent, rfl⟩

end StubSdk
