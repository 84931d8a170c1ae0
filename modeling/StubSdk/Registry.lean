import StubSdk.Observer
import StubSdk.Text.Quoted

/-!
Observer registries: the observers in registration order, no two sharing an id. Registering a
present id changes nothing, unregistering removes the observer with the id, and notifying
hands one event to each observer in a task of its own, and to none outside a runtime.
-/

namespace StubSdk

/-- Observers in registration order, with distinct ids. -/
structure Registry where
  observers : List Observer
  deriving DecidableEq, Repr, Inhabited

namespace Registry

/-- The registry with no observer. -/
def empty : Registry := ⟨[]⟩

/-- The ids, in registration order. -/
def ids (r : Registry) : List String :=
  r.observers.map (·.id)

/-- Whether an observer with this id is registered. -/
def contains (r : Registry) (id : String) : Bool :=
  r.observers.any (·.id == id)

/-- The number of observers. -/
def size (r : Registry) : Nat :=
  r.observers.length

/-- Whether no observer is registered. -/
def isEmpty (r : Registry) : Bool :=
  r.observers.isEmpty

/-- Whether some observer is registered. -/
def hasObservers (r : Registry) : Bool :=
  !r.isEmpty

/-- Adds an observer at the end unless its id is taken; tells whether it was added. -/
def register (r : Registry) (o : Observer) : Registry × Bool :=
  if r.contains o.id then (r, false) else (⟨r.observers ++ [o]⟩, true)

/-- Takes the first observer with this id out of a list, keeping the rest in order. -/
def takeOut (id : String) : List Observer → Option Observer × List Observer
  | [] => (none, [])
  | o :: rest =>
    if o.id = id then (some o, rest)
    else
      let (found, kept) := takeOut id rest
      (found, o :: kept)

/-- Removes the observer with this id, if any, and gives it back. -/
def unregister (r : Registry) (id : String) : Registry × Option Observer :=
  let (found, kept) := takeOut id r.observers
  (⟨kept⟩, found)

/-- The deliveries of one event to every observer, in registration order. -/
def deliver (r : Registry) (e : Event) : List Delivery :=
  r.observers.flatMap fun o => (o.take e).1

/-- The debug view: `ObserverRegistry { ids: [..] }`. -/
def debugText (r : Registry) : String :=
  "ObserverRegistry \x7b ids: " ++ Text.quoteList r.ids ++ " \x7d"

/-- A delivery task a notification starts: the observer it hands the event to, what that
observer's handling leaves visible and how it ends. -/
structure DeliveryTask where
  observer : Observer
  handled : List Delivery × Outcome
  deriving DecidableEq, Repr

/-- Notifies the registered observers of an event. Inside a runtime one task starts for each
observer of the list, handing the event to that observer alone, so that what one observer does
reaches no other task; outside a runtime no task starts and nothing is delivered. -/
def notify (r : Registry) (e : Event) (inRuntime : Bool) : List DeliveryTask :=
  if inRuntime then r.observers.map fun o => ⟨o, o.take e⟩ else []

/-- A request to a registry. -/
inductive Request where
  | register (o : Observer)
  | unregister (id : String)
  | contains (id : String)
  | hasObservers
  | isEmpty
  | size
  | ids
  | debug
  | notify (e : Event) (inRuntime : Bool)
  deriving Repr

/-- What a registry answers: a flag, the observer taken out, a number, the ids, a text, or
the tasks a notification started. -/
inductive Reply where
  | flag (b : Bool)
  | removed (o : Option Observer)
  | count (n : Nat)
  | ids (ids : List String)
  | text (s : String)
  | tasks (ts : List DeliveryTask)
  deriving DecidableEq, Repr

/-- Serves one request. -/
def serve (r : Registry) : Request → Registry × Reply
  | .register o => ((r.register o).1, .flag (r.register o).2)
  | .unregister id => ((r.unregister id).1, .removed (r.unregister id).2)
  | .contains id => (r, .flag (r.contains id))
  | .hasObservers => (r, .flag r.hasObservers)
  | .isEmpty => (r, .flag r.isEmpty)
  | .size => (r, .count r.size)
  | .ids => (r, .ids r.ids)
  | .debug => (r, .text r.debugText)
  | .notify e inRuntime => (r, .tasks (r.notify e inRuntime))

end Registry

end StubSdk
