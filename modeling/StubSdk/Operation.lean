/-!
Operations and their codes. The operation at place n of a component's code table traces its
entry with code 2n - 1 and its exit with 2n, and its event has code 8000 + n; the five observer
and logging operations every component has follow its own.
-/

namespace StubSdk

/-- The codes of one operation. -/
structure Operation where
  /-- The name of the operation, such as `AddRecord`. -/
  name : String
  /-- The code of its entry trace record. -/
  entry : Nat
  /-- The code of its event, if it sends one. -/
  event : Option Nat
  /-- Whether its event carries its answer under `return`. -/
  returns : Bool
  deriving DecidableEq, Repr, Inhabited

namespace Operation

/-- The code of the exit trace record, right after the entry code. -/
def exit (op : Operation) : Nat :=
  op.entry + 1

/-- The operation at place `n` of a code table, with an event. -/
def numbered (n : Nat) (name : String) (returns : Bool) : Operation :=
  { name, entry := 2 * n - 1, event := some (8000 + n), returns }

/-- The operation at place `n` of a code table, traced but with no event. -/
def traced (n : Nat) (name : String) : Operation :=
  { name, entry := 2 * n - 1, event := none, returns := false }

end Operation

/-- The five operations that follow a component's own operations in its code table. -/
structure ObservableCodes where
  getObserverOrigin : Operation
  registerObserver : Operation
  setLogLevel : Operation
  setObserverOrigin : Operation
  unregisterObserver : Operation
  deriving Repr

/-- The observer and logging operations of a component with `k` operations of its own. -/
def ObservableCodes.after (k : Nat) : ObservableCodes where
  getObserverOrigin := .traced (k + 1) "GetObserverOrigin"
  registerObserver := .numbered (k + 2) "RegisterObserver" false
  setLogLevel := .numbered (k + 3) "SetLogLevel" false
  setObserverOrigin := .numbered (k + 4) "SetObserverOrigin" false
  unregisterObserver := .numbered (k + 5) "UnregisterObserver" false

end StubSdk
