import StubSdk.Service

/-!
Export streams. A stream does nothing until its first poll, which writes the entry record and
sends its one event; each poll then yields a fragment until the stream ends and writes the owed
exit record, or is dropped and writes it as `abandoned`.
-/

namespace StubSdk

/-- Where a stream is in its life. -/
inductive StreamPhase where
  /-- Not polled yet. -/
  | waiting
  /-- Polled: fragments yielded so far, fragments left, and the exit record owed. -/
  | running (yielded : Nat) (rest : List String) (owed : Option ExitRecord)
  /-- Ended. -/
  | finished
  deriving DecidableEq, Repr

/-- An export stream of fragments. -/
structure Stream where
  operation : Operation
  details : Details
  items : List String
  cancelled : Bool
  phase : StreamPhase
  deriving DecidableEq, Repr

namespace Stream

/-- Opens the export stream of the method at place `n` of an engine's code table. -/
def opened (s : Service) (n : Nat) (m : Method) (args : List Argument) (cancelled : Bool) :
    Stream :=
  { operation := m.operationAt n, details := m.details args, items := s.fragmentsOf m.name,
    cancelled, phase := .waiting }

/-- Whether the stream has ended. -/
def ended (st : Stream) : Bool :=
  st.phase == .finished

/-- One step of a running stream: the next fragment, or the end with its exit record. -/
def advance (st : Stream) (e : Envelope) : Stream × Option String × List Trace :=
  match st.phase with
  | .running yielded rest owed =>
    match rest with
    | item :: more =>
      if st.cancelled then
        ({ st with phase := .finished }, none,
          (owed.map fun x => e.writeExit (x.record (.ok (some (Text.decimal yielded))))).toList)
      else ({ st with phase := .running (yielded + 1) more owed }, some item, [])
    | [] =>
      ({ st with phase := .finished }, none,
        (owed.map fun x => e.writeExit (x.record (.ok (some (Text.decimal yielded))))).toList)
  | _ => (st, none, [])

/-- One poll against the envelope of the stream's service: the first poll starts the stream
(entry record and event) before stepping it. An ended stream yields nothing. -/
def poll (st : Stream) (e : Envelope) : Stream × Envelope × Option String × Effects :=
  match st.phase with
  | .waiting =>
    let (e₁, owed, entry) := e.traceEntry st.operation st.details
    let sent :=
      match st.operation.event with
      | some code => if st.cancelled then [] else e₁.notify code none st.details
      | none => []
    let (st', item, exit) := { st with phase := .running 0 st.items owed }.advance e₁
    (st', e₁, item, { traces := entry ++ exit, deliveries := sent })
  | .running .. =>
    let (st', item, exit) := st.advance e
    (st', e, item, { traces := exit })
  | .finished => (st, e, none, {})

/-- Polls at most `n` times, stopping at the first poll that answers the end: the fragments
yielded, whether a poll answered the end, and the effects. An ended stream answers the end
again at every poll; no poll at all answers nothing. -/
def pollMany (st : Stream) (e : Envelope) :
    Nat → Stream × Envelope × List String × Bool × Effects
  | 0 => (st, e, [], false, {})
  | n + 1 =>
    let (st₁, e₁, item, fx) := st.poll e
    match item with
    | none => (st₁, e₁, [], true, fx)
    | some x =>
      let (st₂, e₂, items, ended, fx₂) := st₁.pollMany e₁ n
      (st₂, e₂, x :: items, ended, fx ++ fx₂)

/-- Asks the stream to stop: its next poll ends it. -/
def cancel (st : Stream) : Stream :=
  { st with cancelled := true }

/-- What dropping the stream writes: the owed exit record, abandoned, if it started and has
not ended. -/
def drop (st : Stream) (e : Envelope) : List Trace :=
  match st.phase with
  | .running _ _ (some x) => [e.writeExit x]
  | _ => []

end Stream

end StubSdk
