import Mathlib.Data.List.Forall2
import StubSdk.Proofs.WellFormed

/-!
What one request does: it may build the logger, and then changes at most the registry and the
origin, or applies a level by name. So every request keeps the component and the logger's kind,
and with tracing on each operation writes its entry record and then its exit record.
-/

namespace StubSdk

namespace Logger

/-- At TRACE a logger passes every code. -/
theorem isEnabled_of_level_trace {l : Logger} (h : l.level = .trace) (code : Nat) :
    l.isEnabled code = true := by
  unfold isEnabled
  rw [h]
  exact decide_eq_true (Nat.zero_le _)

/-- A trace is a record the logger writes with a code, whatever its details. -/
def Wrote (l : Logger) (code : Nat) (t : Trace) : Prop :=
  ∃ d, t = l.write code d

end Logger

/-- Putting a result in keeps an exit record's code. -/
@[simp] theorem ExitRecord.record_code (x : ExitRecord) (result : Except Failure (Option String)) :
    (x.record result).code = x.code := by
  unfold ExitRecord.record
  split <;> rfl

namespace Envelope

variable (e : Envelope)

/-- An exit record is written with its own code by the envelope's logger. -/
theorem writeExit_eq (x : ExitRecord) :
    e.writeExit x = e.logger.write x.code (e.redact x.finalDetails) := rfl

/-- The entry record builds the logger or leaves the envelope alone. -/
theorem traceEntry_fst_cases (op : Operation) (args : Details) :
    (e.traceEntry op args).1 = e ∨ (e.traceEntry op args).1 = e.withLogger := by
  rw [traceEntry_fst]
  split
  · exact .inr rfl
  · exact .inl rfl

/-- Setting the level by name either fails, having built the logger at most, or installs the
logger at the named level, the starting level and the tracing flag following it. -/
theorem applyLevel_cases (name : String) :
    ((∃ f, (applyLevel name e).2 = .error f) ∧
      ((applyLevel name e).1 = e ∨ (applyLevel name e).1 = e.withLogger)) ∨
    ∃ level l, Level.parse? name = some level ∧ e.logger.setLevel level = .ok l ∧
      (applyLevel name e).2 = .ok () ∧
      (applyLevel name e).1 =
        { e with logger? := some l, startLevel := level, trace := level == .trace } := by
  unfold applyLevel
  split
  · exact .inl ⟨⟨_, rfl⟩, .inl rfl⟩
  · rename_i level hparse
    simp only
    split
    · exact .inl ⟨⟨_, rfl⟩, .inr rfl⟩
    · rename_i l hl
      exact .inr ⟨level, l, hparse, hl, rfl, rfl⟩

/-- The records of a registration: its entry record, then the owed exit record, written from
the envelope the registration leaves. -/
theorem register_traces (o : Observer) :
    (e.register o).2.traces =
      (e.traceEntry e.codes.registerObserver (Details.empty.insert "observerID" o.id)).2.2 ++
        ((e.traceEntry e.codes.registerObserver (Details.empty.insert "observerID" o.id)).2.1.map
          fun x => (e.register o).1.writeExit (x.record (.ok none))).toList := by
  simp only [register]
  cases (e.traceEntry e.codes.registerObserver (Details.empty.insert "observerID" o.id)).2.1 <;>
    rfl

/-- The records of an unregistration, in the same shape. -/
theorem unregister_traces (id : String) :
    (e.unregister id).2.traces =
      (e.traceEntry e.codes.unregisterObserver (Details.empty.insert "observerID" id)).2.2 ++
        ((e.traceEntry e.codes.unregisterObserver (Details.empty.insert "observerID" id)).2.1.map
          fun x => (e.unregister id).1.writeExit (x.record (.ok none))).toList := by
  simp only [unregister]
  cases (e.traceEntry e.codes.unregisterObserver (Details.empty.insert "observerID" id)).2.1 <;>
    rfl

variable {e}

/-- In a well-formed envelope the entry record is written, and the exit record owed, exactly
when tracing is on: the level in effect is then TRACE, which passes every entry code. -/
theorem traceEntry_snd_of_wellFormed (h : e.WellFormed) (op : Operation) (args : Details) :
    (e.traceEntry op args).2 =
      if e.trace then (some ⟨op.exit, args, false⟩, [e.logger.write op.entry (e.redact args)])
      else (none, []) := by
  rw [traceEntry_snd]
  cases htrace : e.trace
  · rfl
  · have hon : e.logger.isEnabled op.entry = true :=
      Logger.isEnabled_of_level_trace (h.trace_iff.1 htrace) op.entry
    simp [hon]

/-- With tracing on, an operation's entry record and then its exit record, each with the
operation's code, and with tracing off nothing: whatever the operation's work did, the owed
record goes through a logger writing as the first one does. -/
theorem traceEntry_bracket (h : e.WellFormed) (op : Operation) (args : Details) {e' : Envelope}
    (hw : e'.logger.write = e.logger.write) (result : Except Failure (Option String)) :
    List.Forall₂ e.logger.Wrote (if e.trace then [op.entry, op.entry + 1] else [])
      ((e.traceEntry op args).2.2 ++
        ((e.traceEntry op args).2.1.map fun x => e'.writeExit (x.record result)).toList) := by
  rw [traceEntry_snd_of_wellFormed h]
  cases e.trace
  · simp
  · simp only [↓reduceIte, Option.map_some, Option.toList_some, List.cons_append,
      List.nil_append]
    refine .cons ⟨_, rfl⟩
      (.cons ⟨e'.redact (ExitRecord.record ⟨op.exit, args, false⟩ result).finalDetails, ?_⟩ .nil)
    rw [writeExit_eq, hw, ExitRecord.record_code]
    rfl

end Envelope

namespace Stream

variable (st : Stream) (e : Envelope)

@[simp] theorem cancel_operation : st.cancel.operation = st.operation := rfl
@[simp] theorem cancel_phase : st.cancel.phase = st.phase := rfl

/-- A running stream either yields its next fragment and runs on, owing the same exit record,
or ends and writes the exit record it owes, completed with the count of fragments yielded. -/
theorem advance_cases {yielded : Nat} {rest : List String} {owed : Option ExitRecord}
    (h : st.phase = .running yielded rest owed) :
    (∃ item more,
      st.advance e = ({ st with phase := .running (yielded + 1) more owed }, some item, [])) ∨
    st.advance e = ({ st with phase := .finished }, none,
      (owed.map fun x => e.writeExit (x.record (.ok (some (Text.decimal yielded))))).toList) := by
  unfold advance
  rw [h]
  cases rest with
  | nil => exact .inr rfl
  | cons item more =>
      cases hc : st.cancelled
      · exact .inl ⟨item, more, if_neg Bool.false_ne_true⟩
      · exact .inr (if_pos rfl)

/-- The first poll writes the entry record, then steps the started stream, owing what the entry
record owes, against the envelope the entry record leaves. -/
theorem poll_of_waiting (h : st.phase = .waiting) {e₁ : Envelope} {owed : Option ExitRecord}
    {entry : List Trace} (ht : e.traceEntry st.operation st.details = (e₁, owed, entry)) :
    (st.poll e).1 = (Stream.advance { st with phase := .running 0 st.items owed } e₁).1 ∧
    (st.poll e).2.2.1 = (Stream.advance { st with phase := .running 0 st.items owed } e₁).2.1 ∧
    (st.poll e).2.2.2.traces =
      entry ++ (Stream.advance { st with phase := .running 0 st.items owed } e₁).2.2 := by
  unfold poll
  rw [h, ht]
  exact ⟨rfl, rfl, rfl⟩

/-- A later poll steps the stream against the envelope as it is. -/
theorem poll_of_running {yielded : Nat} {rest : List String} {owed : Option ExitRecord}
    (h : st.phase = .running yielded rest owed) :
    st.poll e = ((st.advance e).1, e, (st.advance e).2.1, { traces := (st.advance e).2.2 }) := by
  unfold poll
  rw [h]

/-- An ended stream does nothing and yields nothing. -/
theorem poll_of_finished (h : st.phase = .finished) : st.poll e = (st, e, none, {}) := by
  unfold poll
  rw [h]

/-- A poll moves every stream that has not ended: the first poll starts it, and a later one
yields one more fragment or ends it. -/
theorem poll_fst_eq_self {st : Stream} {e : Envelope} (h : (st.poll e).1 = st) :
    st.phase = .finished := by
  have hphase := congrArg Stream.phase h
  cases hp : st.phase with
  | waiting =>
      generalize ht : e.traceEntry st.operation st.details = t
      obtain ⟨e₁, owed, entry⟩ := t
      have hstart : ({ st with phase := .running 0 st.items owed } : Stream).phase =
          .running 0 st.items owed := rfl
      obtain ⟨h1, -, -⟩ := st.poll_of_waiting e hp ht
      rw [h1, hp] at hphase
      rcases Stream.advance_cases _ e₁ hstart with ⟨item, more, hadv⟩ | hadv <;>
        rw [hadv] at hphase <;> cases hphase
  | running yielded rest owed =>
      rw [st.poll_of_running e hp, hp] at hphase
      rcases st.advance_cases e hp with ⟨item, more, hadv⟩ | hadv <;> rw [hadv] at hphase
      · -- the count of fragments yielded moves on
        injection hphase with hcount
        omega
      · cases hphase
  | finished => rfl

end Stream

/-- Injecting a logger that is at the starting level keeps the level in effect. -/
theorem Envelope.inject_level {e : Envelope} {l : Logger} (hl : l.level = e.startLevel) :
    (e.inject l).1.level = e.level := by
  unfold inject
  cases hlog : e.logger? with
  | some _ => rfl
  | none =>
      have hstart : e.level = e.startLevel := by
        simp [Envelope.level, Envelope.logger, hlog, Logger.console]
      simp only
      split
      · rename_i l' hl'
        show l'.level = _
        rw [Logger.setLevel_ok_level hl', hstart]
      · show l.level = _
        rw [hl, hstart]

/-- A service built from any bag, with INFO loggers injected, is at INFO. -/
theorem Service.injectAll_ofBag_level (c : Component) (values : Bag)
    (fragments : List (String × List String)) {loggers : List Logger}
    (hl : ∀ l ∈ loggers, l.level = .info) :
    ({ Service.ofBag c values with fragments }.injectAll loggers).1.envelope.level = .info := by
  apply Service.injectAll_induction (fun e => e.level = .info) _ loggers rfl
  intro e l hmem hstart he
  rw [Envelope.inject_level ((hl l hmem).trans hstart.symm), he]

/-- A directly built service is at INFO, whatever loggers a script injects. -/
theorem Session.buildOwn_level (s : Session) (name : String) (c : Component) (source : Source)
    (opts : Options) : (s.buildOwn name c source opts).1.envelope.level = .info :=
  Session.buildOwn_induction (·.level = .info) s name c source opts (fun _ _ h => h)
    fun _ => Service.injectAll_ofBag_level c _ opts.fragments
      (Session.loggersFor_level c name opts.loggers)

/-- The operation a request to the service runs, with its codes; stream requests run none of
their own. -/
def Request.operation? (c : Component) : Request → Option Operation
  | .call n m _ _ => some (m.operationAt n)
  | .register _ => some c.observable.registerObserver
  | .unregister _ => some c.observable.unregisterObserver
  | .setLogLevel .. => some c.observable.setLogLevel
  | .setOrigin .. => some c.observable.setObserverOrigin
  | .getOrigin _ => some c.observable.getObserverOrigin
  | _ => none

namespace Facade

open Envelope

variable (f : Facade)

/-- What a request does to the service's envelope: after building the logger at most, it
either changes at most the registry and the origin, applying no level, or it is a level change
and applies the level by name, answering what that answered. -/
theorem step_envelope_cases (r : Request) :
    ∃ e₁ : Envelope, (e₁ = f.service.envelope ∨ e₁ = f.service.envelope.withLogger) ∧
      ((r.applies (f.step r).2.1 = none ∧
          ∃ observers origin, (f.step r).1.service.envelope = { e₁ with observers, origin }) ∨
        ∃ name cancelled, r = .setLogLevel name cancelled ∧
          (f.step r).1.service.envelope = (applyLevel name e₁).1 ∧
          (f.step r).2.1 = .done (applyLevel name e₁).2) := by
  have entry := f.service.envelope.traceEntry_fst_cases
  cases r with
  | call n m args cancelled =>
      exact ⟨_, entry (m.operationAt n) (m.details args), .inl ⟨rfl, _, _, rfl⟩⟩
  | register o =>
      refine ⟨_, entry f.service.envelope.codes.registerObserver
        (Details.empty.insert "observerID" o.id), .inl ⟨rfl, ?_⟩⟩
      exact ⟨_, _, f.service.envelope.register_fst o⟩
  | unregister id =>
      refine ⟨_, entry f.service.envelope.codes.unregisterObserver
        (Details.empty.insert "observerID" id), .inl ⟨rfl, ?_⟩⟩
      show ∃ observers origin, (f.service.envelope.unregister id).1 = _
      rw [unregister_fst]
      split
      · exact ⟨_, _, rfl⟩
      · exact ⟨_, _, rfl⟩
  | setLogLevel name cancelled =>
      exact ⟨_, entry f.service.envelope.codes.setLogLevel (Details.empty.insert "logLevel" name),
        .inr ⟨name, cancelled, rfl, rfl, rfl⟩⟩
  | setOrigin origin cancelled =>
      exact ⟨_, entry f.service.envelope.codes.setObserverOrigin
        (Details.empty.insert "origin" origin), .inl ⟨rfl, _, _, rfl⟩⟩
  | getOrigin cancelled =>
      exact ⟨_, entry f.service.envelope.codes.getObserverOrigin Details.empty,
        .inl ⟨rfl, _, _, rfl⟩⟩
  | openStream n m args cancelled => exact ⟨_, .inl rfl, .inl ⟨rfl, _, _, rfl⟩⟩
  | poll k =>
      have hsvc := f.step_poll_service k
      cases hs : f.stream? k with
      | none =>
          simp only [hs] at hsvc
          exact ⟨_, .inl rfl, .inl ⟨rfl, _, _, by rw [hsvc]⟩⟩
      | some st =>
          simp only [hs] at hsvc
          have henv : (f.step (.poll k)).1.service.envelope = (st.poll f.service.envelope).2.1 := by
            rw [hsvc]
          rw [Stream.poll_envelope] at henv
          split at henv
          · exact ⟨_, entry st.operation st.details, .inl ⟨rfl, _, _, henv⟩⟩
          · exact ⟨_, .inl rfl, .inl ⟨rfl, _, _, henv⟩⟩
  | cancelStream k =>
      exact ⟨_, .inl rfl,
        .inl ⟨rfl, _, _, congrArg Service.envelope (f.step_cancelStream_service k)⟩⟩
  | dropStream k =>
      exact ⟨_, .inl rfl,
        .inl ⟨rfl, _, _, congrArg Service.envelope (f.step_dropStream_service k)⟩⟩

/-- A field of the envelope that building the logger, changing the registry and the origin,
and applying a level all keep, every request keeps. -/
theorem step_field {β : Type} (g : Envelope → β) (hlogger : ∀ e : Envelope, g e.withLogger = g e)
    (hupdate : ∀ (e : Envelope) observers origin, g { e with observers, origin } = g e)
    (hlevel : ∀ (e : Envelope) (l : Logger) (level : Level),
      g { e with logger? := some l, startLevel := level, trace := level == .trace } = g e)
    (r : Request) : g (f.step r).1.service.envelope = g f.service.envelope := by
  obtain ⟨e₁, he₁, ⟨-, observers, origin, heq⟩ | ⟨name, cancelled, -, heq, -⟩⟩ :=
    f.step_envelope_cases r
  all_goals
    have hfirst : g e₁ = g f.service.envelope := by
      rcases he₁ with rfl | rfl
      · rfl
      · exact hlogger _
    rw [heq]
  · rw [hupdate, hfirst]
  · rcases e₁.applyLevel_cases name with ⟨-, h | h⟩ | ⟨level, l, -, -, -, h⟩
    · rw [h, hfirst]
    · rw [h, hlogger, hfirst]
    · rw [h, hlevel, hfirst]

/-- Every request keeps the service's component. -/
theorem step_component (r : Request) :
    (f.step r).1.service.envelope.component = f.service.envelope.component :=
  f.step_field Envelope.component (fun _ => rfl) (fun _ _ _ => rfl) (fun _ _ _ => rfl) r

/-- Every request keeps the service's redactor. -/
theorem step_redactor (r : Request) :
    (f.step r).1.service.envelope.redactor = f.service.envelope.redactor :=
  f.step_field Envelope.redactor (fun _ => rfl) (fun _ _ _ => rfl) (fun _ _ _ => rfl) r

/-- What taking a level keeps of a logger, every request keeps of the logger in use. -/
theorem step_logger_field {β : Type} (g : Logger → β)
    (hg : ∀ (l : Logger) (level : Level), g { l with level } = g l) (r : Request) :
    g (f.step r).1.service.envelope.logger = g f.service.envelope.logger := by
  obtain ⟨e₁, he₁, ⟨-, observers, origin, heq⟩ | ⟨name, cancelled, -, heq, -⟩⟩ :=
    f.step_envelope_cases r
  · rw [heq]
    rcases he₁ with rfl | rfl <;> rfl
  · -- the logger a level change installs is the logger in use, at the new level
    have hw : g e₁.logger = g f.service.envelope.logger := by
      rcases he₁ with rfl | rfl <;> rfl
    rw [heq]
    rcases e₁.applyLevel_cases name with ⟨-, h | h⟩ | ⟨level, l, -, hl, -, h⟩
    · rw [h, hw]
    · rw [h, withLogger_logger, hw]
    · rw [h, ← hw]
      show g l = g e₁.logger
      rw [Logger.setLevel_ok_eq hl, hg]

/-- Every request keeps where the logger's records go and whom they are for. -/
theorem step_logger_write (r : Request) :
    (f.step r).1.service.envelope.logger.write = f.service.envelope.logger.write :=
  f.step_logger_field Logger.write (fun _ _ => rfl) r

/-- Every request keeps the kind of the logger in use, and so the levels it refuses. -/
theorem step_logger_kind (r : Request) :
    (f.step r).1.service.envelope.logger.kind = f.service.envelope.logger.kind :=
  f.step_logger_field Logger.kind (fun _ _ => rfl) r

/-- The level in effect after a request is the level it applied, if any, and the level in
effect before otherwise. -/
theorem step_level (r : Request) :
    (f.step r).1.service.envelope.level =
      (r.applies (f.step r).2.1).getD f.service.envelope.level := by
  obtain ⟨e₁, he₁, ⟨happ, observers, origin, heq⟩ | ⟨name, cancelled, rfl, heq, hanswer⟩⟩ :=
    f.step_envelope_cases r
  · rw [happ, heq]
    rcases he₁ with rfl | rfl <;> rfl
  · have hlevel : e₁.level = f.service.envelope.level := by
      rcases he₁ with rfl | rfl <;> rfl
    rw [heq, hanswer]
    rcases e₁.applyLevel_cases name with ⟨⟨failure, herr⟩, h | h⟩ | ⟨level, l, hparse, hl, hok, h⟩
    · rw [herr, h, hlevel]
      rfl
    · rw [herr, h, withLogger_level, hlevel]
      rfl
    · -- a level change that succeeds applies the level its name denotes
      rw [hok, h]
      show l.level = (Level.parse? name).getD _
      rw [hparse, Logger.setLevel_ok_level hl]
      rfl

/-- With tracing on, a request to the service writes its operation's entry record and then its
exit record, and with tracing off nothing, whatever the request does to the level. -/
theorem step_traces_of_operation (h : f.service.envelope.WellFormed) {r : Request}
    {op : Operation} (hop : r.operation? f.service.envelope.component = some op) :
    List.Forall₂ f.service.envelope.logger.Wrote
      (if f.service.envelope.trace then [op.entry, op.entry + 1] else []) (f.step r).2.2.traces := by
  have hw := f.step_logger_write r
  cases r with
  | call n m args cancelled =>
      cases hop
      rw [show (f.step (.call n m args cancelled)).2.2.traces =
        (f.service.envelope.run Value.detail (m.operationAt n) (m.details args) cancelled
          (fun e => (e, .ok (f.service.answer m e)))).2.2.traces from rfl, run_traces]
      exact traceEntry_bracket h _ _ hw _
  | register o =>
      cases hop
      rw [show (f.step (.register o)).2.2.traces = (f.service.envelope.register o).2.traces from rfl,
        register_traces]
      exact traceEntry_bracket h _ _ hw _
  | unregister id =>
      cases hop
      rw [show (f.step (.unregister id)).2.2.traces =
        (f.service.envelope.unregister id).2.traces from rfl, unregister_traces]
      exact traceEntry_bracket h _ _ hw _
  | setLogLevel name cancelled =>
      cases hop
      rw [show (f.step (.setLogLevel name cancelled)).2.2.traces =
        (f.service.envelope.setLogLevel name cancelled).2.2.traces from rfl, setLogLevel, run_traces]
      exact traceEntry_bracket h _ _ hw _
  | setOrigin origin cancelled =>
      cases hop
      rw [show (f.step (.setOrigin origin cancelled)).2.2.traces =
        (f.service.envelope.setOrigin origin cancelled).2.2.traces from rfl, setOrigin, run_traces]
      exact traceEntry_bracket h _ _ hw _
  | getOrigin cancelled =>
      cases hop
      rw [show (f.step (.getOrigin cancelled)).2.2.traces =
        (f.service.envelope.getOrigin cancelled).2.2.traces from rfl, getOrigin, run_traces]
      exact traceEntry_bracket h _ _ hw _
  | openStream => cases hop
  | poll => cases hop
  | cancelStream => cases hop
  | dropStream => cases hop

section Streams

variable {f} {k : Nat} {st : Stream}

/-- An open stream has a number below the count of streams opened. -/
theorem lt_length_of_stream? (h : f.stream? k = some st) : k < f.streams.length := by
  by_contra hk
  have hnone : f.streams[k]? = none := List.getElem?_eq_none_iff.2 (Nat.le_of_not_lt hk)
  rw [stream?, hnone] at h
  cases h

/-- Replacing the stream of one number leaves the stream of every other number. -/
theorem stream?_set_ne {s : Option Stream} {j : Nat} (hkj : k ≠ j) :
    ({ f with streams := f.streams.set k s } : Facade).stream? j = f.stream? j := by
  show ((f.streams.set k s)[j]?).getD none = (f.streams[j]?).getD none
  rw [List.getElem?_set, if_neg hkj]

/-- Replacing the stream of an open number puts the new one there. -/
theorem stream?_set_self {s : Option Stream} (hk : k < f.streams.length) :
    ({ f with streams := f.streams.set k s } : Facade).stream? k = s := by
  show ((f.streams.set k s)[k]?).getD none = s
  rw [List.getElem?_set_self hk]
  rfl

theorem step_poll_of_none (h : f.stream? k = none) : f.step (.poll k) = (f, .item none, {}) := by
  simp only [step, pollStream, h]

/-- A poll of an open stream keeps what the stream's poll leaves and answers what it yields. -/
theorem step_poll_of_some (h : f.stream? k = some st) :
    f.step (.poll k) =
      (⟨{ f.service with envelope := (st.poll f.service.envelope).2.1 },
          f.streams.set k (some (st.poll f.service.envelope).1)⟩,
        .item (st.poll f.service.envelope).2.2.1, (st.poll f.service.envelope).2.2.2) := by
  simp only [step, pollStream, h]

theorem step_cancelStream_of_none (h : f.stream? k = none) :
    f.step (.cancelStream k) = (f, .none, {}) := by
  simp only [step, h]

theorem step_cancelStream_of_some (h : f.stream? k = some st) :
    f.step (.cancelStream k) = ({ f with streams := f.streams.set k (some st.cancel) }, .none, {}) := by
  simp only [step, h]

theorem step_dropStream_of_none (h : f.stream? k = none) :
    f.step (.dropStream k) = (f, .none, {}) := by
  simp only [step, h]

/-- Dropping an open stream empties its number and writes what the stream's drop writes. -/
theorem step_dropStream_of_some (h : f.stream? k = some st) :
    f.step (.dropStream k) =
      ({ f with streams := f.streams.set k none }, .none, { traces := st.drop f.service.envelope }) := by
  simp only [step, h]

/-- A poll leaves every stream but the one it polls. -/
theorem step_poll_stream?_ne {j : Nat} (hkj : k ≠ j) : (f.step (.poll k)).1.stream? j = f.stream? j := by
  cases hst : f.stream? k with
  | none => rw [step_poll_of_none hst]
  | some st =>
      rw [step_poll_of_some hst]
      exact stream?_set_ne hkj

/-- A poll of an open stream leaves the stream as its poll leaves it. -/
theorem step_poll_stream?_self (hst : f.stream? k = some st) :
    (f.step (.poll k)).1.stream? k = some (st.poll f.service.envelope).1 := by
  rw [step_poll_of_some hst]
  exact stream?_set_self (lt_length_of_stream? hst)

/-- A drop leaves every stream but the one it drops. -/
theorem step_dropStream_stream?_ne {j : Nat} (hkj : k ≠ j) :
    (f.step (.dropStream k)).1.stream? j = f.stream? j := by
  cases hst : f.stream? k with
  | none => rw [step_dropStream_of_none hst]
  | some st =>
      rw [step_dropStream_of_some hst]
      exact stream?_set_ne hkj

/-- A drop empties the number it drops. -/
theorem step_dropStream_stream?_self (k : Nat) : (f.step (.dropStream k)).1.stream? k = none := by
  cases hst : f.stream? k with
  | none =>
      rw [step_dropStream_of_none hst]
      exact hst
  | some st =>
      rw [step_dropStream_of_some hst]
      exact stream?_set_self (lt_length_of_stream? hst)

end Streams

end Facade

/-- The level in effect in a reachable facade is the level last applied to it. -/
theorem Reachable.level_eq {f : Facade} {level : Level} (h : Reachable f level) :
    f.service.envelope.level = level := by
  induction h with
  | direct s name c source opts => exact s.buildOwn_level name c source opts
  | factory fac c => rfl
  | child _ hmade ih =>
      rw [Facade.step_call_made hmade]
      show (Envelope.inheriting .config _).level = _
      rw [Envelope.inheriting_level, Envelope.traceEntry_level, ih]
  | step r _ ih => rw [Facade.step_level, ih]

end StubSdk
