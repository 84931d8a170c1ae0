import StubSdk.Proofs.Presets

/-!
What an operation's records and event carry: the redacted arguments, in the exit record also
the rendered answer or the failure's text and `elapsed`, and in the event the component, the
event code, the origin after the work, the failure, and the answer when the operation returns
it.
-/

namespace StubSdk

/-- The details a request records: its arguments under their keys. Polls, cancellations and
drops of a stream record none. -/
def Request.recorded : Request → Details
  | .call _ m args _ => m.details args
  | .register o => Details.empty.insert "observerID" o.id
  | .unregister id => Details.empty.insert "observerID" id
  | .setLogLevel name _ => Details.empty.insert "logLevel" name
  | .setOrigin origin _ => Details.empty.insert "origin" origin
  | .getOrigin _ => Details.empty
  | .openStream _ m args _ => m.details args
  | .poll _ | .cancelStream _ | .dropStream _ => Details.empty

/-- What a reply answers, as records write it: the rendered answer, if it has one, or the
failure. -/
def Response.written : Response → Except Failure (Option String)
  | .value r => r.map Value.detail
  | .done r => r.map fun _ => Option.none
  | .text r => r.map some
  | .item _ => .ok Option.none
  | .none => .ok Option.none

/-- The details of an operation's exit record: the arguments, plus the rendered answer under
`return` or the failure's text under `error`, plus the time elapsed. -/
def exitDetails (args : Details) (written : Except Failure (Option String)) : Details :=
  (match written with
    | .ok (some v) => args.insert "return" v
    | .ok none => args
    | .error f => args.insert "error" f.render).insert "elapsed" (Text.decimal 0)

/-- The exit record an operation owes is written with the exit details of its result. -/
theorem ExitRecord.finalDetails_record (code : Nat) (args : Details)
    (written : Except Failure (Option String)) :
    ((⟨code, args, false⟩ : ExitRecord).record written).finalDetails = exitDetails args written := by
  cases written with
  | ok answer => cases answer <;> rfl
  | error f => rfl

/-! ## Rendering and redaction -/

/-- Numbers are written in base ten. -/
theorem Text.decimal_eq_toString (n : Nat) : Text.decimal n = toString n := rfl

/-- Signed numbers are written in base ten, with a minus sign in front of a negative one. -/
theorem Text.signedDecimal_eq_toString (i : Int) : Text.signedDecimal i = toString i := by
  cases i <;> rfl

/-- Rewriting values keeps the keys and reads, under each key, the rewritten value. -/
theorem Details.get?_mapValues (f : String → String → Option String) (d : Details) (k : String) :
    (d.mapValues f).get? k = (d.get? k).map fun v => (f k v).getD v := by
  obtain ⟨es⟩ := d
  simp only [Details.mapValues, Details.get?]
  induction es with
  | nil => rfl
  | cons e rest ih =>
      obtain ⟨k', v'⟩ := e
      by_cases hk : k = k'
      · subst hk
        simp
      · simp [List.lookup_cons, beq_false_of_ne hk, ih]

/-- Redaction masks the value of every masked key and leaves every other value. -/
theorem Envelope.get?_redact (e : Envelope) (d : Details) (k : String) :
    (e.redact d).get? k =
      if k ∈ e.redactKeys then (d.get? k).map fun _ => Redactor.mask else d.get? k := by
  cases hr : e.redactor with
  | none => simp [Envelope.redact, Details.redactWith, Envelope.redactKeys, hr]
  | some r =>
      simp only [Envelope.redact, Details.redactWith, Envelope.redactKeys, hr, Redactor.apply,
        Details.get?_mapValues]
      by_cases hk : k ∈ r.keys <;> simp [Redactor.replacement, hk]

/-! ## The records of an operation -/

namespace Envelope

variable {e : Envelope}

/-- Envelopes with one redactor redact alike. -/
theorem redact_eq_of_redactor {e' : Envelope} (hr : e'.redactor = e.redactor) :
    e'.redact = e.redact := by
  funext d
  unfold redact
  rw [hr]

/-- With tracing on, the entry record of an operation carries its redacted arguments and its
owed exit record, written by an envelope that writes and redacts as this one does, carries the
redacted exit details of its result; with tracing off there is neither. -/
theorem bracket_eq (h : e.WellFormed) (op : Operation) (args : Details) {e' : Envelope}
    (hw : e'.logger.write = e.logger.write) (hr : e'.redactor = e.redactor)
    (written : Except Failure (Option String)) :
    (e.traceEntry op args).2.2 ++
        ((e.traceEntry op args).2.1.map fun x => e'.writeExit (x.record written)).toList =
      if e.trace then
        [e.logger.write op.entry (e.redact args),
          e.logger.write op.exit (e.redact (exitDetails args written))]
      else [] := by
  rw [traceEntry_snd_of_wellFormed h]
  cases e.trace
  · rfl
  · simp only [↓reduceIte, Option.map_some, Option.toList_some, List.cons_append, List.nil_append,
      writeExit_eq, ExitRecord.record_code, hw, redact_eq_of_redactor hr,
      ExitRecord.finalDetails_record]

/-- An operation with an event sends it, as the envelope its work leaves builds it, to the
observers registered then, or to none when the caller cancelled. -/
theorem run_deliveries_of_event {α : Type} (detail : α → Option String) (e : Envelope)
    (op : Operation) (args : Details) (cancelled : Bool)
    (work : Envelope → Envelope × Except Failure α) {code : Nat} (hcode : op.event = some code) :
    ∃ recipients : List Observer, (e.run detail op args cancelled work).2.2.deliveries =
      recipients.flatMap fun o => (o.take ((e.run detail op args cancelled work).1.event code
        (failureOf ((e.run detail op args cancelled work).2.1.map detail))
        (eventDetails op args ((e.run detail op args cancelled work).2.1.map detail)))).1 := by
  refine ⟨if cancelled then [] else (e.run detail op args cancelled work).1.registered, ?_⟩
  rw [run_deliveries, hcode, failureOf_map]
  cases cancelled
  · exact notify_eq _ _ _ _
  · rfl

end Envelope

namespace Facade

variable (f : Facade)

/-- A request to the service writes its operation's entry record, if any, and then the owed
exit record, completed with what the request answered and written by the service as the
request leaves it. -/
theorem step_traces_eq {q : Request} {op : Operation}
    (hop : q.operation? f.service.envelope.component = some op) :
    (f.step q).2.2.traces =
      (f.service.envelope.traceEntry op q.recorded).2.2 ++
        ((f.service.envelope.traceEntry op q.recorded).2.1.map fun x =>
          (f.step q).1.service.envelope.writeExit (x.record (f.step q).2.1.written)).toList := by
  cases q with
  | call n m args cancelled =>
      cases hop
      exact Envelope.run_traces Value.detail f.service.envelope (m.operationAt n) (m.details args)
        cancelled fun e => (e, .ok (f.service.answer m e))
  | register o =>
      cases hop
      exact Envelope.register_traces _ o
  | unregister id =>
      cases hop
      exact Envelope.unregister_traces _ id
  | setLogLevel name cancelled =>
      cases hop
      exact Envelope.run_traces (fun _ => none) f.service.envelope
        f.service.envelope.codes.setLogLevel (Details.empty.insert "logLevel" name) cancelled
        (Envelope.applyLevel name)
  | setOrigin origin cancelled =>
      cases hop
      exact Envelope.run_traces (fun _ => none) f.service.envelope
        f.service.envelope.codes.setObserverOrigin (Details.empty.insert "origin" origin) cancelled
        fun e => ({ e with origin }, .ok ())
  | getOrigin cancelled =>
      cases hop
      exact Envelope.run_traces some f.service.envelope f.service.envelope.codes.getObserverOrigin
        Details.empty cancelled fun e => (e, .ok e.origin)
  | openStream => cases hop
  | poll => cases hop
  | cancelStream => cases hop
  | dropStream => cases hop

/-- An operation's event goes to some observers, each taking the event the service builds, as
the request leaves it, from the operation's code, its failure if it failed and its event
details. -/
theorem step_deliveries_eq {q : Request} {op : Operation}
    (hop : q.operation? f.service.envelope.component = some op) {code : Nat}
    (hcode : op.event = some code) :
    ∃ recipients : List Observer, (f.step q).2.2.deliveries =
      recipients.flatMap fun o => (o.take ((f.step q).1.service.envelope.event code
        (Envelope.failureOf (f.step q).2.1.written)
        (Envelope.eventDetails op q.recorded (f.step q).2.1.written))).1 := by
  cases q with
  | call n m args cancelled =>
      cases hop
      exact Envelope.run_deliveries_of_event Value.detail f.service.envelope (m.operationAt n)
        (m.details args) cancelled (fun e => (e, .ok (f.service.answer m e))) hcode
  | register o =>
      cases hop
      cases hcode
      have hevent : (f.step (.register o)).1.service.envelope.event = f.service.envelope.event := by
        show (f.service.envelope.register o).1.event = _
        rw [Envelope.register_fst]
        exact Envelope.traceEntry_event _ _ _
      refine ⟨if o.id ∈ f.service.envelope.registeredIds then [] else f.service.envelope.registered,
        ?_⟩
      rw [hevent]
      show (f.service.envelope.register o).2.deliveries = _
      rw [Envelope.register_deliveries]
      split
      · rfl
      · exact Envelope.notify_eq _ _ _ _
  | unregister id =>
      cases hop
      cases hcode
      have hevent : (f.step (.unregister id)).1.service.envelope.event =
          f.service.envelope.event := by
        show (f.service.envelope.unregister id).1.event = _
        rw [Envelope.unregister_fst]
        split <;> exact Envelope.traceEntry_event _ _ _
      refine ⟨if id ∈ f.service.envelope.registeredIds then f.service.envelope.registered else [],
        ?_⟩
      rw [hevent]
      show (f.service.envelope.unregister id).2.deliveries = _
      rw [Envelope.unregister_deliveries]
      split
      · exact Envelope.notify_eq _ _ _ _
      · rfl
  | setLogLevel name cancelled =>
      cases hop
      exact Envelope.run_deliveries_of_event (fun _ => none) f.service.envelope
        f.service.envelope.codes.setLogLevel (Details.empty.insert "logLevel" name) cancelled
        (Envelope.applyLevel name) hcode
  | setOrigin origin cancelled =>
      cases hop
      exact Envelope.run_deliveries_of_event (fun _ => none) f.service.envelope
        f.service.envelope.codes.setObserverOrigin (Details.empty.insert "origin" origin) cancelled
        (fun e => ({ e with origin }, .ok ())) hcode
  | getOrigin cancelled =>
      cases hop
      cases hcode
  | openStream => cases hop
  | poll => cases hop
  | cancelStream => cases hop
  | dropStream => cases hop

/-- An operation with no event sends nothing. -/
theorem step_deliveries_of_no_event {q : Request} {op : Operation}
    (hop : q.operation? f.service.envelope.component = some op) (hnone : op.event = none) :
    (f.step q).2.2.deliveries = [] := by
  cases q with
  | getOrigin cancelled => rfl
  | openStream => cases hop
  | poll => cases hop
  | cancelStream => cases hop
  | dropStream => cases hop
  | _ =>
      cases hop
      cases hnone

end Facade

/-- An operation's records and event carry its redacted details and its answer or failure. -/
theorem operation_records_and_event_carry_its_details (f : Facade) (level : Level)
    (hf : Reachable f level) (q : Request) (op : Operation)
    (hop : q.operation? f.service.envelope.component = some op) :
    (f.step q).2.2.traces =
        (if f.service.envelope.trace then
          [f.service.envelope.logger.write op.entry (f.service.envelope.redact q.recorded),
            f.service.envelope.logger.write op.exit
              (f.service.envelope.redact (exitDetails q.recorded (f.step q).2.1.written))]
        else []) ∧
      (∀ code, op.event = some code → ∃ recipients : List Observer,
        (f.step q).2.2.deliveries = recipients.flatMap fun o => (o.take
          { origin := (f.step q).1.service.envelope.origin,
            component := f.service.envelope.component, code,
            error := Envelope.failureOf (f.step q).2.1.written,
            details := f.service.envelope.redact
              (Envelope.eventDetails op q.recorded (f.step q).2.1.written) }).1) ∧
      (op.event = none → (f.step q).2.2.deliveries = []) ∧
      (∀ d k, (f.service.envelope.redact d).get? k =
        if k ∈ f.service.envelope.redactKeys then (d.get? k).map (fun _ => "****")
        else d.get? k) ∧
      (∀ n : Nat, Text.decimal n = toString n) ∧
      (∀ i : Int, Text.signedDecimal i = toString i) := by
  refine ⟨?_, fun code hcode => ?_, f.step_deliveries_of_no_event hop,
    Envelope.get?_redact f.service.envelope, Text.decimal_eq_toString,
    Text.signedDecimal_eq_toString⟩
  · rw [f.step_traces_eq hop]
    exact Envelope.bracket_eq hf.wellFormed op q.recorded (f.step_logger_write q)
      (f.step_redactor q) _
  · obtain ⟨recipients, hsent⟩ := f.step_deliveries_eq hop hcode
    refine ⟨recipients, ?_⟩
    rw [hsent, Envelope.event, f.step_component q,
      Envelope.redact_eq_of_redactor (f.step_redactor q)]

/-- A config of a TRACE factory with an origin, with an observer registered. -/
def observedTraceConfig : Facade :=
  ((Facade.ofService (Factory.build ⟨Bag.empty, { origin := "billing", level := .trace }⟩ .config)).step
    (.register ⟨"O", .script .accept⟩)).1

/-- Setting the origin of a traced config with an observer: an entry and an exit record with the
origin in their details, and one event to the observer. -/
theorem origin_change_records_of_observed_trace_config :
    Reachable observedTraceConfig .trace ∧
      (Request.setOrigin "o" false).operation? observedTraceConfig.service.envelope.component =
        some Component.config.observable.setObserverOrigin ∧
      observedTraceConfig.service.envelope.trace = true ∧
      (observedTraceConfig.step (.setOrigin "o" false)).2.2.traces =
        (if observedTraceConfig.service.envelope.trace then
          [observedTraceConfig.service.envelope.logger.write
              Component.config.observable.setObserverOrigin.entry
              (observedTraceConfig.service.envelope.redact (Request.setOrigin "o" false).recorded),
            observedTraceConfig.service.envelope.logger.write
              Component.config.observable.setObserverOrigin.exit
              (observedTraceConfig.service.envelope.redact (exitDetails
                (Request.setOrigin "o" false).recorded
                (observedTraceConfig.step (.setOrigin "o" false)).2.1.written))]
        else []) ∧
      Component.config.observable.setObserverOrigin.event = some 8013 ∧
      (∃ recipients : List Observer,
        (observedTraceConfig.step (.setOrigin "o" false)).2.2.deliveries =
          recipients.flatMap fun o => (o.take
            { origin := (observedTraceConfig.step (.setOrigin "o" false)).1.service.envelope.origin,
              component := observedTraceConfig.service.envelope.component, code := 8013,
              error := Envelope.failureOf (observedTraceConfig.step (.setOrigin "o" false)).2.1.written,
              details := observedTraceConfig.service.envelope.redact
                (Envelope.eventDetails Component.config.observable.setObserverOrigin
                  (Request.setOrigin "o" false).recorded
                  (observedTraceConfig.step (.setOrigin "o" false)).2.1.written) }).1) ∧
      (observedTraceConfig.step (.setOrigin "o" false)).2.2.deliveries.length = 1 := by
  have hf : Reachable observedTraceConfig .trace := .step _ (.factory _ .config)
  have hrecords := operation_records_and_event_carry_its_details _ _ hf
    (.setOrigin "o" false) _ rfl
  exact ⟨hf, rfl, rfl, hrecords.1, rfl, hrecords.2.1 8013 rfl, rfl⟩

end StubSdk
