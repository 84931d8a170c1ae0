import StubSdk.Proofs.Redaction

/-!
Which requests fail, and what a failure leaves behind. Setting the log level is the only
request that fails, on a name that denotes no level or on a level the logger refuses; a failure
moves nothing a later request can see, and a success installs the level.
-/

namespace StubSdk

namespace Level

theorem mem_all (l : Level) : l ∈ all := by
  cases l <;> simp [all]

/-- A name denotes no level exactly when it equals no level's name, ASCII letters taken in
either case. -/
theorem parse?_eq_none_iff (s : String) :
    parse? s = none ↔ ∀ l : Level, sameIgnoringAsciiCase l.name s = false := by
  unfold parse?
  rw [List.find?_eq_none]
  constructor
  · intro h l
    simpa using h l (mem_all l)
  · intro h l _
    simp [h l]

end Level

/-- A kind of logger that refuses levels only with SDK failures, never with an invalid
argument: the default logger refuses nothing. -/
def LoggerKind.RefusesBySdk : LoggerKind → Prop
  | .console => True
  | .supplied _ refusals => ∀ p ∈ refusals, p.2.isInvalidArgument = false

theorem Logger.isInvalidArgument_of_setLevel {l : Logger} {level : Level} {f : Failure}
    (hk : l.kind.RefusesBySdk) (h : l.setLevel level = .error f) : f.isInvalidArgument = false := by
  unfold Logger.setLevel at h
  split at h
  · cases h
  · rename_i tag refusals hkind
    rw [hkind] at hk
    split at h
    · rename_i g hg
      cases h
      obtain ⟨l₁, l₂, hsplit, -⟩ := List.lookup_eq_some_iff.1 hg
      exact hk (level, f) (by simp [hsplit])
    · cases h

/-- The loggers a script injects refuse levels only with SDK failures. -/
theorem Session.loggersFor_refusesBySdk (c : Component) (name : String)
    (choices : List LoggerChoice) : ∀ l ∈ Session.loggersFor c name choices, l.kind.RefusesBySdk := by
  intro l hl
  simp only [Session.loggersFor, List.mem_map] at hl
  obtain ⟨⟨k, choice⟩, -, rfl⟩ := hl
  cases choice with
  | keeper => exact fun p hp => absurd hp List.not_mem_nil
  | refuser =>
      intro p hp
      obtain ⟨level, -, rfl⟩ := List.mem_map.1 hp
      rfl

/-- Injecting a logger leaves the kind of the logger in use, or puts the injected one's. -/
theorem Envelope.inject_logger_kind (e : Envelope) (l : Logger) :
    (e.inject l).1.logger.kind = e.logger.kind ∨ (e.inject l).1.logger.kind = l.kind := by
  unfold Envelope.inject
  split
  · exact .inl rfl
  · split
    · rename_i l' hl'
      exact .inr (by rw [show (({ e with logger? := some l' } : Envelope)).logger = l' from rfl,
        Logger.setLevel_ok_eq hl'])
    · exact .inr rfl

theorem Session.buildOwn_refusesBySdk (s : Session) (name : String) (c : Component)
    (source : Source) (opts : Options) :
    (s.buildOwn name c source opts).1.envelope.logger.kind.RefusesBySdk := by
  have hl := Session.loggersFor_refusesBySdk c name opts.loggers
  have hbuilt : ∀ values : Bag, ({ Service.ofBag c values with fragments := opts.fragments }.injectAll
      (Session.loggersFor c name opts.loggers)).1.envelope.logger.kind.RefusesBySdk := by
    intro values
    apply Service.injectAll_induction (fun e => e.logger.kind.RefusesBySdk)
      { Service.ofBag c values with fragments := opts.fragments } _ trivial
    intro e l hmem _ he
    rcases e.inject_logger_kind l with h | h <;> rw [h]
    · exact he
    · exact hl l hmem
  exact Session.buildOwn_induction (·.logger.kind.RefusesBySdk) s name c source opts
    (fun _ _ h => h) hbuilt

/-- The logger in use in a reachable facade refuses levels only with SDK failures. -/
theorem Reachable.refusesBySdk {f : Facade} {level : Level} (h : Reachable f level) :
    f.service.envelope.logger.kind.RefusesBySdk := by
  induction h with
  | direct s name c source opts => exact s.buildOwn_refusesBySdk name c source opts
  | factory fac c => trivial
  | child _ hmade _ =>
      rw [Facade.step_call_made hmade]
      trivial
  | step r _ ih => rwa [Facade.step_logger_kind]

namespace Envelope

section ApplyLevel

variable (e : Envelope) (name : String)

theorem applyLevel_of_unknown (h : Level.parse? name = none) :
    applyLevel name e = (e, .error (Failure.unknownLevel e.component name)) := by
  simp [applyLevel, h]

theorem applyLevel_of_refused {level : Level} {f : Failure} (hparse : Level.parse? name = some level)
    (hrefused : e.logger.setLevel level = .error f) :
    applyLevel name e = (e.withLogger, .error f) := by
  simp [applyLevel, hparse, hrefused]

theorem applyLevel_of_taken {level : Level} {l : Logger} (hparse : Level.parse? name = some level)
    (htaken : e.logger.setLevel level = .ok l) :
    applyLevel name e =
      ({ e with logger? := some l, startLevel := level, trace := level == .trace }, .ok ()) := by
  simp [applyLevel, hparse, htaken]

/-- A level change by name fails exactly when the name denotes no level, with an invalid
argument quoting it, or when the logger in use refuses the level, with the logger's failure. -/
theorem applyLevel_error_iff (f : Failure) :
    (applyLevel name e).2 = .error f ↔
      (Level.parse? name = none ∧ f = Failure.unknownLevel e.component name) ∨
        ∃ level, Level.parse? name = some level ∧ e.logger.setLevel level = .error f := by
  cases hparse : Level.parse? name with
  | none =>
      rw [applyLevel_of_unknown e name hparse]
      simp [eq_comm]
  | some level =>
      cases hset : e.logger.setLevel level with
      | error g =>
          rw [applyLevel_of_refused e name hparse hset]
          simp [hset]
      | ok l =>
          rw [applyLevel_of_taken e name hparse hset]
          simp [hset]

/-- A failing level change has at most built the logger. -/
theorem applyLevel_fst_of_error {f : Failure} (h : (applyLevel name e).2 = .error f) :
    (applyLevel name e).1 = e ∨ (applyLevel name e).1 = e.withLogger := by
  rcases e.applyLevel_cases name with ⟨-, hstate⟩ | ⟨level, l, -, -, hok, -⟩
  · exact hstate
  · rw [hok] at h
    cases h

/-- Building the logger first changes nothing in what a level change answers. -/
theorem applyLevel_withLogger_snd : (applyLevel name e.withLogger).2 = (applyLevel name e).2 := by
  cases hparse : Level.parse? name with
  | none => rw [applyLevel_of_unknown _ name hparse, applyLevel_of_unknown _ name hparse]; rfl
  | some level =>
      cases hset : e.logger.setLevel level with
      | error g =>
          rw [applyLevel_of_refused e.withLogger name hparse hset,
            applyLevel_of_refused e name hparse hset]
      | ok l =>
          rw [applyLevel_of_taken e.withLogger name hparse hset,
            applyLevel_of_taken e name hparse hset]

theorem applyLevel_traceEntry_snd (op : Operation) (args : Details) :
    (applyLevel name (e.traceEntry op args).1).2 = (applyLevel name e).2 := by
  rcases e.traceEntry_fst_cases op args with h | h <;> rw [h]
  exact e.applyLevel_withLogger_snd name

end ApplyLevel

@[simp] theorem withLogger_withLogger (e : Envelope) : e.withLogger.withLogger = e.withLogger := rfl

@[simp] theorem withLogger_writeExit (e : Envelope) : e.withLogger.writeExit = e.writeExit := rfl

@[simp] theorem withLogger_notify (e : Envelope) : e.withLogger.notify = e.notify := rfl

@[simp] theorem codes_setLogLevel_event (e : Envelope) :
    e.codes.setLogLevel.event = some (8000 + (e.component.methods.length + 3)) := rfl

end Envelope

namespace Facade

open Envelope

variable (f : Facade) (name : String) (cancelled : Bool)

/-- A level change answers what setting the level by name on the envelope answers. -/
theorem step_setLogLevel_answer :
    (f.step (.setLogLevel name cancelled)).2.1 = .done (applyLevel name f.service.envelope).2 := by
  rw [show (f.step (.setLogLevel name cancelled)).2.1 =
      .done (f.service.envelope.setLogLevel name cancelled).2.1 from rfl, setLogLevel, run_result,
    applyLevel_traceEntry_snd]

/-- The envelope after a level change is what setting the level leaves, after the entry
record. -/
theorem step_setLogLevel_envelope :
    (f.step (.setLogLevel name cancelled)).1.service.envelope =
      (applyLevel name (f.service.envelope.traceEntry f.service.envelope.codes.setLogLevel
        (Details.empty.insert "logLevel" name)).1).1 := rfl

/-- A failing level change leaves the envelope as it was but for a logger built at the level
in effect. -/
theorem step_setLogLevel_envelope_of_error {fl : Failure}
    (h : (f.step (.setLogLevel name cancelled)).2.1 = .done (.error fl)) :
    (f.step (.setLogLevel name cancelled)).1.service.envelope = f.service.envelope ∨
      (f.step (.setLogLevel name cancelled)).1.service.envelope = f.service.envelope.withLogger := by
  set e := f.service.envelope
  set args := Details.empty.insert "logLevel" name
  have herr : (applyLevel name (e.traceEntry e.codes.setLogLevel args).1).2 = .error fl := by
    rw [applyLevel_traceEntry_snd]
    rw [step_setLogLevel_answer] at h
    exact Response.done.inj h
  rw [step_setLogLevel_envelope]
  rcases applyLevel_fst_of_error _ name herr with h₁ | h₁ <;> rw [h₁] <;>
    rcases e.traceEntry_fst_cases e.codes.setLogLevel args with h₀ | h₀ <;> rw [h₀] <;>
    simp [e]

/-- A failing level change writes, with tracing on, its entry record and its exit record
carrying the failure, and sends its event carrying the failure unless the caller cancelled. -/
theorem step_setLogLevel_effects_of_error (hf : f.service.envelope.WellFormed) {fl : Failure}
    (h : (f.step (.setLogLevel name cancelled)).2.1 = .done (.error fl)) :
    (f.step (.setLogLevel name cancelled)).2.2 =
      { traces :=
          if f.service.envelope.trace then
            [f.service.envelope.logger.write f.service.envelope.codes.setLogLevel.entry
                (f.service.envelope.redact (Details.empty.insert "logLevel" name)),
              f.service.envelope.logger.write (f.service.envelope.codes.setLogLevel.entry + 1)
                (f.service.envelope.redact
                  (((Details.empty.insert "logLevel" name).insert "error" fl.render).insert
                    "elapsed" (Text.decimal 0)))]
          else []
        deliveries :=
          if cancelled then []
          else
            f.service.envelope.notify (8000 + (f.service.envelope.component.methods.length + 3))
              (some fl) (Details.empty.insert "logLevel" name) } := by
  set e := f.service.envelope
  set args := Details.empty.insert "logLevel" name
  have hrun : (f.step (.setLogLevel name cancelled)).2.2 =
      (e.run (fun _ => none) e.codes.setLogLevel args cancelled (applyLevel name)).2.2 := rfl
  have hresult : (applyLevel name (e.traceEntry e.codes.setLogLevel args).1).2 = .error fl := by
    rw [applyLevel_traceEntry_snd]
    rw [step_setLogLevel_answer] at h
    exact Response.done.inj h
  have hpost : (applyLevel name (e.traceEntry e.codes.setLogLevel args).1).1 = e ∨
      (applyLevel name (e.traceEntry e.codes.setLogLevel args).1).1 = e.withLogger :=
    f.step_setLogLevel_envelope_of_error name cancelled h
  apply Effects.ext
  · rw [hrun, run_traces, traceEntry_snd_of_wellFormed hf, hresult]
    rcases hpost with h₁ | h₁ <;> rw [h₁] <;> cases e.trace <;> rfl
  · rw [hrun, run_deliveries, codes_setLogLevel_event, run_result, run_fst, hresult,
      eventDetails_of_not_returns rfl]
    rcases hpost with h₁ | h₁ <;> rw [h₁] <;> rfl

/-- A level change that succeeds installs the logger at the level named, makes it the starting
level, and turns tracing on exactly at TRACE. -/
theorem step_setLogLevel_of_ok {level : Level} (hparse : Level.parse? name = some level)
    (h : (f.step (.setLogLevel name cancelled)).2.1 = .done (.ok ())) :
    (f.step (.setLogLevel name cancelled)).1.service.envelope.logger.level = level ∧
      (f.step (.setLogLevel name cancelled)).1.service.envelope.startLevel = level ∧
      (f.step (.setLogLevel name cancelled)).1.service.envelope.trace = (level == .trace) := by
  set e := f.service.envelope
  set e₁ := (e.traceEntry e.codes.setLogLevel (Details.empty.insert "logLevel" name)).1
  rw [step_setLogLevel_envelope]
  rcases e₁.applyLevel_cases name with ⟨⟨fl, herr⟩, -⟩ | ⟨level', l, hparse', hset, -, hpost⟩
  · rw [step_setLogLevel_answer, ← applyLevel_traceEntry_snd e name e.codes.setLogLevel
      (Details.empty.insert "logLevel" name), herr] at h
    cases h
  · -- the name denotes one level, which the logger took
    rw [hparse, Option.some.injEq] at hparse'
    subst hparse'
    rw [hpost]
    exact ⟨Logger.setLevel_ok_level hset, rfl, rfl⟩

/-- Every request but a level change answers without failure. -/
theorem step_failure?_eq_none {r : Request} (hr : ∀ name cancelled, r ≠ .setLogLevel name cancelled) :
    (f.step r).2.1.failure? = none := by
  cases r with
  | setLogLevel name cancelled => exact absurd rfl (hr name cancelled)
  | poll k =>
      cases hst : f.stream? k with
      | none => rw [step_poll_of_none hst]; rfl
      | some st => rw [step_poll_of_some hst]; rfl
  | cancelStream k => rw [step_cancelStream_snd]; rfl
  | dropStream k =>
      cases hst : f.stream? k with
      | none => rw [step_dropStream_of_none hst]; rfl
      | some st => rw [step_dropStream_of_some hst]; rfl
  | call | register | unregister | setOrigin | getOrigin | openStream => rfl

end Facade

/-- Setting the log level is the only request that fails, and a failure changes nothing. -/
theorem only_level_changes_fail_and_failures_keep_the_state (f : Facade) (level : Level)
    (hf : Reachable f level) (name : String) (cancelled : Bool) :
    ((f.step (.setLogLevel name cancelled)).2.1 =
        .done (.error (.invalidArgument f.service.envelope.component
          ("unknown log level " ++ Text.quote name))) ↔
      ∀ l : Level, Level.sameIgnoringAsciiCase l.name name = false) ∧
    (∀ l : Level, Level.parse? name = some l → ∀ fl : Failure,
      ((f.step (.setLogLevel name cancelled)).2.1 = .done (.error fl) ↔
        f.service.envelope.logger.setLevel l = .error fl)) ∧
    (∀ fl : Failure, (f.step (.setLogLevel name cancelled)).2.1 = .done (.error fl) →
      (f.step (.setLogLevel name cancelled)).1.service.envelope.trace = f.service.envelope.trace ∧
      (f.step (.setLogLevel name cancelled)).1.service.envelope.startLevel =
        f.service.envelope.startLevel ∧
      (f.step (.setLogLevel name cancelled)).1.service.envelope.logger.level =
        f.service.envelope.logger.level ∧
      (f.step (.setLogLevel name cancelled)).1.service.envelope.origin = f.service.envelope.origin ∧
      (f.step (.setLogLevel name cancelled)).1.service.envelope.observers =
        f.service.envelope.observers ∧
      (f.step (.setLogLevel name cancelled)).1.service.envelope.redactor =
        f.service.envelope.redactor ∧
      (f.step (.setLogLevel name cancelled)).1.streams = f.streams ∧
      (f.step (.setLogLevel name cancelled)).2.2 =
        { traces :=
            if f.service.envelope.trace then
              [f.service.envelope.logger.write f.service.envelope.codes.setLogLevel.entry
                  (f.service.envelope.redact (Details.empty.insert "logLevel" name)),
                f.service.envelope.logger.write (f.service.envelope.codes.setLogLevel.entry + 1)
                  (f.service.envelope.redact
                    (((Details.empty.insert "logLevel" name).insert "error" fl.render).insert
                      "elapsed" (Text.decimal 0)))]
            else []
          deliveries :=
            if cancelled then []
            else
              f.service.envelope.notify (8000 + (f.service.envelope.component.methods.length + 3))
                (some fl) (Details.empty.insert "logLevel" name) }) ∧
    (∀ l : Level, Level.parse? name = some l →
      (f.step (.setLogLevel name cancelled)).2.1 = .done (.ok ()) →
      (f.step (.setLogLevel name cancelled)).1.service.envelope.logger.level = l ∧
      (f.step (.setLogLevel name cancelled)).1.service.envelope.startLevel = l ∧
      ((f.step (.setLogLevel name cancelled)).1.service.envelope.trace = true ↔ l = .trace)) ∧
    (∀ (g : Facade) (r : Request), (∀ name' c, r ≠ .setLogLevel name' c) →
      (g.step r).2.1.failure? = none) := by
  set e := f.service.envelope
  have hanswer := f.step_setLogLevel_answer name cancelled
  refine ⟨?unknown, ?refused, ?kept, ?applied, fun g r hr => g.step_failure?_eq_none hr⟩
  case unknown =>
    rw [hanswer, ← Level.parse?_eq_none_iff]
    constructor
    · intro h
      rcases (e.applyLevel_error_iff name _).1 (Response.done.inj h) with ⟨hnone, -⟩ |
        ⟨l, -, hset⟩
      · exact hnone
      · cases Logger.isInvalidArgument_of_setLevel hf.refusesBySdk hset
    · intro hnone
      rw [Envelope.applyLevel_of_unknown e name hnone]
      rfl
  case refused =>
    intro l hparse fl
    rw [hanswer, Response.done.injEq, Envelope.applyLevel_error_iff, hparse]
    simp [e]
  case kept =>
    intro fl h
    refine ⟨?_, ?_, ?_, ?_, ?_, ?_, rfl, f.step_setLogLevel_effects_of_error name cancelled
      hf.wellFormed h⟩ <;>
      rcases f.step_setLogLevel_envelope_of_error name cancelled h with h₁ | h₁ <;> rw [h₁] <;> rfl
  case applied =>
    intro l hparse h
    obtain ⟨hlevel, hstart, htrace⟩ := f.step_setLogLevel_of_ok name cancelled hparse h
    exact ⟨hlevel, hstart, by rw [htrace, beq_iff_eq]⟩

/-- A product built by the default factory, asked for a level named `BOGUS`. -/
theorem bogus_level_keeps_factory_product :
    Reachable (.ofService (Factory.initial.build .product)) .info ∧
    (((Facade.ofService (Factory.initial.build .product)).step (.setLogLevel "BOGUS" false)).2.1 =
        .done (.error (.invalidArgument
          (Facade.ofService (Factory.initial.build .product)).service.envelope.component
          ("unknown log level " ++ Text.quote "BOGUS"))) ↔
      ∀ l : Level, Level.sameIgnoringAsciiCase l.name "BOGUS" = false) ∧
    (∀ l : Level, Level.parse? "BOGUS" = some l → ∀ fl : Failure,
      (((Facade.ofService (Factory.initial.build .product)).step
          (.setLogLevel "BOGUS" false)).2.1 = .done (.error fl) ↔
        (Facade.ofService (Factory.initial.build .product)).service.envelope.logger.setLevel l =
          .error fl)) ∧
    (∀ fl : Failure, ((Facade.ofService (Factory.initial.build .product)).step
        (.setLogLevel "BOGUS" false)).2.1 = .done (.error fl) →
      ((Facade.ofService (Factory.initial.build .product)).step
          (.setLogLevel "BOGUS" false)).1.service.envelope.trace =
        (Facade.ofService (Factory.initial.build .product)).service.envelope.trace ∧
      ((Facade.ofService (Factory.initial.build .product)).step
          (.setLogLevel "BOGUS" false)).1.service.envelope.startLevel =
        (Facade.ofService (Factory.initial.build .product)).service.envelope.startLevel ∧
      ((Facade.ofService (Factory.initial.build .product)).step
          (.setLogLevel "BOGUS" false)).1.service.envelope.logger.level =
        (Facade.ofService (Factory.initial.build .product)).service.envelope.logger.level ∧
      ((Facade.ofService (Factory.initial.build .product)).step
          (.setLogLevel "BOGUS" false)).1.service.envelope.origin =
        (Facade.ofService (Factory.initial.build .product)).service.envelope.origin ∧
      ((Facade.ofService (Factory.initial.build .product)).step
          (.setLogLevel "BOGUS" false)).1.service.envelope.observers =
        (Facade.ofService (Factory.initial.build .product)).service.envelope.observers ∧
      ((Facade.ofService (Factory.initial.build .product)).step
          (.setLogLevel "BOGUS" false)).1.service.envelope.redactor =
        (Facade.ofService (Factory.initial.build .product)).service.envelope.redactor ∧
      ((Facade.ofService (Factory.initial.build .product)).step
          (.setLogLevel "BOGUS" false)).1.streams =
        (Facade.ofService (Factory.initial.build .product)).streams ∧
      ((Facade.ofService (Factory.initial.build .product)).step (.setLogLevel "BOGUS" false)).2.2 =
        { traces :=
            if (Facade.ofService (Factory.initial.build .product)).service.envelope.trace then
              [(Facade.ofService (Factory.initial.build .product)).service.envelope.logger.write
                  (Facade.ofService (Factory.initial.build .product)).service.envelope.codes.setLogLevel.entry
                  ((Facade.ofService (Factory.initial.build .product)).service.envelope.redact
                    (Details.empty.insert "logLevel" "BOGUS")),
                (Facade.ofService (Factory.initial.build .product)).service.envelope.logger.write
                  ((Facade.ofService (Factory.initial.build .product)).service.envelope.codes.setLogLevel.entry + 1)
                  ((Facade.ofService (Factory.initial.build .product)).service.envelope.redact
                    (((Details.empty.insert "logLevel" "BOGUS").insert "error" fl.render).insert
                      "elapsed" (Text.decimal 0)))]
            else []
          deliveries :=
            (Facade.ofService (Factory.initial.build .product)).service.envelope.notify
              (8000 + ((Facade.ofService (Factory.initial.build .product)).service.envelope.component.methods.length + 3))
              (some fl) (Details.empty.insert "logLevel" "BOGUS") }) ∧
    (∀ l : Level, Level.parse? "BOGUS" = some l →
      ((Facade.ofService (Factory.initial.build .product)).step
          (.setLogLevel "BOGUS" false)).2.1 = .done (.ok ()) →
      ((Facade.ofService (Factory.initial.build .product)).step
          (.setLogLevel "BOGUS" false)).1.service.envelope.logger.level = l ∧
      ((Facade.ofService (Factory.initial.build .product)).step
          (.setLogLevel "BOGUS" false)).1.service.envelope.startLevel = l ∧
      (((Facade.ofService (Factory.initial.build .product)).step
          (.setLogLevel "BOGUS" false)).1.service.envelope.trace = true ↔ l = .trace)) ∧
    (∀ (g : Facade) (r : Request), (∀ name' c, r ≠ .setLogLevel name' c) →
      (g.step r).2.1.failure? = none) :=
  ⟨.factory _ _, only_level_changes_fail_and_failures_keep_the_state _ _ (.factory _ _) "BOGUS" false⟩

end StubSdk
