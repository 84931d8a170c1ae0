import StubSdk.Proofs.Facade
import StubSdk.Proofs.Recipients

/-!
The envelope stays well formed: its tracing flag is on exactly at TRACE, the level in effect,
and its registry is absent or a non-empty list of observers with distinct ids. Every way of
building an envelope gives one, and every step keeps it, injecting a logger of the caller's
included as long as that logger takes the starting level or already reports it.
-/

namespace StubSdk

namespace Envelope

/-- The consistency of an envelope's instrumentation state. -/
structure WellFormed (e : Envelope) : Prop where
  /-- Tracing is on exactly when the level in effect is TRACE. -/
  trace_iff : e.trace = true ↔ e.level = .trace
  /-- A registry that is present holds an observer. -/
  nonempty : ∀ r, e.observers = some r → r.observers ≠ []
  /-- No two registered observers share an id. -/
  nodup : e.registeredIds.Nodup

namespace WellFormed

variable {e : Envelope}

/-- An envelope has observers exactly when it has a registry. -/
theorem hasObservers_iff (h : e.WellFormed) : e.hasObservers = true ↔ e.observers.isSome := by
  unfold hasObservers
  cases hobs : e.observers with
  | none => simp
  | some r => simpa [Registry.hasObservers, Registry.isEmpty] using h.nonempty r hobs

/-- The debug view of a present registry lists at least one id. -/
theorem ids_ne_nil (h : e.WellFormed) {r : Registry} (hr : e.observers = some r) :
    r.ids ≠ [] := by
  simpa [Registry.ids] using h.nonempty r hr

/-- A change that keeps the flag, the level and the registry keeps an envelope well formed. -/
theorem of_same {e' : Envelope} (h : e.WellFormed) (htrace : e'.trace = e.trace)
    (hlevel : e'.level = e.level) (hobs : e'.observers = e.observers) : e'.WellFormed where
  trace_iff := by rw [htrace, hlevel]; exact h.trace_iff
  nonempty := by rw [hobs]; exact h.nonempty
  nodup := by
    unfold registeredIds
    rw [registered_eq_of_observers hobs]
    exact h.nodup

theorem withLogger (h : e.WellFormed) : e.withLogger.WellFormed :=
  h.of_same rfl rfl rfl

theorem traceEntry (h : e.WellFormed) (op : Operation) (args : Details) :
    (e.traceEntry op args).1.WellFormed :=
  h.of_same (traceEntry_trace e op args) (traceEntry_level e op args)
    (traceEntry_observers e op args)

/-- A change of the registry alone keeps the level side; the registry side is then what the
new registry gives. -/
theorem with_observers (h : e.WellFormed) {obs : Option Registry}
    (hne : ∀ r, obs = some r → r.observers ≠ [])
    (hnodup : ((obs.map (·.observers)).getD []).map (·.id) |>.Nodup) :
    { e with observers := obs }.WellFormed where
  trace_iff := h.trace_iff
  nonempty := hne
  nodup := by
    unfold registeredIds registered
    cases obs <;> simp_all

theorem register (h : e.WellFormed) (o : Observer) : (e.register o).1.WellFormed := by
  rw [register_fst]
  have h₁ := h.traceEntry e.codes.registerObserver (Details.empty.insert "observerID" o.id)
  by_cases hin : o.id ∈ e.registeredIds
  · have hreg : o.id ∈ (⟨e.registered⟩ : Registry).ids := by
      simpa [registeredIds] using hin
    rw [Registry.register_of_mem hreg]
    apply h₁.with_observers
    · rintro r ⟨⟩
      obtain ⟨p, hp, -⟩ := List.mem_map.1 hin
      exact List.ne_nil_of_mem hp
    · simpa [registeredIds] using h.nodup
  · have hreg : o.id ∉ (⟨e.registered⟩ : Registry).ids := by
      simpa [registeredIds] using hin
    rw [Registry.register_of_not_mem hreg]
    apply h₁.with_observers
    · rintro r ⟨⟩
      simp
    · exact Registry.nodup_ids_append h.nodup hin

theorem unregister (h : e.WellFormed) (id : String) : (e.unregister id).1.WellFormed := by
  rw [unregister_fst]
  have h₁ := h.traceEntry e.codes.unregisterObserver (Details.empty.insert "observerID" id)
  split
  · apply h₁.with_observers
    · intro r hr
      split at hr
      · cases hr
      · cases hr
        assumption
    · have := Registry.nodup_ids_eraseP h.nodup id
      split <;> simp_all
  · exact h₁

theorem applyLevel (h : e.WellFormed) (name : String) : (Envelope.applyLevel name e).1.WellFormed := by
  unfold Envelope.applyLevel
  split
  · exact h
  · rename_i level _
    simp only
    split
    · exact h.withLogger
    · rename_i l hl
      have hlevel : l.level = level := Logger.setLevel_ok_level hl
      refine ⟨?_, h.nonempty, h.nodup⟩
      simp [Envelope.level, Envelope.logger, hlevel]

/-- An operation keeps the envelope well formed when its work does. -/
theorem run {α : Type} (h : e.WellFormed) (detail : α → Option String) (op : Operation)
    (args : Details) (cancelled : Bool) (work : Envelope → Envelope × Except Failure α)
    (hwork : ∀ e', e'.WellFormed → (work e').1.WellFormed) :
    (e.run detail op args cancelled work).1.WellFormed := by
  rw [run_fst]
  exact hwork _ (h.traceEntry op args)

theorem setLogLevel (h : e.WellFormed) (name : String) (cancelled : Bool) :
    (e.setLogLevel name cancelled).1.WellFormed :=
  h.run _ _ _ _ _ fun _ h' => h'.applyLevel name

theorem setOrigin (h : e.WellFormed) (origin : String) (cancelled : Bool) :
    (e.setOrigin origin cancelled).1.WellFormed :=
  h.run _ _ _ _ _ fun _ h' => h'.of_same rfl rfl rfl

theorem getOrigin (h : e.WellFormed) (cancelled : Bool) : (e.getOrigin cancelled).1.WellFormed :=
  h.run _ _ _ _ _ fun _ h' => h'

/-- Injecting a logger keeps the envelope well formed when, with no logger in use, it takes
the starting level or already reports it. -/
theorem inject (h : e.WellFormed) {l : Logger}
    (hl : e.logger? = none → (∃ l', l.setLevel e.startLevel = .ok l') ∨ l.level = e.startLevel) :
    (e.inject l).1.WellFormed := by
  unfold Envelope.inject
  cases hlog : e.logger? with
  | some _ => exact h
  | none =>
      have hstart : e.level = e.startLevel := by simp [Envelope.level, Envelope.logger, hlog, Logger.console]
      simp only
      split
      · rename_i l' hl'
        have hlevel : l'.level = e.level := by rw [Logger.setLevel_ok_level hl', hstart]
        exact h.of_same rfl hlevel rfl
      · rename_i f hf
        have hrefuses : l.level = e.startLevel := by
          rcases hl hlog with ⟨l', hok⟩ | hkeeps
          · rw [hok] at hf
            cases hf
          · exact hkeeps
        have hlevel : l.level = e.level := by rw [hrefuses, hstart]
        exact h.of_same rfl hlevel rfl

end WellFormed

/-- A fresh envelope is well formed. -/
theorem fresh_wellFormed (c : Component) : (fresh c).WellFormed where
  trace_iff := by simp [fresh, Envelope.level, Envelope.logger, Logger.console]
  nonempty := by simp [fresh]
  nodup := by simp [fresh, registeredIds, registered]

/-- Setting the starting level before any logger exists keeps the envelope well formed. -/
theorem WellFormed.startAt {e : Envelope} (h : e.WellFormed) (hlog : e.logger? = none)
    (level : Level) : (e.startAt level).WellFormed where
  trace_iff := by
    simp [Envelope.startAt, Envelope.level, Envelope.logger, hlog, Logger.console]
  nonempty := h.nonempty
  nodup := h.nodup

/-- A service built by a factory starts well formed. -/
theorem configured_wellFormed (c : Component) (s : Settings) : (configured c s).WellFormed :=
  ((fresh_wellFormed c).startAt rfl s.level).of_same rfl rfl rfl

/-- A service built by another starts at the other's level in effect. -/
theorem inheriting_level (c : Component) (parent : Envelope) :
    (inheriting c parent).level = parent.level := by
  unfold inheriting
  cases hlog : parent.logger? <;>
    simp [Envelope.startAt, fresh, Envelope.level, Envelope.logger, hlog, Logger.console]

/-- A service built by another starts well formed when the other is. -/
theorem inheriting_wellFormed (c : Component) {parent : Envelope} (h : parent.WellFormed) :
    (inheriting c parent).WellFormed where
  trace_iff := by
    rw [inheriting_level]
    exact h.trace_iff
  nonempty := by simp [inheriting, Envelope.startAt, fresh]
  nodup := by simp [inheriting, Envelope.startAt, fresh, registeredIds, registered]

theorem inject_startLevel (e : Envelope) (l : Logger) : (e.inject l).1.startLevel = e.startLevel := by
  unfold inject
  split
  · rfl
  · split <;> rfl

end Envelope

namespace Service

open Envelope

/-- A property of envelopes that every injection of one of the loggers keeps, at the starting
level the service began with, holds after injecting them one after the other. -/
theorem injectAll_induction (P : Envelope → Prop) (s : Service) (loggers : List Logger)
    (h : P s.envelope)
    (hstep : ∀ e, ∀ l ∈ loggers, e.startLevel = s.envelope.startLevel → P e → P (e.inject l).1) :
    P (s.injectAll loggers).1.envelope := by
  unfold injectAll
  suffices key : ∀ (acc : Service × List Trace), P acc.1.envelope →
      acc.1.envelope.startLevel = s.envelope.startLevel →
      P (loggers.foldl (fun (acc : Service × List Trace) l =>
        ({ acc.1 with envelope := (acc.1.envelope.inject l).1 },
          acc.2 ++ (acc.1.envelope.inject l).2)) acc).1.envelope from
    key (s, []) h rfl
  induction loggers with
  | nil => exact fun acc hacc _ => hacc
  | cons l rest ih =>
      intro acc hacc hstart
      simp only [List.foldl_cons]
      apply ih (fun e l' hl' => hstep e l' (List.mem_cons_of_mem l hl'))
      · exact hstep _ l List.mem_cons_self hstart hacc
      · rw [Envelope.inject_startLevel]
        exact hstart

/-- Injecting loggers one after the other keeps a service well formed when each takes the
starting level or already reports it. -/
theorem injectAll_wellFormed (s : Service) (loggers : List Logger) (h : s.envelope.WellFormed)
    (hl : ∀ l ∈ loggers, (∃ l', l.setLevel s.envelope.startLevel = .ok l') ∨
      l.level = s.envelope.startLevel) :
    (s.injectAll loggers).1.envelope.WellFormed := by
  apply injectAll_induction _ s loggers h
  intro e l hmem hstart he
  rw [← hstart] at hl
  exact he.inject fun _ => hl l hmem

theorem call_wellFormed (s : Service) (h : s.envelope.WellFormed) (n : Nat) (m : Method)
    (args : List Argument) (cancelled : Bool) :
    (s.call n m args cancelled).1.envelope.WellFormed :=
  h.run Value.detail (m.operationAt n) (m.details args) cancelled
    (fun e => (e, .ok (s.answer m e))) fun _ h' => h'

end Service

/-- Every logger a script can inject starts at INFO. -/
theorem Session.loggersFor_level (c : Component) (name : String) (choices : List LoggerChoice) :
    ∀ l ∈ Session.loggersFor c name choices, l.level = .info := by
  intro l hl
  simp only [Session.loggersFor, List.mem_map] at hl
  obtain ⟨⟨k, choice⟩, -, rfl⟩ := hl
  cases choice <;> rfl

/-- A service built from any bag, with INFO loggers injected, is well formed. -/
theorem Service.injectAll_ofBag_wellFormed (c : Component) (values : Bag)
    (fragments : List (String × List String)) {loggers : List Logger}
    (hl : ∀ l ∈ loggers, l.level = .info) :
    ({ Service.ofBag c values with fragments }.injectAll loggers).1.envelope.WellFormed :=
  Service.injectAll_wellFormed _ loggers (Envelope.fresh_wellFormed c) fun l hl' => .inr (hl l hl')

/-- A property of envelopes that installing a redactor keeps holds of a directly built service
when it holds of every service of a bag once the script's loggers are injected. -/
theorem Session.buildOwn_induction (P : Envelope → Prop) (s : Session) (name : String)
    (c : Component) (source : Source) (opts : Options)
    (hredactor : ∀ (e : Envelope) (keys : List String), P e → P { e with redactor := some ⟨keys⟩ })
    (hbuilt : ∀ values : Bag, P ({ Service.ofBag c values with fragments := opts.fragments }.injectAll
      (Session.loggersFor c name opts.loggers)).1.envelope) :
    P (s.buildOwn name c source opts).1.envelope := by
  unfold Session.buildOwn
  simp only
  split
  · exact hredactor _ _ (hbuilt _)
  · exact hbuilt _

/-- A directly built service is well formed. -/
theorem Session.buildOwn_wellFormed (s : Session) (name : String) (c : Component)
    (source : Source) (opts : Options) :
    (s.buildOwn name c source opts).1.envelope.WellFormed :=
  Session.buildOwn_induction Envelope.WellFormed s name c source opts
    (fun _ _ h => h.of_same rfl rfl rfl)
    fun _ => Service.injectAll_ofBag_wellFormed c _ opts.fragments
      (Session.loggersFor_level c name opts.loggers)

namespace Facade

/-- Every request keeps the service's envelope well formed. -/
theorem step_wellFormed {f : Facade} (h : f.service.envelope.WellFormed) (r : Request) :
    (f.step r).1.service.envelope.WellFormed := by
  cases r with
  | call n m args cancelled => exact f.service.call_wellFormed h n m args cancelled
  | register o => exact h.register o
  | unregister id => exact h.unregister id
  | setLogLevel name cancelled => exact h.setLogLevel name cancelled
  | setOrigin origin cancelled => exact h.setOrigin origin cancelled
  | getOrigin cancelled => exact h.getOrigin cancelled
  | openStream n m args cancelled => exact h
  | poll k =>
      rw [step_poll_service]
      split
      · exact h
      · rename_i st _
        show (st.poll f.service.envelope).2.1.WellFormed
        rw [Stream.poll_envelope]
        split
        · exact h.traceEntry _ _
        · exact h
  | cancelStream k => rw [step_cancelStream_service]; exact h
  | dropStream k => rw [step_dropStream_service]; exact h

end Facade

/-- A config a manager makes is well formed when the manager is. -/
theorem Facade.made_wellFormed {f : Facade} {n : Nat} {m : Method} {args : List Argument}
    {cancelled : Bool} {made : Service} (h : f.service.envelope.WellFormed)
    (hmade : (f.step (.call n m args cancelled)).2.1 = .value (.ok (.config made))) :
    made.envelope.WellFormed := by
  rw [Facade.step_call_made hmade]
  exact Envelope.inheriting_wellFormed .config (h.traceEntry _ _)

/-- Every reachable facade has a well-formed envelope. -/
theorem Reachable.wellFormed {f : Facade} {level : Level} (h : Reachable f level) :
    f.service.envelope.WellFormed := by
  induction h with
  | direct s name c source opts => exact s.buildOwn_wellFormed name c source opts
  | factory fac c => exact Envelope.configured_wellFormed c fac.settings
  | child _ hmade ih => exact Facade.made_wellFormed ih hmade
  | step r _ ih => exact Facade.step_wellFormed ih r

/-- The facade once the caller injects a logger of its own into its service. -/
def Facade.inject (f : Facade) (l : Logger) : Facade :=
  f.withService { f.service with envelope := (f.service.envelope.inject l).1 }

/-- The facades the public API reaches when the caller may also inject loggers of its own at any
time, each taking the starting level or already reporting it while no logger is in use. -/
inductive ReachableWithLoggers : Facade → Prop
  /-- A facade reachable with the loggers a script can inject. -/
  | reachable {f : Facade} {level : Level} (hf : Reachable f level) : ReachableWithLoggers f
  /-- A logger of the caller's injected. -/
  | inject {f : Facade} (l : Logger) (hf : ReachableWithLoggers f)
      (hl : f.service.envelope.logger? = none →
        (∃ l', l.setLevel f.service.envelope.startLevel = .ok l') ∨
          l.level = f.service.envelope.startLevel) :
      ReachableWithLoggers (f.inject l)
  /-- A config made by a config manager. -/
  | child {f : Facade} {n : Nat} {m : Method} {args : List Argument} {cancelled : Bool}
      {made : Service} (hf : ReachableWithLoggers f)
      (hmade : (f.step (.call n m args cancelled)).2.1 = .value (.ok (.config made))) :
      ReachableWithLoggers (.ofService made)
  /-- Any request. -/
  | step {f : Facade} (r : Request) (hf : ReachableWithLoggers f) :
      ReachableWithLoggers (f.step r).1

/-- Every facade reached with loggers of the caller's has a well-formed envelope. -/
theorem ReachableWithLoggers.wellFormed {f : Facade} (h : ReachableWithLoggers f) :
    f.service.envelope.WellFormed := by
  induction h with
  | reachable hf => exact hf.wellFormed
  | inject l _ hl ih => exact ih.inject hl
  | child _ hmade ih => exact Facade.made_wellFormed ih hmade
  | step r _ ih => exact Facade.step_wellFormed ih r

/-- Every envelope the public API reaches with loggers that fit its starting level is consistent. -/
theorem reachable_envelope_consistent :
    (∀ c : Component, (Envelope.fresh c).WellFormed) ∧
    (∀ (c : Component) (s : Settings), (Envelope.configured c s).WellFormed) ∧
    (∀ (c : Component) (parent : Envelope), parent.WellFormed →
      (Envelope.inheriting c parent).WellFormed) ∧
    (∀ (e : Envelope) (l : Logger), e.WellFormed →
      (e.logger? = none → (∃ l', l.setLevel e.startLevel = .ok l') ∨ l.level = e.startLevel) →
      (e.inject l).1.WellFormed) ∧
    (∀ e : Envelope, e.WellFormed → e.withLogger.WellFormed) ∧
    (∀ (f : Facade) (r : Request), f.service.envelope.WellFormed →
      (f.step r).1.service.envelope.WellFormed) ∧
    (∀ f : Facade, ReachableWithLoggers f →
      (f.service.envelope.trace = true ↔
        (match f.service.envelope.logger? with
          | some l => l.level
          | none => f.service.envelope.startLevel) = .trace) ∧
      (∀ r, f.service.envelope.observers = some r →
        r.observers ≠ [] ∧ (r.observers.map (·.id)).Nodup) ∧
      (f.service.envelope.hasObservers = true ↔ f.service.envelope.observers.isSome) ∧
      (∀ r, f.service.envelope.observers = some r → r.ids ≠ [])) := by
  refine ⟨Envelope.fresh_wellFormed, Envelope.configured_wellFormed,
    fun c _ h => Envelope.inheriting_wellFormed c h, fun _ _ h hl => h.inject hl,
    fun _ h => h.withLogger, fun _ r h => Facade.step_wellFormed h r, ?_⟩
  intro f hf
  have h := hf.wellFormed
  refine ⟨?_, fun r hr => ⟨h.nonempty r hr, ?_⟩, h.hasObservers_iff, fun _ hr => h.ids_ne_nil hr⟩
  · have hlevel : f.service.envelope.level =
        match f.service.envelope.logger? with
        | some l => l.level
        | none => f.service.envelope.startLevel := by
      unfold Envelope.level Envelope.logger
      cases f.service.envelope.logger? <;> rfl
    rw [← hlevel]
    exact h.trace_iff
  · have hnodup := h.nodup
    rwa [Envelope.registeredIds, Envelope.registered_of_observers hr] at hnodup

/-- A product of a TRACE factory given a caller's logger at DEBUG that takes every level: the
logger is brought to TRACE and tracing stays on. -/
theorem debug_logger_follows_trace_product :
    (Envelope.configured .product { level := .trace }).WellFormed ∧
    ((Envelope.configured .product { level := .trace }).logger? = none →
      (∃ l', (Logger.mk (.supplied "caller" []) .product .debug).setLevel
        (Envelope.configured .product { level := .trace }).startLevel = .ok l') ∨
      (Logger.mk (.supplied "caller" []) .product .debug).level =
        (Envelope.configured .product { level := .trace }).startLevel) ∧
    ((Envelope.configured .product { level := .trace }).inject
      (Logger.mk (.supplied "caller" []) .product .debug)).1.WellFormed ∧
    ReachableWithLoggers ((Facade.ofService (Factory.build ⟨Bag.empty, { level := .trace }⟩ .product)).inject
      (Logger.mk (.supplied "caller" []) .product .debug)) ∧
    (((Facade.ofService (Factory.build ⟨Bag.empty, { level := .trace }⟩ .product)).inject
      (Logger.mk (.supplied "caller" []) .product .debug)).service.envelope.trace = true ↔
      (match ((Facade.ofService (Factory.build ⟨Bag.empty, { level := .trace }⟩ .product)).inject
          (Logger.mk (.supplied "caller" []) .product .debug)).service.envelope.logger? with
        | some l => l.level
        | none => ((Facade.ofService (Factory.build ⟨Bag.empty, { level := .trace }⟩ .product)).inject
          (Logger.mk (.supplied "caller" []) .product .debug)).service.envelope.startLevel) = .trace) := by
  have hfits : (Envelope.configured .product { level := .trace }).logger? = none →
      (∃ l', (Logger.mk (.supplied "caller" []) .product .debug).setLevel
        (Envelope.configured .product { level := .trace }).startLevel = .ok l') ∨
      (Logger.mk (.supplied "caller" []) .product .debug).level =
        (Envelope.configured .product { level := .trace }).startLevel :=
    fun _ => .inl ⟨_, rfl⟩
  have hreach : ReachableWithLoggers
      ((Facade.ofService (Factory.build ⟨Bag.empty, { level := .trace }⟩ .product)).inject
        (Logger.mk (.supplied "caller" []) .product .debug)) :=
    .inject _ (.reachable (.factory _ .product)) hfits
  exact ⟨reachable_envelope_consistent.2.1 .product _, hfits,
    reachable_envelope_consistent.2.2.2.1 _ _ (reachable_envelope_consistent.2.1 .product _) hfits,
    hreach, (reachable_envelope_consistent.2.2.2.2.2.2 _ hreach).1⟩

/-- A logger of the caller's that last took TRACE and refuses INFO. -/
def Logger.refusingInfoAtTrace : Logger :=
  ⟨.supplied "caller" [(.info, Failure.levelRefused .engine .info)], .engine, .trace⟩

/-- Injected into a fresh engine envelope, a logger at TRACE that refuses INFO is installed as
it is, with a warning: the level in effect is TRACE while tracing stays off. -/
theorem refusing_logger_at_trace_breaks_consistency :
    (Envelope.fresh .engine).WellFormed ∧
      ((Envelope.fresh .engine).inject Logger.refusingInfoAtTrace).2 =
        [.warning .engine (.refusedStartLevel .info)] ∧
      ((Envelope.fresh .engine).inject Logger.refusingInfoAtTrace).1.trace = false ∧
      ((Envelope.fresh .engine).inject Logger.refusingInfoAtTrace).1.level = .trace ∧
      ¬ ((Envelope.fresh .engine).inject Logger.refusingInfoAtTrace).1.WellFormed := by
  refine ⟨Envelope.fresh_wellFormed .engine, rfl, rfl, rfl, fun h => ?_⟩
  have hon := h.trace_iff.2 rfl
  cases hon

end StubSdk
