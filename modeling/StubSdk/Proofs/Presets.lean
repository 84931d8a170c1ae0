import Mathlib.Data.List.Forall2
import StubSdk.Proofs.LevelChange

/-!
Services built by a factory or by a config manager are preset ones, set up directly with the
settings filled in. A service depends on its redactor only through what it masks
(`Facade.Alike.runsAlike`), so it runs as every preset service masking the same keys.
-/

namespace StubSdk

/-- The details with the value of every key of `keys` masked. -/
def Details.masking (keys : List String) (d : Details) : Details :=
  d.mapValues fun k _ => if k ∈ keys then some Redactor.mask else none

/-- A redactor masks exactly its keys. -/
theorem Details.redactWith_some (keys : List String) (d : Details) :
    d.redactWith (some ⟨keys⟩) = d.masking keys := by
  show Details.mapValues (Redactor.replacement ⟨keys⟩) d = Details.mapValues _ d
  congr 1
  funext k v
  simp [Redactor.replacement]

theorem Details.redactWith_none (d : Details) : d.redactWith none = d.masking [] := by
  simp [Details.redactWith, Details.masking, Details.mapValues]

/-- The redaction that settings install masks exactly their keys; with no key there is no
redactor, and nothing is masked. -/
theorem Settings.redactWith_redactor (s : Settings) (d : Details) :
    d.redactWith s.redactor = d.masking s.redactKeys := by
  unfold Settings.redactor
  by_cases hkeys : s.redactKeys = []
  · rw [if_pos (List.isEmpty_iff.2 hkeys), hkeys, Details.redactWith_none]
  · rw [if_neg (mt List.isEmpty_iff.1 hkeys), Details.redactWith_some]

/-- A service answering from a bag, set up directly without writing or sending anything: an
origin, a starting level, a tracing flag and a redactor, with no logger built yet and no
observer. -/
def Service.preset (c : Component) (values : Bag) (origin : String) (level : Level) (trace : Bool)
    (redactor : Option Redactor) : Service :=
  { Service.ofBag c values with
    envelope := { Envelope.fresh c with origin, startLevel := level, trace, redactor } }

/-- A factory's service is the preset service of the factory's bag and settings, tracing exactly
at TRACE. -/
theorem Factory.build_eq_preset (fac : Factory) (c : Component) :
    fac.build c = Service.preset c fac.values fac.settings.origin fac.settings.level
      (fac.settings.level == .trace) fac.settings.redactor := rfl

theorem Envelope.level_eq_match (e : Envelope) :
    e.level = match e.logger? with
      | some l => l.level
      | none => e.startLevel := by
  unfold Envelope.level Envelope.logger
  cases e.logger? <;> rfl

/-- A config manager's config is the preset config of the manager's bag, with the manager's
origin, level in effect, tracing flag and redactor. -/
theorem Service.child_eq_preset (s : Service) (parent : Envelope) :
    s.child parent =
      Service.preset .config s.values parent.origin parent.level parent.trace parent.redactor := by
  rw [Envelope.level_eq_match]
  rfl

/-- A request changes at most the service's envelope: its bag, component and fragments stay. -/
theorem Facade.step_service_eq (f : Facade) (r : Request) :
    ∃ e : Envelope, (f.step r).1.service = { f.service with envelope := e } := by
  cases r with
  | poll k =>
      rw [Facade.step_poll_service]
      split
      · exact ⟨_, rfl⟩
      · exact ⟨_, rfl⟩
  | cancelStream k => exact ⟨_, f.step_cancelStream_service k⟩
  | dropStream k => exact ⟨_, f.step_dropStream_service k⟩
  | call | register | unregister | setLogLevel | setOrigin | getOrigin | openStream =>
      exact ⟨_, rfl⟩

/-- Requests served one after the other change at most the service's envelope. -/
theorem Facade.run_service_eq (f : Facade) (rs : List Request) :
    ∃ e : Envelope, (f.run rs).1.service = { f.service with envelope := e } := by
  induction rs generalizing f with
  | nil => exact ⟨_, rfl⟩
  | cons r rest ih =>
      obtain ⟨e₁, h₁⟩ := f.step_service_eq r
      obtain ⟨e₂, h₂⟩ := ih (f.step r).1
      refine ⟨e₂, ?_⟩
      rw [show (f.run (r :: rest)).1 = ((f.step r).1.run rest).1 from rfl, h₂, h₁]

namespace Envelope

/-- Two envelopes alike in all but how their redaction is written down: every other cell is the
same, and they redact all details alike. -/
structure Alike (e₁ e₂ : Envelope) : Prop where
  component : e₁.component = e₂.component
  trace : e₁.trace = e₂.trace
  startLevel : e₁.startLevel = e₂.startLevel
  logger? : e₁.logger? = e₂.logger?
  origin : e₁.origin = e₂.origin
  observers : e₁.observers = e₂.observers
  redact : e₁.redact = e₂.redact

/-- Whether an operation failed can be read off its rendered answer. -/
theorem failureOf_map {α : Type} (detail : α → Option String) (r : Except Failure α) :
    failureOf (r.map detail) = failureOf r := by
  cases r <;> rfl

namespace Alike

variable {e₁ e₂ : Envelope}

theorem logger (h : Alike e₁ e₂) : e₁.logger = e₂.logger := by
  unfold Envelope.logger
  rw [h.logger?, h.component, h.startLevel]

theorem registered (h : Alike e₁ e₂) : e₁.registered = e₂.registered :=
  registered_eq_of_observers h.observers

theorem registeredIds (h : Alike e₁ e₂) : e₁.registeredIds = e₂.registeredIds := by
  unfold Envelope.registeredIds
  rw [h.registered]

theorem codes (h : Alike e₁ e₂) : e₁.codes = e₂.codes := by
  unfold Envelope.codes
  rw [h.component]

theorem event (h : Alike e₁ e₂) : e₁.event = e₂.event := by
  funext code error d
  unfold Envelope.event
  rw [h.origin, h.component, h.redact]

theorem notify (h : Alike e₁ e₂) : e₁.notify = e₂.notify := by
  funext code error d
  unfold Envelope.notify
  rw [h.observers, h.event]

theorem writeExit (h : Alike e₁ e₂) : e₁.writeExit = e₂.writeExit := by
  funext x
  unfold Envelope.writeExit
  rw [h.logger, h.redact]

theorem withLogger (h : Alike e₁ e₂) : Alike e₁.withLogger e₂.withLogger :=
  ⟨h.component, h.trace, h.startLevel, by simp [h.logger], h.origin, h.observers, h.redact⟩

theorem with_observers (h : Alike e₁ e₂) (observers : Option Registry) :
    Alike { e₁ with observers } { e₂ with observers } :=
  ⟨h.component, h.trace, h.startLevel, h.logger?, h.origin, rfl, h.redact⟩

theorem with_origin (h : Alike e₁ e₂) (origin : String) :
    Alike { e₁ with origin } { e₂ with origin } :=
  ⟨h.component, h.trace, h.startLevel, h.logger?, rfl, h.observers, h.redact⟩

/-- Alike envelopes write the same entry record and owe the same exit record, and stay alike. -/
theorem traceEntry (h : Alike e₁ e₂) (op : Operation) (args : Details) :
    Alike (e₁.traceEntry op args).1 (e₂.traceEntry op args).1 ∧
      (e₁.traceEntry op args).2 = (e₂.traceEntry op args).2 := by
  constructor
  · rw [traceEntry_fst, traceEntry_fst, h.trace]
    split
    · exact h.withLogger
    · exact h
  · rw [traceEntry_snd, traceEntry_snd, h.trace, h.logger, h.redact]

/-- Alike envelopes answer a level change alike and stay alike. -/
theorem applyLevel (h : Alike e₁ e₂) (name : String) :
    Alike (Envelope.applyLevel name e₁).1 (Envelope.applyLevel name e₂).1 ∧
      (Envelope.applyLevel name e₁).2 = (Envelope.applyLevel name e₂).2 := by
  cases hparse : Level.parse? name with
  | none =>
      rw [applyLevel_of_unknown _ name hparse, applyLevel_of_unknown _ name hparse, h.component]
      exact ⟨h, rfl⟩
  | some level =>
      cases hset : e₁.logger.setLevel level with
      | error f =>
          rw [applyLevel_of_refused _ name hparse hset,
            applyLevel_of_refused _ name hparse (h.logger ▸ hset)]
          exact ⟨h.withLogger, rfl⟩
      | ok l =>
          rw [applyLevel_of_taken _ name hparse hset,
            applyLevel_of_taken _ name hparse (h.logger ▸ hset)]
          exact ⟨⟨h.component, rfl, rfl, rfl, h.origin, h.observers, h.redact⟩, rfl⟩

/-- An operation run on alike envelopes, by works that keep envelopes alike and render their
answers alike, writes and sends the same and leaves the envelopes alike. -/
theorem run (h : Alike e₁ e₂) {α : Type} (detail : α → Option String) (op : Operation)
    (args : Details) (cancelled : Bool) (w₁ w₂ : Envelope → Envelope × Except Failure α)
    (hw : ∀ e₁' e₂', Alike e₁' e₂' →
      Alike (w₁ e₁').1 (w₂ e₂').1 ∧ (w₁ e₁').2.map detail = (w₂ e₂').2.map detail) :
    Alike (e₁.run detail op args cancelled w₁).1 (e₂.run detail op args cancelled w₂).1 ∧
      (e₁.run detail op args cancelled w₁).2.2 = (e₂.run detail op args cancelled w₂).2.2 := by
  obtain ⟨hentry, hsnd⟩ := h.traceEntry op args
  obtain ⟨hpost, hanswer⟩ := hw _ _ hentry
  have hfail : failureOf (w₁ (e₁.traceEntry op args).1).2 =
      failureOf (w₂ (e₂.traceEntry op args).1).2 := by
    rw [← failureOf_map detail, hanswer, failureOf_map]
  refine ⟨hpost, Effects.ext ?_ ?_⟩
  · rw [run_traces, run_traces, hsnd, hanswer, hpost.writeExit]
  · rw [run_deliveries, run_deliveries, run_fst, run_fst, run_result, run_result, hpost.notify,
      hfail, hanswer]

/-- A level change on alike envelopes answers, writes and sends the same and leaves them
alike. -/
theorem setLogLevel (h : Alike e₁ e₂) (name : String) (cancelled : Bool) :
    Alike (e₁.setLogLevel name cancelled).1 (e₂.setLogLevel name cancelled).1 ∧
      (e₁.setLogLevel name cancelled).2 = (e₂.setLogLevel name cancelled).2 := by
  unfold Envelope.setLogLevel
  rw [h.codes]
  have hrun := h.run (fun _ => none) e₂.codes.setLogLevel (Details.empty.insert "logLevel" name)
    cancelled (Envelope.applyLevel name) (Envelope.applyLevel name)
    fun _ _ he => ⟨(he.applyLevel name).1, by rw [(he.applyLevel name).2]⟩
  refine ⟨hrun.1, Prod.ext ?_ hrun.2⟩
  rw [run_result, run_result, ((h.traceEntry _ _).1.applyLevel name).2]

theorem setOrigin (h : Alike e₁ e₂) (origin : String) (cancelled : Bool) :
    Alike (e₁.setOrigin origin cancelled).1 (e₂.setOrigin origin cancelled).1 ∧
      (e₁.setOrigin origin cancelled).2 = (e₂.setOrigin origin cancelled).2 := by
  unfold Envelope.setOrigin
  rw [h.codes]
  have hrun := h.run (fun _ => none) e₂.codes.setObserverOrigin
    (Details.empty.insert "origin" origin) cancelled
    (fun e => ({ e with origin }, .ok ())) (fun e => ({ e with origin }, .ok ()))
    fun _ _ he => ⟨he.with_origin origin, rfl⟩
  exact ⟨hrun.1, Prod.ext rfl hrun.2⟩

theorem getOrigin (h : Alike e₁ e₂) (cancelled : Bool) :
    Alike (e₁.getOrigin cancelled).1 (e₂.getOrigin cancelled).1 ∧
      (e₁.getOrigin cancelled).2 = (e₂.getOrigin cancelled).2 := by
  unfold Envelope.getOrigin
  rw [h.codes]
  have hrun := h.run some e₂.codes.getObserverOrigin Details.empty cancelled
    (fun e => (e, .ok e.origin)) (fun e => (e, .ok e.origin))
    fun _ _ he => ⟨he, by rw [he.origin]⟩
  refine ⟨hrun.1, Prod.ext ?_ hrun.2⟩
  simp only [run_result, traceEntry_origin, h.origin]

/-- Registering on alike envelopes writes and sends the same and leaves them alike. -/
theorem register (h : Alike e₁ e₂) (o : Observer) :
    Alike (e₁.register o).1 (e₂.register o).1 ∧ (e₁.register o).2 = (e₂.register o).2 := by
  have hpost : Alike (e₁.register o).1 (e₂.register o).1 := by
    rw [register_fst, register_fst, h.codes, h.registered]
    exact (h.traceEntry _ _).1.with_observers _
  refine ⟨hpost, Effects.ext ?_ ?_⟩
  · rw [register_traces, register_traces, h.codes, (h.traceEntry _ _).2, hpost.writeExit]
  · rw [register_deliveries, register_deliveries, h.registeredIds, h.notify, h.component]

/-- Unregistering from alike envelopes writes and sends the same and leaves them alike. -/
theorem unregister (h : Alike e₁ e₂) (id : String) :
    Alike (e₁.unregister id).1 (e₂.unregister id).1 ∧
      (e₁.unregister id).2 = (e₂.unregister id).2 := by
  have hpost : Alike (e₁.unregister id).1 (e₂.unregister id).1 := by
    rw [unregister_fst, unregister_fst, h.codes, h.registeredIds, h.registered]
    split
    · exact (h.traceEntry _ _).1.with_observers _
    · exact (h.traceEntry _ _).1
  refine ⟨hpost, Effects.ext ?_ ?_⟩
  · rw [unregister_traces, unregister_traces, h.codes, (h.traceEntry _ _).2, hpost.writeExit]
  · rw [unregister_deliveries, unregister_deliveries, h.registeredIds, h.notify, h.component]

end Alike

end Envelope

namespace Stream

variable {e₁ e₂ : Envelope}

/-- A running stream steps alike against alike envelopes. -/
theorem advance_of_alike (st : Stream) (h : e₁.Alike e₂) : st.advance e₁ = st.advance e₂ := by
  unfold advance
  rw [h.writeExit]

theorem drop_of_alike (st : Stream) (h : e₁.Alike e₂) : st.drop e₁ = st.drop e₂ := by
  unfold drop
  rw [h.writeExit]

/-- A poll against alike envelopes moves the stream alike, yields the same, writes and sends the
same, and leaves the envelopes alike. -/
theorem poll_of_alike (st : Stream) (h : e₁.Alike e₂) :
    (st.poll e₁).1 = (st.poll e₂).1 ∧ (st.poll e₁).2.1.Alike (st.poll e₂).2.1 ∧
      (st.poll e₁).2.2 = (st.poll e₂).2.2 := by
  cases hphase : st.phase with
  | waiting =>
      obtain ⟨hentry, hsnd⟩ := h.traceEntry st.operation st.details
      rcases ht₁ : e₁.traceEntry st.operation st.details with ⟨e₁', owed, entry⟩
      rcases ht₂ : e₂.traceEntry st.operation st.details with ⟨e₂', owed₂, entry₂⟩
      rw [ht₁, ht₂] at hentry hsnd
      obtain ⟨rfl, rfl⟩ := Prod.mk.inj hsnd
      obtain ⟨hst₁, hitem₁, htraces₁⟩ := st.poll_of_waiting e₁ hphase ht₁
      obtain ⟨hst₂, hitem₂, htraces₂⟩ := st.poll_of_waiting e₂ hphase ht₂
      have hadvance : Stream.advance { st with phase := .running 0 st.items owed } e₁' =
          Stream.advance { st with phase := .running 0 st.items owed } e₂' :=
        Stream.advance_of_alike _ hentry
      refine ⟨by rw [hst₁, hst₂, hadvance], ?_, Prod.ext (by rw [hitem₁, hitem₂, hadvance]) ?_⟩
      · rw [poll_envelope, poll_envelope, if_pos hphase, if_pos hphase, ht₁, ht₂]
        exact hentry
      · apply Effects.ext
        · rw [htraces₁, htraces₂, hadvance]
        · rw [poll_deliveries_of_waiting e₁ hphase, poll_deliveries_of_waiting e₂ hphase, h.notify]
  | running yielded rest owed =>
      rw [st.poll_of_running e₁ hphase, st.poll_of_running e₂ hphase, st.advance_of_alike h]
      exact ⟨rfl, h, rfl⟩
  | finished =>
      rw [st.poll_of_finished e₁ hphase, st.poll_of_finished e₂ hphase]
      exact ⟨rfl, h, rfl⟩

end Stream

/-- Two services alike: the same component, bag and fragments, and alike envelopes. -/
structure Service.Alike (s₁ s₂ : Service) : Prop where
  component : s₁.component = s₂.component
  values : s₁.values = s₂.values
  fragments : s₁.fragments = s₂.fragments
  envelope : s₁.envelope.Alike s₂.envelope

/-- Two answers alike: equal, or configs alike. -/
inductive Value.Alike : Value → Value → Prop
  | refl (v : Value) : Value.Alike v v
  | config {s₁ s₂ : Service} (h : s₁.Alike s₂) : Value.Alike (.config s₁) (.config s₂)

/-- Two replies alike: equal, or two calls answering alike configs. -/
inductive Response.Alike : Response → Response → Prop
  | refl (a : Response) : Response.Alike a a
  | config {s₁ s₂ : Service} (h : s₁.Alike s₂) :
      Response.Alike (.value (.ok (.config s₁))) (.value (.ok (.config s₂)))

/-- Alike answers are written alike: a config is not written at all. -/
theorem Value.Alike.detail_eq {v₁ v₂ : Value} (h : v₁.Alike v₂) : v₁.detail = v₂.detail := by
  cases h <;> rfl

theorem Response.Alike.of_value {v₁ v₂ : Value} (h : v₁.Alike v₂) :
    Response.Alike (.value (.ok v₁)) (.value (.ok v₂)) := by
  cases h with
  | refl v => exact .refl _
  | config h => exact .config h

namespace Service.Alike

variable {s₁ s₂ : Service}

theorem with_envelope (h : s₁.Alike s₂) {e₁ e₂ : Envelope} (he : e₁.Alike e₂) :
    Service.Alike { s₁ with envelope := e₁ } { s₂ with envelope := e₂ } :=
  ⟨h.component, h.values, h.fragments, he⟩

/-- Configs built by alike services from alike envelopes are alike: a config takes the
manager's bag and copies its redactor. -/
theorem child (h : s₁.Alike s₂) {e₁ e₂ : Envelope} (he : e₁.Alike e₂) :
    Service.Alike (s₁.child e₁) (s₂.child e₂) := by
  rw [Service.child_eq_preset, Service.child_eq_preset, h.values]
  refine ⟨rfl, rfl, rfl, ⟨rfl, he.trace, ?_, rfl, he.origin, rfl, he.redact⟩⟩
  show e₁.level = e₂.level
  unfold Envelope.level
  rw [he.logger]

theorem answer (h : s₁.Alike s₂) {e₁ e₂ : Envelope} (he : e₁.Alike e₂) (m : Method) :
    (s₁.answer m e₁).Alike (s₂.answer m e₂) := by
  unfold Service.answer
  rw [h.values]
  cases m.answer with
  | config => exact .config (h.child he)
  | nothing | text | int64 | handle | fragments => exact .refl _

end Service.Alike

/-- Preset services whose redactors mask alike are alike. -/
theorem Service.preset_alike (c : Component) (values : Bag) (origin : String) (level : Level)
    (trace : Bool) {ρ₁ ρ₂ : Option Redactor}
    (hρ : ∀ d : Details, d.redactWith ρ₁ = d.redactWith ρ₂) :
    (Service.preset c values origin level trace ρ₁).Alike
      (Service.preset c values origin level trace ρ₂) :=
  ⟨rfl, rfl, rfl, ⟨rfl, rfl, rfl, rfl, rfl, rfl, funext hρ⟩⟩

/-- Two facades alike: alike services and the same streams. -/
structure Facade.Alike (f₁ f₂ : Facade) : Prop where
  service : f₁.service.Alike f₂.service
  streams : f₁.streams = f₂.streams

/-- Two facades run alike over requests: each request answers alike, and writes and sends the
same. -/
def Facade.RunsAlike (f₁ f₂ : Facade) (rs : List Request) : Prop :=
  List.Forall₂ (fun o₁ o₂ => o₁.1.Alike o₂.1 ∧ o₁.2 = o₂.2) (f₁.run rs).2 (f₂.run rs).2

namespace Facade.Alike

variable {f₁ f₂ : Facade}

theorem stream? (h : f₁.Alike f₂) (k : Nat) : f₁.stream? k = f₂.stream? k := by
  unfold Facade.stream?
  rw [h.streams]

/-- One request served by alike facades answers alike, writes and sends the same, and leaves
the facades alike. -/
theorem step (h : f₁.Alike f₂) (r : Request) :
    (f₁.step r).1.Alike (f₂.step r).1 ∧ (f₁.step r).2.1.Alike (f₂.step r).2.1 ∧
      (f₁.step r).2.2 = (f₂.step r).2.2 := by
  have he := h.service.envelope
  cases r with
  | call n m args cancelled =>
      have hrun := he.run Value.detail (m.operationAt n) (m.details args) cancelled
        (fun e => (e, .ok (f₁.service.answer m e)))
        (fun e => (e, .ok (f₂.service.answer m e)))
        fun e₁ e₂ he' => ⟨he', by
          show Except.ok (Value.detail _) = Except.ok (Value.detail _)
          rw [(h.service.answer he' m).detail_eq]⟩
      refine ⟨⟨h.service.with_envelope hrun.1, h.streams⟩, ?_, hrun.2⟩
      exact .of_value (h.service.answer (he.traceEntry _ _).1 m)
  | register o =>
      obtain ⟨hpost, hfx⟩ := he.register o
      exact ⟨⟨h.service.with_envelope hpost, h.streams⟩, .refl _, hfx⟩
  | unregister id =>
      obtain ⟨hpost, hfx⟩ := he.unregister id
      exact ⟨⟨h.service.with_envelope hpost, h.streams⟩, .refl _, hfx⟩
  | setLogLevel name cancelled =>
      obtain ⟨hpost, hrest⟩ := he.setLogLevel name cancelled
      have hfx := congrArg Prod.snd hrest
      refine ⟨⟨h.service.with_envelope hpost, h.streams⟩, ?_, hfx⟩
      show Response.Alike (.done (f₁.service.envelope.setLogLevel name cancelled).2.1)
        (.done (f₂.service.envelope.setLogLevel name cancelled).2.1)
      rw [hrest]
      exact .refl _
  | setOrigin origin cancelled =>
      obtain ⟨hpost, hrest⟩ := he.setOrigin origin cancelled
      have hfx := congrArg Prod.snd hrest
      exact ⟨⟨h.service.with_envelope hpost, h.streams⟩, .refl _, hfx⟩
  | getOrigin cancelled =>
      obtain ⟨hpost, hrest⟩ := he.getOrigin cancelled
      have hfx := congrArg Prod.snd hrest
      refine ⟨⟨h.service.with_envelope hpost, h.streams⟩, ?_, hfx⟩
      show Response.Alike (.text (f₁.service.envelope.getOrigin cancelled).2.1)
        (.text (f₂.service.envelope.getOrigin cancelled).2.1)
      rw [hrest]
      exact .refl _
  | openStream n m args cancelled =>
      have hopened : Stream.opened f₁.service n m args cancelled =
          Stream.opened f₂.service n m args cancelled := by
        unfold Stream.opened Service.fragmentsOf
        rw [h.service.fragments]
      refine ⟨⟨h.service, ?_⟩, .refl _, rfl⟩
      show f₁.streams ++ [some (Stream.opened f₁.service n m args cancelled)] =
        f₂.streams ++ [some (Stream.opened f₂.service n m args cancelled)]
      rw [h.streams, hopened]
  | poll k =>
      cases hst : f₁.stream? k with
      | none =>
          rw [Facade.step_poll_of_none hst, Facade.step_poll_of_none ((h.stream? k) ▸ hst)]
          exact ⟨h, .refl _, rfl⟩
      | some st =>
          obtain ⟨hnext, henv, hfx⟩ := st.poll_of_alike he
          rw [Facade.step_poll_of_some hst, Facade.step_poll_of_some ((h.stream? k) ▸ hst), hnext,
            hfx]
          exact ⟨⟨h.service.with_envelope henv, by rw [h.streams]⟩, .refl _, rfl⟩
  | cancelStream k =>
      cases hst : f₁.stream? k with
      | none =>
          rw [Facade.step_cancelStream_of_none hst,
            Facade.step_cancelStream_of_none ((h.stream? k) ▸ hst)]
          exact ⟨h, .refl _, rfl⟩
      | some st =>
          rw [Facade.step_cancelStream_of_some hst,
            Facade.step_cancelStream_of_some ((h.stream? k) ▸ hst)]
          exact ⟨⟨h.service, by rw [h.streams]⟩, .refl _, rfl⟩
  | dropStream k =>
      cases hst : f₁.stream? k with
      | none =>
          rw [Facade.step_dropStream_of_none hst,
            Facade.step_dropStream_of_none ((h.stream? k) ▸ hst)]
          exact ⟨h, .refl _, rfl⟩
      | some st =>
          rw [Facade.step_dropStream_of_some hst,
            Facade.step_dropStream_of_some ((h.stream? k) ▸ hst), st.drop_of_alike he]
          exact ⟨⟨h.service, by rw [h.streams]⟩, .refl _, rfl⟩

/-- Alike facades run alike over every list of requests. -/
theorem runsAlike (h : f₁.Alike f₂) (rs : List Request) : Facade.RunsAlike f₁ f₂ rs := by
  induction rs generalizing f₁ f₂ with
  | nil => exact .nil
  | cons r rest ih =>
      obtain ⟨hnext, hanswer, hfx⟩ := h.step r
      exact .cons ⟨hanswer, hfx⟩ (ih hnext)

end Facade.Alike

/-- A factory's service and a manager's config run as preset services with their settings. -/
theorem built_services_run_as_preset_ones :
    (∀ (fac : Factory) (c : Component),
      fac.build c = Service.preset c fac.values fac.settings.origin fac.settings.level
        (fac.settings.level == .trace) fac.settings.redactor ∧
      ∀ redactor : Option Redactor,
        (∀ d : Details, d.redactWith redactor = d.masking fac.settings.redactKeys) →
        ∀ rs : List Request,
          Facade.RunsAlike (.ofService (fac.build c))
            (.ofService (Service.preset c fac.values fac.settings.origin fac.settings.level
              (fac.settings.level == .trace) redactor)) rs) ∧
    (∀ (s : Settings) (d : Details), d.redactWith s.redactor = d.masking s.redactKeys) ∧
    (∀ values : Bag, Factory.ofBag values = ⟨values, {}⟩) ∧
    Factory.initial = ⟨Bag.empty, {}⟩ ∧
    ({} : Settings) = ⟨"", .info, []⟩ ∧
    (∀ (f : Facade) (n : Nat) (m : Method) (args : List Argument) (cancelled : Bool)
        (made : Service),
      (f.step (.call n m args cancelled)).2.1 = .value (.ok (.config made)) →
      made = Service.preset .config f.service.values f.service.envelope.origin
          f.service.envelope.level f.service.envelope.trace f.service.envelope.redactor ∧
      ∀ redactor : Option Redactor,
        (∀ d : Details, d.redactWith redactor = f.service.envelope.redact d) →
        ∀ rs : List Request,
          Facade.RunsAlike (.ofService made)
            (.ofService (Service.preset .config f.service.values f.service.envelope.origin
              f.service.envelope.level f.service.envelope.trace redactor)) rs) ∧
    (∀ (f : Facade) (rs : List Request), (f.run rs).1.service.values = f.service.values) := by
  refine ⟨fun fac c => ⟨fac.build_eq_preset c, fun redactor hρ rs => ?factory⟩,
    Settings.redactWith_redactor, fun _ => rfl, rfl, rfl,
    fun f n m args cancelled made hmade => ?child, fun f rs => ?frame⟩
  case factory =>
    rw [fac.build_eq_preset c]
    apply Facade.Alike.runsAlike
    refine ⟨Service.preset_alike _ _ _ _ _ fun d => ?_, rfl⟩
    rw [Settings.redactWith_redactor, hρ]
  case child =>
    have hpreset : made = Service.preset .config f.service.values f.service.envelope.origin
        f.service.envelope.level f.service.envelope.trace f.service.envelope.redactor := by
      rw [Facade.step_call_made hmade, Service.child_eq_preset, Envelope.traceEntry_origin,
        Envelope.traceEntry_level, Envelope.traceEntry_trace, Envelope.traceEntry_redactor]
    refine ⟨hpreset, fun redactor hρ rs => ?_⟩
    rw [hpreset]
    apply Facade.Alike.runsAlike
    exact ⟨Service.preset_alike _ _ _ _ _ fun d => (hρ d).symm, rfl⟩
  case frame =>
    obtain ⟨e, he⟩ := f.run_service_eq rs
    rw [he]

/-- A TRACE factory with an origin that masks config ids, holding one canned config. -/
def configIdMaskingFactory : Factory :=
  ⟨Bag.ofList [("GetConfigResult", .text "config 7")],
    { origin := "billing", level := .trace, redactKeys := ["configID"] }⟩

/-- A manager's method making a config from a config id, second in its code table. -/
def Method.configFromId : Method :=
  { name := "create_config_from_config_id", operation := "CreateConfigFromConfigID",
    answer := .config, params := [.int64 "config_id" "configID"] }

example : Component.configManager.method? "create_config_from_config_id" =
    some (2, Method.configFromId) := rfl

/-- The manager of a TRACE factory that masks config ids runs as a preset manager whose
redactor lists the key twice, and the config it makes for id 7 as a preset config. -/
theorem configs_of_trace_manager_run_as_presets :
    (∀ d : Details, d.redactWith (some ⟨["configID", "configID"]⟩) =
      d.masking configIdMaskingFactory.settings.redactKeys) ∧
    Facade.RunsAlike (.ofService (configIdMaskingFactory.build .configManager))
      (.ofService (Service.preset .configManager configIdMaskingFactory.values "billing" .trace true
        (some ⟨["configID", "configID"]⟩)))
      [.call 2 .configFromId [.int64 7] false, .setLogLevel "DEBUG" false] ∧
    ((Facade.ofService (configIdMaskingFactory.build .configManager)).step
        (.call 2 .configFromId [.int64 7] false)).2.1 =
      .value (.ok (.config (Service.preset .config configIdMaskingFactory.values "billing" .trace
        true (some ⟨["configID"]⟩)))) ∧
    (∀ d : Details, d.redactWith (some ⟨["configID", "configID"]⟩) =
      (Facade.ofService (configIdMaskingFactory.build .configManager)).service.envelope.redact d) ∧
    Facade.RunsAlike (.ofService (Service.preset .config configIdMaskingFactory.values "billing"
        .trace true (some ⟨["configID"]⟩)))
      (.ofService (Service.preset .config configIdMaskingFactory.values "billing" .trace true
        (some ⟨["configID", "configID"]⟩)))
      [.getOrigin false, .setLogLevel "INFO" false] := by
  have hmasks : ∀ d : Details, d.redactWith (some ⟨["configID", "configID"]⟩) =
      d.masking ["configID"] := by
    intro d
    rw [Details.redactWith_some]
    simp [Details.masking]
  have hmade : ((Facade.ofService (configIdMaskingFactory.build .configManager)).step
      (.call 2 .configFromId [.int64 7] false)).2.1 =
      .value (.ok (.config (Service.preset .config configIdMaskingFactory.values "billing" .trace
        true (some ⟨["configID"]⟩)))) := rfl
  have hredacts : ∀ d : Details, d.redactWith (some ⟨["configID", "configID"]⟩) =
      (Facade.ofService (configIdMaskingFactory.build .configManager)).service.envelope.redact d :=
    fun d => (hmasks d).trans (Details.redactWith_some _ d).symm
  obtain ⟨hfactory, -, -, -, -, hchild, -⟩ := built_services_run_as_preset_ones
  exact ⟨hmasks, (hfactory _ _).2 _ hmasks _, hmade, hredacts,
    (hchild _ _ _ _ _ _ hmade).2 _ hredacts _⟩

end StubSdk
