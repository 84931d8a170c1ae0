import StubSdk.Proofs.Steps

/-!
Trace records bracket every operation. While the level last applied is TRACE each operation
writes its entry record and then its exit record, and otherwise nothing, an export stream being
bracketed from its first poll to its end. `traceCodes` computes the codes, and the main theorem
is a simulation (`Tracks`) that every step keeps.
-/

namespace StubSdk

/-- Where an export stream is in its trace bracket. -/
inductive Bracket where
  /-- Not polled yet. -/
  | unpolled
  /-- First polled while tracing: the entry record is written and the exit record owed. -/
  | owing
  /-- First polled while not tracing: nothing written and nothing owed. -/
  | silent
  /-- Ended or dropped. -/
  | closed
  deriving DecidableEq, Repr

namespace Bracket

/-- The codes a poll writes and the bracket after it, given whether tracing is on and whether
the poll ends the stream. -/
def poll (op : Operation) (tracing ended : Bool) : Bracket → List Nat × Bracket
  | .unpolled =>
    if tracing then
      (op.entry :: (if ended then [op.entry + 1] else []), if ended then .closed else .owing)
    else ([], if ended then .closed else .silent)
  | .owing => (if ended then [op.entry + 1] else [], if ended then .closed else .owing)
  | .silent => ([], if ended then .closed else .silent)
  | .closed => ([], .closed)

/-- The codes dropping a stream writes: the owed exit record's. -/
def dropCodes (op : Operation) : Bracket → List Nat
  | .owing => [op.entry + 1]
  | _ => []

/-- A first poll is a poll of the bracket it opens, after the entry record if tracing. -/
theorem poll_unpolled (op : Operation) (tracing ended : Bool) :
    unpolled.poll op tracing ended =
      if tracing then (op.entry :: (owing.poll op tracing ended).1, (owing.poll op tracing ended).2)
      else silent.poll op tracing ended := by
  cases tracing <;> rfl

end Bracket

/-- Whether an answer ends a stream: a poll that yields nothing. -/
def Response.ends : Response → Bool
  | .item Option.none => true
  | _ => false

@[simp] theorem Response.ends_item (fragment : Option String) :
    (Response.item fragment).ends = fragment.isNone := by
  cases fragment <;> rfl

/-- The codes one request writes, given whether tracing is on and the streams' brackets by
number, and the brackets after it. -/
def traceStep (c : Component) (tracing : Bool) (bs : List (Operation × Bracket)) :
    Request → Response → List Nat × List (Operation × Bracket)
  | .openStream n m _ _, _ => ([], bs ++ [(m.operationAt n, .unpolled)])
  | .poll k, a =>
    match bs[k]? with
    | none => ([], bs)
    | some (op, b) => ((b.poll op tracing a.ends).1, bs.set k (op, (b.poll op tracing a.ends).2))
  | .cancelStream _, _ => ([], bs)
  | .dropStream k, _ =>
    match bs[k]? with
    | none => ([], bs)
    | some (op, b) => (b.dropCodes op, bs.set k (op, .closed))
  | r, _ =>
    (match r.operation? c with
      | some op => if tracing then [op.entry, op.entry + 1] else []
      | none => [], bs)

/-- The codes each request writes, in order, from a level and the streams' brackets: tracing
is on while the level is TRACE, and each level change that succeeds replaces the level. -/
def traceCodes (c : Component) :
    Level → List (Operation × Bracket) → List (Request × Response) → List (List Nat)
  | _, _, [] => []
  | level, bs, (r, a) :: rest =>
    (traceStep c (level == .trace) bs r a).1 ::
      traceCodes c ((r.applies a).getD level) (traceStep c (level == .trace) bs r a).2 rest

/-- How a stream's phase stands against its bracket: an exit record, with the operation's exit
code, is owed exactly while the bracket is open. -/
inductive PhaseTracks (op : Operation) : StreamPhase → Bracket → Prop
  | unpolled : PhaseTracks op .waiting .unpolled
  | owing {yielded : Nat} {rest : List String} {x : ExitRecord} (hcode : x.code = op.entry + 1) :
      PhaseTracks op (.running yielded rest (some x)) .owing
  | silent {yielded : Nat} {rest : List String} : PhaseTracks op (.running yielded rest none) .silent
  | closed : PhaseTracks op .finished .closed

/-- How the stream of a number stands against its bracket: an open stream runs the bracket's
operation, and an empty number has a closed bracket or none. -/
def StreamTracks : Option Stream → Option (Operation × Bracket) → Prop
  | none, none => True
  | none, some (_, b) => b = .closed
  | some st, some (op, b) => st.operation = op ∧ PhaseTracks op st.phase b
  | some _, none => False

namespace Stream

variable {l : Logger} {e : Envelope} {op : Operation}

/-- A stream running in an open or silent bracket, stepped once: it writes what a poll of its
bracket writes, ending exactly when it yields nothing, and runs on in the bracket after the
poll, whatever tracing is by then. -/
theorem advance_tracks {st : Stream} {b : Bracket} (hph : PhaseTracks op st.phase b)
    (hrun : b = .owing ∨ b = .silent) (hw : e.logger.write = l.write) (tracing : Bool) :
    List.Forall₂ l.Wrote (b.poll op tracing (st.advance e).2.1.isNone).1 (st.advance e).2.2 ∧
      (st.advance e).1.operation = st.operation ∧
      PhaseTracks op (st.advance e).1.phase (b.poll op tracing (st.advance e).2.1.isNone).2 := by
  generalize hp : st.phase = phase at hph
  cases hph with
  | unpolled => simp at hrun
  | closed => simp at hrun
  | @owing yielded rest x hcode =>
      rcases st.advance_cases e hp with ⟨item, more, hadv⟩ | hadv
      · rw [hadv]
        exact ⟨.nil, rfl, .owing hcode⟩
      · -- the stream ends and writes the exit record it owes
        rw [hadv]
        refine ⟨.cons ⟨e.redact (x.record (.ok (some (Text.decimal yielded)))).finalDetails, ?_⟩ .nil,
          rfl, .closed⟩
        show e.writeExit (x.record _) = _
        rw [Envelope.writeExit_eq, hw, ExitRecord.record_code, hcode]
  | silent =>
      rcases st.advance_cases e hp with ⟨item, more, hadv⟩ | hadv
      · rw [hadv]
        exact ⟨.nil, rfl, .silent⟩
      · rw [hadv]
        exact ⟨.nil, rfl, .closed⟩

/-- A poll against a well-formed envelope writes what a poll of the stream's bracket writes,
with tracing as the envelope has it then, and leaves the stream in the bracket after the
poll. -/
theorem poll_tracks {st : Stream} {b : Bracket} (he : e.WellFormed)
    (hw : e.logger.write = l.write) (hph : PhaseTracks st.operation st.phase b) :
    List.Forall₂ l.Wrote (b.poll st.operation e.trace (st.poll e).2.2.1.isNone).1
        (st.poll e).2.2.2.traces ∧
      (st.poll e).1.operation = st.operation ∧
      PhaseTracks st.operation (st.poll e).1.phase
        (b.poll st.operation e.trace (st.poll e).2.2.1.isNone).2 := by
  generalize hp : st.phase = phase at hph
  cases hph with
  | unpolled =>
      have hentry := e.traceEntry_snd_of_wellFormed he st.operation st.details
      have hw₁ := e.traceEntry_logger st.operation st.details
      generalize ht : e.traceEntry st.operation st.details = t at hentry hw₁
      obtain ⟨e₁, owed, entry⟩ := t
      replace hw₁ : e₁.logger.write = l.write := by rw [← hw, ← hw₁]
      obtain ⟨h1, h2, h3⟩ := st.poll_of_waiting e hp ht
      rw [h1, h2, h3, Bracket.poll_unpolled]
      cases htrace : e.trace
      · simp only [htrace, Bool.false_eq_true, ↓reduceIte, Prod.mk.injEq] at hentry
        obtain ⟨rfl, rfl⟩ := hentry
        have hstart : PhaseTracks st.operation
            ({ st with phase := .running 0 st.items none } : Stream).phase .silent := .silent
        simp only [Bool.false_eq_true, ↓reduceIte, List.nil_append]
        exact advance_tracks hstart (.inr rfl) hw₁ false
      · simp only [htrace, ↓reduceIte, Prod.mk.injEq] at hentry
        obtain ⟨howed, rfl⟩ := hentry
        have hstart : PhaseTracks st.operation
            ({ st with phase := .running 0 st.items owed } : Stream).phase .owing := by
          rw [howed]
          exact .owing rfl
        obtain ⟨hcodes, hop, hphase⟩ := advance_tracks hstart (.inl rfl) hw₁ true
        simp only [↓reduceIte, List.cons_append, List.nil_append]
        exact ⟨.cons ⟨e.redact st.details, by rw [hw]⟩ hcodes, hop, hphase⟩
  | owing hcode =>
      rw [st.poll_of_running e hp]
      exact advance_tracks (hp ▸ .owing hcode) (.inl rfl) hw e.trace
  | silent =>
      rw [st.poll_of_running e hp]
      exact advance_tracks (hp ▸ .silent) (.inr rfl) hw e.trace
  | closed =>
      rw [st.poll_of_finished e hp]
      exact ⟨.nil, rfl, hp ▸ .closed⟩

/-- Dropping a stream writes the exit record its bracket owes. -/
theorem drop_tracks {st : Stream} {b : Bracket} (hw : e.logger.write = l.write)
    (hph : PhaseTracks op st.phase b) : List.Forall₂ l.Wrote (b.dropCodes op) (st.drop e) := by
  unfold drop
  generalize st.phase = phase at hph ⊢
  cases hph with
  | @owing yielded rest x hcode =>
      exact .cons ⟨e.redact x.finalDetails, by rw [Envelope.writeExit_eq, hw, hcode]⟩ .nil
  | unpolled => exact .nil
  | silent => exact .nil
  | closed => exact .nil

end Stream

/-- The streams, number by number, against their brackets. -/
structure StreamsTrack (streams : List (Option Stream)) (bs : List (Operation × Bracket)) :
    Prop where
  length_eq : streams.length = bs.length
  at_index : ∀ k : Nat, StreamTracks ((streams[k]?).getD none) bs[k]?

namespace StreamsTrack

variable {ss : List (Option Stream)} {bs : List (Operation × Bracket)} {s : Option Stream}
  {b : Operation × Bracket}

/-- A stream opened after the others, against a bracket of its own. -/
theorem append (h : StreamsTrack ss bs) (hnew : StreamTracks s (some b)) :
    StreamsTrack (ss ++ [s]) (bs ++ [b]) where
  length_eq := by simp [h.length_eq]
  at_index k := by
    rw [List.getElem?_append, List.getElem?_append, ← h.length_eq]
    split
    · exact h.at_index k
    · -- past the streams opened before only the new one stands
      rw [List.getElem?_singleton, List.getElem?_singleton]
      split
      · exact hnew
      · trivial

/-- A stream replaced at its number, against its new bracket. -/
theorem set (h : StreamsTrack ss bs) {k : Nat} (hk : k < ss.length)
    (hnew : StreamTracks s (some b)) : StreamsTrack (ss.set k s) (bs.set k b) where
  length_eq := by simp [h.length_eq]
  at_index j := by
    rw [List.getElem?_set, List.getElem?_set, ← h.length_eq]
    by_cases hkj : k = j
    · rw [if_pos hkj, if_pos hkj, if_pos hk, if_pos hk]
      exact hnew
    · rw [if_neg hkj, if_neg hkj]
      exact h.at_index j

end StreamsTrack

/-- A facade as the spec sees it: a well-formed envelope at the level last applied, writing
for one component through a logger writing as `l` does, and its streams in their brackets. -/
structure Tracks (l : Logger) (c : Component) (f : Facade) (level : Level)
    (bs : List (Operation × Bracket)) : Prop where
  wellFormed : f.service.envelope.WellFormed
  level_eq : f.service.envelope.level = level
  component_eq : f.service.envelope.component = c
  write_eq : f.service.envelope.logger.write = l.write
  streams : StreamsTrack f.streams bs

/-- One request is simulated: it writes records of the logger with the codes `traceStep`
gives, and the facade after it tracks the brackets after it at the level it leaves. -/
def Simulates (l : Logger) (c : Component) (f : Facade) (level : Level)
    (bs : List (Operation × Bracket)) (r : Request) : Prop :=
  List.Forall₂ l.Wrote (traceStep c (level == .trace) bs r (f.step r).2.1).1
      (f.step r).2.2.traces ∧
    Tracks l c (f.step r).1 ((r.applies (f.step r).2.1).getD level)
      (traceStep c (level == .trace) bs r (f.step r).2.1).2

/-- Two loggers that write alike write the same records. -/
theorem Logger.wrote_eq {l l' : Logger} (h : l'.write = l.write) : l'.Wrote = l.Wrote := by
  unfold Logger.Wrote
  rw [h]

namespace Tracks

variable {l : Logger} {c : Component} {f : Facade} {level : Level}
  {bs : List (Operation × Bracket)}

/-- Tracing is on exactly at TRACE. -/
theorem trace_eq (h : Tracks l c f level bs) : f.service.envelope.trace = (level == .trace) := by
  rw [Bool.eq_iff_iff, h.wellFormed.trace_iff, h.level_eq, beq_iff_eq]

/-- After any request the envelope still tracks, at the level the request leaves applied. -/
theorem of_step (h : Tracks l c f level bs) (r : Request) {bs' : List (Operation × Bracket)}
    (hs : StreamsTrack (f.step r).1.streams bs') :
    Tracks l c (f.step r).1 ((r.applies (f.step r).2.1).getD level) bs' where
  wellFormed := Facade.step_wellFormed h.wellFormed r
  level_eq := by rw [Facade.step_level, h.level_eq]
  component_eq := by rw [Facade.step_component, h.component_eq]
  write_eq := by rw [Facade.step_logger_write, h.write_eq]
  streams := hs

/-- A request to the service writes its operation's bracket if tracing and leaves the streams
alone. -/
theorem simulates_of_operation (h : Tracks l c f level bs) {r : Request} {op : Operation}
    (hop : r.operation? c = some op) (hstreams : (f.step r).1.streams = f.streams)
    (hstep : traceStep c (level == .trace) bs r (f.step r).2.1 =
      (if level == .trace then [op.entry, op.entry + 1] else [], bs)) :
    Simulates l c f level bs r := by
  have hop' : r.operation? f.service.envelope.component = some op := by
    rw [h.component_eq]
    exact hop
  have hcodes := Facade.step_traces_of_operation f h.wellFormed hop'
  rw [h.trace_eq, Logger.wrote_eq h.write_eq] at hcodes
  unfold Simulates
  rw [hstep]
  exact ⟨hcodes, h.of_step r (hstreams ▸ h.streams)⟩

/-- The stream of a number against its bracket. -/
theorem stream_tracks (h : Tracks l c f level bs) (k : Nat) : StreamTracks (f.stream? k) bs[k]? :=
  h.streams.at_index k

/-- An open stream has its bracket, in which its phase stands. -/
theorem bracket_of_some (h : Tracks l c f level bs) {k : Nat} {st : Stream}
    (hst : f.stream? k = some st) :
    ∃ b, bs[k]? = some (st.operation, b) ∧ PhaseTracks st.operation st.phase b := by
  have hk := h.stream_tracks k
  rw [hst] at hk
  cases hb : bs[k]? with
  | none =>
      rw [hb] at hk
      exact hk.elim
  | some p =>
      obtain ⟨op, b⟩ := p
      rw [hb] at hk
      obtain ⟨rfl, hph⟩ := hk
      exact ⟨b, rfl, hph⟩

/-- An empty number has no bracket or a closed one, which polls and drops leave as it is and
which writes nothing. -/
theorem traceStep_of_none (h : Tracks l c f level bs) {k : Nat} (hst : f.stream? k = none)
    (a : Response) :
    traceStep c (level == .trace) bs (.poll k) a = ([], bs) ∧
      traceStep c (level == .trace) bs (.dropStream k) a = ([], bs) := by
  have hk := h.stream_tracks k
  rw [hst] at hk
  cases hb : bs[k]? with
  | none => simp only [traceStep, hb, and_self]
  | some p =>
      obtain ⟨op, b⟩ := p
      rw [hb] at hk
      cases hk
      obtain ⟨hlt, hget⟩ := List.getElem?_eq_some_iff.1 hb
      simp only [traceStep, hb, Bracket.poll, Bracket.dropCodes]
      rw [← hget, List.set_getElem_self hlt]
      exact ⟨rfl, rfl⟩

/-- A request that leaves the facade as it was and writes nothing is simulated with the
brackets kept. -/
theorem simulates_of_idle (h : Tracks l c f level bs) {r : Request} {a : Response}
    (hstep : f.step r = (f, a, {})) (hts : traceStep c (level == .trace) bs r a = ([], bs)) :
    Simulates l c f level bs r := by
  unfold Simulates
  rw [hstep, hts]
  refine ⟨.nil, ?_⟩
  have ht : Tracks l c (f.step r).1 ((r.applies (f.step r).2.1).getD level) bs :=
    h.of_step r (by rw [hstep]; exact h.streams)
  rwa [hstep] at ht

/-- A poll writes what a poll of the stream's bracket writes. -/
theorem simulates_poll (h : Tracks l c f level bs) (k : Nat) :
    Simulates l c f level bs (.poll k) := by
  cases hst : f.stream? k with
  | none => exact h.simulates_of_idle (Facade.step_poll_of_none hst) (h.traceStep_of_none hst _).1
  | some st =>
      unfold Simulates
      have hstep := Facade.step_poll_of_some hst
      obtain ⟨b, hb, hph⟩ := h.bracket_of_some hst
      obtain ⟨hcodes, hop, hphase⟩ := Stream.poll_tracks h.wellFormed h.write_eq hph
      rw [h.trace_eq] at hcodes hphase
      have hts : traceStep c (level == .trace) bs (.poll k) (f.step (.poll k)).2.1 =
          ((b.poll st.operation (level == .trace) (st.poll f.service.envelope).2.2.1.isNone).1,
            bs.set k (st.operation,
              (b.poll st.operation (level == .trace) (st.poll f.service.envelope).2.2.1.isNone).2)) := by
        rw [hstep]
        simp only [traceStep, hb, Response.ends_item]
      rw [hts]
      refine ⟨?_, h.of_step _ ?_⟩
      · rw [hstep]
        exact hcodes
      · rw [hstep]
        exact h.streams.set (Facade.lt_length_of_stream? hst) ⟨hop, hphase⟩

/-- Cancelling writes nothing and keeps every stream in its bracket. -/
theorem simulates_cancelStream (h : Tracks l c f level bs) (k : Nat) :
    Simulates l c f level bs (.cancelStream k) := by
  cases hst : f.stream? k with
  | none => exact h.simulates_of_idle (Facade.step_cancelStream_of_none hst) rfl
  | some st =>
      unfold Simulates
      rw [show traceStep c (level == .trace) bs (.cancelStream k) (f.step (.cancelStream k)).2.1 =
        ([], bs) from rfl]
      have hstep := Facade.step_cancelStream_of_some hst
      obtain ⟨b, hb, hph⟩ := h.bracket_of_some hst
      obtain ⟨hlt, hget⟩ := List.getElem?_eq_some_iff.1 hb
      have hnew : StreamTracks (some st.cancel) (some (st.operation, b)) := ⟨rfl, hph⟩
      have hset := h.streams.set (Facade.lt_length_of_stream? hst) hnew
      rw [← hget, List.set_getElem_self hlt] at hset
      exact ⟨by rw [hstep]; exact .nil, h.of_step _ (by rw [hstep]; exact hset)⟩

/-- Dropping writes the exit record the stream's bracket owes, and closes it. -/
theorem simulates_dropStream (h : Tracks l c f level bs) (k : Nat) :
    Simulates l c f level bs (.dropStream k) := by
  cases hst : f.stream? k with
  | none =>
      exact h.simulates_of_idle (Facade.step_dropStream_of_none hst) (h.traceStep_of_none hst _).2
  | some st =>
      unfold Simulates
      have hstep := Facade.step_dropStream_of_some hst
      obtain ⟨b, hb, hph⟩ := h.bracket_of_some hst
      have hts : traceStep c (level == .trace) bs (.dropStream k) (f.step (.dropStream k)).2.1 =
          (b.dropCodes st.operation, bs.set k (st.operation, .closed)) := by
        simp only [traceStep, hb]
      rw [hts]
      refine ⟨?_, h.of_step _ ?_⟩
      · rw [hstep]
        exact Stream.drop_tracks h.write_eq hph
      · rw [hstep]
        exact h.streams.set (Facade.lt_length_of_stream? hst) rfl

/-- Every request is simulated. -/
theorem simulates (h : Tracks l c f level bs) (r : Request) : Simulates l c f level bs r := by
  cases r with
  | call n m args cancelled => exact h.simulates_of_operation rfl rfl rfl
  | register o => exact h.simulates_of_operation rfl rfl rfl
  | unregister id => exact h.simulates_of_operation rfl rfl rfl
  | setLogLevel name cancelled => exact h.simulates_of_operation rfl rfl rfl
  | setOrigin origin cancelled => exact h.simulates_of_operation rfl rfl rfl
  | getOrigin cancelled => exact h.simulates_of_operation rfl rfl rfl
  | openStream n m args cancelled =>
      exact ⟨.nil, h.of_step _ (h.streams.append ⟨rfl, .unpolled⟩)⟩
  | poll k => exact h.simulates_poll k
  | cancelStream k => exact h.simulates_cancelStream k
  | dropStream k => exact h.simulates_dropStream k

/-- Every run from a tracked facade writes, request by request, records of the logger with the
codes `traceCodes` computes from the requests and their answers. -/
theorem run (h : Tracks l c f level bs) (rs : List Request) :
    List.Forall₂ (fun codes out => List.Forall₂ l.Wrote codes out.2.traces)
      (traceCodes c level bs (rs.zip ((f.run rs).2.map (·.1)))) (f.run rs).2 := by
  induction rs generalizing f level bs with
  | nil => exact .nil
  | cons r rest ih =>
      obtain ⟨hcodes, hnext⟩ := h.simulates r
      exact .cons hcodes (ih hnext)

/-- A reachable facade with no stream open tracks its own logger and component at the level
last applied to it. -/
theorem of_reachable (hf : Reachable f level) (hs : f.streams = []) :
    Tracks f.service.envelope.logger f.service.envelope.component f level [] where
  wellFormed := hf.wellFormed
  level_eq := hf.level_eq
  component_eq := rfl
  write_eq := rfl
  streams := ⟨by simp [hs], fun k => by simp [hs, StreamTracks]⟩

end Tracks

/-- From a reachable facade, each request writes its logger's records with the codes `traceCodes` gives. -/
theorem logger_records_bracket_each_operation (f : Facade) (level : Level)
    (hf : Reachable f level) (hs : f.streams = []) (rs : List Request) :
    List.Forall₂ (fun codes out => List.Forall₂ f.service.envelope.logger.Wrote codes out.2.traces)
      (traceCodes f.service.envelope.component level [] (rs.zip ((f.run rs).2.map (·.1))))
      (f.run rs).2 :=
  (Tracks.of_reachable hf hs).run rs

/-- A fresh factory config, driven to TRACE, through a read of the origin and back to INFO. -/
theorem factory_config_records_bracket :
    Reachable (.ofService (Factory.initial.build .config)) .info ∧
      (Facade.ofService (Factory.initial.build .config)).streams = [] ∧
      List.Forall₂
        (fun codes out => List.Forall₂
          (Facade.ofService (Factory.initial.build .config)).service.envelope.logger.Wrote
          codes out.2.traces)
        (traceCodes Component.config .info []
          ([.setLogLevel "TRACE" false, .getOrigin false, .setLogLevel "INFO" false].zip
            (((Facade.ofService (Factory.initial.build .config)).run
              [.setLogLevel "TRACE" false, .getOrigin false, .setLogLevel "INFO" false]).2.map
                (·.1))))
        ((Facade.ofService (Factory.initial.build .config)).run
          [.setLogLevel "TRACE" false, .getOrigin false, .setLogLevel "INFO" false]).2 :=
  ⟨.factory _ _, rfl,
    logger_records_bracket_each_operation _ _ (.factory Factory.initial .config) rfl _⟩

end StubSdk
