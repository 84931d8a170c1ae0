import StubSdk.Proofs.Redaction

/-!
Polling an export stream, and dropping it. Only the first poll writes the entry record and
sends the event, later polls yield the fragments up to the one that answers the end, and the
owed exit record is written once, by that poll or, marked `abandoned`, by the drop. The proof
follows the stream's phase (`Stream.phaseAt`): one lemma per poll and an induction over polls.
-/

namespace StubSdk

namespace Stream

/-- Polls a stream once against each envelope in turn: the stream at the end, and what each
poll yielded and did. -/
def pollEach (st : Stream) : List Envelope → Stream × List (Option String × Effects)
  | [] => (st, [])
  | e :: es =>
    (((st.poll e).1.pollEach es).1,
      ((st.poll e).2.2.1, (st.poll e).2.2.2) :: ((st.poll e).1.pollEach es).2)

end Stream

/-! ## What a consumer sees -/

/-- The poll of an export stream that answers the end, counting polls from zero: the first one
for a cancelled stream, and the one after the last fragment otherwise. -/
def exportEnd (fragments : List String) (cancelled : Bool) : Nat :=
  if cancelled then 0 else fragments.length

/-- What the poll of index `i` of an export stream yields and writes against the envelope `e`,
its first poll having been against `e₀`. -/
def exportPoll (op : Operation) (args : Details) (fragments : List String) (cancelled : Bool)
    (e₀ : Envelope) (i : Nat) (e : Envelope) : Option String × Effects :=
  (if cancelled then none else fragments[i]?,
    { traces :=
        (if e₀.trace ∧ i = 0 then [e₀.logger.write op.entry (e₀.redact args)] else []) ++
          (if e₀.trace ∧ i = exportEnd fragments cancelled then
            [e.logger.write op.exit
              (e.redact ((args.insert "return" (Text.decimal i)).insert "elapsed" (Text.decimal 0)))]
          else [])
      deliveries :=
        match op.event with
        | some code => if i = 0 ∧ cancelled = false then e₀.notify code none args else []
        | none => [] })

/-- What dropping an export stream through `e` writes after `k` polls, the first against
`e₀`: the owed exit record, marked abandoned, when tracing was on at the first poll and no poll
has answered the end. -/
def exportDrop (op : Operation) (args : Details) (fragments : List String) (cancelled : Bool)
    (e₀ : Envelope) (k : Nat) (e : Envelope) : List Trace :=
  if e₀.trace ∧ k ≤ exportEnd fragments cancelled then
    [e.logger.write op.exit
      (e.redact ((args.insert "outcome" "abandoned").insert "elapsed" (Text.decimal 0)))]
  else []

section Spec

variable (op : Operation) (args : Details) (fragments : List String) (cancelled : Bool)
  (e₀ e : Envelope)

theorem exportPoll_zero :
    exportPoll op args fragments cancelled e₀ 0 e =
      (if cancelled then none else fragments[0]?,
        { traces :=
            (if e₀.trace then [e₀.logger.write op.entry (e₀.redact args)] else []) ++
              (if e₀.trace ∧ 0 = exportEnd fragments cancelled then
                [e.logger.write op.exit (e.redact
                  ((args.insert "return" (Text.decimal 0)).insert "elapsed" (Text.decimal 0)))]
              else [])
          deliveries :=
            match op.event with
            | some code => if cancelled then [] else e₀.notify code none args
            | none => [] }) := by
  unfold exportPoll
  cases cancelled <;> cases op.event <;> simp

/-- A later poll sends nothing and writes at most the exit record. -/
theorem exportPoll_of_pos {i : Nat} (hi : 0 < i) :
    exportPoll op args fragments cancelled e₀ i e =
      (if cancelled then none else fragments[i]?,
        { traces :=
            if e₀.trace ∧ i = exportEnd fragments cancelled then
              [e.logger.write op.exit
                (e.redact ((args.insert "return" (Text.decimal i)).insert "elapsed" (Text.decimal 0)))]
            else [] }) := by
  have hi' : i ≠ 0 := Nat.pos_iff_ne_zero.1 hi
  unfold exportPoll
  cases op.event <;> simp [hi']

end Spec

/-! ## The phases of a polled stream -/

namespace Stream

variable {st : Stream} {e₀ e : Envelope} {p : Nat}

/-- The exit record a stream owes once its first poll went through `e₀`. -/
def owedAfter (st : Stream) (e₀ : Envelope) : Option ExitRecord :=
  if e₀.trace then some ⟨st.operation.exit, st.details, false⟩ else none

/-- The phase of a stream at its step of index `p`, its first poll having gone through `e₀`:
running with `p` fragments yielded up to the step that answers the end, and ended after it. -/
def phaseAt (st : Stream) (e₀ : Envelope) (p : Nat) : StreamPhase :=
  if p ≤ exportEnd st.items st.cancelled then .running p (st.items.drop p) (st.owedAfter e₀)
  else .finished

/-- A stream put in its phase of an index is in that phase: the phase reads only the fragments
and the cancellation, which stay. -/
theorem phaseAt_setPhase (st : Stream) (e₀ : Envelope) (p : Nat) :
    ({ st with phase := st.phaseAt e₀ p } : Stream).phase =
      ({ st with phase := st.phaseAt e₀ p } : Stream).phaseAt e₀ p := rfl

/-- What the step of index `p` writes of the owed exit record, completed with `p` fragments
yielded: the record, at the step that answers the end and when tracing was on at the first
poll, and nothing otherwise. -/
theorem owedAfter_written (p : Nat) :
    (if p = exportEnd st.items st.cancelled then
        ((st.owedAfter e₀).map fun x => e.writeExit (x.record (.ok (some (Text.decimal p))))).toList
      else []) =
      if e₀.trace ∧ p = exportEnd st.items st.cancelled then
        [e.logger.write st.operation.exit (e.redact
          ((st.details.insert "return" (Text.decimal p)).insert "elapsed" (Text.decimal 0)))]
      else [] := by
  unfold owedAfter
  by_cases hend : p = exportEnd st.items st.cancelled
  · cases e₀.trace
    · simp [hend]
    · simp only [hend, ↓reduceIte, and_self]
      rfl
  · simp [hend]

/-- A step of a stream in its phase: the next fragment while some is left and no cancellation
was asked for, and otherwise the end with the owed exit record. -/
theorem advance_phaseAt (hph : st.phase = st.phaseAt e₀ p)
    (hp : p ≤ exportEnd st.items st.cancelled) :
    st.advance e = ({ st with phase := st.phaseAt e₀ (p + 1) },
      (if st.cancelled then none else st.items[p]?),
      if p = exportEnd st.items st.cancelled then
        ((st.owedAfter e₀).map fun x => e.writeExit (x.record (.ok (some (Text.decimal p))))).toList
      else []) := by
  rw [phaseAt, if_pos hp] at hph
  unfold advance
  rw [hph]
  cases hc : st.cancelled with
  | true =>
      have hp0 : p = 0 := by simpa [exportEnd, hc] using hp
      subst hp0
      have hend : st.phaseAt e₀ 1 = .finished := by simp [phaseAt, exportEnd, hc]
      cases st.items <;> simp [hend, exportEnd]
  | false =>
      have hle : p ≤ st.items.length := by simpa [exportEnd, hc] using hp
      rcases Nat.lt_or_eq_of_le hle with hlt | heq
      · -- a fragment is left: it is yielded and the stream runs on
        have hnext : st.phaseAt e₀ (p + 1) =
            .running (p + 1) (st.items.drop (p + 1)) (st.owedAfter e₀) := by
          have hsucc : p + 1 ≤ st.items.length := hlt
          simp [phaseAt, exportEnd, hc, hsucc]
        rw [List.drop_eq_getElem_cons hlt, hnext, List.getElem?_eq_getElem hlt]
        simp [exportEnd, Nat.ne_of_lt hlt]
      · -- the fragments ran out: the stream ends
        have hend : st.phaseAt e₀ (p + 1) = .finished := by simp [phaseAt, exportEnd, hc, heq]
        rw [List.drop_of_length_le (Nat.le_of_eq heq.symm), hend,
          List.getElem?_eq_none (Nat.le_of_eq heq.symm)]
        simp [exportEnd, heq]

/-- A poll after the first one, in the stream's phase: it yields and writes what the spec of
an export poll says, and moves the stream to its next phase. -/
theorem poll_phaseAt (hph : st.phase = st.phaseAt e₀ p) (hp : 0 < p) :
    (st.poll e).1 = { st with phase := st.phaseAt e₀ (p + 1) } ∧
      ((st.poll e).2.2.1, (st.poll e).2.2.2) =
        exportPoll st.operation st.details st.items st.cancelled e₀ p e := by
  rw [exportPoll_of_pos _ _ _ _ _ _ hp]
  by_cases hle : p ≤ exportEnd st.items st.cancelled
  · have hrun : st.phase = .running p (st.items.drop p) (st.owedAfter e₀) := by
      rw [hph, phaseAt, if_pos hle]
    rw [poll_of_running st e hrun, advance_phaseAt hph hle]
    exact ⟨rfl, Prod.ext rfl (Effects.ext (owedAfter_written p) rfl)⟩
  · -- past the end the stream has ended, yields nothing and writes nothing
    have hfin : st.phase = .finished := by rw [hph, phaseAt, if_neg hle]
    have hgone : st.phaseAt e₀ (p + 1) = .finished := by
      rw [phaseAt, if_neg (by omega)]
    rw [poll_of_finished st e hfin, hgone, ← hfin]
    have hne : p ≠ exportEnd st.items st.cancelled := by omega
    refine ⟨rfl, Prod.ext ?_ (Effects.ext (by simp [hne]) rfl)⟩
    cases hc : st.cancelled
    · have hlen : st.items.length ≤ p := by simpa [exportEnd, hc] using Nat.le_of_not_le hle
      simp [List.getElem?_eq_none hlen]
    · rfl

/-- The first poll of a stream, against a well-formed envelope: it writes the entry record and
sends the event as the spec of an export poll says, and steps the stream into its phase. -/
theorem poll_first (hw : st.phase = .waiting) (he₀ : e₀.WellFormed) :
    (st.poll e₀).1 = { st with phase := st.phaseAt e₀ 1 } ∧
      ((st.poll e₀).2.2.1, (st.poll e₀).2.2.2) =
        exportPoll st.operation st.details st.items st.cancelled e₀ 0 e₀ := by
  have hsnd := Envelope.traceEntry_snd_of_wellFormed he₀ st.operation st.details
  have howed : (e₀.traceEntry st.operation st.details).2.1 = st.owedAfter e₀ := by
    rw [hsnd, owedAfter]
    split <;> rfl
  have hentry : (e₀.traceEntry st.operation st.details).2.2 =
      if e₀.trace then [e₀.logger.write st.operation.entry (e₀.redact st.details)] else [] := by
    rw [hsnd]
    split <;> rfl
  have ht : e₀.traceEntry st.operation st.details =
      ((e₀.traceEntry st.operation st.details).1, (e₀.traceEntry st.operation st.details).2.1,
        (e₀.traceEntry st.operation st.details).2.2) := rfl
  obtain ⟨hs, hi, htr⟩ := poll_of_waiting st e₀ hw ht
  have hph : ({ st with phase := .running 0 st.items (e₀.traceEntry st.operation st.details).2.1 }
      : Stream).phase =
        ({ st with phase := .running 0 st.items (e₀.traceEntry st.operation st.details).2.1 }
          : Stream).phaseAt e₀ 0 := by
    rw [phaseAt, if_pos (Nat.zero_le _), howed]
    rfl
  have hadv := advance_phaseAt (e := (e₀.traceEntry st.operation st.details).1) hph
    (Nat.zero_le _)
  rw [exportPoll_zero]
  refine ⟨by rw [hs, hadv]; rfl, Prod.ext ?_ (Effects.ext ?_ ?_)⟩
  · rw [hi, hadv]
  · rw [htr, hadv, hentry, Envelope.traceEntry_writeExit]
    exact congrArg (_ ++ ·) (owedAfter_written 0)
  · exact poll_deliveries_of_waiting e₀ hw

/-- Polls from the second on: each does what the spec of an export poll says for its index,
and the stream ends in the phase of the index after them. -/
theorem pollEach_phaseAt (hph : st.phase = st.phaseAt e₀ p) (hp : 0 < p) (es : List Envelope) :
    (st.pollEach es).1 = { st with phase := st.phaseAt e₀ (es.length + p) } ∧
      (st.pollEach es).2 =
        es.mapIdx fun i e => exportPoll st.operation st.details st.items st.cancelled e₀ (i + p) e := by
  induction es generalizing st p with
  | nil =>
      refine ⟨?_, rfl⟩
      rw [List.length_nil, Nat.zero_add, ← hph]
      rfl
  | cons e es ih =>
      obtain ⟨hs, hout⟩ := poll_phaseAt (e := e) hph hp
      obtain ⟨hend, hrest⟩ := ih (phaseAt_setPhase st e₀ (p + 1)) (Nat.succ_pos p)
      refine ⟨?_, ?_⟩
      · rw [pollEach, hs, hend, List.length_cons, Nat.add_right_comm]
        rfl
      · show ((st.poll e).2.2.1, (st.poll e).2.2.2) :: ((st.poll e).1.pollEach es).2 = _
        rw [hs, hrest, List.mapIdx_cons, Nat.zero_add, hout]
        refine congrArg (_ :: ·) (congrArg (List.mapIdx · es) (funext fun i => ?_))
        rw [Nat.add_right_comm i 1 p, Nat.add_assoc]

/-- Dropping a stream in its phase writes what the spec of an export drop says. -/
theorem drop_phaseAt {k : Nat} (hph : st.phase = st.phaseAt e₀ k) :
    st.drop e = exportDrop st.operation st.details st.items st.cancelled e₀ k e := by
  unfold drop exportDrop
  rw [hph, phaseAt]
  by_cases hk : k ≤ exportEnd st.items st.cancelled
  · rw [if_pos hk, owedAfter]
    cases e₀.trace
    · rfl
    · simp [hk]
      rfl
  · rw [if_neg hk]
    simp [hk]

end Stream

/-- An export stream yields its fragments one per poll and writes its exit record exactly once. -/
theorem export_stream_yields_fragments_and_closes_once (s : Service) (n : Nat) (m : Method)
    (args : List Argument) (cancelled : Bool) (e₀ : Envelope) (he₀ : e₀.WellFormed)
    (rest : List Envelope) (ed : Envelope) :
    (Stream.opened s n m args cancelled).drop ed = [] ∧
      ((Stream.opened s n m args cancelled).pollEach (e₀ :: rest)).2 =
        (e₀ :: rest).mapIdx
          (exportPoll (m.operationAt n) (m.details args) (s.fragmentsOf m.name) cancelled e₀) ∧
      ((Stream.opened s n m args cancelled).pollEach (e₀ :: rest)).1.drop ed =
        exportDrop (m.operationAt n) (m.details args) (s.fragmentsOf m.name) cancelled e₀
          (rest.length + 1) ed := by
  have hw : (Stream.opened s n m args cancelled).phase = .waiting := rfl
  obtain ⟨hs, hout⟩ := Stream.poll_first hw he₀
  obtain ⟨hend, hrest⟩ :=
    Stream.pollEach_phaseAt (Stream.phaseAt_setPhase _ e₀ 1) Nat.one_pos rest
  refine ⟨rfl, ?_, ?_⟩
  · rw [Stream.pollEach, hs, hrest, List.mapIdx_cons, hout]
    rfl
  · rw [Stream.pollEach, hs, hend]
    exact Stream.drop_phaseAt rfl

/-- An engine traced from the start whose JSON export holds two fragments. -/
def tracedExporter : Service :=
  { Service.ofBag .engine Bag.empty with
    fragments := [("export_json_entity_report_iterator", ["a", "b"])],
    envelope := Envelope.configured .engine { level := .trace } }

/-- The JSON export of an engine. -/
def jsonExport : Method :=
  { name := "export_json_entity_report_iterator", operation := "ExportJSONEntityReportIterator",
    answer := .fragments, params := [.int64 "flags" "flags"] }

/-- The JSON export of the traced engine, polled once per fragment and then dropped. -/
theorem json_export_polled_per_fragment_then_dropped :
    tracedExporter.envelope.WellFormed ∧
      ((Stream.opened tracedExporter 9 jsonExport [.int64 0] false).pollEach
          [tracedExporter.envelope, tracedExporter.envelope]).1.drop tracedExporter.envelope =
        exportDrop (jsonExport.operationAt 9) (jsonExport.details [.int64 0])
          (tracedExporter.fragmentsOf jsonExport.name) false tracedExporter.envelope 2
          tracedExporter.envelope :=
  ⟨Envelope.configured_wellFormed .engine _,
    (export_stream_yields_fragments_and_closes_once tracedExporter 9 jsonExport [.int64 0] false
      tracedExporter.envelope (Envelope.configured_wellFormed .engine _) [tracedExporter.envelope]
      tracedExporter.envelope).2.2⟩

end StubSdk
