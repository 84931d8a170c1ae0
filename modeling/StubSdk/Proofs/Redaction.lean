import Mathlib.Data.List.Forall2
import StubSdk.Proofs.Steps
import StubSdk.Proofs.QuotedText

/-!
What redaction hides. Two calls recorded alike outside the masked keys, which leave the same
state and succeed alike or fail alike, write the same records and send the same events; a
failure's text is not a detail, so calls that fail differently may differ.
-/

namespace StubSdk

namespace Details

/-- Two details agree outside a set of keys: entry by entry the same keys, and the same value
under every key outside the set. -/
def AgreeOutside (K : List String) (d₁ d₂ : Details) : Prop :=
  List.Forall₂ (fun p q => p.1 = q.1 ∧ (p.1 ∉ K → p.2 = q.2)) d₁.entries d₂.entries

section Agreement

variable {K : List String} {d₁ d₂ : Details}

/-- Agreeing outside no key is being equal. -/
theorem AgreeOutside.eq_of_nil (h : d₁.AgreeOutside [] d₂) : d₁ = d₂ := by
  obtain ⟨es₁⟩ := d₁
  obtain ⟨es₂⟩ := d₂
  change List.Forall₂ _ es₁ es₂ at h
  congr 1
  induction h with
  | nil => rfl
  | cons hpq _ ih =>
      obtain ⟨hkey, hval⟩ := hpq
      rw [Prod.ext hkey (hval List.not_mem_nil), ih]

/-- Putting the same entry into both keeps them agreeing: the insertion takes the same place
in both, since their keys agree entry by entry. -/
theorem AgreeOutside.insert (h : d₁.AgreeOutside K d₂) (k v : String) :
    (d₁.insert k v).AgreeOutside K (d₂.insert k v) := by
  obtain ⟨es₁⟩ := d₁
  obtain ⟨es₂⟩ := d₂
  change List.Forall₂ _ es₁ es₂ at h
  change List.Forall₂ _ (insertSorted k v es₁) (insertSorted k v es₂)
  induction h with
  | nil => exact .cons ⟨rfl, fun _ => rfl⟩ .nil
  | @cons p q ps qs hpq hrest ih =>
      obtain ⟨pk, pv⟩ := p
      obtain ⟨qk, qv⟩ := q
      obtain ⟨hkey, hval⟩ := hpq
      simp only at hkey hval
      subst hkey
      simp only [insertSorted]
      by_cases hlt : k < pk
      · rw [if_pos hlt, if_pos hlt]
        exact .cons ⟨rfl, fun _ => rfl⟩ (.cons ⟨rfl, hval⟩ hrest)
      · by_cases heq : k = pk
        · rw [if_neg hlt, if_neg hlt, if_pos heq, if_pos heq]
          exact .cons ⟨rfl, fun _ => rfl⟩ hrest
        · rw [if_neg hlt, if_neg hlt, if_neg heq, if_neg heq]
          exact .cons ⟨rfl, hval⟩ ih

/-- One entry under a key agrees with another under the same key when the key is masked or the
values are equal. -/
theorem agreeOutside_single (k : String) {v₁ v₂ : String} (h : k ∉ K → v₁ = v₂) :
    (empty.insert k v₁).AgreeOutside K (empty.insert k v₂) :=
  .cons ⟨rfl, h⟩ .nil

end Agreement

end Details

/-- A redactor masks alike two details that agree outside its keys. -/
theorem Redactor.apply_eq_of_agree {r : Redactor} {d₁ d₂ : Details}
    (h : d₁.AgreeOutside r.keys d₂) : r.apply d₁ = r.apply d₂ := by
  obtain ⟨es₁⟩ := d₁
  obtain ⟨es₂⟩ := d₂
  change List.Forall₂ _ es₁ es₂ at h
  unfold Redactor.apply Details.mapValues
  congr 1
  induction h with
  | nil => rfl
  | @cons p q ps qs hpq _ ih =>
      obtain ⟨pk, pv⟩ := p
      obtain ⟨qk, qv⟩ := q
      obtain ⟨hkey, hval⟩ := hpq
      simp only at hkey hval
      subst hkey
      rw [List.map_cons, List.map_cons, ih]
      by_cases hmem : pk ∈ r.keys
      · simp [Redactor.replacement, hmem]
      · rw [hval hmem]

namespace Envelope

/-- The keys an envelope masks: its redactor's, or none. -/
def redactKeys (e : Envelope) : List String :=
  match e.redactor with
  | some r => r.keys
  | none => []

/-- An envelope redacts alike two details that agree outside its keys. -/
theorem redact_eq_of_agree {e : Envelope} {d₁ d₂ : Details} (h : d₁.AgreeOutside e.redactKeys d₂) :
    e.redact d₁ = e.redact d₂ := by
  unfold redact Details.redactWith
  unfold redactKeys at h
  cases hr : e.redactor with
  | none =>
      rw [hr] at h
      exact h.eq_of_nil
  | some r =>
      rw [hr] at h
      exact Redactor.apply_eq_of_agree h

end Envelope

/-- Effects are equal when their records and their deliveries are. -/
theorem Effects.ext {a b : Effects} (htraces : a.traces = b.traces)
    (hdeliveries : a.deliveries = b.deliveries) : a = b := by
  cases a
  cases b
  simp only at htraces hdeliveries
  rw [htraces, hdeliveries]

section Agreement

variable {K : List String} {args₁ args₂ : Details}

/-- An exit record completed with one result, from arguments that agree outside the keys, is
written with details that agree outside them. -/
theorem ExitRecord.finalDetails_agree (h : args₁.AgreeOutside K args₂) (code : Nat)
    (result : Except Failure (Option String)) :
    ((⟨code, args₁, false⟩ : ExitRecord).record result).finalDetails.AgreeOutside K
      ((⟨code, args₂, false⟩ : ExitRecord).record result).finalDetails := by
  unfold ExitRecord.record ExitRecord.finalDetails
  cases result with
  | ok answer =>
      cases answer with
      | none => exact h.insert _ _
      | some v => exact (h.insert _ _).insert _ _
  | error failure => exact (h.insert _ _).insert _ _

/-- An event's details, from arguments that agree outside the keys, agree outside them. -/
theorem Envelope.eventDetails_agree (h : args₁.AgreeOutside K args₂) (op : Operation)
    (answer : Except Failure (Option String)) :
    (Envelope.eventDetails op args₁ answer).AgreeOutside K (Envelope.eventDetails op args₂ answer) := by
  unfold Envelope.eventDetails
  split
  · split
    · exact h.insert _ _
    · exact h
  · exact h

end Agreement

namespace Envelope

variable {e : Envelope} {args₁ args₂ : Details}

/-- An envelope notifies alike of two details that agree outside its keys. -/
theorem notify_eq_of_agree (h : args₁.AgreeOutside e.redactKeys args₂) (code : Nat)
    (error : Option Failure) : e.notify code error args₁ = e.notify code error args₂ := by
  unfold notify event
  rw [redact_eq_of_agree h]

/-- An operation's entry record and its owed exit record, from arguments that agree outside
the keys and written by envelopes that mask the same keys, are the same records. -/
theorem bracket_eq_of_agree (h : args₁.AgreeOutside e.redactKeys args₂) (op : Operation)
    {e₂ : Envelope} (hkeys : e₂.redactKeys = e.redactKeys) (result : Except Failure (Option String)) :
    (e.traceEntry op args₁).2.2 ++
        ((e.traceEntry op args₁).2.1.map fun x => e₂.writeExit (x.record result)).toList =
      (e.traceEntry op args₂).2.2 ++
        ((e.traceEntry op args₂).2.1.map fun x => e₂.writeExit (x.record result)).toList := by
  rw [traceEntry_snd, traceEntry_snd]
  split
  · have hexit := ExitRecord.finalDetails_agree h op.exit result
    rw [← hkeys] at hexit
    simp only [Option.map_some, Option.toList_some, List.cons_append, List.nil_append,
      writeExit_eq, ExitRecord.record_code]
    rw [redact_eq_of_agree h, redact_eq_of_agree hexit]
  · rfl

/-- Two runs of one operation, from arguments that agree outside the envelope's keys, that end
in the same envelope with the same result, write the same records and send the same events,
provided the work keeps the keys. -/
theorem run_snd_eq_of_agree {α : Type} (detail : α → Option String) (op : Operation)
    (cancelled : Bool) {w₁ w₂ : Envelope → Envelope × Except Failure α}
    (h : args₁.AgreeOutside e.redactKeys args₂)
    (hstate : (e.run detail op args₁ cancelled w₁).1 = (e.run detail op args₂ cancelled w₂).1)
    (hresult : (e.run detail op args₁ cancelled w₁).2.1 = (e.run detail op args₂ cancelled w₂).2.1)
    (hkeys : (e.run detail op args₁ cancelled w₁).1.redactKeys = e.redactKeys) :
    (e.run detail op args₁ cancelled w₁).2 = (e.run detail op args₂ cancelled w₂).2 := by
  have hevent : (eventDetails op args₁ ((e.run detail op args₂ cancelled w₂).2.1.map detail)).AgreeOutside
      (e.run detail op args₂ cancelled w₂).1.redactKeys
      (eventDetails op args₂ ((e.run detail op args₂ cancelled w₂).2.1.map detail)) := by
    rw [← hstate, hkeys]
    exact eventDetails_agree h op _
  refine Prod.ext hresult (Effects.ext ?_ ?_)
  · rw [run_traces, run_traces, ← run_fst detail e op args₁ cancelled w₁,
      ← run_result detail e op args₁ cancelled w₁, ← run_fst detail e op args₂ cancelled w₂,
      ← run_result detail e op args₂ cancelled w₂, hstate, hresult]
    exact bracket_eq_of_agree h op (hstate ▸ hkeys) _
  · rw [run_deliveries, run_deliveries, hstate, hresult]
    split
    · split
      · rfl
      · exact notify_eq_of_agree hevent _ _
    · rfl

/-- Registering leaves the registry as it was for a taken id, and adds the newcomer at the end
for a new one. -/
theorem register_observers (o : Observer) :
    (e.register o).1.observers =
      some ⟨if o.id ∈ e.registeredIds then e.registered else e.registered ++ [o]⟩ := by
  rw [register_fst]
  show some (Registry.register ⟨e.registered⟩ o).1 = _
  by_cases h : o.id ∈ e.registeredIds
  · rw [Registry.register_of_mem (by simpa [registeredIds] using h), if_pos h]
  · rw [Registry.register_of_not_mem (by simpa [registeredIds] using h), if_neg h]

/-- Two registrations of ids that agree outside the keys, ending in the same envelope, write
the same records and send the same events: both ids were taken, or the newcomers are one. -/
theorem register_snd_eq_of_agree {o₁ o₂ : Observer}
    (h : (Details.empty.insert "observerID" o₁.id).AgreeOutside e.redactKeys
      (Details.empty.insert "observerID" o₂.id))
    (hstate : (e.register o₁).1 = (e.register o₂).1)
    (hkeys : (e.register o₂).1.redactKeys = e.redactKeys) : (e.register o₁).2 = (e.register o₂).2 := by
  have hjoins : ∀ {a b : Observer}, a.id ∈ e.registeredIds → b.id ∉ e.registeredIds →
      (e.register a).1.observers ≠ (e.register b).1.observers := by
    intro a b ha hb hobs
    rw [register_observers, register_observers, if_pos ha, if_neg hb] at hobs
    have hlen := congrArg List.length (Registry.mk.inj (Option.some.inj hobs))
    simp at hlen
  have hobs := congrArg Envelope.observers hstate
  by_cases h₁ : o₁.id ∈ e.registeredIds <;> by_cases h₂ : o₂.id ∈ e.registeredIds
  · -- both ids taken: nothing is sent, and the records agree
    apply Effects.ext
    · rw [register_traces, register_traces, hstate]
      exact bracket_eq_of_agree h _ hkeys _
    · rw [register_deliveries, register_deliveries, if_pos h₁, if_pos h₂]
  · exact absurd hobs (hjoins h₁ h₂)
  · exact absurd hobs.symm (hjoins h₂ h₁)
  · -- both new: the state holds the newcomer, so it is the same observer
    rw [register_observers, register_observers, if_neg h₁, if_neg h₂] at hobs
    have hsame : o₁ = o₂ := by simpa using hobs
    rw [hsame]

/-- Unregistering a registered id leaves the registry erased, and an unknown id leaves it. -/
theorem unregister_observers (id : String) :
    (e.unregister id).1.observers =
      if id ∈ e.registeredIds then
        (if e.registered.eraseP (·.id == id) = [] then none
        else some ⟨e.registered.eraseP (·.id == id)⟩)
      else e.observers := by
  rw [unregister_fst]
  split
  · rfl
  · exact traceEntry_observers e _ _

/-- Two unregistrations of ids that agree outside the keys, ending in the same envelope, write
the same records and send the same events: both ids were registered, or neither was. -/
theorem unregister_snd_eq_of_agree {id₁ id₂ : String}
    (h : (Details.empty.insert "observerID" id₁).AgreeOutside e.redactKeys
      (Details.empty.insert "observerID" id₂))
    (hstate : (e.unregister id₁).1 = (e.unregister id₂).1)
    (hkeys : (e.unregister id₂).1.redactKeys = e.redactKeys) :
    (e.unregister id₁).2 = (e.unregister id₂).2 := by
  have hleaves : ∀ {a b : String}, a ∈ e.registeredIds → b ∉ e.registeredIds →
      (e.unregister a).1.observers ≠ (e.unregister b).1.observers := by
    intro a b ha hb hobs
    rw [unregister_observers, unregister_observers, if_pos ha, if_neg hb,
      observers_of_mem_registeredIds ha] at hobs
    obtain ⟨p, hp, hpa⟩ := List.mem_map.1 ha
    split at hobs
    · cases hobs
    · have hlen := congrArg List.length (Registry.mk.inj (Option.some.inj hobs))
      rw [List.length_eraseP_of_mem hp (by simp [hpa])] at hlen
      have hpos : 0 < e.registered.length := List.length_pos_of_mem hp
      omega
  have hobs := congrArg Envelope.observers hstate
  apply Effects.ext
  · rw [unregister_traces, unregister_traces, hstate]
    exact bracket_eq_of_agree h _ hkeys _
  · rw [unregister_deliveries, unregister_deliveries]
    by_cases h₁ : id₁ ∈ e.registeredIds <;> by_cases h₂ : id₂ ∈ e.registeredIds
    · rw [if_pos h₁, if_pos h₂]
      exact notify_eq_of_agree h _ _
    · exact absurd hobs (hleaves h₁ h₂)
    · exact absurd hobs.symm (hleaves h₂ h₁)
    · rw [if_neg h₁, if_neg h₂]

end Envelope

/-- Two requests are one operation given arguments recorded alike outside the keys `K`: the
same method at the same place and the same cancellation, with details that agree outside `K`.
Arguments recorded under no key, an observer's behaviour and a stream's number may differ. -/
inductive Request.SameOutside (K : List String) : Request → Request → Prop
  | call {n : Nat} {m : Method} {args₁ args₂ : List Argument} {cancelled : Bool}
      (h : (m.details args₁).AgreeOutside K (m.details args₂)) :
      SameOutside K (.call n m args₁ cancelled) (.call n m args₂ cancelled)
  | register {o₁ o₂ : Observer}
      (h : (Details.empty.insert "observerID" o₁.id).AgreeOutside K
        (Details.empty.insert "observerID" o₂.id)) :
      SameOutside K (.register o₁) (.register o₂)
  | unregister {id₁ id₂ : String}
      (h : (Details.empty.insert "observerID" id₁).AgreeOutside K
        (Details.empty.insert "observerID" id₂)) :
      SameOutside K (.unregister id₁) (.unregister id₂)
  | setLogLevel {name₁ name₂ : String} {cancelled : Bool}
      (h : (Details.empty.insert "logLevel" name₁).AgreeOutside K
        (Details.empty.insert "logLevel" name₂)) :
      SameOutside K (.setLogLevel name₁ cancelled) (.setLogLevel name₂ cancelled)
  | setOrigin {origin₁ origin₂ : String} {cancelled : Bool}
      (h : (Details.empty.insert "origin" origin₁).AgreeOutside K
        (Details.empty.insert "origin" origin₂)) :
      SameOutside K (.setOrigin origin₁ cancelled) (.setOrigin origin₂ cancelled)
  | getOrigin {cancelled : Bool} : SameOutside K (.getOrigin cancelled) (.getOrigin cancelled)
  | openStream {n : Nat} {m : Method} {args₁ args₂ : List Argument} {cancelled : Bool}
      (h : (m.details args₁).AgreeOutside K (m.details args₂)) :
      SameOutside K (.openStream n m args₁ cancelled) (.openStream n m args₂ cancelled)
  | poll (k₁ k₂ : Nat) : SameOutside K (.poll k₁) (.poll k₂)
  | cancelStream (k₁ k₂ : Nat) : SameOutside K (.cancelStream k₁) (.cancelStream k₂)
  | dropStream (k₁ k₂ : Nat) : SameOutside K (.dropStream k₁) (.dropStream k₂)

/-- The failure a reply reports, if it reports one. -/
def Response.failure? : Response → Option Failure
  | .value (.error f) => some f
  | .done (.error f) => some f
  | .text (.error f) => some f
  | _ => Option.none

/-- Two results of an operation answering nothing are equal when they succeed alike or fail
with the same failure. -/
theorem Response.done_eq_of_failure? {x y : Except Failure Unit}
    (h : (Response.done x).failure? = (Response.done y).failure?) : x = y := by
  cases x with
  | ok a =>
      cases y with
      | ok b => rfl
      | error g => cases h
  | error f =>
      cases y with
      | ok b => cases h
      | error g =>
          cases h
          rfl

namespace Facade

variable (f : Facade)

/-- Every request keeps the keys the service masks. -/
theorem step_redactKeys (r : Request) :
    (f.step r).1.service.envelope.redactKeys = f.service.envelope.redactKeys := by
  unfold Envelope.redactKeys
  rw [step_redactor]

/-- Setting the origin leaves the new origin in the envelope. -/
theorem step_setOrigin_origin (origin : String) (cancelled : Bool) :
    (f.step (.setOrigin origin cancelled)).1.service.envelope.origin = origin := rfl

/-- Cancelling a stream answers nothing and writes and sends nothing. -/
theorem step_cancelStream_snd (k : Nat) : (f.step (.cancelStream k)).2 = (.none, {}) := by
  cases hst : f.stream? k with
  | none => rw [step_cancelStream_of_none hst]
  | some st => rw [step_cancelStream_of_some hst]

variable {f}

/-- Two calls with arguments that agree outside the masked keys answer, write and send the
same: the answer does not read the arguments. -/
theorem step_call_snd_eq_of_agree {n : Nat} {m : Method} {args₁ args₂ : List Argument}
    {cancelled : Bool}
    (h : (m.details args₁).AgreeOutside f.service.envelope.redactKeys (m.details args₂))
    (hstate : (f.step (.call n m args₁ cancelled)).1 = (f.step (.call n m args₂ cancelled)).1) :
    (f.step (.call n m args₁ cancelled)).2 = (f.step (.call n m args₂ cancelled)).2 := by
  let work := fun e => (e, (.ok (f.service.answer m e) : Except Failure Value))
  have hresult : (f.service.envelope.run Value.detail (m.operationAt n) (m.details args₁)
      cancelled work).2.1 =
      (f.service.envelope.run Value.detail (m.operationAt n) (m.details args₂) cancelled work).2.1 := by
    rw [Envelope.run_result, Envelope.run_result, Envelope.traceEntry_fst,
      Envelope.traceEntry_fst]
  have hrun := Envelope.run_snd_eq_of_agree Value.detail (m.operationAt n) cancelled h
    (congrArg (·.service.envelope) hstate) hresult (f.step_redactKeys (.call n m args₁ cancelled))
  exact congrArg (fun p => (Response.value p.1, p.2)) hrun

/-- Two level changes to names that agree outside the masked keys, succeeding alike or failing
with the same failure and ending in the same state, answer, write and send the same. -/
theorem step_setLogLevel_snd_eq_of_agree {name₁ name₂ : String} {cancelled : Bool}
    (h : (Details.empty.insert "logLevel" name₁).AgreeOutside f.service.envelope.redactKeys
      (Details.empty.insert "logLevel" name₂))
    (hstate : (f.step (.setLogLevel name₁ cancelled)).1 = (f.step (.setLogLevel name₂ cancelled)).1)
    (hfail : (f.step (.setLogLevel name₁ cancelled)).2.1.failure? =
      (f.step (.setLogLevel name₂ cancelled)).2.1.failure?) :
    (f.step (.setLogLevel name₁ cancelled)).2 = (f.step (.setLogLevel name₂ cancelled)).2 := by
  have hresult : (f.service.envelope.setLogLevel name₁ cancelled).2.1 =
      (f.service.envelope.setLogLevel name₂ cancelled).2.1 :=
    Response.done_eq_of_failure? hfail
  have hrun := Envelope.run_snd_eq_of_agree (fun _ => none) f.service.envelope.codes.setLogLevel
    cancelled h (congrArg (·.service.envelope) hstate) hresult
    (f.step_redactKeys (.setLogLevel name₁ cancelled))
  exact congrArg (fun p => (Response.done p.1, p.2)) hrun

/-- Two polls of different numbers that end in the same state polled ended streams or empty
numbers: a poll moves every stream that has not ended, and leaves the others. -/
theorem step_poll_snd_of_ne {k₁ k₂ : Nat} (hne : k₁ ≠ k₂)
    (hstate : (f.step (.poll k₁)).1 = (f.step (.poll k₂)).1) :
    (f.step (.poll k₁)).2 = (.item none, {}) := by
  cases hst : f.stream? k₁ with
  | none => rw [step_poll_of_none hst]
  | some st =>
      have hsame : (f.step (.poll k₁)).1.stream? k₁ = (f.step (.poll k₂)).1.stream? k₁ := by
        rw [hstate]
      rw [step_poll_stream?_self hst, step_poll_stream?_ne (Ne.symm hne), hst] at hsame
      have hend := Stream.poll_fst_eq_self (Option.some.inj hsame)
      rw [step_poll_of_some hst, Stream.poll_of_finished st f.service.envelope hend]

/-- Two drops of different numbers that end in the same state dropped empty numbers. -/
theorem step_dropStream_snd_of_ne {k₁ k₂ : Nat} (hne : k₁ ≠ k₂)
    (hstate : (f.step (.dropStream k₁)).1 = (f.step (.dropStream k₂)).1) :
    (f.step (.dropStream k₁)).2 = (.none, {}) := by
  have hsame : (f.step (.dropStream k₁)).1.stream? k₁ = (f.step (.dropStream k₂)).1.stream? k₁ := by
    rw [hstate]
  rw [step_dropStream_stream?_self, step_dropStream_stream?_ne (Ne.symm hne)] at hsame
  rw [step_dropStream_of_none hsame.symm]

end Facade

/-- Requests told apart only by masked values, ending alike and failing alike, answer alike. -/
theorem masked_arguments_leave_no_mark (f : Facade) (r₁ r₂ : Request)
    (hsame : r₁.SameOutside f.service.envelope.redactKeys r₂)
    (hstate : (f.step r₁).1 = (f.step r₂).1)
    (hfail : (f.step r₁).2.1.failure? = (f.step r₂).2.1.failure?) :
    (f.step r₁).2 = (f.step r₂).2 := by
  cases hsame with
  | call h => exact Facade.step_call_snd_eq_of_agree h hstate
  | @register o₁ o₂ h =>
      exact congrArg (fun fx => (Response.none, fx))
        (Envelope.register_snd_eq_of_agree h (congrArg (·.service.envelope) hstate)
          (f.step_redactKeys (.register o₂)))
  | @unregister id₁ id₂ h =>
      exact congrArg (fun fx => (Response.none, fx))
        (Envelope.unregister_snd_eq_of_agree h (congrArg (·.service.envelope) hstate)
          (f.step_redactKeys (.unregister id₂)))
  | setLogLevel h => exact Facade.step_setLogLevel_snd_eq_of_agree h hstate hfail
  | @setOrigin origin₁ origin₂ cancelled h =>
      have horigin : origin₁ = origin₂ := by
        rw [← f.step_setOrigin_origin origin₁ cancelled, ← f.step_setOrigin_origin origin₂ cancelled,
          hstate]
      rw [horigin]
  | getOrigin => rfl
  | openStream h => rfl
  | poll k₁ k₂ =>
      by_cases hk : k₁ = k₂
      · rw [hk]
      · rw [Facade.step_poll_snd_of_ne hk hstate, Facade.step_poll_snd_of_ne (Ne.symm hk) hstate.symm]
  | cancelStream k₁ k₂ => rw [f.step_cancelStream_snd, f.step_cancelStream_snd]
  | dropStream k₁ k₂ =>
      by_cases hk : k₁ = k₂
      · rw [hk]
      · rw [Facade.step_dropStream_snd_of_ne hk hstate,
          Facade.step_dropStream_snd_of_ne (Ne.symm hk) hstate.symm]

/-- With `logLevel` masked, any two level changes with one token are told apart by nothing
outside the masked keys. -/
theorem Request.sameOutside_setLogLevel {K : List String} (hmasked : "logLevel" ∈ K)
    (name₁ name₂ : String) (cancelled : Bool) :
    (Request.setLogLevel name₁ cancelled).SameOutside K (.setLogLevel name₂ cancelled) :=
  .setLogLevel (Details.agreeOutside_single "logLevel" fun hout => absurd hmasked hout)

/-- A product of a TRACE factory that masks `logLevel`, with an observer registered. -/
def levelTracingProduct : Facade :=
  ((Facade.ofService (Factory.build ⟨Bag.empty, { level := .trace, redactKeys := ["logLevel"] }⟩
    .product)).step (.register ⟨"O", .script .accept⟩)).1

/-- Setting TRACE by two spellings on a product that masks `logLevel`: each writes an entry and
an exit record and sends an event, all with the name masked, and the two do so alike. -/
theorem level_spellings_leave_no_mark :
    (Request.setLogLevel "TRACE" false).SameOutside levelTracingProduct.service.envelope.redactKeys
        (.setLogLevel "trace" false) ∧
      (levelTracingProduct.step (.setLogLevel "TRACE" false)).1 =
        (levelTracingProduct.step (.setLogLevel "trace" false)).1 ∧
      (levelTracingProduct.step (.setLogLevel "TRACE" false)).2.1.failure? =
        (levelTracingProduct.step (.setLogLevel "trace" false)).2.1.failure? ∧
      (levelTracingProduct.step (.setLogLevel "TRACE" false)).2 =
        (levelTracingProduct.step (.setLogLevel "trace" false)).2 ∧
      (levelTracingProduct.step (.setLogLevel "TRACE" false)).2.2.traces.map
          (fun t => match t with
            | .record _ _ _ d => d.get? "logLevel"
            | .warning .. => none) = [some "****", some "****"] ∧
      (levelTracingProduct.step (.setLogLevel "TRACE" false)).2.2.deliveries.map
          (·.event.details) = [Details.empty.insert "logLevel" "****"] :=
  have hsame : (Request.setLogLevel "TRACE" false).SameOutside
      levelTracingProduct.service.envelope.redactKeys (.setLogLevel "trace" false) :=
    Request.sameOutside_setLogLevel (List.mem_singleton_self _) _ _ _
  ⟨hsame, rfl, rfl, masked_arguments_leave_no_mark _ _ _ hsame rfl rfl, rfl, rfl⟩

/-- A product built directly that masks `logLevel`, with an observer registered. -/
def levelMaskingProduct : Facade :=
  ((Facade.ofService (Session.buildOwn ⟨Bag.empty, Factory.initial, [], [], []⟩ "p" .product .blank
    { redact := some ["logLevel"] }).1).step (.register ⟨"O", .script .accept⟩)).1

/-- Requests told apart only by masked values may fail differently, and then answer
differently: with `logLevel` masked, the unknown names FOO and BAR both fail and leave the same
state, but each failure quotes its own name. -/
theorem failures_name_masked_levels :
    ¬ ∀ (f : Facade) (r₁ r₂ : Request), r₁.SameOutside f.service.envelope.redactKeys r₂ →
      (f.step r₁).1 = (f.step r₂).1 →
      (f.step r₁).2.1.failure?.isSome = (f.step r₂).2.1.failure?.isSome →
      (f.step r₁).2 = (f.step r₂).2 := by
  intro hclaim
  have hfoo : (levelMaskingProduct.step (.setLogLevel "FOO" false)).2.1 =
      .done (.error (Failure.unknownLevel .product "FOO")) := rfl
  have hbar : (levelMaskingProduct.step (.setLogLevel "BAR" false)).2.1 =
      .done (.error (Failure.unknownLevel .product "BAR")) := rfl
  have hsame : (Request.setLogLevel "FOO" false).SameOutside
      levelMaskingProduct.service.envelope.redactKeys (.setLogLevel "BAR" false) :=
    Request.sameOutside_setLogLevel (List.mem_singleton_self _) _ _ _
  have hfooKept : (levelMaskingProduct.step (.setLogLevel "FOO" false)).1 = levelMaskingProduct := rfl
  have hbarKept : (levelMaskingProduct.step (.setLogLevel "BAR" false)).1 = levelMaskingProduct := rfl
  have hanswers := congrArg Prod.fst (hclaim levelMaskingProduct _ _ hsame
    (hfooKept.trans hbarKept.symm) (by simp only [hfoo, hbar, Response.failure?, Option.isSome_some]))
  rw [hfoo, hbar] at hanswers
  have hnames := Failure.eq_of_unknownLevel_eq (Except.error.inj (Response.done.inj hanswers))
  exact absurd hnames (by decide)

end StubSdk
