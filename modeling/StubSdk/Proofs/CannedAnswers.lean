import Mathlib.Data.Finset.Card
import StubSdk.Proofs.Presets

/-!
Canned answers. A bag built from pairs holds the value of the last pair of each key, and a
method answering a value answers the typed read of its service's bag under its result key at
every call, since no request changes the bag.
-/

namespace StubSdk

namespace Bag

/-- The keys of a bag, in order. -/
def keys (b : Bag) : List String :=
  b.entries.map Prod.fst

/-- The value the last pair with a key carries, if any pair has that key. -/
def lastValue (pairs : List (String × Canned)) (k : String) : Option Canned :=
  ((pairs.filter fun p => p.1 == k).getLast?).map Prod.snd

theorem lookup_cons_of_ne {k k' : String} {v : Canned} {es : List (String × Canned)}
    (h : k' ≠ k) : ((k, v) :: es).lookup k' = es.lookup k' := by
  rw [List.lookup_cons, beq_false_of_ne h]

/-- Putting a value under a key: the key then holds it, and every other key what it held. -/
theorem lookup_putEntry (k : String) (v : Canned) (es : List (String × Canned)) (k' : String) :
    (putEntry k v es).lookup k' = if k' = k then some v else es.lookup k' := by
  induction es with
  | nil =>
      by_cases h : k' = k
      · subst h
        simp [putEntry]
      · simp [putEntry, h, lookup_cons_of_ne h]
  | cons e rest ih =>
      obtain ⟨k₀, v₀⟩ := e
      by_cases hk : k = k₀
      · -- the key is replaced in place
        subst hk
        by_cases h : k' = k
        · subst h
          simp [putEntry]
        · simp [putEntry, h, lookup_cons_of_ne h]
      · by_cases h : k' = k₀
        · subst h
          simp [putEntry, hk, Ne.symm hk]
        · rw [putEntry, if_neg hk, lookup_cons_of_ne h, lookup_cons_of_ne h, ih]

/-- Putting a value under a key replaces it in place, or adds the key at the end. -/
theorem keys_putEntry (k : String) (v : Canned) (es : List (String × Canned)) :
    (putEntry k v es).map Prod.fst =
      if k ∈ es.map Prod.fst then es.map Prod.fst else es.map Prod.fst ++ [k] := by
  induction es with
  | nil => rfl
  | cons e rest ih =>
      obtain ⟨k₀, v₀⟩ := e
      by_cases hk : k = k₀
      · subst hk
        simp [putEntry]
      · simp only [putEntry, hk, if_false, List.map_cons, ih, List.mem_cons]
        split <;> simp_all

theorem get?_insert (b : Bag) (k : String) (v : Canned) (k' : String) :
    (b.insert k v).get? k' = if k' = k then some v else b.get? k' :=
  lookup_putEntry k v b.entries k'

theorem keys_insert (b : Bag) (k : String) (v : Canned) :
    (b.insert k v).keys = if k ∈ b.keys then b.keys else b.keys ++ [k] :=
  keys_putEntry k v b.entries

theorem ofList_append_singleton (pairs : List (String × Canned)) (k : String) (v : Canned) :
    ofList (pairs ++ [(k, v)]) = (ofList pairs).insert k v := by
  unfold ofList
  rw [List.foldl_append]
  rfl

theorem lastValue_append_singleton (pairs : List (String × Canned)) (k : String) (v : Canned)
    (k' : String) :
    lastValue (pairs ++ [(k, v)]) k' = if k' = k then some v else lastValue pairs k' := by
  unfold lastValue
  by_cases h : k' = k
  · subst h
    simp [List.filter_append]
  · simp [List.filter_append, h, Ne.symm h]

/-- The bag of a list of pairs holds, under each key, the value of the last pair with it. -/
theorem get?_ofList (pairs : List (String × Canned)) (k : String) :
    (ofList pairs).get? k = lastValue pairs k := by
  induction pairs using List.reverseRecOn with
  | nil => rfl
  | append_singleton pairs p ih =>
      obtain ⟨k', v⟩ := p
      rw [ofList_append_singleton, get?_insert, lastValue_append_singleton, ih]

/-- The bag of a list of pairs has each key of the list once. -/
theorem keys_ofList (pairs : List (String × Canned)) :
    (ofList pairs).keys.Nodup ∧ ∀ k, k ∈ (ofList pairs).keys ↔ k ∈ pairs.map Prod.fst := by
  induction pairs using List.reverseRecOn with
  | nil => exact ⟨List.nodup_nil, fun _ => Iff.rfl⟩
  | append_singleton pairs p ih =>
      obtain ⟨k', v⟩ := p
      obtain ⟨hnodup, hmem⟩ := ih
      rw [ofList_append_singleton, keys_insert]
      refine ⟨?_, fun k => ?_⟩
      · split
        · exact hnodup
        · rename_i hnew
          exact List.nodup_append.2 ⟨hnodup, List.nodup_singleton k',
            fun a ha b hb => by rw [List.mem_singleton.1 hb]; rintro rfl; exact hnew ha⟩
      · split <;> simp_all [or_comm]

/-- A bag built from pairs has as many values as the pairs have distinct keys. -/
theorem size_ofList (pairs : List (String × Canned)) :
    (ofList pairs).size = (pairs.map Prod.fst).toFinset.card := by
  obtain ⟨hnodup, hmem⟩ := keys_ofList pairs
  have hkeys : (ofList pairs).keys.toFinset = (pairs.map Prod.fst).toFinset := by
    ext k
    rw [List.mem_toFinset, List.mem_toFinset, hmem]
  rw [← hkeys, List.toFinset_card_of_nodup hnodup, keys, List.length_map]
  rfl

end Bag

/-- A call answers from the service's bag, with the envelope as the call's entry record leaves
it. -/
theorem Facade.step_call_answer (f : Facade) (n : Nat) (m : Method) (args : List Argument)
    (cancelled : Bool) :
    (f.step (.call n m args cancelled)).2.1 =
      .value (.ok (f.service.answer m
        (f.service.envelope.traceEntry (m.operationAt n) (m.details args)).1)) := rfl

/-- Every call answers the last canned value of its result key, from the bag it was built from. -/
theorem canned_answers_follow_the_last_pair :
    (∀ (pairs : List (String × Canned)) (k : String),
      (Bag.ofList pairs).get? k = Bag.lastValue pairs k ∧
      (Bag.ofList pairs).int64 k =
        (match Bag.lastValue pairs k with
          | some (.int64 v) => v
          | _ => 0) ∧
      (Bag.ofList pairs).text k =
        (match Bag.lastValue pairs k with
          | some (.text v) => v
          | _ => "") ∧
      (Bag.ofList pairs).handle k =
        (match Bag.lastValue pairs k with
          | some (.handle v) => v
          | _ => 0)) ∧
    (∀ pairs : List (String × Canned),
      (Bag.ofList pairs).size = (pairs.map Prod.fst).toFinset.card) ∧
    (∀ (f : Facade) (rs : List Request) (n : Nat) (m : Method) (args : List Argument)
        (cancelled : Bool),
      (m.answer = .text → ((f.run rs).1.step (.call n m args cancelled)).2.1 =
        .value (.ok (.text (f.service.values.text (m.operation ++ "Result"))))) ∧
      (m.answer = .int64 → ((f.run rs).1.step (.call n m args cancelled)).2.1 =
        .value (.ok (.int64 (f.service.values.int64 (m.operation ++ "Result"))))) ∧
      (m.answer = .handle → ((f.run rs).1.step (.call n m args cancelled)).2.1 =
        .value (.ok (.handle (f.service.values.handle (m.operation ++ "Result")))))) ∧
    (∀ (fac : Factory) (c : Component), (fac.build c).values = fac.values) ∧
    (∀ (c : Component) (values : Bag), (Service.ofBag c values).values = values) ∧
    (∀ (f : Facade) (n : Nat) (m : Method) (args : List Argument) (cancelled : Bool)
        (made : Service),
      (f.step (.call n m args cancelled)).2.1 = .value (.ok (.config made)) →
      made.values = f.service.values) := by
  refine ⟨fun pairs k => ?reads, Bag.size_ofList, fun f rs n m args cancelled => ?calls,
    fun _ _ => rfl, fun _ _ => rfl, fun f n m args cancelled made hmade => ?made⟩
  case reads =>
    refine ⟨Bag.get?_ofList pairs k, ?_, ?_, ?_⟩ <;> rw [← Bag.get?_ofList] <;> rfl
  case calls =>
    obtain ⟨e, he⟩ := f.run_service_eq rs
    have hanswer : ((f.run rs).1.step (.call n m args cancelled)).2.1 =
        .value (.ok ({ f.service with envelope := e }.answer m
          (e.traceEntry (m.operationAt n) (m.details args)).1)) := by
      rw [Facade.step_call_answer, he]
    refine ⟨fun hk => ?_, fun hk => ?_, fun hk => ?_⟩ <;> rw [hanswer, Service.answer, hk] <;> rfl
  case made =>
    rw [Facade.step_call_made hmade]
    rfl

example : (Component.engine.method? "get_virtual_entity_by_record_id").map
    (fun p => (p.2.answer, p.2.resultKey)) = some (.text, "GetVirtualEntityByRecordIDResult") := by
  decide

example : (Component.engine.method? "export_json_entity_report").map
    (fun p => (p.2.answer, p.2.resultKey)) = some (.handle, "ExportJSONEntityReportResult") := by
  decide

/-- A manager's method reading a config by id, sixth in its code table. -/
def Method.getConfig : Method :=
  { name := "get_config", operation := "GetConfig", answer := .text,
    params := [.int64 "config_id" "configID"] }

example : Component.configManager.method? "get_config" = some (6, Method.getConfig) := rfl

/-- The manager of a TRACE factory, after a level change and a registration, answers a cancelled
`get_config` with the config its bag holds, and the config it makes reads that same bag. -/
theorem trace_manager_answers_from_its_bag :
    Method.getConfig.answer = .text ∧
    (((Facade.ofService (configIdMaskingFactory.build .configManager)).run
        [.setLogLevel "DEBUG" false, .register ⟨"O", .script .accept⟩]).1.step
        (.call 6 .getConfig [.int64 7] true)).2.1 =
      .value (.ok (.text ((Facade.ofService (configIdMaskingFactory.build .configManager)).service.values.text
        (Method.getConfig.operation ++ "Result")))) ∧
    (configIdMaskingFactory.build .configManager).values.text "GetConfigResult" = "config 7" ∧
    ((Facade.ofService (configIdMaskingFactory.build .configManager)).step
        (.call 2 .configFromId [.int64 7] false)).2.1 =
      .value (.ok (.config (Service.preset .config configIdMaskingFactory.values "billing" .trace
        true (some ⟨["configID"]⟩)))) ∧
    (Service.preset .config configIdMaskingFactory.values "billing" .trace true
        (some ⟨["configID"]⟩)).values =
      (Facade.ofService (configIdMaskingFactory.build .configManager)).service.values := by
  have hmade : ((Facade.ofService (configIdMaskingFactory.build .configManager)).step
      (.call 2 .configFromId [.int64 7] false)).2.1 =
      .value (.ok (.config (Service.preset .config configIdMaskingFactory.values "billing" .trace
        true (some ⟨["configID"]⟩)))) := rfl
  obtain ⟨-, -, hcalls, -, -, hvalues⟩ := canned_answers_follow_the_last_pair
  exact ⟨rfl, (hcalls _ _ _ _ _ _).1 rfl, rfl, hmade, hvalues _ _ _ _ _ _ hmade⟩

end StubSdk
