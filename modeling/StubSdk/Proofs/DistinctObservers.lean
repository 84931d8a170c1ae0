import StubSdk.Proofs.Registry

/-!
A registry refines a list of observers with distinct ids. The registry erases only the first
observer with an id, which with distinct ids is the only one, so every run of requests answers
as the list does; the proof is a simulation with one lemma per request.
-/

namespace StubSdk

/-- Observers in registration order with pairwise distinct ids. -/
structure DistinctObservers where
  list : List Observer
  nodup : (list.map (·.id)).Nodup

namespace DistinctObservers

/-- No observer. -/
def empty : DistinctObservers := ⟨[], List.nodup_nil⟩

/-- The ids, in registration order. -/
def ids (s : DistinctObservers) : List String :=
  s.list.map (·.id)

/-- Adds an observer at the end when its id is new, and tells whether it did. -/
def add (s : DistinctObservers) (o : Observer) : DistinctObservers × Bool :=
  if h : o.id ∈ s.ids then (s, false)
  else (⟨s.list ++ [o], Registry.nodup_ids_append s.nodup h⟩, true)

/-- Removes the observers with an id, the others keeping their order, and gives back the
observer found with it. -/
def remove (s : DistinctObservers) (id : String) : DistinctObservers × Option Observer :=
  (⟨s.list.filter (·.id != id), s.nodup.sublist (List.filter_sublist.map _)⟩,
    s.list.find? (·.id == id))

/-- What the list answers to a request, and the list after it. -/
def serve (s : DistinctObservers) : Registry.Request → DistinctObservers × Registry.Reply
  | .register o => ((s.add o).1, .flag (s.add o).2)
  | .unregister id => ((s.remove id).1, .removed (s.remove id).2)
  | .contains id => (s, .flag (decide (id ∈ s.ids)))
  | .hasObservers => (s, .flag (decide (s.list ≠ [])))
  | .isEmpty => (s, .flag (decide (s.list = [])))
  | .size => (s, .count s.list.length)
  | .ids => (s, .ids s.ids)
  | .debug => (s, .text ("ObserverRegistry \x7b ids: " ++ Text.quoteList s.ids ++ " \x7d"))
  | .notify e inRuntime =>
    (s, .tasks (if inRuntime then s.list.map fun o => ⟨o, o.take e⟩ else []))

/-- Serves requests one after the other: the list at the end and the answers in order. -/
def serveAll (s : DistinctObservers) : List Registry.Request →
    DistinctObservers × List Registry.Reply
  | [] => (s, [])
  | q :: rest => (((s.serve q).1.serveAll rest).1, (s.serve q).2 :: ((s.serve q).1.serveAll rest).2)

end DistinctObservers

namespace Registry

/-- Serves requests one after the other: the registry at the end and the answers in order. -/
def serveAll (r : Registry) : List Request → Registry × List Reply
  | [] => (r, [])
  | q :: rest => (((r.serve q).1.serveAll rest).1, (r.serve q).2 :: ((r.serve q).1.serveAll rest).2)

/-- With distinct ids, erasing the first observer with an id erases every observer with it. -/
theorem eraseP_eq_filter_of_nodup {os : List Observer} (h : (os.map (·.id)).Nodup)
    (id : String) : os.eraseP (·.id == id) = os.filter (·.id != id) := by
  induction os with
  | nil => rfl
  | cons o rest ih =>
      obtain ⟨hfresh, hrest⟩ := List.nodup_cons.1 h
      by_cases ho : o.id = id
      · -- the head goes, and no later observer has its id
        have hkeep : ∀ p ∈ rest, (p.id != id) = true := by
          intro p hp
          have hne : p.id ≠ o.id := fun heq => hfresh (List.mem_map.2 ⟨p, hp, heq⟩)
          simpa [← ho] using hne
        rw [List.eraseP_cons_of_pos (by simpa using ho), List.filter_cons_of_neg (by simpa using ho),
          List.filter_eq_self.2 hkeep]
      · rw [List.eraseP_cons_of_neg (by simpa using ho), List.filter_cons_of_pos (by simpa using ho),
          ih hrest]

theorem contains_eq_decide (r : Registry) (id : String) : r.contains id = decide (id ∈ r.ids) := by
  rw [Bool.eq_iff_iff, contains_iff, decide_eq_true_iff]

theorem hasObservers_eq_decide (r : Registry) : r.hasObservers = decide (r.observers ≠ []) := by
  cases h : r.observers <;> simp [hasObservers, isEmpty, h]

theorem isEmpty_eq_decide (r : Registry) : r.isEmpty = decide (r.observers = []) := by
  cases h : r.observers <;> simp [isEmpty, h]

/-- One request is served by the registry as by the list it stands for: the same answer, and
the registry after it stands for the list after it. -/
theorem serve_refines {r : Registry} {s : DistinctObservers} (h : r.observers = s.list)
    (q : Request) : (r.serve q).1.observers = (s.serve q).1.list ∧ (r.serve q).2 = (s.serve q).2 := by
  have hids : r.ids = s.ids := by rw [ids, h]; rfl
  cases q with
  | register o =>
      by_cases hmem : o.id ∈ s.ids
      · have hmem' : o.id ∈ r.ids := hids ▸ hmem
        rw [serve, DistinctObservers.serve, DistinctObservers.add, register_of_mem hmem',
          dif_pos hmem]
        exact ⟨h, rfl⟩
      · have hmem' : o.id ∉ r.ids := hids ▸ hmem
        rw [serve, DistinctObservers.serve, DistinctObservers.add, register_of_not_mem hmem',
          dif_neg hmem]
        exact ⟨by rw [h], rfl⟩
  | unregister id =>
      rw [serve, DistinctObservers.serve, DistinctObservers.remove, unregister_eq, h,
        eraseP_eq_filter_of_nodup s.nodup]
      exact ⟨rfl, rfl⟩
  | contains id => exact ⟨h, by rw [serve, DistinctObservers.serve, contains_eq_decide, hids]⟩
  | hasObservers => exact ⟨h, by rw [serve, DistinctObservers.serve, hasObservers_eq_decide, h]⟩
  | isEmpty => exact ⟨h, by rw [serve, DistinctObservers.serve, isEmpty_eq_decide, h]⟩
  | size => exact ⟨h, by rw [serve, DistinctObservers.serve, size, h]⟩
  | ids => exact ⟨h, by rw [serve, DistinctObservers.serve, hids]⟩
  | debug =>
      refine ⟨h, ?_⟩
      rw [serve, DistinctObservers.serve]
      unfold debugText
      rw [hids]
  | notify e inRuntime => exact ⟨h, by rw [serve, DistinctObservers.serve, notify, h]⟩

/-- Every run of requests is served by the registry as by the list it stands for. -/
theorem serveAll_refines {r : Registry} {s : DistinctObservers} (h : r.observers = s.list)
    (reqs : List Request) :
    (r.serveAll reqs).1.observers = (s.serveAll reqs).1.list ∧
      (r.serveAll reqs).2 = (s.serveAll reqs).2 := by
  induction reqs generalizing r s with
  | nil => exact ⟨h, rfl⟩
  | cons q rest ih =>
      obtain ⟨hnext, hreply⟩ := serve_refines h q
      obtain ⟨hobs, hrest⟩ := ih hnext
      exact ⟨hobs, by rw [serveAll, DistinctObservers.serveAll, hreply, hrest]⟩

end Registry

/-- Every run of requests from the empty registry answers as a list of observers with distinct ids. -/
theorem registry_refines_distinct_observers (reqs : List Registry.Request) :
    (Registry.empty.serveAll reqs).1.observers = (DistinctObservers.empty.serveAll reqs).1.list ∧
      (Registry.empty.serveAll reqs).2 = (DistinctObservers.empty.serveAll reqs).2 ∧
      (Registry.empty.serveAll reqs).1.ids.Nodup := by
  obtain ⟨hobs, hreplies⟩ :=
    Registry.serveAll_refines (r := Registry.empty) (s := DistinctObservers.empty) rfl reqs
  refine ⟨hobs, hreplies, ?_⟩
  rw [Registry.ids, hobs]
  exact (DistinctObservers.empty.serveAll reqs).1.nodup

end StubSdk
