import StubSdk.Registry

/-!
Registries read as lists: registering appends an observer with a new id, unregistering erases
the first one with the id, and notifying hands the event to each observer once, in order. The
envelope's registry operations are proved from these facts.
-/

namespace StubSdk

namespace Observer

/-- Whatever an observer leaves visible names it and carries the event it was handed. -/
theorem mem_take {o : Observer} {ev : Event} {d : Delivery} (h : d ∈ (o.take ev).1) :
    d.observer = o.id ∧ d.event = ev := by
  unfold take at h
  split at h <;> simp_all

end Observer

namespace Registry

@[simp] theorem empty_observers : empty.observers = [] := rfl

@[simp] theorem ids_mk (os : List Observer) : (⟨os⟩ : Registry).ids = os.map (·.id) := rfl

theorem contains_iff (r : Registry) (id : String) : r.contains id = true ↔ id ∈ r.ids := by
  simp [contains, ids]

theorem contains_eq_false_iff (r : Registry) (id : String) :
    r.contains id = false ↔ id ∉ r.ids := by
  rw [← contains_iff, Bool.not_eq_true]

theorem register_of_mem {r : Registry} {o : Observer} (h : o.id ∈ r.ids) :
    r.register o = (r, false) := by
  simp [register, (contains_iff r o.id).2 h]

theorem register_of_not_mem {r : Registry} {o : Observer} (h : o.id ∉ r.ids) :
    r.register o = (⟨r.observers ++ [o]⟩, true) := by
  simp [register, (contains_eq_false_iff r o.id).2 h]

/-- Taking an id out of a list is finding its first observer and erasing that one. -/
theorem takeOut_eq (id : String) (os : List Observer) :
    takeOut id os = (os.find? (·.id == id), os.eraseP (·.id == id)) := by
  induction os with
  | nil => rfl
  | cons o rest ih =>
      by_cases h : o.id = id
      · simp [takeOut, h]
      · simp [takeOut, h, ih]

theorem unregister_eq (r : Registry) (id : String) :
    r.unregister id =
      (⟨r.observers.eraseP (·.id == id)⟩, r.observers.find? (·.id == id)) := by
  simp [unregister, takeOut_eq]

/-- Erasing an observer keeps the ids of the others distinct. -/
theorem nodup_ids_eraseP {os : List Observer} (h : (os.map (·.id)).Nodup) (id : String) :
    ((os.eraseP (·.id == id)).map (·.id)).Nodup :=
  h.sublist (List.eraseP_sublist.map _)

/-- Appending an observer with a new id keeps the ids distinct. -/
theorem nodup_ids_append {os : List Observer} {o : Observer} (h : (os.map (·.id)).Nodup)
    (hnew : o.id ∉ os.map (·.id)) : ((os ++ [o]).map (·.id)).Nodup := by
  rw [List.map_append, List.nodup_append]
  refine ⟨h, by simp, ?_⟩
  intro a ha b hb
  simp only [List.map_cons, List.map_nil, List.mem_singleton] at hb
  subst hb
  exact fun hab => hnew (hab ▸ ha)

@[simp] theorem deliver_mk (os : List Observer) (ev : Event) :
    (⟨os⟩ : Registry).deliver ev = os.flatMap fun o => (o.take ev).1 := rfl

/-- Every delivery of a notification goes to a registered observer and carries the event. -/
theorem mem_deliver {r : Registry} {ev : Event} {d : Delivery} (h : d ∈ r.deliver ev) :
    d.observer ∈ r.ids ∧ d.event = ev := by
  simp only [deliver, List.mem_flatMap] at h
  obtain ⟨o, ho, hd⟩ := h
  obtain ⟨hid, hev⟩ := Observer.mem_take hd
  exact ⟨hid ▸ List.mem_map_of_mem ho, hev⟩

end Registry

end StubSdk
