import Mathlib.Data.List.Sort
import Mathlib.Data.String.Basic
import Mathlib.Data.Finset.Card
import StubSdk.Details

/-!
Details built from pairs, by inserting them one after the other or by collecting them as an
ordered map does, are the same: each key once, in increasing order, with the value of its last
pair. A list with increasing keys is fixed by its members, which both constructions share.
-/

namespace StubSdk

namespace Details

/-- The value the last pair with a key carries, if any pair has that key. -/
def lastValue (pairs : List (String × String)) (k : String) : Option String :=
  ((pairs.filter fun p => p.1 == k).getLast?).map Prod.snd

/-- Entries whose keys strictly increase. -/
def KeysIncrease (es : List (String × String)) : Prop :=
  es.Pairwise fun a b => a.1 < b.1

/-! ## The last pair of a key -/

section LastValue

variable (pairs : List (String × String)) (k : String)

/-- A pair in front counts only for its own key, and only when no later pair has that key. -/
theorem lastValue_cons (p : String × String) :
    lastValue (p :: pairs) k = (lastValue pairs k).or (if p.1 = k then some p.2 else none) := by
  unfold lastValue
  by_cases hp : p.1 = k
  · rw [List.filter_cons_of_pos (by simpa using hp), List.getLast?_cons, if_pos hp]
    cases (pairs.filter fun p => p.1 == k).getLast? <;> rfl
  · rw [List.filter_cons_of_neg (by simpa using hp), if_neg hp, Option.or_none]

theorem lastValue_append_singleton (v : String) (k' : String) :
    lastValue (pairs ++ [(k, v)]) k' = if k' = k then some v else lastValue pairs k' := by
  unfold lastValue
  by_cases h : k' = k
  · subst h
    simp [List.filter_append]
  · simp [List.filter_append, h, Ne.symm h]

theorem lastValue_isSome_iff : (lastValue pairs k).isSome ↔ k ∈ pairs.map Prod.fst := by
  simp [lastValue]

theorem lastValue_eq_none_iff : lastValue pairs k = none ↔ k ∉ pairs.map Prod.fst := by
  rw [← lastValue_isSome_iff, Option.not_isSome_iff_eq_none]

end LastValue

/-! ## Entries with increasing keys -/

section Increasing

variable {es : List (String × String)}

/-- In entries with increasing keys an entry is there exactly when looking its key up finds
its value. -/
theorem mem_iff_lookup (h : KeysIncrease es) (k v : String) : (k, v) ∈ es ↔ es.lookup k = some v := by
  induction es with
  | nil => simp
  | cons e rest ih =>
      obtain ⟨k', v'⟩ := e
      obtain ⟨hhead, hrest⟩ := List.pairwise_cons.1 h
      by_cases hk : k = k'
      · -- the head holds the key, which no later entry can hold
        subst hk
        have hnot : (k, v) ∉ rest := fun hmem => lt_irrefl k (hhead (k, v) hmem)
        simp [hnot, eq_comm]
      · have hne : (k, v) ≠ (k', v') := fun heq => hk (congrArg Prod.fst heq)
        rw [List.mem_cons, List.lookup_cons, beq_false_of_ne hk, ← ih hrest]
        simp [hne]

/-- Entries with increasing keys hold each key once. -/
theorem KeysIncrease.keys_nodup (h : KeysIncrease es) : (es.map Prod.fst).Nodup :=
  (List.pairwise_map.2 h).imp ne_of_lt

/-- A list with increasing keys is fixed by the entries it holds. -/
theorem KeysIncrease.eq_of_mem_iff {es' : List (String × String)} (h : KeysIncrease es)
    (h' : KeysIncrease es') (hmem : ∀ e, e ∈ es ↔ e ∈ es') : es = es' :=
  haveI : Std.Irrefl (fun a b : String × String => a.1 < b.1) := ⟨fun a => lt_irrefl a.1⟩
  haveI : Std.Antisymm (fun a b : String × String => a.1 < b.1) :=
    ⟨fun a _ hab hba => absurd (hab.trans hba) (lt_irrefl a.1)⟩
  List.Pairwise.eq_of_mem_iff h h' hmem

end Increasing

/-! ## Inserting one pair -/

section Insert

variable (k v : String)

/-- Inserting reads back: the key holds the new value, every other key what it held. -/
theorem lookup_insertSorted (es : List (String × String)) (k' : String) :
    (insertSorted k v es).lookup k' = if k' = k then some v else es.lookup k' := by
  fun_induction insertSorted k v es with
  | case1 =>
      by_cases h : k' = k
      · simp [h]
      · simp [List.lookup_cons, beq_false_of_ne h, h]
  | case2 kₑ vₑ rest hlt =>
      by_cases h : k' = k
      · simp [h]
      · simp [List.lookup_cons, beq_false_of_ne h, h]
  | case3 vₑ rest hlt =>
      by_cases h : k' = k
      · simp [h]
      · simp [List.lookup_cons, beq_false_of_ne h, h]
  | case4 kₑ vₑ rest hlt hne ih =>
      by_cases h : k' = kₑ
      · -- the entry in front keeps its key, which is not the inserted one
        subst h
        simp [Ne.symm hne]
      · rw [List.lookup_cons, beq_false_of_ne h, ih, List.lookup_cons, beq_false_of_ne h]

/-- Inserting adds nothing but the new entry. -/
theorem mem_insertSorted {es : List (String × String)} {e : String × String}
    (h : e ∈ insertSorted k v es) : e = (k, v) ∨ e ∈ es := by
  fun_induction insertSorted k v es with
  | case1 => simpa using h
  | case2 => simpa [or_comm, or_left_comm] using h
  | case3 vₑ rest hlt =>
      rcases List.mem_cons.1 h with h | h
      · exact .inl h
      · exact .inr (List.mem_cons_of_mem _ h)
  | case4 kₑ vₑ rest hlt hne ih =>
      rcases List.mem_cons.1 h with h | h
      · exact .inr (h ▸ List.mem_cons_self)
      · rcases ih h with h | h
        · exact .inl h
        · exact .inr (List.mem_cons_of_mem _ h)

/-- Inserting keeps the keys increasing: the new entry goes before the first larger key. -/
theorem keysIncrease_insertSorted {es : List (String × String)} (h : KeysIncrease es) :
    KeysIncrease (insertSorted k v es) := by
  fun_induction insertSorted k v es with
  | case1 => exact List.pairwise_singleton _ _
  | case2 kₑ vₑ rest hlt =>
      obtain ⟨hhead, hrest⟩ := List.pairwise_cons.1 h
      refine List.pairwise_cons.2 ⟨fun e he => ?_, h⟩
      rcases List.mem_cons.1 he with rfl | he
      · exact hlt
      · exact hlt.trans (hhead e he)
  | case3 vₑ rest hlt =>
      obtain ⟨hhead, hrest⟩ := List.pairwise_cons.1 h
      exact List.pairwise_cons.2 ⟨hhead, hrest⟩
  | case4 kₑ vₑ rest hlt hne ih =>
      obtain ⟨hhead, hrest⟩ := List.pairwise_cons.1 h
      have hgt : kₑ < k := lt_of_le_of_ne (not_lt.1 hlt) (Ne.symm hne)
      refine List.pairwise_cons.2 ⟨fun e he => ?_, ih hrest⟩
      rcases mem_insertSorted k v he with rfl | he
      · exact hgt
      · exact hhead e he

theorem get?_insert (d : Details) (k' : String) :
    (d.insert k v).get? k' = if k' = k then some v else d.get? k' :=
  lookup_insertSorted k v d.entries k'

end Insert

/-! ## Inserting pairs one after the other -/

section OfList

variable (pairs : List (String × String))

theorem ofList_append_singleton (k v : String) :
    ofList (pairs ++ [(k, v)]) = (ofList pairs).insert k v := by
  unfold ofList
  rw [List.foldl_append]
  rfl

/-- Inserting pairs one after the other keeps the keys increasing. -/
theorem keysIncrease_ofList : KeysIncrease (ofList pairs).entries := by
  induction pairs using List.reverseRecOn with
  | nil => exact List.Pairwise.nil
  | append_singleton pairs p ih =>
      rw [ofList_append_singleton]
      exact keysIncrease_insertSorted p.1 p.2 ih

/-- Each key holds the value of the last pair with that key. -/
theorem get?_ofList (k : String) : (ofList pairs).get? k = lastValue pairs k := by
  induction pairs using List.reverseRecOn with
  | nil => rfl
  | append_singleton pairs p ih =>
      obtain ⟨k', v⟩ := p
      rw [ofList_append_singleton, get?_insert, lastValue_append_singleton, ih]

theorem mem_ofList_iff (k v : String) :
    (k, v) ∈ (ofList pairs).entries ↔ lastValue pairs k = some v := by
  rw [mem_iff_lookup (keysIncrease_ofList pairs), ← get?_ofList]
  rfl

/-- The keys of the details are the keys of the pairs. -/
theorem mem_keys_ofList (k : String) :
    k ∈ (ofList pairs).entries.map Prod.fst ↔ k ∈ pairs.map Prod.fst := by
  rw [← lastValue_isSome_iff pairs k, Option.isSome_iff_exists]
  constructor
  · intro hk
    obtain ⟨⟨k', v⟩, hmem, rfl⟩ := List.mem_map.1 hk
    exact ⟨v, (mem_ofList_iff pairs k' v).1 hmem⟩
  · rintro ⟨v, hv⟩
    exact List.mem_map.2 ⟨(k, v), (mem_ofList_iff pairs k v).2 hv, rfl⟩

theorem contains_ofList (k : String) :
    (ofList pairs).contains k = true ↔ k ∈ pairs.map Prod.fst := by
  rw [contains, get?_ofList, lastValue_isSome_iff]

/-- The details have as many entries as the pairs have distinct keys. -/
theorem size_ofList : (ofList pairs).size = (pairs.map Prod.fst).toFinset.card := by
  have hkeys : ((ofList pairs).entries.map Prod.fst).toFinset = (pairs.map Prod.fst).toFinset := by
    ext k
    rw [List.mem_toFinset, List.mem_toFinset, mem_keys_ofList]
  rw [← hkeys, List.toFinset_card_of_nodup (keysIncrease_ofList pairs).keys_nodup, List.length_map]
  rfl

end OfList

/-! ## Collecting pairs -/

/-- Comparing pairs by key is transitive. -/
theorem keyLe_trans (a b c : String × String) (hab : decide (a.1 ≤ b.1) = true)
    (hbc : decide (b.1 ≤ c.1) = true) : decide (a.1 ≤ c.1) = true :=
  decide_eq_true ((of_decide_eq_true hab).trans (of_decide_eq_true hbc))

/-- Comparing pairs by key is total. -/
theorem keyLe_total (a b : String × String) : (decide (a.1 ≤ b.1) || decide (b.1 ≤ a.1)) = true := by
  rcases le_total a.1 b.1 with h | h <;> simp [h]

/-- The stable sort keeps the pairs of each key in their order. -/
theorem filter_key_mergeSort (pairs : List (String × String)) (k : String) :
    (pairs.mergeSort fun a b => decide (a.1 ≤ b.1)).filter (·.1 == k) = pairs.filter (·.1 == k) := by
  have hsorted : (pairs.filter (·.1 == k)).Pairwise fun a b => decide (a.1 ≤ b.1) = true := by
    refine List.pairwise_filter.2 (List.pairwise_of_forall fun a b ha hb => ?_)
    rw [beq_iff_eq] at ha hb
    simp [ha, hb]
  have hsub := List.sublist_mergeSort keyLe_trans keyLe_total hsorted (List.filter_sublist)
  have hsub' := hsub.filter (·.1 == k)
  simp only [List.filter_filter, Bool.and_self] at hsub'
  have hlen : (pairs.filter (·.1 == k)).length =
      ((pairs.mergeSort fun a b => decide (a.1 ≤ b.1)).filter (·.1 == k)).length := by
    rw [← List.countP_eq_length_filter, ← List.countP_eq_length_filter,
      (List.mergeSort_perm pairs _).countP_eq]
  exact (hsub'.eq_of_length hlen).symm

theorem lastValue_mergeSort (pairs : List (String × String)) (k : String) :
    lastValue (pairs.mergeSort fun a b => decide (a.1 ≤ b.1)) k = lastValue pairs k := by
  unfold lastValue
  rw [filter_key_mergeSort]

section Runs

variable {ps : List (String × String)}

/-- Keeping the last pair of each run keeps pairs of the list, in order. -/
theorem keepLastOfRuns_sublist (ps : List (String × String)) :
    List.Sublist (keepLastOfRuns ps) ps := by
  fun_induction keepLastOfRuns ps with
  | case1 => exact List.Sublist.slnil
  | case2 => exact List.Sublist.refl _
  | case3 p q rest _ ih => exact ih.cons p
  | case4 p q rest _ ih => exact ih.cons_cons p

/-- In pairs sorted by key, a pair followed by one with another key has a key below every
later pair's. -/
theorem key_lt_of_sorted {p q : String × String} {rest : List (String × String)}
    (h : (p :: q :: rest).Pairwise fun a b => decide (a.1 ≤ b.1) = true) (hne : p.1 ≠ q.1)
    {e : String × String} (he : e ∈ q :: rest) : p.1 < e.1 := by
  obtain ⟨hhead, htail⟩ := List.pairwise_cons.1 h
  have hpq : p.1 < q.1 := lt_of_le_of_ne (of_decide_eq_true (hhead q List.mem_cons_self)) hne
  rcases List.mem_cons.1 he with rfl | he
  · exact hpq
  · exact lt_of_lt_of_le hpq (of_decide_eq_true ((List.pairwise_cons.1 htail).1 e he))

/-- Of pairs sorted by key, keeping the last pair of each run leaves increasing keys. -/
theorem keysIncrease_keepLastOfRuns (h : ps.Pairwise fun a b => decide (a.1 ≤ b.1) = true) :
    KeysIncrease (keepLastOfRuns ps) := by
  fun_induction keepLastOfRuns ps with
  | case1 => exact List.Pairwise.nil
  | case2 p => exact List.pairwise_singleton _ _
  | case3 p q rest _ ih => exact ih (List.pairwise_cons.1 h).2
  | case4 p q rest hne ih =>
      refine List.pairwise_cons.2 ⟨fun e he => ?_, ih (List.pairwise_cons.1 h).2⟩
      exact key_lt_of_sorted h hne ((keepLastOfRuns_sublist (q :: rest)).subset he)

/-- Of pairs sorted by key, the pair kept for a key is the last pair with that key. -/
theorem mem_keepLastOfRuns_iff (h : ps.Pairwise fun a b => decide (a.1 ≤ b.1) = true)
    (k v : String) : (k, v) ∈ keepLastOfRuns ps ↔ lastValue ps k = some v := by
  fun_induction keepLastOfRuns ps with
  | case1 => simp [lastValue]
  | case2 p =>
      obtain ⟨k', v'⟩ := p
      rw [lastValue_cons, show lastValue [] k = none from rfl, Option.none_or]
      by_cases hk : k' = k
      · simp [hk, eq_comm]
      · simp [hk, Ne.symm hk]
  | case3 p q rest heq ih =>
      rw [ih (List.pairwise_cons.1 h).2, lastValue_cons (q :: rest) k p]
      by_cases hk : p.1 = k
      · have hq : (lastValue (q :: rest) k).isSome := by
          rw [lastValue_isSome_iff]
          exact List.mem_map.2 ⟨q, List.mem_cons_self, heq ▸ hk⟩
        obtain ⟨w, hw⟩ := Option.isSome_iff_exists.1 hq
        rw [hw, Option.some_or]
      · rw [if_neg hk, Option.or_none]
  | case4 p q rest hne ih =>
      rw [List.mem_cons, ih (List.pairwise_cons.1 h).2, lastValue_cons (q :: rest) k p]
      by_cases hk : p.1 = k
      · -- no later pair has the key in front, which is below every later key
        have hnone : lastValue (q :: rest) k = none := by
          rw [lastValue_eq_none_iff]
          intro hmem
          obtain ⟨e, he, hek⟩ := List.mem_map.1 hmem
          exact absurd (hek.trans hk.symm) (ne_of_gt (key_lt_of_sorted h hne he))
        obtain ⟨k', v'⟩ := p
        simp only at hk
        subst hk
        simp [hnone, eq_comm]
      · have hne' : (k, v) ≠ p := fun heq => hk (heq ▸ rfl)
        simp [hk, hne']

end Runs

/-- Collected pairs have increasing keys. -/
theorem keysIncrease_collect (pairs : List (String × String)) :
    KeysIncrease (collect pairs).entries :=
  keysIncrease_keepLastOfRuns (List.pairwise_mergeSort keyLe_trans keyLe_total pairs)

theorem mem_collect_iff (pairs : List (String × String)) (k v : String) :
    (k, v) ∈ (collect pairs).entries ↔ lastValue pairs k = some v := by
  rw [collect, mem_keepLastOfRuns_iff (List.pairwise_mergeSort keyLe_trans keyLe_total pairs),
    lastValue_mergeSort]

/-- Collecting pairs gives the details that inserting them one after the other gives. -/
theorem collect_eq_ofList (pairs : List (String × String)) : collect pairs = ofList pairs := by
  have hentries := (keysIncrease_collect pairs).eq_of_mem_iff (keysIncrease_ofList pairs)
    fun e => by rw [mem_collect_iff, mem_ofList_iff]
  exact congrArg Details.mk hentries

end Details

/-- Details built from pairs keep each key once, in increasing order, with its last value. -/
theorem details_of_pairs_keep_last_values_in_key_order (pairs : List (String × String)) :
    Details.collect pairs = Details.ofList pairs ∧
      (Details.ofList pairs).entries.Pairwise (fun a b => a.1 < b.1) ∧
      (∀ k v, (k, v) ∈ (Details.ofList pairs).entries ↔ Details.lastValue pairs k = some v) ∧
      (∀ k, (Details.ofList pairs).get? k = Details.lastValue pairs k) ∧
      (∀ k, (Details.ofList pairs).contains k = true ↔ k ∈ pairs.map Prod.fst) ∧
      (Details.ofList pairs).size = (pairs.map Prod.fst).toFinset.card ∧
      ((Details.ofList pairs).isEmpty = true ↔ (Details.ofList pairs).size = 0) ∧
      (Details.ofList pairs).render =
        "\x7b" ++ ", ".intercalate ((Details.ofList pairs).entries.map fun e =>
          Text.quote e.1 ++ ": " ++ Text.quote e.2) ++ "\x7d" := by
  refine ⟨Details.collect_eq_ofList pairs, Details.keysIncrease_ofList pairs,
    Details.mem_ofList_iff pairs, Details.get?_ofList pairs, Details.contains_ofList pairs,
    Details.size_ofList pairs, ?_, rfl⟩
  rw [Details.isEmpty, Details.size, List.isEmpty_iff, List.length_eq_zero_iff]

end StubSdk
