import GraphNight.Lib.Lru
import Mathlib.Data.List.Dedup
import Mathlib.Data.List.Perm.Subperm

/-!
# What a least-recently-used cache remembers

The uses of a cache, listed from the newest one on, say what is in it: the last values of as
many keys as it has room for (`Remembers`). A cache that drops entries at other times too keeps
what was used since, as long as there were fewer other keys than it has room for (`Retains`).
-/

namespace Lru

variable {K V : Type} [DecidableEq K]

@[simp] theorem get_capacity (c : Lru K V) (k : K) : (c.get k).2.capacity = c.capacity := by
  unfold get
  split <;> rfl

@[simp] theorem put_capacity (c : Lru K V) (k : K) (v : V) : (c.put k v).capacity = c.capacity := by
  unfold put
  split
  · rfl
  · split <;> rfl

/-- A key that is not found stays where it is not. -/
theorem get_of_none {c : Lru K V} {k : K} (h : c.peek k = none) : (c.get k).2 = c := by
  rw [get, h]

/-- The last value of each key of a history, the newest first. -/
def recent : List (K × V) → List (K × V)
  | [] => []
  | e :: history => e :: (recent history).filter (·.1 ≠ e.1)

/-- Each key is listed once. -/
theorem nodup_recent (history : List (K × V)) : ((recent history).map (·.1)).Nodup := by
  induction history with
  | nil => exact List.nodup_nil
  | cons e history ih =>
    rw [recent, List.map_cons, List.nodup_cons]
    refine ⟨?_, (List.filter_sublist.map _).nodup ih⟩
    intro hmem
    obtain ⟨e', he', hkey⟩ := List.mem_map.1 hmem
    have hne := (List.mem_filter.1 he').2
    simp [hkey] at hne

/-- Dropping a key that is among the first entries leaves the others. -/
theorem filter_take_of_mem {l : List (K × V)} {k : K} {n : Nat} (hnodup : (l.map (·.1)).Nodup)
    (hmem : k ∈ (l.take (n + 1)).map (·.1)) : (l.take (n + 1)).filter (·.1 ≠ k) = (l.filter (·.1 ≠ k)).take n := by
  induction l generalizing n with
  | nil => simp
  | cons e l ih =>
    rw [List.map_cons, List.nodup_cons] at hnodup
    rw [List.take_succ_cons, List.map_cons, List.mem_cons] at hmem
    rw [List.take_succ_cons]
    by_cases hk : e.1 = k
    · have hothers : ∀ e' ∈ l, e'.1 ≠ k := by
        rintro e' he' rfl
        exact hnodup.1 (hk ▸ List.mem_map_of_mem he')
      rw [List.filter_cons_of_neg (by simp [hk]), List.filter_cons_of_neg (by simp [hk]),
        List.filter_eq_self.2 fun e' he' => by simpa using hothers e' (List.mem_of_mem_take he'),
        List.filter_eq_self.2 fun e' he' => by simpa using hothers e' he']
    · rw [List.filter_cons_of_pos (by simp [hk]), List.filter_cons_of_pos (by simp [hk])]
      cases n with
      | zero => simp [Ne.symm hk] at hmem
      | succ n => rw [List.take_succ_cons, ih hnodup.2 (hmem.resolve_left (Ne.symm hk))]

/-- Dropping a key that is not among the first entries leaves those. -/
theorem take_filter_of_not_mem {l : List (K × V)} {k : K} {n : Nat} (hmem : k ∉ (l.take n).map (·.1)) :
    (l.filter (·.1 ≠ k)).take n = l.take n := by
  induction l generalizing n with
  | nil => simp
  | cons e l ih =>
    cases n with
    | zero => simp
    | succ n =>
      rw [List.take_succ_cons, List.map_cons, List.mem_cons, not_or] at hmem
      rw [List.filter_cons_of_pos (by simpa using Ne.symm hmem.1), List.take_succ_cons, List.take_succ_cons, ih hmem.2]

/-! ## Uses alone -/

/-- The cache holds the last values of the last keys used, as many as it has room for. -/
def Remembers (c : Lru K V) (history : List (K × V)) : Prop := c.entries = (recent history).take c.capacity

variable {c : Lru K V} {history : List (K × V)} {k : K} {v : V}

theorem remembers_empty (capacity : Nat) : (empty capacity : Lru K V).Remembers [] := List.take_nil.symm

theorem Remembers.peek (h : c.Remembers history) (k : K) : c.peek k = ((recent history).take c.capacity).lookup k := by
  rw [Lru.peek, h]

/-- A key and the others are the last keys used. -/
theorem take_recent_cons (h : c.Remembers history) (hpeek : c.peek k = some v) (v' : V) :
    (k, v') :: c.others k = (recent ((k, v') :: history)).take c.capacity := by
  have hmem : k ∈ ((recent history).take c.capacity).map (·.1) := by
    rw [← h]
    exact List.mem_map_of_mem (mem_of_peek hpeek)
  unfold others
  rw [h]
  cases hcapacity : c.capacity with
  | zero => simp [hcapacity] at hmem
  | succ n =>
    rw [hcapacity] at hmem
    rw [filter_take_of_mem (nodup_recent history) hmem, recent, List.take_succ_cons]

/-- **A value that is found is used.** -/
theorem Remembers.get (h : c.Remembers history) (hpeek : c.peek k = some v) : (c.get k).2.Remembers ((k, v) :: history) := by
  rw [Lru.get, hpeek]
  exact take_recent_cons h hpeek v

/-- **A value that is stored is used.** -/
theorem Remembers.put (h : c.Remembers history) (hcapacity : 0 < c.capacity) (k : K) (v : V) :
    (c.put k v).Remembers ((k, v) :: history) := by
  unfold Lru.put
  cases hpeek : c.peek k with
  | some old => exact take_recent_cons h hpeek v
  | none =>
    obtain ⟨n, hn⟩ : ∃ n, c.capacity = n + 1 := ⟨c.capacity - 1, by omega⟩
    have hnew : k ∉ ((recent history).take c.capacity).map (·.1) := by
      rw [← h]
      intro hmem
      obtain ⟨e, he, rfl⟩ := List.mem_map.1 hmem
      exact absurd (List.lookup_eq_none_iff.1 hpeek e he) (by simp)
    dsimp only
    split_ifs with hroom
    · -- all of the history is in the cache
      have hlength : (recent history).length < c.capacity := by
        rw [h, List.length_take] at hroom
        omega
      rw [List.take_of_length_le (by omega)] at hnew
      have hothers : (recent history).filter (·.1 ≠ k) = recent history := by
        apply List.filter_eq_self.2
        intro e he
        rw [decide_eq_true_eq]
        rintro rfl
        exact hnew (List.mem_map_of_mem he)
      show (k, v) :: c.entries = _
      have hall : ((k, v) :: recent history).length ≤ c.capacity := by
        rw [List.length_cons]
        omega
      rw [h, recent, hothers, List.take_of_length_le (by omega), List.take_of_length_le hall]
    · show (k, v) :: c.entries.dropLast = _
      have hfull : c.capacity ≤ (recent history).length := by
        rw [h, List.length_take] at hroom
        omega
      have hfirst : k ∉ ((recent history).take n).map (·.1) := by
        intro hmem
        apply hnew
        rw [hn]
        exact (((recent history).take_prefix_take_left (by omega)).map _).subset hmem
      have hlength : ((recent history).take c.capacity).length - 1 = n := by
        rw [List.length_take]
        omega
      rw [h, List.dropLast_eq_take, hlength, List.take_take, hn, recent, List.take_succ_cons, take_filter_of_not_mem hfirst,
        Nat.min_eq_left (by omega)]

/-! ## Uses and drops -/

/-- No key is listed twice. -/
def Distinct (c : Lru K V) : Prop := (c.entries.map (·.1)).Nodup

theorem peek_of_mem (h : c.Distinct) (hmem : (k, v) ∈ c.entries) : c.peek k = some v := by
  obtain ⟨before, after, heq⟩ := List.append_of_mem hmem
  refine List.lookup_eq_some_iff.2 ⟨before, after, heq, ?_⟩
  intro e he
  rw [bne_iff_ne]
  rw [Distinct, heq, List.map_append, List.nodup_append] at h
  exact (h.2.2 e.1 (List.mem_map_of_mem he) k (by simp)).symm

theorem not_mem_of_peek (h : c.peek k = none) : ∀ e ∈ c.entries, e.1 ≠ k := by
  rintro e he rfl
  exact absurd (List.lookup_eq_none_iff.1 h e he) (by simp)

theorem distinct_others (h : c.Distinct) (k : K) (v : V) : (((k, v) :: c.others k).map (·.1)).Nodup := by
  rw [List.map_cons, List.nodup_cons]
  refine ⟨?_, (List.filter_sublist.map _).nodup h⟩
  intro hmem
  obtain ⟨e, he, hkey⟩ := List.mem_map.1 hmem
  have hne := (List.mem_filter.1 he).2
  simp [hkey] at hne

theorem Distinct.get (h : c.Distinct) (k : K) : (c.get k).2.Distinct := by
  unfold Lru.get
  split
  · exact distinct_others h k _
  · exact h

theorem Distinct.put (h : c.Distinct) (k : K) (v : V) : (c.put k v).Distinct := by
  unfold Lru.put
  split
  · exact distinct_others h k v
  · rename_i hnone
    have hnew : k ∉ c.entries.map (·.1) := by
      intro hmem
      obtain ⟨e, he, hkey⟩ := List.mem_map.1 hmem
      exact not_mem_of_peek hnone e he hkey
    split
    · exact List.nodup_cons.2 ⟨hnew, h⟩
    · refine List.nodup_cons.2 ⟨fun hmem => hnew (((List.dropLast_sublist _).map _).subset hmem), ?_⟩
      exact ((List.dropLast_sublist _).map _).nodup h

theorem Distinct.pop (h : c.Distinct) (k : K) : (c.pop k).Distinct := (List.filter_sublist.map _).nodup h

/-- Storing leaves no other value under the key. -/
theorem mem_put_cases {e : K × V} (h : e ∈ (c.put k v).entries) : e = (k, v) ∨ e ∈ c.entries ∧ e.1 ≠ k := by
  unfold Lru.put at h
  split at h
  · rcases List.mem_cons.1 h with rfl | h
    · exact .inl rfl
    · obtain ⟨hmem, hne⟩ := List.mem_filter.1 h
      exact .inr ⟨hmem, by simpa using hne⟩
  · rename_i hnone
    have hothers := not_mem_of_peek hnone
    split at h
    · rcases List.mem_cons.1 h with rfl | h
      · exact .inl rfl
      · exact .inr ⟨h, hothers e h⟩
    · rcases List.mem_cons.1 h with rfl | h
      · exact .inl rfl
      · have hmem := (List.dropLast_sublist _).mem h
        exact .inr ⟨hmem, hothers e hmem⟩

/-- A value is in the cache, and every key before it was used since it was. -/
structure Retains (c : Lru K V) (k : K) (v : V) (used : List K) : Prop where
  split : ∃ before after, c.entries = before ++ (k, v) :: after ∧ ∀ e ∈ before, e.1 ∈ used

omit [DecidableEq K] in
theorem Retains.mem {used : List K} (h : c.Retains k v used) : (k, v) ∈ c.entries := by
  obtain ⟨before, after, heq, -⟩ := h.split
  rw [heq]
  simp

omit [DecidableEq K] in
/-- What was just put first is retained. -/
theorem retains_head {entries : List (K × V)} {capacity : Nat} : Retains ⟨capacity, (k, v) :: entries⟩ k v [] :=
  ⟨[], entries, rfl, by simp⟩

theorem retains_get (h : c.peek k = some v) : (c.get k).2.Retains k v [] := by
  rw [Lru.get, h]
  exact retains_head

theorem retains_put (c : Lru K V) (k : K) (v : V) : (c.put k v).Retains k v [] := by
  unfold Lru.put
  split
  · exact retains_head
  · split <;> exact retains_head

section

variable {used : List K} {k' : K} {v' : V}

/-- Another key is moved to the front. -/
theorem Retains.front (h : c.Retains k v used) (hne : k' ≠ k) (v' : V) (capacity : Nat) :
    Retains ⟨capacity, (k', v') :: c.others k'⟩ k v (k' :: used) := by
  obtain ⟨before, after, heq, hbefore⟩ := h.split
  refine ⟨(k', v') :: before.filter (·.1 ≠ k'), after.filter (·.1 ≠ k'), ?_, ?_⟩
  · simp [others, heq, Ne.symm hne]
  · intro e he
    rcases List.mem_cons.1 he with rfl | he
    · exact List.mem_cons_self
    · exact List.mem_cons_of_mem _ (hbefore e (List.mem_filter.1 he).1)

omit [DecidableEq K] in
theorem Retains.mono {used' : List K} (h : c.Retains k v used) (hsub : used ⊆ used') : c.Retains k v used' := by
  obtain ⟨before, after, heq, hbefore⟩ := h.split
  exact ⟨before, after, heq, fun e he => hsub (hbefore e he)⟩

theorem Retains.get (h : c.Retains k v used) (hne : k' ≠ k) : (c.get k').2.Retains k v (k' :: used) := by
  unfold Lru.get
  split
  · exact h.front hne _ _
  · exact h.mono (List.subset_cons_self k' used)

theorem Retains.pop (h : c.Retains k v used) (hne : k' ≠ k) : (c.pop k').Retains k v used := by
  obtain ⟨before, after, heq, hbefore⟩ := h.split
  refine ⟨before.filter (·.1 ≠ k'), after.filter (·.1 ≠ k'), ?_, ?_⟩
  · simp [Lru.pop, others, heq, Ne.symm hne]
  · exact fun e he => hbefore e (List.mem_filter.1 he).1

/-- **Storing under another key drops nothing that is retained**, while fewer keys were used
since than there is room for. -/
theorem Retains.put (h : c.Retains k v used) (hdistinct : c.Distinct) (hne : k' ≠ k) (v' : V)
    (hroom : (k' :: used).dedup.length < c.capacity) : (c.put k' v').Retains k v (k' :: used) := by
  unfold Lru.put
  split
  · exact h.front hne _ _
  · rename_i hnone
    obtain ⟨before, after, heq, hbefore⟩ := h.split
    have hfront : ∀ e ∈ (k', v') :: before, e.1 ∈ k' :: used := by
      intro e he
      rcases List.mem_cons.1 he with rfl | he
      · exact List.mem_cons_self
      · exact List.mem_cons_of_mem _ (hbefore e he)
    split
    · exact ⟨(k', v') :: before, after, by simp [heq], hfront⟩
    · rename_i hfull
      -- the entries before it, and the new one, are of keys used since: they are too few to fill the cache
      have hkeys : (((k', v') :: before).map (·.1)).Nodup := by
        rw [List.map_cons, List.nodup_cons]
        constructor
        · intro hmem
          obtain ⟨e, he, hkey⟩ := List.mem_map.1 hmem
          exact not_mem_of_peek hnone e (by simp [heq, he]) hkey
        · rw [Distinct, heq, List.map_append] at hdistinct
          exact hdistinct.of_append_left
      have hsubset : ((k', v') :: before).map (·.1) ⊆ (k' :: used).dedup := by
        intro key hkey
        obtain ⟨e, he, rfl⟩ := List.mem_map.1 hkey
        exact List.mem_dedup.2 (hfront e he)
      have hfew := (List.Nodup.subperm hkeys hsubset).length_le
      rw [List.length_map, List.length_cons] at hfew
      cases after with
      | nil =>
        rw [heq, List.length_append, List.length_singleton] at hfull
        omega
      | cons e after =>
        refine ⟨(k', v') :: before, (e :: after).dropLast, ?_, hfront⟩
        show (k', v') :: c.entries.dropLast = _
        rw [heq, List.dropLast_append_of_ne_nil (by simp)]
        rfl

end

end Lru
