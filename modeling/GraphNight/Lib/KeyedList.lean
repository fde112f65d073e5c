import Mathlib.Data.List.Induction
import Mathlib.Data.List.Nodup

/-!
# Maps keyed by a string

A hash map as the list of its entries in iteration order, no two with the same
key. `insert` and `erase` fix one order; a client that depends on the order of a
real map quantifies over the permutations of `items`.
-/

/-- Entries with pairwise distinct keys. -/
structure KeyedList (α : Type) (key : α → String) where
  items : List α
  distinct : (items.map key).Nodup

namespace KeyedList

variable {α : Type} {key : α → String}

/-- `HashMap::new`. -/
def empty : KeyedList α key := ⟨[], List.nodup_nil⟩

/-- `HashMap::get`. -/
def get (m : KeyedList α key) (k : String) : Option α := m.items.find? (key · == k)

/-- Put `a` in the place of the entry with its key. -/
def replace (key : α → String) (a : α) (items : List α) : List α := items.map fun b => if key b = key a then a else b

theorem map_key_replace (a : α) (items : List α) :
    (replace key a items).map key = items.map key := by
  simp only [replace, List.map_map]
  refine List.map_congr_left fun b _ => ?_
  by_cases h : key b = key a <;> simp [h]

/-- `HashMap::insert`: an entry of the same key is replaced. -/
def insert (m : KeyedList α key) (a : α) : KeyedList α key :=
  if h : key a ∈ m.items.map key then
    ⟨replace key a m.items, by rw [map_key_replace]; exact m.distinct⟩
  else
    ⟨m.items ++ [a], by
      simp only [List.map_append, List.map_cons, List.map_nil]
      refine List.nodup_append.2 ⟨m.distinct, by simp, ?_⟩
      rintro x hx y hy rfl
      simp only [List.mem_singleton] at hy
      exact h (hy ▸ hx)⟩

/-- `HashMap::remove`. -/
def erase (m : KeyedList α key) (k : String) : KeyedList α key :=
  ⟨m.items.filter (key · != k), m.distinct.sublist (List.filter_sublist.map key)⟩

/-- The map a list of entries is collected into, later ones replacing earlier ones. -/
def ofList (items : List α) : KeyedList α key := items.foldl insert empty

theorem get_eq_some {m : KeyedList α key} {k : String} {a : α} :
    m.get k = some a ↔ a ∈ m.items ∧ key a = k := by
  constructor
  · intro h
    exact ⟨List.mem_of_find?_eq_some h, by simpa using List.find?_some h⟩
  · rintro ⟨hm, rfl⟩
    cases hf : m.items.find? (key · == key a) with
    | none => exact absurd (List.find?_eq_none.1 hf a hm) (by simp)
    | some b =>
      have hb : key b = key a := by simpa using List.find?_some hf
      rw [get, hf, List.inj_on_of_nodup_map m.distinct (List.mem_of_find?_eq_some hf) hm hb]

theorem key_of_get {m : KeyedList α key} {k : String} {a : α} (h : m.get k = some a) : key a = k :=
  (get_eq_some.1 h).2

theorem mem_of_get {m : KeyedList α key} {k : String} {a : α} (h : m.get k = some a) : a ∈ m.items :=
  (get_eq_some.1 h).1

theorem get_insert (m : KeyedList α key) (a : α) (k : String) :
    (m.insert a).get k = if key a = k then some a else m.get k := by
  have hmem : a ∈ (m.insert a).items := by
    unfold insert
    split_ifs with h
    · obtain ⟨b, hb, hkey⟩ := List.mem_map.1 h
      exact List.mem_map.2 ⟨b, hb, if_pos hkey⟩
    · exact List.mem_append_right _ List.mem_cons_self
  have hother : ∀ b, key b ≠ key a → (b ∈ (m.insert a).items ↔ b ∈ m.items) := by
    intro b hb
    unfold insert
    split_ifs with h
    · show b ∈ replace key a m.items ↔ b ∈ m.items
      rw [replace, List.mem_map]
      constructor
      · rintro ⟨b', hb', heq⟩
        by_cases hkey : key b' = key a
        · rw [if_pos hkey] at heq
          exact absurd (congrArg key heq.symm) hb
        · rw [if_neg hkey] at heq
          exact heq ▸ hb'
      · intro hmem
        exact ⟨b, hmem, if_neg hb⟩
    · simp [show b ≠ a from fun heq => hb (congrArg key heq)]
  by_cases hk : key a = k
  · rw [if_pos hk]
    exact get_eq_some.2 ⟨hmem, hk⟩
  · rw [if_neg hk]
    apply Option.ext
    intro b
    rw [get_eq_some, get_eq_some]
    apply and_congr_left
    rintro rfl
    exact hother b (Ne.symm hk)

theorem mem_insert {m : KeyedList α key} {a b : α} (h : b ∈ (m.insert a).items) : b = a ∨ b ∈ m.items := by
  have hget : (m.insert a).get (key b) = some b := get_eq_some.2 ⟨h, rfl⟩
  rw [get_insert] at hget
  split_ifs at hget with hk
  · exact .inl (Option.some.inj hget).symm
  · exact .inr (mem_of_get hget)

theorem get_erase (m : KeyedList α key) (k k' : String) : (m.erase k).get k' = if k = k' then none else m.get k' := by
  apply Option.ext
  intro b
  rw [get_eq_some]
  simp only [erase, List.mem_filter, bne_iff_ne, ne_eq]
  split_ifs with hk
  · constructor
    · rintro ⟨⟨-, hne⟩, hkey⟩
      exact absurd (hkey.trans hk.symm) hne
    · simp
  · rw [get_eq_some]
    constructor
    · rintro ⟨⟨hm, -⟩, hkey⟩
      exact ⟨hm, hkey⟩
    · rintro ⟨hm, hkey⟩
      exact ⟨⟨hm, fun h => hk (h.symm.trans hkey)⟩, hkey⟩

theorem mem_insert_iff {m : KeyedList α key} {a b : α} :
    b ∈ (m.insert a).items ↔ b = a ∨ b ∈ m.items ∧ key b ≠ key a := by
  have hget : ∀ m : KeyedList α key, b ∈ m.items ↔ m.get (key b) = some b := fun m => by simp [get_eq_some]
  rw [hget, get_insert]
  split_ifs with hk
  · constructor
    · intro h
      exact .inl (Option.some.inj h).symm
    · rintro (rfl | ⟨-, hne⟩)
      · rfl
      · exact absurd hk.symm hne
  · rw [← hget]
    constructor
    · exact fun h => .inr ⟨h, Ne.symm hk⟩
    · rintro (rfl | ⟨h, -⟩)
      · exact absurd rfl hk
      · exact h

theorem mem_erase_iff {m : KeyedList α key} {k : String} {a : α} : a ∈ (m.erase k).items ↔ a ∈ m.items ∧ key a ≠ k := by
  simp [erase]

/-- Entries removed one after the other. -/
theorem mem_foldl_erase {l : List α} {m : KeyedList α key} {a : α} :
    a ∈ (l.foldl (fun m b => m.erase (key b)) m).items ↔ a ∈ m.items ∧ ∀ b ∈ l, key a ≠ key b := by
  induction l generalizing m with
  | nil => simp
  | cons b l ih =>
    rw [List.foldl_cons, ih, mem_erase_iff, List.forall_mem_cons]
    tauto

/-- A change of a collection: one element is put, and some are taken. -/
def PutTake (put : Option α) (takes : α → Prop) (l l' : List α) : Prop := ∀ a, a ∈ l' ↔ put = some a ∨ a ∈ l ∧ ¬takes a

theorem PutTake.nothing {takes : α → Prop} {l : List α} (h : ∀ a ∈ l, ¬takes a) : PutTake none takes l l := by
  intro a
  constructor
  · exact fun ha => .inr ⟨ha, h a ha⟩
  · rintro (hnone | ⟨ha, -⟩)
    · cases hnone
    · exact ha

/-- An entry under a new key takes nobody's place. -/
theorem putTake_insert_new {m : KeyedList α key} {a : α} (h : ¬(m.get (key a)).isSome) :
    PutTake (some a) (fun _ => False) m.items (m.insert a).items := by
  intro b
  rw [mem_insert_iff, Option.some.injEq, @eq_comm _ a, not_false_eq_true, and_true]
  apply or_congr_right
  constructor
  · exact And.left
  · intro hb
    refine ⟨hb, fun hkey => h ?_⟩
    rw [← hkey, get_eq_some.2 ⟨hb, rfl⟩]
    rfl

theorem putTake_insert (m : KeyedList α key) (a : α) :
    PutTake (some a) (fun b => key b = key a) m.items (m.insert a).items := by
  intro b
  rw [mem_insert_iff, Option.some.injEq, @eq_comm _ a]

theorem putTake_erase {m : KeyedList α key} {k : String} {takes : α → Prop} (h : ∀ a ∈ m.items, takes a ↔ key a = k) :
    PutTake none takes m.items (m.erase k).items := by
  intro a
  rw [mem_erase_iff]
  constructor
  · rintro ⟨ha, hne⟩
    exact .inr ⟨ha, fun htake => hne ((h a ha).1 htake)⟩
  · rintro (hnone | ⟨ha, hkept⟩)
    · cases hnone
    · exact ⟨ha, fun hkey => hkept ((h a ha).2 hkey)⟩

/-- A map of values under keys gives at a key what its value there tells. -/
theorem get_of_value {β : Type} {m m' : KeyedList (String × β) Prod.fst} {k : String}
    (h : (m'.get k).map (·.2) = (m.get k).map (·.2)) : m'.get k = m.get k := by
  cases hm : m.get k with
  | none =>
    rw [hm] at h
    simpa using h
  | some entry =>
    rw [hm] at h
    obtain ⟨entry', hm', hvalue⟩ := Option.map_eq_some_iff.1 h
    rw [hm']
    have hkey : entry'.1 = entry.1 := (key_of_get hm').trans (key_of_get hm).symm
    exact congrArg some (Prod.ext hkey hvalue)

/-- Inserting what is there changes nothing. -/
theorem insert_of_get {m : KeyedList α key} {a : α} (h : m.get (key a) = some a) : m.insert a = m := by
  have hmem := mem_of_get h
  have hkey : key a ∈ m.items.map key := List.mem_map_of_mem hmem
  rw [insert, dif_pos hkey]
  congr
  refine (List.map_congr_left fun b hb => ?_).trans (List.map_id m.items)
  split_ifs with hsame
  · exact List.inj_on_of_nodup_map m.distinct hmem hb hsame.symm
  · rfl

/-- Entries inserted one after the other are all that a map gains. -/
theorem mem_foldl_insert {β : Type} {f : β → α} {l : List β} {m : KeyedList α key} {a : α}
    (h : a ∈ (l.foldl (fun m b => m.insert (f b)) m).items) : a ∈ m.items ∨ ∃ b ∈ l, a = f b := by
  induction l generalizing m with
  | nil => exact .inl h
  | cons b l ih =>
    rcases ih h with hm | ⟨b', hb', rfl⟩
    · rcases mem_insert hm with rfl | hm
      · exact .inr ⟨b, List.mem_cons_self, rfl⟩
      · exact .inl hm
    · exact .inr ⟨b', List.mem_cons_of_mem _ hb', rfl⟩

/-- A collected map holds entries of the list only. -/
theorem mem_ofList {items : List α} {a : α} (h : a ∈ (ofList items : KeyedList α key).items) : a ∈ items := by
  rcases mem_foldl_insert (f := id) h with hm | ⟨b, hb, rfl⟩
  · exact absurd hm List.not_mem_nil
  · exact hb

/-- Some entry is collected for every key. -/
theorem get_ofList_of_mem {items : List α} {a : α} (h : a ∈ items) :
    ∃ b, (ofList items : KeyedList α key).get (key a) = some b := by
  unfold ofList
  induction items using List.reverseRecOn with
  | nil => cases h
  | append_singleton items last ih =>
    rw [List.foldl_append, List.foldl_cons, List.foldl_nil, get_insert]
    by_cases hkey : key last = key a
    · exact ⟨last, if_pos hkey⟩
    · rw [if_neg hkey]
      rcases List.mem_append.1 h with hmem | hlast
      · exact ih hmem
      · exact absurd (by rw [List.mem_singleton.1 hlast]) hkey

/-- The last entry of a key is the one collected. -/
theorem get_ofList {l r : List α} {a : α} (h : ∀ b ∈ r, key b ≠ key a) :
    (ofList (l ++ a :: r) : KeyedList α key).get (key a) = some a := by
  have hrest : ∀ (r : List α) (m : KeyedList α key), (∀ b ∈ r, key b ≠ key a) →
      (r.foldl insert m).get (key a) = m.get (key a) := by
    intro r
    induction r with
    | nil => exact fun _ _ => rfl
    | cons b r ih =>
      intro m hr
      have hb := hr b List.mem_cons_self
      rw [List.foldl_cons, ih _ fun b' hb' => hr b' (List.mem_cons_of_mem _ hb'), get_insert, if_neg hb]
  rw [ofList, List.foldl_append, List.foldl_cons, hrest r _ h, get_insert, if_pos rfl]

/-- Entries with distinct keys are collected as they come. -/
theorem items_ofList {items : List α} (h : (items.map key).Nodup) : (ofList items : KeyedList α key).items = items := by
  have hfold : ∀ (items : List α) (m : KeyedList α key), ((m.items ++ items).map key).Nodup →
      (items.foldl insert m).items = m.items ++ items := by
    intro items
    induction items with
    | nil => exact fun m _ => (List.append_nil m.items).symm
    | cons a items ih =>
      intro m hm
      have hnew : key a ∉ m.items.map key := by
        rw [List.map_append, List.nodup_append] at hm
        intro hmem
        exact hm.2.2 _ hmem _ (List.mem_map_of_mem List.mem_cons_self) rfl
      have hinsert : (m.insert a).items = m.items ++ [a] := by
        rw [insert, dif_neg hnew]
      rw [List.foldl_cons, ih _ (by rw [hinsert]; simpa using hm), hinsert, List.append_assoc, List.singleton_append]
  exact hfold items empty h

/-- Maps with the same entries give the same at every key. -/
theorem get_of_perm {m m' : KeyedList α key} (h : m'.items.Perm m.items) (k : String) : m'.get k = m.get k := by
  apply Option.ext
  intro a
  rw [get_eq_some, get_eq_some, h.mem_iff]

end KeyedList
