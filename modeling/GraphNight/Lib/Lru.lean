import Mathlib.Data.List.Basic

/-!
# Least-recently-used caches

A bounded map that drops the entry used longest ago when it is full. The entries
are listed from the most recently used one on.

A client that asks for the stored value to be determined by the key keeps a
property of the entries: every operation only drops entries, reorders them or
adds the one it was given (`mem_get`, `mem_put`).
-/

/-- A bounded map with its entries in order of use. -/
structure Lru (K V : Type) where
  capacity : Nat
  entries : List (K × V)

namespace Lru

variable {K V : Type} [DecidableEq K]

/-- A cache without entries. -/
def empty (capacity : Nat) : Lru K V := ⟨capacity, []⟩

/-- The value stored under a key, without counting as a use. -/
def peek (c : Lru K V) (k : K) : Option V := c.entries.lookup k

/-- The entries under other keys. -/
def others (c : Lru K V) (k : K) : List (K × V) := c.entries.filter (·.1 ≠ k)

/-- The value stored under a key, which becomes the most recently used one. -/
def get (c : Lru K V) (k : K) : Option V × Lru K V :=
  match c.peek k with
  | some v => (some v, ⟨c.capacity, (k, v) :: c.others k⟩)
  | none => (none, c)

/-- Store a value. A full cache drops its least recently used entry for a new key. -/
def put (c : Lru K V) (k : K) (v : V) : Lru K V :=
  match c.peek k with
  | some _ => ⟨c.capacity, (k, v) :: c.others k⟩
  | none =>
    if c.entries.length < c.capacity then ⟨c.capacity, (k, v) :: c.entries⟩
    else ⟨c.capacity, (k, v) :: c.entries.dropLast⟩

/-- Drop the entry of a key. -/
def pop (c : Lru K V) (k : K) : Lru K V := ⟨c.capacity, c.others k⟩

@[simp] theorem get_fst (c : Lru K V) (k : K) : (c.get k).1 = c.peek k := by
  unfold get
  split <;> simp_all

theorem mem_of_peek {c : Lru K V} {k : K} {v : V} (h : c.peek k = some v) : (k, v) ∈ c.entries := by
  obtain ⟨l₁, l₂, heq, -⟩ := List.lookup_eq_some_iff.1 h
  simp [heq]

/-- Looking up adds no entry. -/
theorem mem_get {c : Lru K V} {k : K} {e : K × V} (h : e ∈ (c.get k).2.entries) : e ∈ c.entries := by
  unfold get at h
  split at h
  · rename_i v hv
    rcases List.mem_cons.1 h with rfl | h
    · exact mem_of_peek hv
    · exact (List.mem_filter.1 h).1
  · exact h

/-- Storing adds the entry stored and no other. -/
theorem mem_put {c : Lru K V} {k : K} {v : V} {e : K × V} (h : e ∈ (c.put k v).entries) :
    e = (k, v) ∨ e ∈ c.entries := by
  unfold put at h
  split at h
  · rcases List.mem_cons.1 h with rfl | h
    · exact .inl rfl
    · exact .inr (List.mem_filter.1 h).1
  · split at h
    · exact List.mem_cons.1 h
    · rcases List.mem_cons.1 h with rfl | h
      · exact .inl rfl
      · exact .inr ((List.dropLast_sublist _).mem h)

theorem mem_pop {c : Lru K V} {k : K} {e : K × V} (h : e ∈ (c.pop k).entries) : e ∈ c.entries :=
  (List.mem_filter.1 h).1

@[simp] theorem peek_put (c : Lru K V) (k : K) (v : V) : (c.put k v).peek k = some v := by
  unfold put
  split
  · simp [peek]
  · split <;> simp [peek]

end Lru
