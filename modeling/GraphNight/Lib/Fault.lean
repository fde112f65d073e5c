import Mathlib.Data.List.Forall2

/-!
# Results of Rust calls

A call returns a value, returns an error, or panics. The two ways of failing
are kept apart: `map_err` touches an error and lets a panic through.
-/

/-- How a call that returns no value ends. -/
inductive Fault (ε : Type) where
  | err (e : ε)
  | panic
deriving DecidableEq, Repr

/-- The result of a fallible call. -/
abbrev Res (ε α : Type) := Except (Fault ε) α

namespace Res

variable {ε ε' α β : Type}

/-- `Err(e)`. -/
def fail (e : ε) : Res ε α := .error (.err e)

/-- `Option::ok_or_else`. -/
def ofOption (e : ε) : Option α → Res ε α
  | some a => .ok a
  | none => fail e

/-- `Result::map_err`. -/
def mapErr (f : ε → ε') : Res ε α → Res ε' α
  | .ok a => .ok a
  | .error (.err e) => .error (.err (f e))
  | .error .panic => .error .panic

@[simp] theorem ofOption_eq_ok {e : ε} {o : Option α} {a : α} : ofOption e o = .ok a ↔ o = some a := by
  cases o <;> simp [ofOption, fail]

@[simp] theorem mapErr_eq_ok {f : ε → ε'} {r : Res ε α} {a : α} : mapErr f r = .ok a ↔ r = .ok a := by
  rcases r with (_ | _) | _ <;> simp [mapErr]

/-- A sequence succeeds when both of its calls do. -/
theorem bind_eq_ok {r : Res ε α} {f : α → Res ε β} {b : β} :
    (r >>= f) = .ok b ↔ ∃ a, r = .ok a ∧ f a = .ok b := by
  cases r <;> simp [bind, Except.bind]

/-- A sequence panics only where one of its calls does. -/
theorem bind_ne_panic {r : Res ε α} {f : α → Res ε β} (hr : r ≠ .error .panic)
    (hf : ∀ a, r = .ok a → f a ≠ .error .panic) : (r >>= f) ≠ .error .panic := by
  cases r with
  | ok a => exact hf a rfl
  | error e => simpa [bind, Except.bind] using hr

/-- A call made on every element succeeds when each of the calls does. -/
theorem mapM_ok {f : α → Res ε β} {l : List α} (h : ∀ a ∈ l, ∃ b, f a = .ok b) :
    ∃ bs, l.mapM f = .ok bs := by
  induction l with
  | nil => exact ⟨[], rfl⟩
  | cons a l ih =>
    obtain ⟨b, hb⟩ := h a (by simp)
    obtain ⟨bs, hbs⟩ := ih fun a' ha' => h a' (List.mem_cons_of_mem _ ha')
    exact ⟨b :: bs, by rw [List.mapM_cons, hb]; simp only [bind, Except.bind, hbs]; rfl⟩

/-- A call that computes its value, made on every element. -/
theorem mapM_pure {f : α → Res ε β} {g : α → β} {l : List α} (h : ∀ a ∈ l, f a = .ok (g a)) :
    l.mapM f = .ok (l.map g) := by
  induction l with
  | nil => rfl
  | cons a l ih =>
    rw [List.mapM_cons, h a List.mem_cons_self, ih fun a' ha' => h a' (List.mem_cons_of_mem _ ha')]
    rfl

/-- Calls made on every element return one value each, in order. -/
theorem forall₂_of_mapM {f : α → Res ε β} {l : List α} {bs : List β} (h : l.mapM f = .ok bs) :
    List.Forall₂ (fun a b => f a = .ok b) l bs := by
  induction l generalizing bs with
  | nil =>
    cases h
    exact .nil
  | cons a l ih =>
    rw [List.mapM_cons] at h
    obtain ⟨b, hb, h⟩ := bind_eq_ok.1 h
    obtain ⟨rest, hrest, h⟩ := bind_eq_ok.1 h
    cases h
    exact .cons hb (ih hrest)

/-- What is seen of each value depends on what it was made from. -/
theorem map_map_of_mapM {γ : Type} {f : α → Res ε β} {p : β → γ} {q : α → γ} {l : List α} {bs : List β} (h : l.mapM f = .ok bs)
    (hp : ∀ a b, f a = .ok b → p b = q a) : bs.map p = l.map q := by
  have hall := forall₂_of_mapM h
  clear h
  induction hall with
  | nil => rfl
  | cons hab _ ih => rw [List.map_cons, List.map_cons, hp _ _ hab, ih]

/-- Calls that return a certain value where they return one. -/
theorem map_of_mapM {f : α → Res ε β} {g : α → β} {l : List α} {bs : List β} (h : l.mapM f = .ok bs)
    (hg : ∀ a ∈ l, ∀ b, f a = .ok b → b = g a) : bs = l.map g := by
  have hall := forall₂_of_mapM h
  clear h
  induction hall with
  | nil => rfl
  | cons hab _ ih =>
    rw [hg _ List.mem_cons_self _ hab, ih fun a ha => hg a (List.mem_cons_of_mem _ ha)]
    rfl

/-- What calls made on every element return, each returned for one of them. -/
theorem mem_of_mapM {f : α → Res ε β} {l : List α} {bs : List β} (h : l.mapM f = .ok bs) :
    ∀ b ∈ bs, ∃ a ∈ l, f a = .ok b := by
  have hall := forall₂_of_mapM h
  clear h
  induction hall with
  | nil => simp
  | cons hab _ ih =>
    intro b hb
    rcases List.mem_cons.1 hb with rfl | hb
    · exact ⟨_, List.mem_cons_self, hab⟩
    · obtain ⟨a, ha, hf⟩ := ih b hb
      exact ⟨a, List.mem_cons_of_mem _ ha, hf⟩

/-- Every element has a value returned for it. -/
theorem exists_of_mapM {f : α → Res ε β} {l : List α} {bs : List β} (h : l.mapM f = .ok bs) :
    ∀ a ∈ l, ∃ b ∈ bs, f a = .ok b := by
  have hall := forall₂_of_mapM h
  clear h
  induction hall with
  | nil => simp
  | cons hab _ ih =>
    intro a ha
    rcases List.mem_cons.1 ha with rfl | ha
    · exact ⟨_, List.mem_cons_self, hab⟩
    · obtain ⟨b, hb, hf⟩ := ih a ha
      exact ⟨b, List.mem_cons_of_mem _ hb, hf⟩

/-- A call that returns what another one does, element by element. -/
theorem mapM_of_mapM {f f' : α → Res ε β} {l : List α} {bs : List β} (h : l.mapM f = .ok bs)
    (hf : ∀ a ∈ l, ∀ b, f a = .ok b → f' a = .ok b) : l.mapM f' = .ok bs := by
  induction l generalizing bs with
  | nil => exact h
  | cons a l ih =>
    rw [List.mapM_cons] at h ⊢
    obtain ⟨b, hb, h⟩ := bind_eq_ok.1 h
    obtain ⟨rest, hrest, h⟩ := bind_eq_ok.1 h
    have hb' := hf a List.mem_cons_self b hb
    have hrest' := ih hrest fun a' ha' => hf a' (List.mem_cons_of_mem _ ha')
    exact bind_eq_ok.2 ⟨b, hb', bind_eq_ok.2 ⟨rest, hrest', h⟩⟩

theorem fail_ne_ok {e : ε} {a : α} : (fail e : Res ε α) ≠ .ok a := by rintro ⟨⟩

theorem fail_ne_panic (e : ε) : (fail e : Res ε α) ≠ .error .panic := by simp [fail]

theorem ofOption_ne_panic (e : ε) (o : Option α) : ofOption e o ≠ .error .panic := by
  cases o <;> simp [ofOption, fail]

theorem mapErr_ne_panic {f : ε → ε'} {r : Res ε α} (h : r ≠ .error .panic) : mapErr f r ≠ .error .panic := by
  rcases r with (_ | _) | _ <;> simp_all [mapErr]

end Res
