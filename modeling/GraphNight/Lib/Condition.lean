import Mathlib.Data.List.Basic

/-!
# Flat AND/OR conditions

A condition written without parentheses: a first operand, and further ones each
joined to what stands before it by AND or OR. AND binds tighter, so the condition
is the disjunction of its maximal AND-runs (`groups`). Truth is three-valued, as
in SQL, and a row passes when the condition is `yes`.

`entails_iff` says when such a condition entails one of its operands for every
valuation: when each AND-run contains it.
-/

/-- The three truth values of SQL. -/
inductive Truth where
  | yes | no | unknown
deriving DecidableEq, Repr

namespace Truth

def and : Truth → Truth → Truth
  | yes, t => t
  | no, _ => no
  | unknown, no => no
  | unknown, _ => unknown

def or : Truth → Truth → Truth
  | yes, _ => yes
  | no, t => t
  | unknown, yes => yes
  | unknown, _ => unknown

@[simp] theorem and_eq_yes {s t : Truth} : s.and t = yes ↔ s = yes ∧ t = yes := by
  cases s <;> cases t <;> decide

@[simp] theorem or_eq_yes {s t : Truth} : s.or t = yes ↔ s = yes ∨ t = yes := by
  cases s <;> cases t <;> decide

/-- The conjunction of a list. -/
def all (ts : List Truth) : Truth := ts.foldr and yes

/-- The disjunction of a list. -/
def any (ts : List Truth) : Truth := ts.foldr or no

@[simp] theorem all_eq_yes {ts : List Truth} : all ts = yes ↔ ∀ t ∈ ts, t = yes := by
  induction ts with
  | nil => simp [all]
  | cons t ts ih =>
    simp only [all] at ih
    simp [all, ih]

@[simp] theorem any_eq_yes {ts : List Truth} : any ts = yes ↔ yes ∈ ts := by
  induction ts with
  | nil => simp [any]
  | cons t ts ih =>
    simp only [any] at ih
    rw [any, List.foldr_cons, or_eq_yes, ih, List.mem_cons, eq_comm]

end Truth

/-- What joins an operand to the ones before it. -/
inductive Connective where
  | and | or
deriving DecidableEq, Repr

/-- A condition without parentheses. -/
structure FlatCondition (α : Type) where
  first : α
  rest : List (Connective × α)
deriving DecidableEq, Repr

namespace FlatCondition

variable {α β : Type}

/-- Put an operand at the head of the first group. -/
def consFirst (a : α) : List (List α) → List (List α)
  | [] => [[a]]
  | g :: gs => (a :: g) :: gs

/-- The maximal AND-runs of the operands `a`, `rest`. -/
def groupsFrom (a : α) : List (Connective × α) → List (List α)
  | [] => [[a]]
  | (.and, b) :: rest => consFirst a (groupsFrom b rest)
  | (.or, b) :: rest => [a] :: groupsFrom b rest

/-- The maximal AND-runs of a condition. -/
def groups (c : FlatCondition α) : List (List α) := groupsFrom c.first c.rest

/-- The truth of a condition, AND binding tighter than OR. -/
def eval (ρ : α → Truth) (c : FlatCondition α) : Truth :=
  Truth.any (c.groups.map fun g => Truth.all (g.map ρ))

/-- Rename the operands. -/
def map (f : α → β) (c : FlatCondition α) : FlatCondition β := ⟨f c.first, c.rest.map fun p => (p.1, f p.2)⟩

theorem map_consFirst (f : α → β) (a : α) (gs : List (List α)) :
    (consFirst a gs).map (·.map f) = consFirst (f a) (gs.map (·.map f)) := by
  cases gs <;> simp [consFirst]

theorem groups_map (f : α → β) (c : FlatCondition α) : (c.map f).groups = c.groups.map (·.map f) := by
  obtain ⟨a, rest⟩ := c
  unfold groups map
  induction rest generalizing a with
  | nil => simp [groupsFrom]
  | cons p rest ih =>
    obtain ⟨k, b⟩ := p
    cases k with
    | and => simpa [groupsFrom, map_consFirst] using congrArg (consFirst (f a)) (ih b)
    | or => simpa [groupsFrom] using ih b

/-- The truth of a condition with its operands renamed. -/
theorem eval_map (f : α → β) (ρ : β → Truth) (c : FlatCondition α) : (c.map f).eval ρ = c.eval fun a => ρ (f a) := by
  unfold eval
  rw [groups_map, List.map_map]
  exact congrArg Truth.any (List.map_congr_left fun g _ => congrArg Truth.all List.map_map)

/-- The runs hold the operands in order. -/
theorem flatten_groups (c : FlatCondition α) : c.groups.flatten = c.first :: c.rest.map (·.2) := by
  obtain ⟨a, rest⟩ := c
  unfold groups
  induction rest generalizing a with
  | nil => rfl
  | cons p rest ih =>
    obtain ⟨k, b⟩ := p
    have hcons : ∀ gs : List (List α), (consFirst a gs).flatten = a :: gs.flatten := by
      intro gs
      cases gs <;> simp [consFirst]
    cases k <;> simp_all [groupsFrom]

/-- Valuations that agree on the operands agree on the condition. -/
theorem eval_congr {ρ σ : α → Truth} {c : FlatCondition α} (h : ∀ a ∈ c.first :: c.rest.map (·.2), ρ a = σ a) :
    c.eval ρ = c.eval σ := by
  unfold eval
  refine congrArg Truth.any (List.map_congr_left fun g hg => congrArg Truth.all (List.map_congr_left fun a ha => h a ?_))
  rw [← flatten_groups]
  exact List.mem_flatten.2 ⟨g, hg, ha⟩

theorem eval_eq_yes {ρ : α → Truth} {c : FlatCondition α} :
    c.eval ρ = .yes ↔ ∃ g ∈ c.groups, ∀ a ∈ g, ρ a = .yes := by
  simp only [eval, Truth.any_eq_yes, List.mem_map, Truth.all_eq_yes]
  simp

/-- A run can be made true alone, unless one of its operands never is. -/
theorem exists_valuation [DecidableEq α] {c : FlatCondition α} {never : α → Prop} {g : List α} (hg : g ∈ c.groups)
    (hlive : ∀ a ∈ g, ¬never a) :
    ∃ ρ : α → Truth, (∀ a, never a → ρ a ≠ .yes) ∧ c.eval ρ = .yes ∧ ∀ a, ρ a = .yes → a ∈ g := by
  refine ⟨fun a => if a ∈ g then .yes else .no, fun a ha => ?_, eval_eq_yes.2 ⟨g, hg, fun a ha => if_pos ha⟩, ?_⟩
  · dsimp only
    rw [if_neg fun hmem => hlive a hmem ha]
    decide
  · intro a ha
    by_contra hnot
    simp [hnot] at ha

/-- Where some operands are never true, a condition entails an operand exactly when each of its
runs has one that never is, or contains it. -/
theorem entails_iff_of_never [DecidableEq α] {c : FlatCondition α} {never : α → Prop} {a : α} :
    (∀ ρ : α → Truth, (∀ b, never b → ρ b ≠ .yes) → c.eval ρ = .yes → ρ a = .yes) ↔
      ∀ g ∈ c.groups, (∃ b ∈ g, never b) ∨ a ∈ g := by
  constructor
  · intro h g hg
    by_contra hnot
    rw [not_or, not_exists] at hnot
    obtain ⟨ρ, hnever, htrue, honly⟩ := exists_valuation hg fun b hb hdead => hnot.1 b ⟨hb, hdead⟩
    exact hnot.2 (honly a (h ρ hnever htrue))
  · intro h ρ hnever hρ
    obtain ⟨g, hg, htrue⟩ := eval_eq_yes.1 hρ
    obtain ⟨b, hb, hdead⟩ | hmem := h g hg
    · exact absurd (htrue b hb) (hnever b hdead)
    · exact htrue a hmem

/-- A condition is never true when each of its runs has an operand that never is. -/
theorem never_iff [DecidableEq α] {c : FlatCondition α} {never : α → Prop} :
    (∀ ρ : α → Truth, (∀ b, never b → ρ b ≠ .yes) → c.eval ρ ≠ .yes) ↔ ∀ g ∈ c.groups, ∃ b ∈ g, never b := by
  constructor
  · intro h g hg
    by_contra hnot
    rw [not_exists] at hnot
    obtain ⟨ρ, hnever, htrue, -⟩ := exists_valuation hg fun b hb hdead => hnot b ⟨hb, hdead⟩
    exact h ρ hnever htrue
  · intro h ρ hnever hρ
    obtain ⟨g, hg, htrue⟩ := eval_eq_yes.1 hρ
    obtain ⟨b, hb, hdead⟩ := h g hg
    exact hnever b hdead (htrue b hb)

/-- **What a flat condition entails**: an operand is true whenever the condition is,
for every valuation, exactly when every AND-run contains it. -/
theorem entails_iff [DecidableEq α] {c : FlatCondition α} {a : α} :
    (∀ ρ : α → Truth, c.eval ρ = .yes → ρ a = .yes) ↔ ∀ g ∈ c.groups, a ∈ g := by
  have h := @entails_iff_of_never α _ c (fun _ => False) a
  simpa using h

/-- Without an OR there is one run, that of all operands. -/
theorem groups_of_all_and {c : FlatCondition α} (h : ∀ p ∈ c.rest, p.1 = .and) :
    c.groups = [c.first :: c.rest.map (·.2)] := by
  obtain ⟨a, rest⟩ := c
  unfold groups
  induction rest generalizing a with
  | nil => rfl
  | cons p rest ih =>
    obtain ⟨k, b⟩ := p
    obtain rfl : k = .and := h (k, b) (by simp)
    simp only at ih ⊢
    rw [groupsFrom, ih b fun p hp => h p (List.mem_cons_of_mem _ hp)]
    rfl

end FlatCondition
