import GraphNight.Lib.Fault

/-!
# Locks that one task holds

A task runs through a list of actions: it takes read and write locks, gives them back, and
changes a state in between. The locks are not reentrant: a task that asks for a lock it holds
itself in a way that excludes the request waits, and nobody else can end its waiting.
-/

namespace SelfLock

/-- How a lock is held. -/
inductive Mode where
  | read
  | write
deriving DecidableEq, Repr

/-- What a task does next. -/
inductive Action (L σ : Type) where
  | acquire (lock : L) (mode : Mode)
  | release (lock : L) (mode : Mode)
  | act (f : σ → Res String σ)

/-- How a run of a task ends: returned, failed, or waiting for itself. -/
inductive Outcome (L σ : Type) where
  | done (s : σ)
  | failed (e : Fault String) (s : σ)
  | waits (lock : L) (s : σ)

variable {L σ : Type} [DecidableEq L]

/-- A lock held in one mode excludes a request, unless both are for reading. -/
def excludes (held : L × Mode) (lock : L) (mode : Mode) : Bool :=
  held.1 == lock && !(held.2 == .read && mode == .read)

/-- Run the actions of a task that holds locks. -/
def run : List (Action L σ) → List (L × Mode) → σ → Outcome L σ
  | [], _, s => .done s
  | .acquire lock mode :: rest, held, s =>
    if held.any (excludes · lock mode) then .waits lock s else run rest ((lock, mode) :: held) s
  | .release lock mode :: rest, held, s => run rest (held.erase (lock, mode)) s
  | .act f :: rest, held, s =>
    match f s with
    | .ok s => run rest held s
    | .error e => .failed e s

/-- A task that holds a write lock does not get the lock again. -/
theorem run_acquire_held {rest : List (Action L σ)} {held : List (L × Mode)} {lock : L} (mode : Mode) (s : σ)
    (h : (lock, .write) ∈ held) : run (.acquire lock mode :: rest) held s = .waits lock s := by
  rw [run, if_pos]
  exact List.any_eq_true.2 ⟨_, h, by simp [excludes]⟩

/-- A task that holds nothing gets any lock. -/
theorem run_acquire_free {rest : List (Action L σ)} (lock : L) (mode : Mode) (s : σ) :
    run (.acquire lock mode :: rest) [] s = run rest [(lock, mode)] s := by
  rw [run, if_neg (by simp)]

end SelfLock
