import Mathlib.Data.List.Forall2

/-!
# Reading every entry of a list

A reader that may fail, applied to every entry of a list, and how two readers of one list
compare.
-/

namespace Traverse

variable {ι α β : Type}

/-- Every entry is read. -/
theorem mapM_eq_some {f : ι → Option α} {items : List ι} {xs : List α} :
    items.mapM f = some xs ↔ List.Forall₂ (fun item x => f item = some x) items xs := by
  induction items generalizing xs with
  | nil => cases xs <;> simp
  | cons item items ih =>
    rw [List.mapM_cons]
    cases hf : f item with
    | none =>
      refine iff_of_false (by simp) fun h => ?_
      cases h with
      | cons hhead _ => rw [hf] at hhead; cases hhead
    | some x =>
      cases hrest : items.mapM f with
      | none =>
        refine iff_of_false (by simp) fun h => ?_
        cases h with
        | cons _ htail => rw [ih.2 htail] at hrest; cases hrest
      | some rest =>
        cases xs with
        | nil => simp
        | cons y ys =>
          have htail := @ih ys
          rw [hrest, Option.some.injEq] at htail
          simp [hf, ← htail]

/-- A reader of every entry that two readers of it agree with. -/
theorem mapM_iff {read : ι → Option α} {core : α → Option β} {convert : ι → Option β} {P : ι → Prop}
    {items : List ι} {xs : List α} {ys : List β} (hread : items.mapM read = some xs) (hconvert : items.mapM convert = some ys)
    (hitem : ∀ item ∈ items, ∀ x y, read item = some x → convert item = some y → (core x = some y ↔ P item)) :
    xs.mapM core = some ys ↔ ∀ item ∈ items, P item := by
  rw [mapM_eq_some] at hread hconvert ⊢
  induction hread generalizing ys with
  | nil =>
    cases hconvert
    simp
  | cons hx _ ih =>
    cases hconvert with
    | cons hy hys =>
      rw [List.forall₂_cons, List.forall_mem_cons, hitem _ List.mem_cons_self _ _ hx hy,
        ih hys fun item hmem => hitem item (List.mem_cons_of_mem _ hmem)]

/-- A reader that never fails. -/
theorem mapM_some (f : ι → α) (items : List ι) : items.mapM (fun item => some (f item)) = some (items.map f) :=
  List.mapM_pure

/-- Every entry is read where each can be. -/
theorem exists_mapM_iff {f : ι → Option α} {items : List ι} :
    (∃ xs, items.mapM f = some xs) ↔ ∀ item ∈ items, f item ≠ none := by
  induction items with
  | nil => simp
  | cons item items ih =>
    rw [List.forall_mem_cons, ← ih, List.mapM_cons]
    cases f item with
    | none => simp
    | some x =>
      cases items.mapM f with
      | none => simp
      | some xs => simp

/-- Two readers that never fail agree, up to `core`, where they agree on every entry. -/
theorem mapM_map_iff {read : ι → α} {core : α → Option β} {convert : ι → β} {P : ι → Prop} {items : List ι}
    (hitem : ∀ item ∈ items, core (read item) = some (convert item) ↔ P item) :
    (items.map read).mapM core = some (items.map convert) ↔ ∀ item ∈ items, P item := by
  refine mapM_iff (mapM_some read items) (mapM_some convert items) fun item hmem x y hx hy => ?_
  obtain rfl := Option.some.inj hx
  obtain rfl := Option.some.inj hy
  exact hitem item hmem

theorem mapM_map_eq {read : ι → α} {core : α → Option β} {convert : ι → β} {items : List ι}
    (hitem : ∀ item ∈ items, core (read item) = some (convert item)) :
    (items.map read).mapM core = some (items.map convert) :=
  (mapM_map_iff fun item hmem => iff_true_intro (hitem item hmem)).2 fun _ _ => trivial

/-- What goes with one item goes together. -/
theorem forall₂_of_common {R : ι → α → Prop} {S : ι → β → Prop} {T : α → β → Prop} {items : List ι} {xs : List α} {ys : List β}
    (h : List.Forall₂ R items xs) (h' : List.Forall₂ S items ys)
    (hT : ∀ item, ∀ x, ∀ y ∈ ys, R item x → S item y → T x y) : List.Forall₂ T xs ys := by
  induction h generalizing ys with
  | nil =>
    cases h'
    exact .nil
  | cons hx _ ih =>
    cases h' with
    | cons hy hrest =>
      exact .cons (hT _ _ _ List.mem_cons_self hx hy) (ih hrest fun item x y hmem => hT item x y (List.mem_cons_of_mem _ hmem))

theorem mapM_append_some {f : ι → Option α} {items items' : List ι} {xs xs' : List α} (h : items.mapM f = some xs)
    (h' : items'.mapM f = some xs') : (items ++ items').mapM f = some (xs ++ xs') := by
  rw [List.mapM_append, h, h']
  rfl

/-- What every entry is read as is what the readable entries are read as. -/
theorem filterMap_of_mapM {f : ι → Option α} {items : List ι} {xs : List α} (h : items.mapM f = some xs) :
    items.filterMap f = xs := by
  rw [mapM_eq_some] at h
  induction h with
  | nil => rfl
  | cons hx _ ih => rw [List.filterMap_cons_some hx, ih]

/-- Where one reader reads every entry, so does one that reads what it reads. -/
theorem mapM_of_mapM {read : ι → Option α} {convert : ι → Option β} {items : List ι} {xs : List α}
    (h : items.mapM read = some xs) (hread : ∀ item x, read item = some x → ∃ y, convert item = some y) :
    items.mapM convert = some (items.filterMap convert) := by
  rw [mapM_eq_some] at h
  rw [mapM_eq_some]
  induction h with
  | nil => exact .nil
  | cons hx _ ih =>
    obtain ⟨y, hy⟩ := hread _ _ hx
    rw [List.filterMap_cons_some hy]
    exact .cons hy ih

/-- One reader after the other. -/
theorem mapM_bind {f : ι → Option α} {g : α → Option β} {items : List ι} {xs : List α} {ys : List β}
    (hf : items.mapM f = some xs) (hg : xs.mapM g = some ys) : items.mapM (fun item => (f item).bind g) = some ys := by
  rw [mapM_eq_some] at hf hg ⊢
  induction hf generalizing ys with
  | nil =>
    cases hg
    exact .nil
  | cons hx _ ih =>
    cases hg with
    | cons hy hys => exact .cons (by rw [hx, Option.bind_some, hy]) (ih hys)

/-- A call on every element that may fail succeeds where each does. -/
theorem forM_eq_ok {ε : Type} {f : ι → Except ε Unit} {items : List ι} :
    items.forM f = .ok () ↔ ∀ item ∈ items, f item = .ok () := by
  induction items with
  | nil => simp [pure, Except.pure]
  | cons item items ih =>
    rw [List.forall_mem_cons, ← ih]
    change (f item >>= fun _ => items.forM f) = .ok () ↔ _
    cases f item with
    | error e => simp [bind, Except.bind]
    | ok u => simp [bind, Except.bind]

/-- The calls of a list succeed where each, read as an option, does. -/
theorem mapM_toOption {ε : Type} {f : ι → Except ε α} {items : List ι} {xs : List α} :
    items.mapM f = .ok xs ↔ items.mapM (fun item => (f item).toOption) = some xs := by
  induction items generalizing xs with
  | nil => simp [pure, Except.pure]
  | cons item items ih =>
    rw [List.mapM_cons, List.mapM_cons]
    cases f item with
    | error e => simp [bind, Except.bind, Except.toOption]
    | ok x =>
      rw [show (Except.ok x : Except ε α).toOption = some x from rfl]
      cases hrest : items.mapM f with
      | error e =>
        have hnone : items.mapM (fun item => (f item).toOption) = none := by
          cases hsome : items.mapM (fun item => (f item).toOption) with
          | none => rfl
          | some ys => rw [ih.2 hsome] at hrest; cases hrest
        simp [bind, Except.bind, hnone]
      | ok ys => simp [bind, Except.bind, ih.1 hrest, pure, Except.pure]

end Traverse
