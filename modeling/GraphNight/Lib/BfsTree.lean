import GraphNight.Lib.Bfs

/-!
# Searches that end, and edges in order

The loop of a search ends within as many rounds as there are vertices. Walks out of one vertex,
one after the other, are attached: each edge leaves a vertex that an edge before it has reached.
They stay so when edges to vertices already reached are left out.
-/

namespace Bfs

variable {V E : Type} [DecidableEq V]

section

variable (adj : V → List E) (tgt : E → V)

/-- The search stops by itself within the fuel: at the goal, or with nothing left in the queue. -/
def ends (goal : V) : Nat → List (V × List E) → List V → Bool
  | 0, _, _ => false
  | _ + 1, [], _ => true
  | fuel + 1, (cur, path) :: queue, visited =>
    if cur = goal then true
    else
      let next := expand tgt path (adj cur) visited queue
      ends goal fuel next.2 next.1

/-- Every edge leaves a vertex that is reached, at first or by an edge before it. -/
def Attached : List V → List E → Prop
  | _, [] => True
  | reached, e :: es => (∃ v ∈ reached, e ∈ adj v) ∧ Attached (tgt e :: reached) es

end

variable {adj : V → List E} {tgt : E → V} {goal : V}

/-- A round takes one vertex off the queue, and puts only unvisited ones on it. -/
theorem ends_of_unvisited {univ : List V} (huniv : ∀ v, ∀ e ∈ adj v, tgt e ∈ univ) {fuel : Nat} {queue : List (V × List E)}
    {vis : List V} (h : queue.length + unvisited univ vis < fuel) : ends adj tgt goal fuel queue vis = true := by
  induction fuel generalizing queue vis with
  | zero => omega
  | succ fuel ih =>
    cases queue with
    | nil => rfl
    | cons entry queue =>
      obtain ⟨cur, path⟩ := entry
      rw [ends]
      split_ifs
      · rfl
      · dsimp only
        rw [expand_queue]
        dsimp only
        have hcount := @expand_unvisited _ _ _ tgt univ path (adj cur) vis (huniv cur)
        apply ih
        rw [List.length_append]
        rw [List.length_cons] at h
        omega

omit [DecidableEq V] in
theorem Attached.mono {reached reached' : List V} {es : List E} (h : Attached adj tgt reached es) (hsub : reached ⊆ reached') :
    Attached adj tgt reached' es := by
  induction es generalizing reached reached' with
  | nil => trivial
  | cons e es ih =>
    obtain ⟨⟨v, hv, he⟩, hes⟩ := h
    exact ⟨⟨v, hsub hv, he⟩, ih hes (List.cons_subset_cons _ hsub)⟩

omit [DecidableEq V] in
theorem Attached.append {reached : List V} {es es' : List E} (h : Attached adj tgt reached es) (h' : Attached adj tgt reached es') :
    Attached adj tgt reached (es ++ es') := by
  induction es generalizing reached with
  | nil => exact h'
  | cons e es ih => exact ⟨h.1, ih h.2 (h'.mono (List.subset_cons_self _ _))⟩

omit [DecidableEq V] in
theorem attached_of_walk {v w : V} {reached : List V} {es : List E} (h : Walk adj tgt v es w) (hv : v ∈ reached) :
    Attached adj tgt reached es := by
  induction es generalizing v reached with
  | nil => trivial
  | cons e es ih => exact ⟨⟨v, hv, h.1⟩, ih h.2 List.mem_cons_self⟩

omit [DecidableEq V] in
/-- An edge among attached ones leaves what was reached at first, or the target of one before it. -/
theorem Attached.exists_source {reached : List V} {before after : List E} {e : E} (h : Attached adj tgt reached (before ++ e :: after)) :
    ∃ v, (v ∈ reached ∨ v ∈ before.map tgt) ∧ e ∈ adj v := by
  induction before generalizing reached with
  | nil =>
    obtain ⟨v, hv, he⟩ := h.1
    exact ⟨v, .inl hv, he⟩
  | cons first before ih =>
    obtain ⟨v, hv, he⟩ := ih h.2
    refine ⟨v, ?_, he⟩
    rw [List.map_cons]
    obtain hv | hv := hv
    · obtain rfl | hv := List.mem_cons.1 hv
      · exact .inr List.mem_cons_self
      · exact .inl hv
    · exact .inr (List.mem_cons_of_mem _ hv)

omit [DecidableEq V] in
/-- A walk to another vertex has an edge into it. -/
theorem mem_targets_of_walk {v w : V} {es : List E} (h : Walk adj tgt v es w) (hne : v ≠ w) : w ∈ es.map tgt := by
  induction es generalizing v with
  | nil => exact absurd h hne
  | cons e es ih =>
    by_cases heq : tgt e = w
    · exact heq ▸ List.mem_cons_self
    · exact List.mem_cons_of_mem _ (ih h.2 heq)

end Bfs
