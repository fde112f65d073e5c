import Mathlib.Data.Finset.Card
import Mathlib.Data.Nat.Find

/-!
# Breadth-first path search

A search over an adjacency function, with the queue of (vertex, path) pairs and
the visited list of the usual imperative loop. The main result, `search_eq_route`,
says which of the shortest paths is found: the one that takes, at every vertex,
the first listed edge that leads one step closer to the goal. Everything else
about the search (it finds a path when there is one, the path is shortest, only
the edges on shortest routes matter) is read off that route.
-/

namespace Bfs

variable {V E : Type} [DecidableEq V]

section Search

variable (adj : V → List E) (tgt : E → V)

/-- The inner loop: push the targets of the edges that are not visited yet. -/
def expand (path : List E) : List E → List V → List (V × List E) → List V × List (V × List E)
  | [], visited, queue => (visited, queue)
  | e :: es, visited, queue =>
    if tgt e ∈ visited then expand path es visited queue
    else expand path es (tgt e :: visited) (queue ++ [(tgt e, path ++ [e])])

/-- The outer loop, for at most `fuel` vertices. -/
def search (goal : V) : Nat → List (V × List E) → List V → Option (List E)
  | 0, _, _ => none
  | _ + 1, [], _ => none
  | fuel + 1, (cur, path) :: queue, visited =>
    if cur = goal then some path
    else
      let next := expand tgt path (adj cur) visited queue
      search goal fuel next.2 next.1

/-- `goal` is reached from `v` by a walk of `n` edges. -/
def reach (goal : V) : Nat → V → Bool
  | 0, v => v = goal
  | n + 1, v => (adj v).any fun e => reach goal n (tgt e)

/-- The walk of `n` edges that takes the first edge closer to the goal each time. -/
def route (goal : V) : Nat → V → List E
  | 0, _ => []
  | n + 1, v =>
    match (adj v).find? fun e => reach adj tgt goal n (tgt e) with
    | some e => e :: route goal n (tgt e)
    | none => []

/-- The walk `p` leads from `v` to `w`. -/
def Walk : V → List E → V → Prop
  | v, [], w => v = w
  | v, e :: p, w => e ∈ adj v ∧ Walk (tgt e) p w

/-- The goal is `n` edges away from `v` and no fewer. -/
def Dist (goal : V) (n : Nat) (v : V) : Prop :=
  reach adj tgt goal n v = true ∧ ∀ m < n, reach adj tgt goal m v = false

end Search

variable {adj : V → List E} {tgt : E → V} {goal : V}

theorem reach_succ_of_mem {n : Nat} {v : V} {e : E} (he : e ∈ adj v)
    (hr : reach adj tgt goal n (tgt e) = true) : reach adj tgt goal (n + 1) v = true :=
  List.any_eq_true.2 ⟨e, he, hr⟩

theorem not_reach_tgt {n : Nat} {v : V} (hv : reach adj tgt goal (n + 1) v = false) {e : E}
    (he : e ∈ adj v) : reach adj tgt goal n (tgt e) = false :=
  Bool.eq_false_iff.2 fun hr => by simp [reach_succ_of_mem he hr] at hv

theorem exists_dist {n : Nat} {v : V} (h : reach adj tgt goal n v = true) :
    ∃ d, Dist adj tgt goal d v := by
  have hex : ∃ d, reach adj tgt goal d v = true := ⟨n, h⟩
  exact ⟨Nat.find hex, Nat.find_spec hex, fun m hm => by simpa using Nat.find_min hex hm⟩

theorem Dist.unique {m n : Nat} {v : V} (hm : Dist adj tgt goal m v) (hn : Dist adj tgt goal n v) :
    m = n := by
  rcases Nat.lt_trichotomy m n with h | h | h
  · simpa [hm.1] using hn.2 m h
  · exact h
  · simpa [hn.1] using hm.2 n h

/-- The first edge of a route. -/
theorem route_succ {n : Nat} {v : V} (h : reach adj tgt goal (n + 1) v = true) :
    ∃ e ∈ adj v, (adj v).find? (fun e => reach adj tgt goal n (tgt e)) = some e ∧
      reach adj tgt goal n (tgt e) = true ∧
      route adj tgt goal (n + 1) v = e :: route adj tgt goal n (tgt e) := by
  obtain ⟨e₀, he₀, hr₀⟩ := List.any_eq_true.1 h
  cases hf : (adj v).find? fun e => reach adj tgt goal n (tgt e) with
  | none => exact absurd hr₀ (List.find?_eq_none.1 hf e₀ he₀)
  | some e =>
    have hr := List.find?_some (p := fun e => reach adj tgt goal n (tgt e)) hf
    exact ⟨e, List.mem_of_find?_eq_some hf, rfl, hr, by simp only [route, hf]⟩

theorem walk_route {n : Nat} {v : V} (h : reach adj tgt goal n v = true) :
    Walk adj tgt v (route adj tgt goal n v) goal := by
  induction n generalizing v with
  | zero => simpa [reach, route, Walk] using h
  | succ n ih =>
    obtain ⟨e, he, -, hr, hroute⟩ := route_succ h
    rw [hroute]
    exact ⟨he, ih hr⟩

/-- One step along a shortest route is one step closer. -/
theorem Dist.step {n : Nat} {v : V} (h : Dist adj tgt goal (n + 1) v) {e : E} (he : e ∈ adj v)
    (hr : reach adj tgt goal n (tgt e) = true) : Dist adj tgt goal n (tgt e) := by
  refine ⟨hr, fun m hm => ?_⟩
  exact not_reach_tgt (h.2 (m + 1) (by omega)) he

/-- No vertex on a shortest route is passed twice. -/
theorem Dist.route_targets {n : Nat} {v : V} (h : Dist adj tgt goal n v) :
    ((route adj tgt goal n v).map tgt).Nodup ∧ v ∉ (route adj tgt goal n v).map tgt ∧
      ∀ x ∈ (route adj tgt goal n v).map tgt, ∃ m < n, Dist adj tgt goal m x := by
  induction n generalizing v with
  | zero => simp [route]
  | succ n ih =>
    obtain ⟨e, he, -, hr, hroute⟩ := route_succ h.1
    have hd := h.step he hr
    obtain ⟨hnodup, hnot, hdist⟩ := ih hd
    have hall : ∀ x ∈ (route adj tgt goal (n + 1) v).map tgt, ∃ m < n + 1, Dist adj tgt goal m x := by
      intro x hx
      rw [hroute, List.map_cons, List.mem_cons] at hx
      rcases hx with rfl | hx
      · exact ⟨n, by omega, hd⟩
      · obtain ⟨m, hm, hx⟩ := hdist x hx
        exact ⟨m, by omega, hx⟩
    refine ⟨?_, fun hv => ?_, hall⟩
    · rw [hroute, List.map_cons]
      exact List.nodup_cons.2 ⟨hnot, hnodup⟩
    · obtain ⟨m, hm, hx⟩ := hall v hv
      exact absurd (hx.unique h) (by omega)

theorem length_route {n : Nat} {v : V} (h : reach adj tgt goal n v = true) :
    (route adj tgt goal n v).length = n := by
  induction n generalizing v with
  | zero => rfl
  | succ n ih =>
    obtain ⟨e, -, -, hr, hroute⟩ := route_succ h
    rw [hroute, List.length_cons, ih hr]

omit [DecidableEq V] in
theorem targets_of_walk {univ : List V} (huniv : ∀ v, ∀ e ∈ adj v, tgt e ∈ univ) {v w : V} {p : List E}
    (h : Walk adj tgt v p w) : ∀ x ∈ p.map tgt, x ∈ univ := by
  induction p generalizing v with
  | nil => simp
  | cons e p ih =>
    intro x hx
    rcases List.mem_cons.1 hx with rfl | hx
    · exact huniv v e h.1
    · exact ih h.2 x hx

/-- A distance is at most the number of vertices edges lead to. -/
theorem Dist.le_length {univ : List V} (huniv : ∀ v, ∀ e ∈ adj v, tgt e ∈ univ) {n : Nat} {v : V}
    (h : Dist adj tgt goal n v) : n ≤ univ.length := by
  have hnodup := h.route_targets.1
  have hmem := targets_of_walk huniv (walk_route h.1)
  have hle := (List.subperm_of_subset hnodup hmem).length_le
  rwa [List.length_map, length_route h.1] at hle

theorem reach_of_walk {v w : V} {p : List E} (h : Walk adj tgt v p w) : reach adj tgt w p.length v = true := by
  induction p generalizing v with
  | nil => simpa [Walk, reach] using h
  | cons e p ih => exact reach_succ_of_mem h.1 (ih h.2)

theorem reach_add {w : V} {m n : Nat} {v : V} (hv : reach adj tgt w m v = true)
    (hw : reach adj tgt goal n w = true) : reach adj tgt goal (m + n) v = true := by
  induction m generalizing v with
  | zero =>
    have hvw : v = w := by simpa [reach] using hv
    rwa [Nat.zero_add, hvw]
  | succ m ih =>
    obtain ⟨e, he, hr⟩ := List.any_eq_true.1 hv
    rw [Nat.add_right_comm]
    exact reach_succ_of_mem he (ih hr)

omit [DecidableEq V] in
theorem Walk.append {v w : V} {p q : List E} :
    Walk adj tgt v (p ++ q) w ↔ ∃ x, Walk adj tgt v p x ∧ Walk adj tgt x q w := by
  induction p generalizing v with
  | nil => simp [Walk]
  | cons e p ih => simp only [List.cons_append, Walk, ih, and_assoc, exists_and_left]

omit [DecidableEq V] in
theorem Walk.unique {v w w' : V} {p : List E} (h : Walk adj tgt v p w) (h' : Walk adj tgt v p w') : w = w' := by
  induction p generalizing v with
  | nil => exact h.symm.trans h'
  | cons e p ih => exact ih h.2 h'.2

/-- The head of a route is the route to the vertex it leads to. -/
theorem Dist.route_head {n : Nat} {v x : V} (h : Dist adj tgt goal n v) {p q : List E}
    (hroute : route adj tgt goal n v = p ++ q) (hwalk : Walk adj tgt v p x) :
    Dist adj tgt x p.length v ∧ route adj tgt x p.length v = p := by
  induction p generalizing n v with
  | nil =>
    have hvx : v = x := hwalk
    exact ⟨⟨by simp [reach, hvx], fun m hm => absurd hm (by simp)⟩, rfl⟩
  | cons e p ih =>
    have hpos : n ≠ 0 := by
      rintro rfl
      simp [route] at hroute
    obtain ⟨n, rfl⟩ := Nat.exists_eq_succ_of_ne_zero hpos
    obtain ⟨e', -, hfind, hr, hcons⟩ := route_succ h.1
    rw [hcons, List.cons_append] at hroute
    obtain ⟨rfl, hrest⟩ := List.cons.inj hroute
    have hstep := h.step hwalk.1 hr
    obtain ⟨hdist, hpath⟩ := ih hstep hrest hwalk.2
    have hlength : p.length + q.length = n := by
      rw [← List.length_append, ← hrest, length_route hr]
    have hgoal : reach adj tgt goal q.length x = true := by
      have hwhole := walk_route hr
      rw [hrest] at hwhole
      obtain ⟨y, hp, hq⟩ := Walk.append.1 hwhole
      rw [hwalk.2.unique hp]
      exact reach_of_walk hq
    have hclose : ∀ m w, reach adj tgt x m w = true → reach adj tgt goal (m + q.length) w = true :=
      fun m w hw => reach_add hw hgoal
    constructor
    · refine ⟨reach_succ_of_mem hwalk.1 hdist.1, fun m hm => Bool.eq_false_iff.2 fun hreach => ?_⟩
      have hfar := h.2 (m + q.length) (by simp at hm; omega)
      rw [hclose m v hreach] at hfar
      cases hfar
    · -- an edge listed before `e` is no closer to the goal, so no closer to `x`
      obtain ⟨-, es₁, es₂, hadj, hes⟩ := List.find?_eq_some_iff_append.1 hfind
      have hfirst : (adj v).find? (fun e => reach adj tgt x p.length (tgt e)) = some e' := by
        refine List.find?_eq_some_iff_append.2 ⟨hdist.1, es₁, es₂, hadj, fun e'' he'' => ?_⟩
        have hnot := hes e'' he''
        cases hx : reach adj tgt x p.length (tgt e'') with
        | false => rfl
        | true =>
          have hnear := hclose _ _ hx
          rw [hlength] at hnear
          simp [hnear] at hnot
      simp only [List.length_cons, route, hfirst, hpath]

/-! ## One level of the queue -/

section Level

variable (adj tgt)

/-- The outer loop's effect on the entries of `level`, none of which is the goal. -/
def expandAll : List (V × List E) → List V → List (V × List E) → List V × List (V × List E)
  | [], visited, queue => (visited, queue)
  | (v, p) :: level, visited, queue =>
    let next := expand tgt p (adj v) visited queue
    expandAll level next.1 next.2

end Level

theorem expand_append (p : List E) (es₁ es₂ : List E) (vis : List V) (q : List (V × List E)) :
    expand tgt p (es₁ ++ es₂) vis q =
      expand tgt p es₂ (expand tgt p es₁ vis q).1 (expand tgt p es₁ vis q).2 := by
  induction es₁ generalizing vis q with
  | nil => rfl
  | cons e es ih =>
    simp only [List.cons_append, expand]
    split <;> exact ih _ _

/-- What the inner loop pushes does not depend on the queue it pushes to. -/
theorem expand_queue (p : List E) (es : List E) (vis : List V) (q : List (V × List E)) :
    expand tgt p es vis q =
      ((expand tgt p es vis []).1, q ++ (expand tgt p es vis []).2) := by
  induction es generalizing vis q with
  | nil => simp [expand]
  | cons e es ih =>
    simp only [expand]
    split
    · exact ih _ _
    · rw [ih _ (q ++ _), ih _ ([] ++ _)]
      simp

theorem expandAll_append (l₁ l₂ : List (V × List E)) (vis : List V) (q : List (V × List E)) :
    expandAll adj tgt (l₁ ++ l₂) vis q =
      expandAll adj tgt l₂ (expandAll adj tgt l₁ vis q).1 (expandAll adj tgt l₁ vis q).2 := by
  induction l₁ generalizing vis q with
  | nil => rfl
  | cons a l ih => exact ih _ _

theorem expandAll_queue (l : List (V × List E)) (vis : List V) (q : List (V × List E)) :
    expandAll adj tgt l vis q =
      ((expandAll adj tgt l vis []).1, q ++ (expandAll adj tgt l vis []).2) := by
  induction l generalizing vis q with
  | nil => simp [expandAll]
  | cons a l ih =>
    obtain ⟨v, p⟩ := a
    simp only [expandAll]
    rw [expand_queue, ih _ (q ++ _), ih _ (expand tgt p (adj v) vis []).2]
    simp

/-- The outer loop runs through a level that does not hold the goal. -/
theorem search_level {level : List (V × List E)} (h : ∀ a ∈ level, a.1 ≠ goal) (fuel : Nat)
    (queue : List (V × List E)) (vis : List V) :
    search adj tgt goal (level.length + fuel) (level ++ queue) vis =
      search adj tgt goal fuel (expandAll adj tgt level vis queue).2
        (expandAll adj tgt level vis queue).1 := by
  induction level generalizing queue vis with
  | nil => simp [expandAll]
  | cons a level ih =>
    obtain ⟨v, p⟩ := a
    have hv : v ≠ goal := h (v, p) (by simp)
    rw [show ((v, p) :: level).length + fuel = (level.length + fuel) + 1 by simp; omega]
    simp only [List.cons_append, search, if_neg hv, expandAll]
    rw [expand_queue p (adj v) vis (level ++ queue), expand_queue p (adj v) vis queue]
    simp only [List.append_assoc]
    exact ih (fun a ha => h a (List.mem_cons_of_mem _ ha)) _ _

/-! ## What a level pushes -/

/-- The visited list grows by the vertices pushed. -/
theorem expand_visited (p : List E) (es : List E) (vis : List V) :
    (expand tgt p es vis []).1 = ((expand tgt p es vis []).2.map Prod.fst).reverse ++ vis := by
  induction es generalizing vis with
  | nil => simp [expand]
  | cons e es ih =>
    simp only [expand]
    split
    · exact ih vis
    · rw [expand_queue, ih]
      simp

theorem expandAll_visited (l : List (V × List E)) (vis : List V) :
    (expandAll adj tgt l vis []).1 =
      ((expandAll adj tgt l vis []).2.map Prod.fst).reverse ++ vis := by
  induction l generalizing vis with
  | nil => simp [expandAll]
  | cons a l ih =>
    obtain ⟨v, p⟩ := a
    simp only [expandAll]
    rw [expandAll_queue, ih, expand_visited]
    simp

/-- A pushed vertex is the target of an edge. -/
theorem exists_edge_of_expand {p : List E} {es : List E} {vis : List V} {a : V × List E}
    (h : a ∈ (expand tgt p es vis []).2) : ∃ e ∈ es, tgt e = a.1 := by
  induction es generalizing vis with
  | nil => cases h
  | cons e es ih =>
    simp only [expand] at h
    split at h
    · obtain ⟨e', he', ht⟩ := ih h
      exact ⟨e', List.mem_cons_of_mem _ he', ht⟩
    · rw [expand_queue] at h
      rcases List.mem_append.1 h with h | h
      · exact ⟨e, by simp, by simp [List.mem_singleton.1 h]⟩
      · obtain ⟨e', he', ht⟩ := ih h
        exact ⟨e', List.mem_cons_of_mem _ he', ht⟩

theorem exists_edge_of_expandAll {l : List (V × List E)} {vis : List V} {a : V × List E}
    (h : a ∈ (expandAll adj tgt l vis []).2) : ∃ b ∈ l, ∃ e ∈ adj b.1, tgt e = a.1 := by
  induction l generalizing vis with
  | nil => cases h
  | cons b l ih =>
    obtain ⟨v, p⟩ := b
    simp only [expandAll] at h
    rw [expandAll_queue] at h
    rcases List.mem_append.1 h with h | h
    · exact ⟨(v, p), by simp, exists_edge_of_expand h⟩
    · obtain ⟨b, hb, he⟩ := ih h
      exact ⟨b, List.mem_cons_of_mem _ hb, he⟩

/-- A level whose edges avoid `good` visits no good vertex. -/
theorem expandAll_bad {good : V → Bool} {l : List (V × List E)} {vis : List V}
    (hvis : ∀ x ∈ vis, good x = false) (hl : ∀ b ∈ l, ∀ e ∈ adj b.1, good (tgt e) = false) :
    (∀ a ∈ (expandAll adj tgt l vis []).2, good a.1 = false) ∧
      ∀ x ∈ (expandAll adj tgt l vis []).1, good x = false := by
  have hnew : ∀ a ∈ (expandAll adj tgt l vis []).2, good a.1 = false := by
    intro a ha
    obtain ⟨b, hb, e, he, ht⟩ := exists_edge_of_expandAll ha
    exact ht ▸ hl b hb e he
  refine ⟨hnew, fun x hx => ?_⟩
  rw [expandAll_visited, List.mem_append, List.mem_reverse, List.mem_map] at hx
  rcases hx with ⟨a, ha, rfl⟩ | hx
  · exact hnew a ha
  · exact hvis x hx

/-- The first good vertex a level pushes comes from the first good edge of the
first vertex that has one. -/
theorem expandAll_first {good : V → Bool} {l₁ l₂ : List (V × List E)} {v : V} {p : List E}
    {es₁ es₂ : List E} {e : E} {vis : List V} (hvis : ∀ x ∈ vis, good x = false)
    (hl : ∀ b ∈ l₁, ∀ e' ∈ adj b.1, good (tgt e') = false) (hadj : adj v = es₁ ++ e :: es₂)
    (hes : ∀ e' ∈ es₁, good (tgt e') = false) (he : good (tgt e) = true) :
    ∃ new₁ new₂, (expandAll adj tgt (l₁ ++ (v, p) :: l₂) vis []).2 =
      new₁ ++ (tgt e, p ++ [e]) :: new₂ ∧ ∀ a ∈ new₁, good a.1 = false := by
  obtain ⟨hbefore, hvis₁⟩ := expandAll_bad hvis hl
  have hnew : ∀ a ∈ (expand tgt p es₁ (expandAll adj tgt l₁ vis []).1 []).2, good a.1 = false := by
    intro a ha
    obtain ⟨e', he', ht⟩ := exists_edge_of_expand ha
    exact ht ▸ hes e' he'
  have hfresh : tgt e ∉ (expand tgt p es₁ (expandAll adj tgt l₁ vis []).1 []).1 := by
    intro hx
    rw [expand_visited, List.mem_append, List.mem_reverse, List.mem_map] at hx
    rcases hx with ⟨a, ha, hae⟩ | hx
    · simp [← hae, hnew a ha] at he
    · simp [hvis₁ _ hx] at he
  have hpush : ∃ new₂, (expandAll adj tgt (l₁ ++ (v, p) :: l₂) vis []).2 =
      ((expandAll adj tgt l₁ vis []).2 ++
        (expand tgt p es₁ (expandAll adj tgt l₁ vis []).1 []).2) ++ (tgt e, p ++ [e]) :: new₂ := by
    rw [expandAll_append]
    simp only [expandAll, hadj]
    rw [expand_append, expand_queue p es₁ _ (expandAll adj tgt l₁ vis []).2]
    simp only [expand, if_neg hfresh]
    rw [expandAll_queue, expand_queue p es₂ _ (_ ++ [_])]
    simp only [List.append_assoc, List.cons_append, List.nil_append]
    exact ⟨_, rfl⟩
  obtain ⟨new₂, hpush⟩ := hpush
  exact ⟨_, new₂, hpush, fun a ha => (List.mem_append.1 ha).elim (hbefore a) (hnew a)⟩

/-! ## The path found -/

/-- Vertices of `univ` not visited yet. -/
def unvisited (univ vis : List V) : Nat := (univ.toFinset \ vis.toFinset).card

theorem expand_unvisited {univ : List V} {p : List E} {es : List E} {vis : List V}
    (h : ∀ e ∈ es, tgt e ∈ univ) :
    (expand tgt p es vis []).2.length + unvisited univ (expand tgt p es vis []).1 =
      unvisited univ vis := by
  induction es generalizing vis with
  | nil => simp [expand]
  | cons e es ih =>
    have hes : ∀ e ∈ es, tgt e ∈ univ := fun e he => h e (List.mem_cons_of_mem _ he)
    simp only [expand]
    split
    · exact ih hes
    · rename_i hnew
      have hmem : tgt e ∈ univ.toFinset \ vis.toFinset := by
        simpa [hnew] using h e (by simp)
      have hpos := Finset.card_pos.2 ⟨_, hmem⟩
      have hone : unvisited univ (tgt e :: vis) + 1 = unvisited univ vis := by
        unfold unvisited
        rw [List.toFinset_cons, Finset.sdiff_insert, Finset.card_erase_of_mem hmem]
        omega
      rw [expand_queue]
      have := @ih (tgt e :: vis) hes
      simp only [List.nil_append, List.length_append, List.length_singleton]
      omega

theorem expandAll_unvisited {univ : List V} (huniv : ∀ v, ∀ e ∈ adj v, tgt e ∈ univ)
    (l : List (V × List E)) (vis : List V) :
    (expandAll adj tgt l vis []).2.length + unvisited univ (expandAll adj tgt l vis []).1 =
      unvisited univ vis := by
  induction l generalizing vis with
  | nil => simp [expandAll]
  | cons a l ih =>
    obtain ⟨v, p⟩ := a
    have hv : (expand tgt p (adj v) vis []).2.length + unvisited univ (expand tgt p (adj v) vis []).1 =
        unvisited univ vis := expand_unvisited (huniv v)
    simp only [expandAll]
    rw [expandAll_queue]
    have := ih (expand tgt p (adj v) vis []).1
    simp only [List.length_append]
    omega

/-- **The search from a queue.** Nothing visited is closer to the goal than `d`,
and `v` is the first queued vertex at distance `d`: the search answers with its
path, prolonged by its route. -/
theorem search_queue {univ : List V} (huniv : ∀ v, ∀ e ∈ adj v, tgt e ∈ univ) {d : Nat} :
    ∀ {l₁ l₂ : List (V × List E)} {v : V} {p : List E} {vis : List V} {fuel : Nat},
      (∀ x ∈ vis, ∀ m < d, reach adj tgt goal m x = false) →
      (∀ a ∈ l₁ ++ (v, p) :: l₂, a.1 ∈ vis) → (∀ a ∈ l₁, reach adj tgt goal d a.1 = false) →
      reach adj tgt goal d v = true →
      (l₁ ++ (v, p) :: l₂).length + unvisited univ vis ≤ fuel →
      search adj tgt goal fuel (l₁ ++ (v, p) :: l₂) vis = some (p ++ route adj tgt goal d v) := by
  induction d with
  | zero =>
    intro l₁ l₂ v p vis fuel _ _ hl₁ hv hfuel
    have hgoal : v = goal := by simpa [reach] using hv
    obtain ⟨n, rfl⟩ : ∃ n, fuel = l₁.length + (n + 1) :=
      ⟨fuel - l₁.length - 1, by simp at hfuel; omega⟩
    rw [search_level (fun a ha => by simpa [reach] using hl₁ a ha), expandAll_queue]
    simp [search, route, hgoal]
  | succ d ih =>
    intro l₁ l₂ v p vis fuel hvis hqueue hl₁ hv hfuel
    have hnotgoal : ∀ a ∈ l₁ ++ (v, p) :: l₂, a.1 ≠ goal := by
      intro a ha
      simpa [reach] using hvis _ (hqueue a ha) 0 (by omega)
    obtain ⟨n, rfl⟩ : ∃ n, fuel = (l₁ ++ (v, p) :: l₂).length + n := ⟨_, (Nat.add_sub_cancel' (by omega)).symm⟩
    have hrun := @search_level _ _ _ adj tgt _ _ hnotgoal n [] vis
    rw [List.append_nil] at hrun
    rw [hrun]
    -- the next level: its first good vertex comes from `v`'s first good edge
    obtain ⟨e, he, hfind, hre, hroute⟩ := route_succ hv
    obtain ⟨hgood, es₁, es₂, hadj, hes⟩ := List.find?_eq_some_iff_append.1 hfind
    obtain ⟨new₁, new₂, hnew, hbad⟩ := @expandAll_first _ _ _ adj tgt (reach adj tgt goal d) _ l₂ _ p _ _ _ _
      (fun x hx => hvis x hx d (by omega))
      (fun b hb e' he' => not_reach_tgt (hl₁ b hb) he') hadj (fun e' he' => by simpa using hes e' he') hre
    have hcount := expandAll_unvisited huniv (l₁ ++ (v, p) :: l₂) vis
    have hvisited := @expandAll_visited _ _ _ adj tgt (l₁ ++ (v, p) :: l₂) vis
    have hfar : ∀ m < d, (∀ a ∈ (expandAll adj tgt (l₁ ++ (v, p) :: l₂) vis []).2,
        reach adj tgt goal m a.1 = false) ∧
        ∀ x ∈ (expandAll adj tgt (l₁ ++ (v, p) :: l₂) vis []).1, reach adj tgt goal m x = false :=
      fun m hm => expandAll_bad (fun x hx => hvis x hx m (by omega))
        fun b hb e' he' => not_reach_tgt (hvis _ (hqueue b hb) (m + 1) (by omega)) he'
    rw [hroute, hnew]
    rw [hnew] at hcount hvisited
    have := @ih new₁ new₂ (tgt e) (p ++ [e]) _ n
      (fun x hx m hm => (hfar m hm).2 x hx)
      (fun a ha => by
        rw [hvisited]
        exact List.mem_append_left _ (List.mem_reverse.2 (List.mem_map_of_mem ha))) hbad hre (by omega)
    simpa using this

/-- **The search finds the route.** -/
theorem search_eq_route {univ : List V} (huniv : ∀ v, ∀ e ∈ adj v, tgt e ∈ univ) {d : Nat} {v : V}
    (hd : Dist adj tgt goal d v) {fuel : Nat} (hfuel : univ.length + 1 ≤ fuel) :
    search adj tgt goal fuel [(v, [])] [v] = some (route adj tgt goal d v) := by
  have hcard : unvisited univ [v] ≤ univ.length :=
    (Finset.card_le_card Finset.sdiff_subset).trans (List.toFinset_card_le univ)
  have := @search_queue _ _ _ adj tgt goal univ huniv d [] [] v [] [v] fuel
    (fun x hx m hm => by rw [List.mem_singleton.1 hx]; exact hd.2 m hm) (by simp) (by simp) hd.1
    (by simp only [List.nil_append, List.length_singleton]; omega)
  simpa using this

/-- Nothing is found where there is no walk. -/
theorem search_eq_none {fuel : Nat} {queue : List (V × List E)} {vis : List V}
    (h : ∀ a ∈ queue, ∀ m, reach adj tgt goal m a.1 = false) :
    search adj tgt goal fuel queue vis = none := by
  induction fuel generalizing queue vis with
  | zero => rfl
  | succ fuel ih =>
    cases queue with
    | nil => rfl
    | cons a queue =>
      obtain ⟨v, p⟩ := a
      have hv : v ≠ goal := by simpa [reach] using h (v, p) (by simp) 0
      simp only [search, if_neg hv]
      refine ih fun a ha m => ?_
      rw [expand_queue] at ha
      rcases List.mem_append.1 ha with ha | ha
      · exact h a (List.mem_cons_of_mem _ ha) m
      · obtain ⟨e, he, ht⟩ := exists_edge_of_expand ha
        exact ht ▸ not_reach_tgt (h (v, p) (by simp) (m + 1)) he

end Bfs
