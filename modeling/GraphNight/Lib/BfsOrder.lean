import GraphNight.Lib.Bfs

/-!
# Searches over pooled edges

The edges out of a vertex come from several contributors, one after the other. The
distances do not depend on the order of the contributors, but the route found does:
it takes at every vertex what the first contributor with an edge closer to the goal
offers. Where each contributor only declares edges at a vertex of its own, every
combination of offers along a path is the route of some order.
-/

namespace Bfs

variable {C V E : Type} [DecidableEq V]

section Pool

variable (decl : C → V → List E) (tgt : E → V)

/-- The edges out of a vertex, contributor by contributor. -/
def pooled (cs : List C) (v : V) : List E := cs.flatMap fun c => decl c v

/-- The first edge a contributor has at `v` that leads to the goal in `n` more steps. -/
def offer (cs : List C) (goal : V) (n : Nat) (v : V) (c : C) : Option E :=
  (decl c v).find? fun e => reach (pooled decl cs) tgt goal n (tgt e)

/-- A path that takes, at every vertex, what one of the contributors offers. -/
inductive Choice (cs : List C) (goal : V) : Nat → V → List E → Prop where
  | arrived : Choice cs goal 0 goal []
  | step {n : Nat} {v : V} {c : C} {e : E} {p : List E} : c ∈ cs → offer decl tgt cs goal n v c = some e →
      Choice cs goal n (tgt e) p → Choice cs goal (n + 1) v (e :: p)

end Pool

variable {decl : C → V → List E} {tgt : E → V} {cs cs' : List C} {goal : V}

theorem reach_perm (h : cs'.Perm cs) : reach (pooled decl cs') tgt goal = reach (pooled decl cs) tgt goal := by
  funext n v
  induction n generalizing v with
  | zero => rfl
  | succ n ih =>
    have hadj : (pooled decl cs' v).Perm (pooled decl cs v) := h.flatMap_right _
    simp only [reach, ih]
    exact hadj.any_eq

theorem dist_perm (h : cs'.Perm cs) {n : Nat} {v : V} :
    Dist (pooled decl cs') tgt goal n v ↔ Dist (pooled decl cs) tgt goal n v := by
  unfold Dist
  rw [reach_perm h]

theorem offer_perm (h : cs'.Perm cs) : offer decl tgt cs' goal = offer decl tgt cs goal := by
  unfold offer
  rw [reach_perm h]

/-- What an offer is. -/
theorem offer_eq_some {n : Nat} {v : V} {c : C} {e : E} (h : offer decl tgt cs goal n v c = some e) :
    e ∈ decl c v ∧ reach (pooled decl cs) tgt goal n (tgt e) = true :=
  ⟨List.mem_of_find?_eq_some h, List.find?_some (p := fun e => reach (pooled decl cs) tgt goal n (tgt e)) h⟩

theorem Choice.perm (h : cs'.Perm cs) {n : Nat} {v : V} {p : List E} (hp : Choice decl tgt cs' goal n v p) :
    Choice decl tgt cs goal n v p := by
  induction hp with
  | arrived => exact .arrived
  | step hc hoffer _ ih =>
    rw [offer_perm h] at hoffer
    exact .step (h.mem_iff.1 hc) hoffer ih

/-- A route starts with the first offer. -/
theorem route_pooled_succ (h : cs'.Perm cs) {n : Nat} {v : V}
    (hreach : reach (pooled decl cs) tgt goal (n + 1) v = true) :
    ∃ e, cs'.findSome? (offer decl tgt cs goal n v) = some e ∧ reach (pooled decl cs) tgt goal n (tgt e) = true ∧
      route (pooled decl cs') tgt goal (n + 1) v = e :: route (pooled decl cs') tgt goal n (tgt e) := by
  rw [← reach_perm h] at hreach
  obtain ⟨e, -, hfind, hr, hroute⟩ := route_succ hreach
  rw [reach_perm h] at hr
  refine ⟨e, ?_, hr, hroute⟩
  rw [pooled, List.find?_flatMap] at hfind
  rw [← offer_perm h]
  exact hfind

/-- A route is a choice of offers. -/
theorem choice_route {n : Nat} {v : V} (h : reach (pooled decl cs) tgt goal n v = true) :
    Choice decl tgt cs goal n v (route (pooled decl cs) tgt goal n v) := by
  induction n generalizing v with
  | zero =>
    have hv : v = goal := by simpa [reach] using h
    rw [hv]
    exact .arrived
  | succ n ih =>
    obtain ⟨e, hfirst, hr, hroute⟩ := route_pooled_succ (List.Perm.refl cs) h
    obtain ⟨c, hc, hoffer⟩ := List.exists_of_findSome?_eq_some hfirst
    rw [hroute]
    exact .step hc hoffer (ih hr)

/-! ## Every choice is a route -/

/-- Routes agree where the first offers do, at their start and closer to the goal. -/
theorem route_congr {cs₁ cs₂ : List C} (h₁ : cs₁.Perm cs) (h₂ : cs₂.Perm cs) {n : Nat} {v : V}
    (hdist : Dist (pooled decl cs) tgt goal n v)
    (hfirst : ∀ k w, Dist (pooled decl cs) tgt goal (k + 1) w → (k + 1 = n → w = v) → k + 1 ≤ n →
      cs₁.findSome? (offer decl tgt cs goal k w) = cs₂.findSome? (offer decl tgt cs goal k w)) :
    route (pooled decl cs₁) tgt goal n v = route (pooled decl cs₂) tgt goal n v := by
  induction n generalizing v with
  | zero => rfl
  | succ n ih =>
    obtain ⟨e₁, hfirst₁, hr₁, hroute₁⟩ := route_pooled_succ h₁ hdist.1
    obtain ⟨e₂, hfirst₂, -, hroute₂⟩ := route_pooled_succ h₂ hdist.1
    have hsame := hfirst n v hdist (fun _ => rfl) (Nat.le_refl _)
    obtain rfl : e₁ = e₂ := Option.some.inj (hfirst₁.symm.trans (hsame.trans hfirst₂))
    have hmem : e₁ ∈ pooled decl cs v := by
      obtain ⟨c, hc, hoffer⟩ := List.exists_of_findSome?_eq_some hfirst₁
      exact List.mem_flatMap.2 ⟨c, h₁.mem_iff.1 hc, (offer_eq_some hoffer).1⟩
    have hrest := ih (hdist.step hmem hr₁) fun k w hw _ hk => hfirst k w hw (by omega) (by omega)
    rw [hroute₁, hroute₂, hrest]

omit [DecidableEq V] in
/-- Moving some elements to the front does not change the first hit when all hits are
among them, or none is. -/
theorem findSome?_partition {f : C → Option E} {q : C → Bool} {b : Bool} {l : List C}
    (h : ∀ c ∈ l, (f c).isSome → q c = b) :
    (l.filter q ++ l.filter fun c => !q c).findSome? f = l.findSome? f := by
  have hfilter : ∀ r : C → Bool, (∀ c ∈ l, (f c).isSome → r c = true) → (l.filter r).findSome? f = l.findSome? f := by
    intro r hr
    induction l with
    | nil => rfl
    | cons c l ih =>
      have hrest := ih (fun c' hc' => h c' (List.mem_cons_of_mem _ hc')) fun c' hc' => hr c' (List.mem_cons_of_mem _ hc')
      by_cases hc : r c = true
      · rw [List.filter_cons_of_pos hc, List.findSome?_cons, List.findSome?_cons, hrest]
      · have hnone : f c = none := by
          cases hf : f c with
          | none => rfl
          | some e => exact absurd (hr c List.mem_cons_self (by simp [hf])) hc
        rw [List.filter_cons_of_neg hc, List.findSome?_cons, hnone, hrest]
  have hnone : ∀ r : C → Bool, (∀ c ∈ l, (f c).isSome → r c = false) → (l.filter r).findSome? f = none := by
    intro r hr
    rw [List.findSome?_eq_none_iff]
    intro c hc
    obtain ⟨hmem, hrc⟩ := List.mem_filter.1 hc
    cases hf : f c with
    | none => rfl
    | some e =>
      rw [hr c hmem (by simp [hf])] at hrc
      cases hrc
  rw [List.findSome?_append]
  cases b with
  | true => rw [hfilter q h, hnone (fun c => !q c) (fun c hc hf => by simp [h c hc hf]), Option.or_none]
  | false => rw [hnone q h, hfilter (fun c => !q c) (fun c hc hf => by simp [h c hc hf]), Option.none_or]

omit [DecidableEq V] in
theorem findSome?_of_unique {f : C → Option E} {l : List C} {c : C} {e : E} (hc : c ∈ l) (he : f c = some e)
    (h : ∀ c' ∈ l, (f c').isSome → c' = c) : l.findSome? f = some e := by
  cases hf : l.findSome? f with
  | none => rw [List.findSome?_eq_none_iff.1 hf c hc] at he; cases he
  | some e' =>
    obtain ⟨c', hc', he'⟩ := List.exists_of_findSome?_eq_some hf
    rw [h c' hc' (by simp [he']), he] at he'
    exact he'.symm

/-- **Every choice of offers is the route of some order**, where the contributors are
told apart by a vertex at which, or towards which, each of their edges leads. -/
theorem exists_perm_route {owner : C → V} (howner : ∀ c v, ∀ e ∈ decl c v, owner c = v ∨ owner c = tgt e)
    (hdistinct : ∀ c ∈ cs, ∀ c' ∈ cs, owner c = owner c' → c = c') {n : Nat} {v : V} {p : List E}
    (hdist : Dist (pooled decl cs) tgt goal n v) (hp : Choice decl tgt cs goal n v p) :
    ∃ cs', cs'.Perm cs ∧ route (pooled decl cs') tgt goal n v = p := by
  induction hp with
  | arrived => exact ⟨cs, List.Perm.refl cs, rfl⟩
  | @step n v c e p hc hoffer _ ih =>
    obtain ⟨hedge, hr⟩ := offer_eq_some hoffer
    have hnext := hdist.step (List.mem_flatMap.2 ⟨c, hc, hedge⟩) hr
    obtain ⟨cs₁, hperm, hroute⟩ := ih hnext
    -- where an offer puts its contributor's vertex
    have hplace : ∀ {k : Nat} {w : V} {x : C}, x ∈ cs → Dist (pooled decl cs) tgt goal (k + 1) w →
        (offer decl tgt cs goal k w x).isSome → owner x = w ∨ Dist (pooled decl cs) tgt goal k (owner x) := by
      intro k w x hx hw hsome
      obtain ⟨e', he'⟩ := Option.isSome_iff_exists.1 hsome
      obtain ⟨hmem, hr'⟩ := offer_eq_some he'
      rcases howner x w e' hmem with how | hot
      · exact .inl how
      · exact .inr (hot ▸ hw.step (List.mem_flatMap.2 ⟨x, hx, hmem⟩) hr')
    -- `c` goes before the others with an offer at `v`; the offers further on keep their order
    let first : C → Bool := fun x =>
      if owner c = tgt e then !(offer decl tgt cs goal n v x).isSome || decide (owner x = tgt e)
      else decide (owner x = owner c)
    let cs₂ := cs₁.filter first ++ cs₁.filter fun x => !first x
    have hperm₂ : cs₂.Perm cs := (List.filter_append_perm first cs₁).trans hperm
    have hfirst : cs₂.findSome? (offer decl tgt cs goal n v) = some e := by
      have hfront : (cs₁.filter first).findSome? (offer decl tgt cs goal n v) = some e := by
        refine findSome?_of_unique (c := c) ?_ hoffer ?_
        · refine List.mem_filter.2 ⟨hperm.mem_iff.2 hc, ?_⟩
          by_cases heq : owner c = tgt e
          · simp [first, heq]
          · simp [first, heq]
        · intro x hx hsome
          obtain ⟨hmem, hx⟩ := List.mem_filter.1 hx
          apply hdistinct x (hperm.mem_iff.1 hmem) c hc
          by_cases heq : owner c = tgt e
          · simpa [first, heq, Option.isSome_iff_ne_none.1 hsome] using hx
          · simpa [first, heq] using hx
      rw [List.findSome?_append, hfront, Option.some_or]
    obtain ⟨e', hfirst', -, hroute₂⟩ := route_pooled_succ hperm₂ hdist.1
    obtain rfl : e = e' := Option.some.inj (hfirst.symm.trans hfirst')
    refine ⟨cs₂, hperm₂, ?_⟩
    rw [hroute₂, ← hroute]
    congr 1
    apply route_congr hperm₂ hperm hnext
    intro k w hw hstart hk
    apply findSome?_partition (b := decide (owner c = tgt e))
    intro x hx hsome
    have hx := hperm.mem_iff.1 hx
    have hplacew := hplace hx hw hsome
    by_cases heq : owner c = tgt e
    · simp only [first, heq, if_true, decide_true, Bool.or_eq_true, Bool.not_eq_true', decide_eq_true_eq]
      by_contra hnot
      rw [not_or] at hnot
      have hplacev := hplace hx hdist (by simpa [Option.isSome_iff_ne_none] using hnot.1)
      rcases hplacew with how | hclose
      · rcases hplacev with hov | hn
        · have hsame := hw.unique (how ▸ hov ▸ hdist)
          omega
        · have hsame := hw.unique (how ▸ hn)
          exact hnot.2 (how.trans (hstart hsame))
      · rcases hplacev with hov | hn
        · have hsame := hclose.unique (hov ▸ hdist)
          omega
        · have hsame := hclose.unique hn
          omega
    · simp only [first, heq, if_false, decide_false, decide_eq_false_iff_not]
      intro hxc
      have hov : owner x = v := hxc.trans ((howner c v e hedge).resolve_right heq)
      rcases hplacew with how | hclose
      · have hsame := hw.unique (how ▸ hov ▸ hdist)
        omega
      · have hsame := hclose.unique (hov ▸ hdist)
        omega

end Bfs
