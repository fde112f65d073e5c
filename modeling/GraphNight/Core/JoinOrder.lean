import GraphNight.Core.JoinScope
import GraphNight.Lib.BfsOrder
import Mathlib.Data.List.Permutation

/-!
# The order of the registry

The registry is a hash map: the walker gets its models in whatever order the map
iterates. The edges out of a model are pooled from the declarations in that order, and
the first one closer to a required model is taken. Here is exactly when the clauses
come out the same for every order.
-/

namespace GraphNight

open JoinGraph JoinWalker

/-- The paths to `dst` that some order of the models may take: shortest ones, along which
each edge is the first of its declaring model that leads closer to `dst`. -/
def PathTo (models : List Model) (base dst : String) (path : List JoinEdge) : Prop :=
  ∃ n, (JoinGraph.new models).Distance dst n base ∧
    Bfs.Choice declaredEdges JoinEdge.targetModel models dst n base path

/-- The clauses a path adds to a statement that joins the models of `seen`. -/
def newClauses (baseAlias : String) (seen : List String) (path : List JoinEdge) : List JoinClause :=
  (dedupTargets seen path).map (clause baseAlias)

/-- Required model by required model, all paths that may be taken add the same clauses. -/
def OrderFree (models : List Model) (base baseAlias : String) : List String → List String → Prop
  | _, [] => True
  | seen, dst :: required =>
    (∀ p p', PathTo models base dst p → PathTo models base dst p' →
      newClauses baseAlias seen p = newClauses baseAlias seen p') ∧
    ∀ p, PathTo models base dst p → OrderFree models base baseAlias (p.map (·.targetModel) ++ seen) required

/-- The path the search takes. -/
def pathTaken (models : List Model) (base dst : String) : List JoinEdge :=
  ((JoinGraph.new models).shortestPath base dst).getD []

/-- The clauses for the required models, beside those of `seen`. -/
def clausesFor (models : List Model) (base baseAlias : String) (seen required : List String) : List JoinClause :=
  newClauses baseAlias seen (required.flatMap (pathTaken models base))

namespace JoinGraph

/-! ## The pool of edges -/

theorem edges_eq_pooled (models : List Model) : (new models).edges = Bfs.pooled declaredEdges models := by
  funext key
  exact edges_new models key

/-- A model declares edges at itself, and edges towards itself. -/
theorem declaredEdges_owner (m : Model) (key : String) :
    ∀ e ∈ declaredEdges m key, m.name = key ∨ m.name = e.targetModel := by
  intro e he
  obtain ⟨join, -, ⟨hname, -⟩ | ⟨-, rfl⟩⟩ := mem_declaredEdges.1 he
  · exact .inl hname
  · exact .inr rfl

section

variable {models models' : List Model} {base dst : String}

theorem reaches_perm (h : models'.Perm models) (n : Nat) (src : String) :
    (new models').Reaches dst n src = (new models).Reaches dst n src := by
  have hreach : Bfs.reach (new models').edges JoinEdge.targetModel dst =
      Bfs.reach (new models).edges JoinEdge.targetModel dst := by
    rw [edges_eq_pooled, edges_eq_pooled]
    exact Bfs.reach_perm h
  exact congrFun (congrFun hreach n) src

theorem distance_perm (h : models'.Perm models) {n : Nat} {src : String} :
    (new models').Distance dst n src ↔ (new models).Distance dst n src := by
  show Bfs.Dist (new models').edges JoinEdge.targetModel dst n src ↔
    Bfs.Dist (new models).edges JoinEdge.targetModel dst n src
  rw [edges_eq_pooled, edges_eq_pooled]
  exact Bfs.dist_perm h

theorem pathTaken_of_distance {n : Nat} (h : (new models).Distance dst n base) :
    pathTaken models base dst = (new models).route dst n base := by
  rw [pathTaken, shortestPath_of_distance h, Option.getD_some]

/-- The path taken is one that may be. -/
theorem pathTo_pathTaken (h : models'.Perm models) {n : Nat} (hdist : (new models).Distance dst n base) :
    PathTo models base dst (pathTaken models' base dst) := by
  have hdist' := (distance_perm h).2 hdist
  refine ⟨n, hdist, ?_⟩
  rw [pathTaken_of_distance hdist']
  apply Bfs.Choice.perm h
  show Bfs.Choice declaredEdges JoinEdge.targetModel models' dst n base
    (Bfs.route (new models').edges JoinEdge.targetModel dst n base)
  rw [edges_eq_pooled]
  apply Bfs.choice_route
  have hreach := hdist'.1
  rwa [edges_eq_pooled] at hreach

/-- Every path that may be taken is taken in some order. -/
theorem exists_perm_pathTaken (hnames : (models.map (·.name)).Nodup) {p : List JoinEdge}
    (hp : PathTo models base dst p) : ∃ models', models'.Perm models ∧ pathTaken models' base dst = p := by
  obtain ⟨n, hdist, hchoice⟩ := hp
  have hpooled : Bfs.Dist (Bfs.pooled declaredEdges models) JoinEdge.targetModel dst n base := by
    have h : Bfs.Dist (new models).edges JoinEdge.targetModel dst n base := hdist
    rwa [edges_eq_pooled] at h
  obtain ⟨models', hperm, hroute⟩ := Bfs.exists_perm_route declaredEdges_owner
    (fun c hc c' hc' hname => List.inj_on_of_nodup_map hnames hc hc' hname) hpooled hchoice
  refine ⟨models', hperm, ?_⟩
  rw [pathTaken_of_distance ((distance_perm hperm).2 hdist), route, edges_eq_pooled]
  exact hroute

/-- The edges of a path that may be taken name their targets. -/
theorem table_of_pathTo {p : List JoinEdge} (h : PathTo models base dst p) :
    ∀ e ∈ p, e.join.model = e.targetModel := by
  obtain ⟨n, -, hchoice⟩ := h
  induction hchoice with
  | arrived => simp
  | @step n v c e p hc hoffer _ ih =>
    have hedge : e ∈ (new models).edges v := by
      rw [edges_new]
      exact List.mem_flatMap.2 ⟨c, hc, (Bfs.offer_eq_some hoffer).1⟩
    intro e' he'
    rcases List.mem_cons.1 he' with rfl | he'
    · exact join_model_of_mem hedge
    · exact ih e' he'

/-- On the path to `dst`, the path to a model passed is the part up to it. -/
theorem targets_pathTaken_subset {n : Nat} (hdist : (new models).Distance dst n base) {x : String}
    (hx : x ∈ (pathTaken models base dst).map (·.targetModel)) :
    (pathTaken models base x).map (·.targetModel) ⊆ (pathTaken models base dst).map (·.targetModel) := by
  rw [pathTaken_of_distance hdist] at hx ⊢
  obtain ⟨e, he, rfl⟩ := List.mem_map.1 hx
  obtain ⟨p, q, hsplit⟩ := List.append_of_mem he
  have hsplit' : (new models).route dst n base = (p ++ [e]) ++ q := by rw [hsplit, List.append_cons]
  have hwalk := Bfs.walk_route hdist.1
  have hwhole : Bfs.Walk (new models).edges JoinEdge.targetModel base ((p ++ [e]) ++ q) dst := hsplit' ▸ hwalk
  obtain ⟨y, hhead, -⟩ := Bfs.Walk.append.1 hwhole
  obtain ⟨z, -, -, hy⟩ := Bfs.Walk.append.1 hhead
  have hx : e.targetModel = y := hy
  obtain ⟨hnear, hroute⟩ := hdist.route_head hsplit' (hx ▸ hhead)
  have htaken : pathTaken models base e.targetModel = p ++ [e] := (pathTaken_of_distance hnear).trans hroute
  rw [htaken, hsplit']
  exact List.map_subset _ (List.subset_append_left _ _)

end

/-! ## Dropping repeated targets -/

theorem dedupTargets_congr {seen seen' : List String} (h : ∀ t, t ∈ seen ↔ t ∈ seen') (edges : List JoinEdge) :
    dedupTargets seen edges = dedupTargets seen' edges := by
  induction edges generalizing seen seen' with
  | nil => rfl
  | cons e edges ih =>
    have hcons : ∀ t, t ∈ e.targetModel :: seen ↔ t ∈ e.targetModel :: seen' := by
      intro t
      rw [List.mem_cons, List.mem_cons, h]
    simp only [dedupTargets, h e.targetModel, ih h, ih hcons]

theorem dedupTargets_append (seen : List String) (p q : List JoinEdge) :
    dedupTargets seen (p ++ q) = dedupTargets seen p ++ dedupTargets (p.map (·.targetModel) ++ seen) q := by
  induction p generalizing seen with
  | nil => rfl
  | cons e p ih =>
    simp only [List.cons_append, dedupTargets, List.map_cons]
    split_ifs with hseen
    · rw [ih]
      congr 1
      apply dedupTargets_congr
      intro t
      simp only [List.mem_append, List.mem_cons]
      constructor
      · exact .inr
      · rintro (rfl | h)
        · exact .inr hseen
        · exact h
    · rw [ih, List.cons_append]
      congr 2
      apply dedupTargets_congr
      intro t
      simp only [List.mem_append, List.mem_cons]
      exact or_left_comm

theorem dedupTargets_eq_nil {seen : List String} {edges : List JoinEdge}
    (h : edges.map (·.targetModel) ⊆ seen) : dedupTargets seen edges = [] := by
  have hnone : (dedupTargets seen edges).map (·.targetModel) = [] := by
    rw [List.eq_nil_iff_forall_not_mem]
    intro t ht
    obtain ⟨hmem, hnot⟩ := mem_targets_dedup.1 ht
    exact hnot (h hmem)
  exact List.map_eq_nil_iff.1 hnone

end JoinGraph

/-! ## The clauses of a statement -/

section

variable {models models' : List Model} {base baseAlias dst : String} {seen required : List String}

theorem clausesFor_cons (models : List Model) (base baseAlias dst : String) (seen required : List String) :
    clausesFor models base baseAlias seen (dst :: required) =
      newClauses baseAlias seen (pathTaken models base dst) ++
        clausesFor models base baseAlias ((pathTaken models base dst).map (·.targetModel) ++ seen) required := by
  rw [clausesFor, List.flatMap_cons, newClauses, dedupTargets_append, List.map_append]
  rfl

theorem clausesFor_congr {seen' : List String} (h : ∀ t, t ∈ seen ↔ t ∈ seen') :
    clausesFor models base baseAlias seen required = clausesFor models base baseAlias seen' required := by
  rw [clausesFor, newClauses, dedupTargets_congr h]
  rfl

/-- The tables a path adds are those it leads to and that are not joined yet. -/
theorem mem_newClauses_table {p : List JoinEdge} (hp : PathTo models base dst p) {t : String} :
    t ∈ (newClauses baseAlias seen p).map (·.table) ↔ t ∈ p.map (·.targetModel) ∧ t ∉ seen := by
  rw [← mem_targets_dedup, newClauses, List.map_map]
  have htable : ∀ e ∈ dedupTargets seen p, ((·.table) ∘ clause baseAlias) e = e.targetModel := by
    intro e he
    exact table_of_pathTo hp e ((dedupTargets_sublist _ _).mem he)
  rw [List.map_congr_left htable]

/-- Paths that add the same clauses lead to the same models, up to those joined already. -/
theorem seen_congr {p p' : List JoinEdge} (hp : PathTo models base dst p) (hp' : PathTo models base dst p')
    (h : newClauses baseAlias seen p = newClauses baseAlias seen p') (t : String) :
    t ∈ p.map (·.targetModel) ++ seen ↔ t ∈ p'.map (·.targetModel) ++ seen := by
  have hnew := (@mem_newClauses_table models base baseAlias dst seen p hp t).symm
  rw [h, mem_newClauses_table hp'] at hnew
  rw [List.mem_append, List.mem_append]
  by_cases ht : t ∈ seen
  · simp [ht]
  · simpa [ht] using hnew

/-- **Enough**: where all paths that may be taken add the same clauses, every order of the
models gives the same clauses. -/
theorem clausesFor_perm (h : models'.Perm models)
    (hreach : ∀ dst ∈ required, ∃ n, (JoinGraph.new models).Distance dst n base)
    (hfree : OrderFree models base baseAlias seen required) :
    clausesFor models' base baseAlias seen required = clausesFor models base baseAlias seen required := by
  induction required generalizing seen with
  | nil => rfl
  | cons dst required ih =>
    obtain ⟨n, hdist⟩ := hreach dst List.mem_cons_self
    obtain ⟨hsame, hrest⟩ := hfree
    have hp := pathTo_pathTaken (List.Perm.refl models) hdist
    have hp' := pathTo_pathTaken h hdist
    have hnew := hsame _ _ hp' hp
    have htail := ih (fun d hd => hreach d (List.mem_cons_of_mem _ hd)) (hrest _ hp)
    rw [clausesFor_cons, clausesFor_cons, hnew, clausesFor_congr (seen_congr hp' hp hnew), htail]

/-- The last edge of a path to a model that is not the base leads to it, and no other does. -/
theorem pathTaken_last {n : Nat} (hdist : (JoinGraph.new models).Distance dst n base) (hne : dst ≠ base) :
    ∃ p e, pathTaken models base dst = p ++ [e] ∧ e.targetModel = dst ∧ dst ∉ p.map (·.targetModel) := by
  rw [pathTaken_of_distance hdist]
  have hnodup := hdist.route_targets.1
  have hwalk := Bfs.walk_route hdist.1
  rcases List.eq_nil_or_concat' (Bfs.route (JoinGraph.new models).edges JoinEdge.targetModel dst n base)
    with hnil | ⟨p, e, hsplit⟩
  · rw [hnil] at hwalk
    exact absurd hwalk.symm hne
  · rw [hsplit] at hwalk hnodup
    obtain ⟨x, -, -, htarget⟩ := Bfs.Walk.append.1 hwalk
    have htarget : e.targetModel = dst := htarget
    refine ⟨p, e, hsplit, htarget, ?_⟩
    rw [List.map_append, List.nodup_append] at hnodup
    intro hmem
    exact hnodup.2.2 _ hmem _ (by simp) htarget.symm

/-- Lists cut at their first hit are equal piece by piece. -/
theorem append_cons_inj_of_first {α : Type} {q : α → Prop} {l l' r r' : List α} {a a' : α}
    (hl : ∀ x ∈ l, ¬q x) (hl' : ∀ x ∈ l', ¬q x) (ha : q a) (ha' : q a') (h : l ++ a :: r = l' ++ a' :: r') :
    l = l' ∧ a = a' := by
  induction l generalizing l' with
  | nil =>
    cases l' with
    | nil => exact ⟨rfl, (List.cons.inj h).1⟩
    | cons b l' =>
      have hb : a = b := (List.cons.inj h).1
      exact absurd (hb ▸ ha) (hl' b List.mem_cons_self)
  | cons b l ih =>
    cases l' with
    | nil =>
      have hb : b = a' := (List.cons.inj h).1
      exact absurd (hb ▸ ha') (hl b List.mem_cons_self)
    | cons b' l' =>
      obtain ⟨rfl, hrest⟩ := List.cons.inj h
      obtain ⟨rfl, rfl⟩ := ih (fun x hx => hl x (List.mem_cons_of_mem _ hx))
        (fun x hx => hl' x (List.mem_cons_of_mem _ hx)) hrest
      exact ⟨rfl, rfl⟩

/-- What the models of `seen` need is in `seen`, in every order. -/
def Closed (models : List Model) (base : String) (seen : List String) : Prop :=
  ∀ models' : List Model, models'.Perm models → ∀ x ∈ seen, (pathTaken models' base x).map (·.targetModel) ⊆ seen

/-- The clauses for the first required model can be told from the whole statement. -/
theorem newClauses_eq_of_clausesFor (h : models'.Perm models) (hclosed : Closed models base seen) {n : Nat}
    (hdist : (JoinGraph.new models).Distance dst n base)
    (hsame : clausesFor models' base baseAlias seen (dst :: required) =
      clausesFor models base baseAlias seen (dst :: required)) :
    newClauses baseAlias seen (pathTaken models' base dst) =
      newClauses baseAlias seen (pathTaken models base dst) := by
  have hempty : ∀ {models' : List Model}, (pathTaken models' base dst).map (·.targetModel) ⊆ seen →
      newClauses baseAlias seen (pathTaken models' base dst) = [] := by
    intro models' hsub
    rw [newClauses, dedupTargets_eq_nil hsub, List.map_nil]
  by_cases hseen : dst ∈ seen
  · rw [hempty (hclosed models' h dst hseen), hempty (hclosed models (List.Perm.refl _) dst hseen)]
  by_cases hbase : dst = base
  · have hnone : ∀ {models' : List Model}, pathTaken models' base base = [] := by
      intro models'
      have hzero : (JoinGraph.new models').Distance base 0 base :=
        ⟨by simp [Bfs.reach], fun m hm => absurd hm (Nat.not_lt_zero m)⟩
      rw [pathTaken_of_distance hzero]
      rfl
    rw [hbase, hnone, hnone]
  · -- the clause of `dst` itself ends its part, and no clause before it is for `dst`
    have hparts : ∀ {models' : List Model}, models'.Perm models → ∃ p e,
        newClauses baseAlias seen (pathTaken models' base dst) = newClauses baseAlias seen p ++ [clause baseAlias e] ∧
          (clause baseAlias e).table = dst ∧ ∀ c ∈ newClauses baseAlias seen p, ¬c.table = dst := by
      intro models' h
      obtain ⟨p, e, hsplit, htarget, hnot⟩ := pathTaken_last ((distance_perm h).2 hdist) hbase
      have htable := table_of_pathTo (pathTo_pathTaken h hdist)
      rw [hsplit] at htable
      refine ⟨p, e, ?_, (htable e (by simp)).trans htarget, ?_⟩
      · have hfresh : e.targetModel ∉ p.map (·.targetModel) ++ seen := by
          rw [htarget, List.mem_append, not_or]
          exact ⟨hnot, hseen⟩
        rw [hsplit, newClauses, dedupTargets_append, List.map_append]
        congr 1
        simp only [dedupTargets, if_neg hfresh, List.map_cons, List.map_nil]
      · intro c hc htc
        obtain ⟨e', he', rfl⟩ := List.mem_map.1 hc
        have hmem := (dedupTargets_sublist _ _).mem he'
        apply hnot
        rw [← htc]
        exact List.mem_map.2 ⟨e', hmem, (htable e' (List.mem_append_left _ hmem)).symm⟩
    obtain ⟨p', e', hnew', htable', hbefore'⟩ := hparts h
    obtain ⟨p, e, hnew, htable, hbefore⟩ := hparts (List.Perm.refl models)
    rw [clausesFor_cons, clausesFor_cons, hnew', hnew, List.append_assoc, List.append_assoc] at hsame
    obtain ⟨hp, he⟩ := append_cons_inj_of_first (q := fun c => c.table = dst) hbefore' hbefore htable' htable hsame
    rw [hnew', hnew, hp, he]

/-- **And needed**: where every order gives the same clauses, so do all paths that may be
taken. -/
theorem orderFree_of_perm (hnames : (models.map (·.name)).Nodup) (hclosed : Closed models base seen)
    (hreach : ∀ dst ∈ required, ∃ n, (JoinGraph.new models).Distance dst n base)
    (hsame : ∀ models' : List Model, models'.Perm models →
      clausesFor models' base baseAlias seen required = clausesFor models base baseAlias seen required) :
    OrderFree models base baseAlias seen required := by
  induction required generalizing seen with
  | nil => trivial
  | cons dst required ih =>
    obtain ⟨n, hdist⟩ := hreach dst List.mem_cons_self
    have hhead := fun models' (h : models'.Perm models) =>
      newClauses_eq_of_clausesFor h hclosed hdist (hsame models' h)
    have htaken : ∀ p, PathTo models base dst p →
        newClauses baseAlias seen p = newClauses baseAlias seen (pathTaken models base dst) := by
      intro p hp
      obtain ⟨models', h, rfl⟩ := exists_perm_pathTaken hnames hp
      exact hhead models' h
    refine ⟨fun p p' hp hp' => (htaken p hp).trans (htaken p' hp').symm, ?_⟩
    intro p hp
    have hseen : ∀ models' : List Model, models'.Perm models → ∀ t,
        t ∈ (pathTaken models' base dst).map (·.targetModel) ++ seen ↔ t ∈ p.map (·.targetModel) ++ seen := by
      intro models' h t
      have hp' := pathTo_pathTaken h hdist
      exact seen_congr hp' hp ((htaken _ hp').trans (htaken p hp).symm) t
    apply ih
    · intro models' h x hx t ht
      rw [← hseen models' h] at hx ⊢
      rcases List.mem_append.1 hx with hx | hx
      · have hdist' := (distance_perm h).2 hdist
        exact List.mem_append_left _ (targets_pathTaken_subset hdist' hx ht)
      · exact List.mem_append_right _ (hclosed models' h x hx ht)
    · intro d hd
      exact hreach d (List.mem_cons_of_mem _ hd)
    · intro models' h
      have hwhole := hsame models' h
      rw [clausesFor_cons, clausesFor_cons, hhead models' h] at hwhole
      rw [← clausesFor_congr (hseen models' h), ← clausesFor_congr (hseen models (List.Perm.refl _))]
      exact List.append_cancel_left hwhole

end

/-! ## The walker in every order -/

section

variable {models : List Model} {base baseAlias : String} {required : List String}

theorem requiredEdges_of_reachable (hreach : ∀ dst ∈ required, ∃ n, (JoinGraph.new models).Distance dst n base) :
    (JoinGraph.new models).requiredEdges base required = .ok (required.flatMap (pathTaken models base)) := by
  induction required with
  | nil => rfl
  | cons dst required ih =>
    obtain ⟨n, hdist⟩ := hreach dst List.mem_cons_self
    have hrest := ih fun d hd => hreach d (List.mem_cons_of_mem _ hd)
    rw [requiredEdges_cons, findPath_of_distance hdist, hrest, List.flatMap_cons, pathTaken_of_distance hdist]
    rfl

/-- The walker fails on the first required model that no order reaches. -/
theorem requiredEdges_of_unreachable
    (h : ∃ dst ∈ required, ∀ n, (JoinGraph.new models).Reaches dst n base = false) :
    ∃ message, ∀ models' : List Model, models'.Perm models →
      (JoinGraph.new models').requiredEdges base required = Res.fail message := by
  induction required with
  | nil =>
    obtain ⟨dst, hdst, -⟩ := h
    cases hdst
  | cons dst required ih =>
    by_cases hreach : ∃ n, (JoinGraph.new models).Distance dst n base
    · obtain ⟨n, hdist⟩ := hreach
      have hrest : ∃ dst ∈ required, ∀ n, (JoinGraph.new models).Reaches dst n base = false := by
        obtain ⟨dst', hmem, hnot⟩ := h
        rcases List.mem_cons.1 hmem with rfl | hmem
        · exact absurd (hdist.1.symm.trans (hnot n)) (by decide)
        · exact ⟨dst', hmem, hnot⟩
      obtain ⟨message, hfail⟩ := ih hrest
      refine ⟨message, fun models' hperm => ?_⟩
      rw [requiredEdges_cons, findPath_of_distance ((distance_perm hperm).2 hdist), hfail models' hperm]
      rfl
    · refine ⟨"No join path found from " ++ base ++ " to " ++ dst, fun models' hperm => ?_⟩
      have hno : ∀ n, (JoinGraph.new models').Reaches dst n base = false := by
        intro n
        rw [reaches_perm hperm]
        exact Bool.eq_false_iff.2 fun hr => hreach (Bfs.exists_dist hr)
      rw [requiredEdges_cons, findPath_of_unreachable hno]
      rfl

/-- **Clauses independent of the registry's order.** The walker answers alike for every
order of the models exactly when some required model is out of reach, so that it always
fails, or when all paths it may take to each required model add the same clauses. -/
theorem buildJoinClauses_perm_iff (hnames : (models.map (·.name)).Nodup) :
    (∀ models' : List Model, models'.Perm models →
      (JoinWalker.new models').buildJoinClauses base required baseAlias =
        (JoinWalker.new models).buildJoinClauses base required baseAlias) ↔
    (∃ dst ∈ required, ∀ n, (JoinGraph.new models).Reaches dst n base = false) ∨
      OrderFree models base baseAlias [] required := by
  by_cases hno : ∃ dst ∈ required, ∀ n, (JoinGraph.new models).Reaches dst n base = false
  · obtain ⟨message, hfail⟩ := requiredEdges_of_unreachable hno
    refine ⟨fun _ => .inl hno, fun _ models' h => ?_⟩
    simp only [JoinWalker.buildJoinClauses, JoinWalker.new, resolveJoins, hfail models' h,
      hfail models (List.Perm.refl _)]
  · have hreach : ∀ dst ∈ required, ∃ n, (JoinGraph.new models).Distance dst n base := by
      intro dst hdst
      by_contra hnot
      exact hno ⟨dst, hdst, fun n => Bool.eq_false_iff.2 fun hr => hnot (Bfs.exists_dist hr)⟩
    have hanswer : ∀ models' : List Model, models'.Perm models →
        (JoinWalker.new models').buildJoinClauses base required baseAlias =
          .ok (clausesFor models' base baseAlias [] required) := by
      intro models' h
      have hreach' : ∀ dst ∈ required, ∃ n, (JoinGraph.new models').Distance dst n base := by
        intro dst hdst
        obtain ⟨n, hdist⟩ := hreach dst hdst
        exact ⟨n, (distance_perm h).2 hdist⟩
      simp only [JoinWalker.buildJoinClauses, JoinWalker.new, resolveJoins, requiredEdges_of_reachable hreach']
      rfl
    rw [or_iff_right hno]
    constructor
    · intro hsame
      apply orderFree_of_perm hnames (fun _ _ x hx => absurd hx List.not_mem_nil) hreach
      intro models' h
      have hequal := hsame models' h
      rw [hanswer models' h, hanswer models (List.Perm.refl _)] at hequal
      exact Except.ok.inj hequal
    · intro hfree models' h
      rw [hanswer models' h, hanswer models (List.Perm.refl _), clausesFor_perm h hreach hfree]

end

/-! ## Two models that join each other -/

namespace MutualJoins

def orders : Model where
  name := "orders"
  datasource := "warehouse"
  joins := [⟨"customer", "customers", .left, [("customer_id", "id")], some "cust"⟩]

def customers : Model where
  name := "customers"
  datasource := "warehouse"
  joins := [⟨"orders", "orders", .inner, [("id", "customer_id")], none⟩]

end MutualJoins

open MutualJoins in
/-- The order of the two models decides which of the joins is made. -/
theorem order_decides_join :
    ([orders, customers].map (·.name)).Nodup ∧ [customers, orders].Perm [orders, customers] ∧
      (JoinWalker.new [orders, customers]).buildJoinClauses "orders" ["customers"] "o" =
        .ok [⟨"LEFT JOIN", "customers", "cust", "o.customer_id = cust.id"⟩] ∧
      (JoinWalker.new [customers, orders]).buildJoinClauses "orders" ["customers"] "o" =
        .ok [⟨"INNER JOIN", "customers", "customers", "customers.customer_id = o.id"⟩] := by
  refine ⟨by decide, List.Perm.swap _ _ _, ?_, ?_⟩
  · decide
  · decide

open MutualJoins in
/-- With one of the two joins declared, their order does not matter. -/
theorem buildJoinClauses_perm_iff_one_way :
    (JoinWalker.new [{ customers with joins := [] }, orders]).buildJoinClauses "orders" ["customers"] "o" =
      (JoinWalker.new [orders, { customers with joins := [] }]).buildJoinClauses "orders" ["customers"] "o" := by
  have hnames : ([orders, { customers with joins := [] }].map (·.name)).Nodup := by decide
  refine (buildJoinClauses_perm_iff hnames).2 (.inr ?_) _ (List.Perm.swap _ _ _)
  refine ⟨?_, fun _ _ => trivial⟩
  have hpath : ∀ p, PathTo [orders, { customers with joins := [] }] "orders" "customers" p →
      p = pathTaken [orders, { customers with joins := [] }] "orders" "customers" := by
    intro p hp
    obtain ⟨models', hperm, rfl⟩ := exists_perm_pathTaken hnames hp
    have horders : [orders, { customers with joins := [] }].permutations =
        [[orders, { customers with joins := [] }], [{ customers with joins := [] }, orders]] := by
      simp [List.permutations, List.permutationsAux, List.permutationsAux.rec]
    have hmem := List.mem_permutations.2 hperm
    rw [horders, List.mem_cons, List.mem_singleton] at hmem
    rcases hmem with rfl | rfl
    · rfl
    · decide
  intro p p' hp hp'
  rw [hpath p hp, hpath p' hp']

end GraphNight
