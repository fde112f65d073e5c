import GraphNight.Core.JoinScope
import GraphNight.Lib.BfsTree

/-!
# The paths of a join graph

A path is found exactly when there is one, and no path is shorter. The paths to all required
models, with a model joined once, still come in an order in which every join starts at the base
or at a model joined before.
-/

namespace GraphNight

namespace JoinGraph

/-- A chain of joins from one model to another. -/
abbrev Chain (g : JoinGraph) (src : String) (path : List JoinEdge) (dst : String) : Prop :=
  Bfs.Walk g.edges JoinEdge.targetModel src path dst

/-- The loop of the search comes to its end, and has found what the bounded one finds. -/
def SearchEnds (g : JoinGraph) (src dst : String) : Prop :=
  ∃ fuel, Bfs.ends g.edges JoinEdge.targetModel dst fuel [(src, [])] [src] = true ∧
    Bfs.search g.edges JoinEdge.targetModel dst fuel [(src, [])] [src] =
      Bfs.search g.edges JoinEdge.targetModel dst (g.adjacency.length + 1) [(src, [])] [src]

/-- What the search for a path says is so. -/
structure PathSound (g : JoinGraph) (src dst : String) : Prop where
  ends : g.SearchEnds src dst
  found : (∃ path, g.findPath src dst = .ok path) ↔ ∃ path, g.Chain src path dst
  chain : ∀ path, g.findPath src dst = .ok path → g.Chain src path dst
  shortest : ∀ path, g.findPath src dst = .ok path → ∀ other, g.Chain src other dst → path.length ≤ other.length

/-- The edges joined for the required models. -/
structure JoinsSound (g : JoinGraph) (base : String) (required : List String) (edges : List JoinEdge) : Prop where
  distinct : (edges.map (·.targetModel)).Nodup
  notBase : base ∉ edges.map (·.targetModel)
  covers : ∀ model ∈ required, model ≠ base → model ∈ edges.map (·.targetModel)
  ordered : ∀ before edge after, edges = before ++ edge :: after →
    ∃ model, (model = base ∨ model ∈ before.map (·.targetModel)) ∧ edge ∈ g.edges model

theorem searchEnds (g : JoinGraph) (src dst : String) : g.SearchEnds src dst := by
  refine ⟨g.adjacency.length + 2, ?_, ?_⟩
  · apply Bfs.ends_of_unvisited g.target_mem
    have hcard : Bfs.unvisited (g.adjacency.map (·.2.targetModel)) [src] ≤ (g.adjacency.map (·.2.targetModel)).length :=
      (Finset.card_le_card Finset.sdiff_subset).trans (List.toFinset_card_le _)
    rw [List.length_map] at hcard
    rw [List.length_singleton]
    omega
  · by_cases h : ∃ n, g.Reaches dst n src = true
    · obtain ⟨n, hn⟩ := h
      obtain ⟨d, hd⟩ := Bfs.exists_dist hn
      rw [Bfs.search_eq_route g.target_mem hd (by simp), Bfs.search_eq_route g.target_mem hd (by simp)]
    · have hno : ∀ n, g.Reaches dst n src = false := fun n => by
        simpa using fun hn => h ⟨n, hn⟩
      rw [Bfs.search_eq_none (by simpa using hno), Bfs.search_eq_none (by simpa using hno)]

theorem findPath_of_chain {g : JoinGraph} {src dst : String} {other : List JoinEdge} (h : g.Chain src other dst) :
    ∃ path, g.findPath src dst = .ok path ∧ path.length ≤ other.length := by
  have hreach : g.Reaches dst other.length src = true := Bfs.reach_of_walk h
  obtain ⟨n, hn, hfound⟩ | ⟨hnone, -⟩ := findPath_cases g src dst
  · refine ⟨_, hfound, ?_⟩
    rw [Bfs.length_route hn.1]
    by_contra hlt
    exact absurd (hreach.symm.trans (hn.2 _ (not_le.1 hlt))) nofun
  · exact absurd (hreach.symm.trans (hnone other.length)) nofun

/-- What is found is the route of the shortest length. -/
theorem distance_of_findPath {g : JoinGraph} {src dst : String} {path : List JoinEdge} (h : g.findPath src dst = .ok path) :
    ∃ n, g.Distance dst n src ∧ g.route dst n src = path := by
  obtain ⟨n, hn, hfound⟩ | ⟨-, hnone⟩ := findPath_cases g src dst
  · exact ⟨n, hn, Except.ok.inj (hfound.symm.trans h)⟩
  · exact absurd (hnone.symm.trans h) Res.fail_ne_ok

theorem pathSound (g : JoinGraph) (src dst : String) : g.PathSound src dst where
  ends := g.searchEnds src dst
  found := by
    constructor
    · rintro ⟨path, hpath⟩
      obtain ⟨n, hn, rfl⟩ := distance_of_findPath hpath
      exact ⟨_, Bfs.walk_route hn.1⟩
    · rintro ⟨path, hchain⟩
      obtain ⟨path', hfound, -⟩ := findPath_of_chain hchain
      exact ⟨path', hfound⟩
  chain path hpath := by
    obtain ⟨n, hn, rfl⟩ := distance_of_findPath hpath
    exact Bfs.walk_route hn.1
  shortest path hpath other hchain := by
    obtain ⟨path', hfound, hle⟩ := findPath_of_chain hchain
    rwa [← Except.ok.inj (hpath.symm.trans hfound)] at hle

/-! ## The edges for all required models -/

/-- The paths one after the other, before repeated targets are dropped. -/
theorem requiredEdges_attached {g : JoinGraph} {base : String} {required : List String} {edges : List JoinEdge}
    (h : g.requiredEdges base required = .ok edges) :
    Bfs.Attached g.edges JoinEdge.targetModel [base] edges ∧ base ∉ edges.map (·.targetModel) ∧
      ∀ model ∈ required, model ≠ base → model ∈ edges.map (·.targetModel) := by
  induction required generalizing edges with
  | nil =>
    cases h
    exact ⟨trivial, List.not_mem_nil, fun _ h => absurd h List.not_mem_nil⟩
  | cons model required ih =>
    rw [requiredEdges_cons] at h
    obtain ⟨path, hpath, hrest⟩ := Res.bind_eq_ok.1 h
    obtain ⟨others, hothers, hedges⟩ := Res.bind_eq_ok.1 hrest
    obtain rfl : path ++ others = edges := Except.ok.inj hedges
    obtain ⟨hattached, hbase, hcovers⟩ := ih hothers
    obtain ⟨n, hn, rfl⟩ := distance_of_findPath hpath
    have hwalk := Bfs.walk_route hn.1
    refine ⟨(Bfs.attached_of_walk hwalk List.mem_cons_self).append hattached, ?_, ?_⟩
    · rw [List.map_append, List.mem_append, not_or]
      exact ⟨hn.route_targets.2.1, hbase⟩
    · intro dst hdst hne
      rw [List.map_append, List.mem_append]
      obtain rfl | hdst := List.mem_cons.1 hdst
      · exact .inl (Bfs.mem_targets_of_walk hwalk hne.symm)
      · exact .inr (hcovers dst hdst hne)

/-- A model already reached is not needed again to reach another. -/
theorem attached_dedupTargets {g : JoinGraph} {reached seen : List String} {edges : List JoinEdge}
    (h : Bfs.Attached g.edges JoinEdge.targetModel reached edges) (hseen : seen ⊆ reached) :
    Bfs.Attached g.edges JoinEdge.targetModel reached (dedupTargets seen edges) := by
  induction edges generalizing reached seen with
  | nil => trivial
  | cons edge edges ih =>
    rw [dedupTargets]
    split_ifs with htarget
    · exact ih (h.2.mono (List.cons_subset.2 ⟨hseen htarget, List.Subset.refl _⟩)) hseen
    · exact ⟨h.1, ih h.2 (List.cons_subset_cons _ hseen)⟩

theorem joinsSound {g : JoinGraph} {base : String} {required : List String} {edges : List JoinEdge}
    (h : g.resolveJoins base required = .ok edges) : g.JoinsSound base required edges := by
  obtain ⟨all, hall, hedges⟩ := Res.bind_eq_ok.1 h
  obtain rfl : dedupTargets [] all = edges := Except.ok.inj hedges
  obtain ⟨hattached, hbase, hcovers⟩ := requiredEdges_attached hall
  have hmem : ∀ model, model ∈ (dedupTargets [] all).map (·.targetModel) ↔ model ∈ all.map (·.targetModel) := fun model => by
    rw [mem_targets_dedup]
    simp
  refine ⟨nodup_dedupTargets [] all, fun h => hbase ((hmem base).1 h), fun model hmodel hne => ?_, ?_⟩
  · exact (hmem model).2 (hcovers model hmodel hne)
  · intro before edge after hsplit
    have hdedup := attached_dedupTargets hattached (List.nil_subset _)
    rw [hsplit] at hdedup
    obtain ⟨model, hmodel, hedge⟩ := hdedup.exists_source
    exact ⟨model, hmodel.imp_left List.mem_singleton.1, hedge⟩

/-- **Join paths are sound, complete and shortest**, and the joins resolved for any required models
can be made one after the other. -/
theorem join_paths_sound (g : JoinGraph) : (∀ src dst, g.PathSound src dst) ∧
    ∀ base required edges, g.resolveJoins base required = .ok edges → g.JoinsSound base required edges :=
  ⟨g.pathSound, fun _ _ _ => joinsSound⟩

/-- Orders have customers and products, and the products suppliers. -/
def shopGraph : JoinGraph := .new
  [{ name := "orders", datasource := "main"
     joins := [{ name := "customers", model := "customers", joinType := .left, on := [("customer_id", "id")] },
       { name := "products", model := "products", joinType := .left, on := [("product_id", "id")] }] },
    { name := "products", datasource := "main"
      joins := [{ name := "suppliers", model := "suppliers", joinType := .left, on := [("supplier_id", "id")] }] }]

theorem join_paths_sound_shop : ∃ edges, shopGraph.resolveJoins "orders" ["suppliers", "products", "customers"] = .ok edges ∧
    shopGraph.JoinsSound "orders" ["suppliers", "products", "customers"] edges := by
  obtain ⟨edges, hedges⟩ : ∃ edges, shopGraph.resolveJoins "orders" ["suppliers", "products", "customers"] = .ok edges := ⟨_, rfl⟩
  exact ⟨edges, hedges, (join_paths_sound shopGraph).2 _ _ _ hedges⟩

end JoinGraph

end GraphNight
