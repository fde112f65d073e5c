import GraphNight.Lib.StableSort
import GraphNight.Runtime.Embedding
import Mathlib.Algebra.Order.Field.Basic
import Mathlib.Data.List.Perm.Basic
import Mathlib.Tactic.Linarith
import Mathlib.Tactic.SplitIfs

/-!
# The fusion of two rankings (`graphnight-runtime/src/embedding.rs`)

The fusion sorts the scores of the ids in the order a map yields them. It is a faithful merge of
the two rankings, but two ids of one score come out in the order of the map.
-/

namespace GraphNight

namespace Embedding

/-! ## What an id is worth -/

/-- What the rank of an id in a list is worth; nothing if it is not there. -/
def worth (k weight : Rat) (list : Ranking) (id : String) : Rat :=
  match list.findIdx? (·.1 == id) with
  | some rank => weight / (k + rank + 1)
  | none => 0

/-- The score of an id in the fusion. -/
def fusedScore (lexical dense : Ranking) (k weightLexical weightDense : Rat) (id : String) : Rat :=
  worth k weightLexical lexical id + worth k weightDense dense id

/-- The ids of a ranking. -/
def ids (list : Ranking) : List String := list.map Prod.fst

theorem worth_of_not_mem {k weight : Rat} {list : Ranking} {id : String} (h : id ∉ ids list) : worth k weight list id = 0 := by
  have hnone : list.findIdx? (·.1 == id) = none := by
    refine List.findIdx?_eq_none_iff.2 fun e he => beq_eq_false_iff_ne.2 ?_
    rintro rfl
    exact h (List.mem_map_of_mem he)
  rw [worth, hnone]

/-- A rank counts from where the list begins. -/
def worthFrom (k weight : Rat) (list : Ranking) (rank : Nat) (id : String) : Rat :=
  match list.findIdx? (·.1 == id) with
  | some i => weight / (k + ((rank + i : Nat) : Rat) + 1)
  | none => 0

theorem worthFrom_zero (k weight : Rat) (list : Ranking) (id : String) : worthFrom k weight list 0 id = worth k weight list id := by
  unfold worthFrom worth
  simp only [Nat.zero_add]

theorem worthFrom_cons_self {k weight : Rat} {list : Ranking} {rank : Nat} {id : String} {score : Rat} :
    worthFrom k weight ((id, score) :: list) rank id = weight / (k + rank + 1) := by
  simp [worthFrom, List.findIdx?_cons]

theorem worthFrom_cons_of_ne {k weight : Rat} {list : Ranking} {rank : Nat} {id other : String} {score : Rat} (h : other ≠ id) :
    worthFrom k weight ((other, score) :: list) rank id = worthFrom k weight list (rank + 1) id := by
  have hhead : ((other, score).1 == id) = false := beq_eq_false_iff_ne.2 h
  unfold worthFrom
  rw [List.findIdx?_cons, hhead]
  cases list.findIdx? (·.1 == id) with
  | none => rfl
  | some i =>
    show weight / (k + ((rank + (i + 1) : Nat) : Rat) + 1) = weight / (k + ((rank + 1 + i : Nat) : Rat) + 1)
    rw [show rank + (i + 1) = rank + 1 + i by omega]

/-- The score of an id so far. -/
def scoreOf (scores : KeyedList (String × Rat) Prod.fst) (id : String) : Option Rat := (scores.get id).map (·.2)

theorem scoreOf_insert (scores : KeyedList (String × Rat) Prod.fst) (id other : String) (score : Rat) :
    scoreOf (scores.insert (other, score)) id = if other = id then some score else scoreOf scores id := by
  unfold scoreOf
  rw [KeyedList.get_insert]
  split_ifs <;> rfl

/-- **A list adds to the score of each of its ids what their rank is worth**, and to no other. -/
theorem scoreOf_addRanks (k weight : Rat) {list : Ranking} (hnodup : (ids list).Nodup) (rank : Nat)
    (scores : KeyedList (String × Rat) Prod.fst) (id : String) :
    scoreOf (addRanks k weight list rank scores) id =
      if id ∈ ids list then some ((scoreOf scores id).getD 0 + worthFrom k weight list rank id) else scoreOf scores id := by
  induction list generalizing rank scores with
  | nil => rfl
  | cons e list ih =>
    obtain ⟨other, score⟩ := e
    obtain ⟨hother, hnodup⟩ := List.nodup_cons.1 hnodup
    have hother : other ∉ ids list := hother
    rw [addRanks, ih hnodup]
    by_cases hid : other = id
    · subst hid
      have hmem : other ∈ ids ((other, score) :: list) := List.mem_cons_self
      rw [if_neg hother, if_pos hmem, scoreOf_insert, if_pos rfl, worthFrom_cons_self]
      rfl
    · have hmem : id ∈ ids ((other, score) :: list) ↔ id ∈ ids list := by
        rw [ids, List.map_cons, List.mem_cons]
        exact or_iff_right fun h => hid h.symm
      rw [scoreOf_insert, if_neg hid, worthFrom_cons_of_ne hid]
      simp only [hmem]

/-- The scores of both lists. -/
def scoresOf (lexical dense : Ranking) (k weightLexical weightDense : Rat) : KeyedList (String × Rat) Prod.fst :=
  addRanks k weightDense dense 0 (addRanks k weightLexical lexical 0 .empty)

variable {lexical dense : Ranking} {k weightLexical weightDense : Rat}

theorem scoreOf_scoresOf (hlexical : (ids lexical).Nodup) (hdense : (ids dense).Nodup) (id : String) :
    scoreOf (scoresOf lexical dense k weightLexical weightDense) id =
      if id ∈ ids lexical ∨ id ∈ ids dense then some (fusedScore lexical dense k weightLexical weightDense id) else none := by
  have hempty : scoreOf .empty id = none := rfl
  rw [scoresOf, scoreOf_addRanks _ _ hdense, scoreOf_addRanks _ _ hlexical, hempty, worthFrom_zero, worthFrom_zero, fusedScore]
  by_cases hl : id ∈ ids lexical <;> by_cases hd : id ∈ ids dense
  · simp [hl, hd]
  · simp [hl, hd, worth_of_not_mem hd]
  · simp [hl, hd, worth_of_not_mem hl]
  · simp [hl, hd]

theorem mem_scoresOf (hlexical : (ids lexical).Nodup) (hdense : (ids dense).Nodup) {e : String × Rat} :
    e ∈ (scoresOf lexical dense k weightLexical weightDense).items ↔
      (e.1 ∈ ids lexical ∨ e.1 ∈ ids dense) ∧ e.2 = fusedScore lexical dense k weightLexical weightDense e.1 := by
  have hscore := @scoreOf_scoresOf lexical dense k weightLexical weightDense hlexical hdense e.1
  obtain ⟨id, score⟩ := e
  constructor
  · intro hmem
    have hget := KeyedList.get_eq_some.2 ⟨hmem, rfl⟩
    rw [scoreOf, hget] at hscore
    split_ifs at hscore with hids
    · exact ⟨hids, Option.some.inj hscore⟩
    · cases hscore
  · rintro ⟨hids, heq⟩
    rw [if_pos hids, ← heq] at hscore
    obtain ⟨⟨id', score'⟩, hget, hvalue⟩ := Option.map_eq_some_iff.1 hscore
    obtain ⟨hmem, hkey⟩ := KeyedList.get_eq_some.1 hget
    obtain rfl : id' = id := hkey
    obtain rfl : score' = score := hvalue
    exact hmem

/-! ## The order of the map -/

/-- A better score goes first. -/
def better (a b : String × Rat) : Bool := b.2 ≤ a.2

theorem better_trans (a b c : String × Rat) (hab : better a b) (hbc : better b c) : better a c := by
  simp only [better, decide_eq_true_eq] at *
  exact le_trans hbc hab

theorem better_total (a b : String × Rat) : (better a b || better b a) = true := by
  simp only [better, Bool.or_eq_true, decide_eq_true_eq]
  exact le_total b.2 a.2

theorem filterMap_get {m : KeyedList (String × Rat) Prod.fst} {l : Ranking} (h : ∀ e ∈ l, e ∈ m.items) :
    (l.map Prod.fst).filterMap m.get = l := by
  induction l with
  | nil => rfl
  | cons e l ih =>
    have hget : m.get e.1 = some e := KeyedList.get_eq_some.2 ⟨h e List.mem_cons_self, rfl⟩
    rw [List.map_cons, List.filterMap_cons_some hget, ih fun e' he' => h e' (List.mem_cons_of_mem _ he')]

/-- What is sorted is the scores in some order. -/
theorem reciprocalRankFusion_eq (std : RustStd) (lexical dense : Ranking) (k weightLexical weightDense : Rat) :
    ∃ l : Ranking, l.Perm (scoresOf lexical dense k weightLexical weightDense).items ∧
      reciprocalRankFusion std lexical dense k weightLexical weightDense = l.mergeSort better := by
  refine ⟨_, ?_, rfl⟩
  have hperm := std.hashOrder_perm ((scoresOf lexical dense k weightLexical weightDense).items.map Prod.fst)
  have hitems := hperm.filterMap (scoresOf lexical dense k weightLexical weightDense).get
  rwa [filterMap_get fun _ h => h] at hitems

instance : Inhabited RustStd := ⟨⟨fun _ => false, id, List.Perm.refl, fun _ => 0, fun _ => none, id⟩⟩

/-- A map may yield its entries in any order. -/
theorem exists_hashOrder {m : KeyedList (String × Rat) Prod.fst} {l : Ranking} (h : l.Perm m.items) :
    ∃ std' : RustStd, (std'.hashOrder (m.items.map Prod.fst)).filterMap m.get = l := by
  let order := fun keys : List String => if keys = m.items.map Prod.fst then l.map Prod.fst else keys
  have horder : ∀ keys, (order keys).Perm keys := by
    intro keys
    by_cases hkeys : keys = m.items.map Prod.fst
    · have hone : order keys = l.map Prod.fst := if_pos hkeys
      rw [hone, hkeys]
      exact h.map _
    · have hone : order keys = keys := if_neg hkeys
      rw [hone]
  refine ⟨{ (default : RustStd) with hashOrder := order, hashOrder_perm := horder }, ?_⟩
  have hone : order (m.items.map Prod.fst) = l.map Prod.fst := if_pos rfl
  show (order (m.items.map Prod.fst)).filterMap m.get = l
  rw [hone]
  exact filterMap_get fun e he => h.mem_iff.1 he

/-! ## The merge -/

/-- An id is in every list the other is in, and before it there. -/
def Dominates (lexical dense : Ranking) (a b : String) : Prop :=
  ∀ list ∈ [lexical, dense], ∀ j, list.findIdx? (·.1 == b) = some j → ∃ i < j, list.findIdx? (·.1 == a) = some i

/-- A better rank is worth more. -/
theorem worth_lt {k weight : Rat} (hk : 0 < k) (hweight : 0 < weight) {list : Ranking} {a b : String} {i j : Nat} (hij : i < j)
    (ha : list.findIdx? (·.1 == a) = some i) (hb : list.findIdx? (·.1 == b) = some j) : worth k weight list b < worth k weight list a := by
  have hi : (0 : Rat) ≤ (i : Rat) := Nat.cast_nonneg i
  have hcast : (i : Rat) < (j : Rat) := Nat.cast_lt.2 hij
  rw [worth, worth, ha, hb]
  show weight / (k + (j : Rat) + 1) < weight / (k + (i : Rat) + 1)
  exact div_lt_div_of_pos_left hweight (by linarith) (by linarith)

theorem worth_nonneg {k weight : Rat} (hk : 0 < k) (hweight : 0 < weight) (list : Ranking) (id : String) : 0 ≤ worth k weight list id := by
  unfold worth
  split
  · next rank _ =>
    have hrank : (0 : Rat) ≤ (rank : Rat) := Nat.cast_nonneg rank
    exact div_nonneg hweight.le (by linarith)
  · exact le_rfl

/-- An id that is before another one in a list is worth more there, or as much if neither is there. -/
theorem worth_le_of_dominates {k weight : Rat} (hk : 0 < k) (hweight : 0 < weight) {list : Ranking} {a b : String}
    (h : ∀ j, list.findIdx? (·.1 == b) = some j → ∃ i < j, list.findIdx? (·.1 == a) = some i) :
    worth k weight list b ≤ worth k weight list a ∧ (b ∈ ids list → worth k weight list b < worth k weight list a) := by
  cases hb : list.findIdx? (·.1 == b) with
  | none =>
    have hnot : b ∉ ids list := by
      intro hmem
      obtain ⟨e, he, rfl⟩ := List.mem_map.1 hmem
      have hfalse := List.findIdx?_eq_none_iff.1 hb e he
      simp at hfalse
    rw [worth_of_not_mem hnot]
    exact ⟨worth_nonneg hk hweight _ _, fun hmem => absurd hmem hnot⟩
  | some j =>
    obtain ⟨i, hij, ha⟩ := h j hb
    have hlt := worth_lt hk hweight hij ha hb
    exact ⟨hlt.le, fun _ => hlt⟩

/-- **The better of two ids has the higher score.** -/
theorem fusedScore_lt (hk : 0 < k) (hweightLexical : 0 < weightLexical) (hweightDense : 0 < weightDense) {a b : String}
    (hb : b ∈ ids lexical ∨ b ∈ ids dense) (h : Dominates lexical dense a b) :
    fusedScore lexical dense k weightLexical weightDense b < fusedScore lexical dense k weightLexical weightDense a := by
  have hlexical := worth_le_of_dominates hk hweightLexical (h lexical (by simp))
  have hdense := worth_le_of_dominates hk hweightDense (h dense (by simp))
  unfold fusedScore
  obtain hb | hb := hb
  · exact add_lt_add_of_lt_of_le (hlexical.2 hb) hdense.1
  · exact add_lt_add_of_le_of_lt hlexical.1 (hdense.2 hb)

/-- Of two elements of a list in order, the one that cannot follow the other stands before it. -/
theorem pair_sublist_of_pairwise {α : Type} {R : α → α → Prop} {l : List α} (h : l.Pairwise R) {a b : α} (ha : a ∈ l) (hb : b ∈ l)
    (hne : a ≠ b) (hnot : ¬R b a) : List.Sublist [a, b] l := by
  obtain ⟨s, t, rfl⟩ := List.append_of_mem ha
  rcases List.mem_append.1 hb with hs | ht
  · exact absurd ((List.pairwise_append.1 h).2.2 b hs a List.mem_cons_self) hnot
  · have hmem : b ∈ t := (List.mem_cons.1 ht).resolve_left fun heq => hne heq.symm
    exact ((List.singleton_sublist.2 hmem).cons_cons a).trans (List.sublist_append_right s _)

/-- The fusion is its scores in some order. -/
theorem reciprocalRankFusion_perm (std : RustStd) (lexical dense : Ranking) (k weightLexical weightDense : Rat) :
    (reciprocalRankFusion std lexical dense k weightLexical weightDense).Perm (scoresOf lexical dense k weightLexical weightDense).items := by
  obtain ⟨l, hl, hfused⟩ := reciprocalRankFusion_eq std lexical dense k weightLexical weightDense
  rw [hfused]
  exact (List.mergeSort_perm l better).trans hl

theorem reciprocalRankFusion_pairwise (std : RustStd) (lexical dense : Ranking) (k weightLexical weightDense : Rat) :
    (reciprocalRankFusion std lexical dense k weightLexical weightDense).Pairwise fun a b => b.2 ≤ a.2 := by
  obtain ⟨l, -, hfused⟩ := reciprocalRankFusion_eq std lexical dense k weightLexical weightDense
  rw [hfused]
  exact (List.pairwise_mergeSort better_trans better_total l).imp fun h => of_decide_eq_true h

/-- **The order of the map makes no difference, if and only if no two scores tie.** -/
theorem same_iff_ties (lexical dense : Ranking) (k weightLexical weightDense : Rat) :
    (∀ std std', reciprocalRankFusion std lexical dense k weightLexical weightDense =
      reciprocalRankFusion std' lexical dense k weightLexical weightDense) ↔
      ∀ e ∈ (scoresOf lexical dense k weightLexical weightDense).items, ∀ e' ∈ (scoresOf lexical dense k weightLexical weightDense).items,
        better e e' → better e' e → e = e' := by
  have hnodup : (scoresOf lexical dense k weightLexical weightDense).items.Nodup :=
    (scoresOf lexical dense k weightLexical weightDense).distinct.of_map
  rw [← StableSort.mergeSort_perm_iff better_trans better_total hnodup]
  constructor
  · intro h l hl
    obtain ⟨std, hstd⟩ := exists_hashOrder hl
    obtain ⟨std', hstd'⟩ := exists_hashOrder (List.Perm.refl (scoresOf lexical dense k weightLexical weightDense).items)
    calc
      l.mergeSort better = reciprocalRankFusion std lexical dense k weightLexical weightDense := congrArg (List.mergeSort · better) hstd.symm
      _ = reciprocalRankFusion std' lexical dense k weightLexical weightDense := h std std'
      _ = _ := congrArg (List.mergeSort · better) hstd'
  · intro h std std'
    obtain ⟨l, hl, hfused⟩ := reciprocalRankFusion_eq std lexical dense k weightLexical weightDense
    obtain ⟨l', hl', hfused'⟩ := reciprocalRankFusion_eq std' lexical dense k weightLexical weightDense
    rw [hfused, hfused', h l hl, h l' hl']

/-- An id of either list. -/
def Ranked (lexical dense : Ranking) (id : String) : Prop := id ∈ ids lexical ∨ id ∈ ids dense

theorem Dominates.ranked {a b : String} (h : Dominates lexical dense a b) (hb : Ranked lexical dense b) : Ranked lexical dense a := by
  have hone {list : Ranking} (hlist : list ∈ [lexical, dense]) (hmem : b ∈ ids list) : a ∈ ids list := by
    cases hfind : list.findIdx? (·.1 == b) with
    | none =>
      obtain ⟨e, he, rfl⟩ := List.mem_map.1 hmem
      have hfalse := List.findIdx?_eq_none_iff.1 hfind e he
      simp at hfalse
    | some j =>
      obtain ⟨i, -, hi⟩ := h list hlist j hfind
      obtain ⟨hlt, hkey, -⟩ := List.findIdx?_eq_some_iff_getElem.1 hi
      exact List.mem_map.2 ⟨list[i], List.getElem_mem hlt, by simpa using hkey⟩
  exact hb.imp (hone (by simp)) (hone (by simp))

/-- What a merge of two rankings owes. -/
structure FaithfulMerge (lexical dense : Ranking) (k weightLexical weightDense : Rat) : Prop where
  once : ∀ std, (ids (reciprocalRankFusion std lexical dense k weightLexical weightDense)).Nodup
  all : ∀ std id, id ∈ ids (reciprocalRankFusion std lexical dense k weightLexical weightDense) ↔ Ranked lexical dense id
  scored : ∀ std, ∀ e ∈ reciprocalRankFusion std lexical dense k weightLexical weightDense,
    e.2 = fusedScore lexical dense k weightLexical weightDense e.1
  ordered : ∀ std, (reciprocalRankFusion std lexical dense k weightLexical weightDense).Pairwise fun a b => b.2 ≤ a.2
  dominant : ∀ std a b, Ranked lexical dense b → Dominates lexical dense a b →
    List.Sublist [a, b] (ids (reciprocalRankFusion std lexical dense k weightLexical weightDense))
  /-- Whatever order the map yields its entries in. -/
  same : ∀ std std', reciprocalRankFusion std lexical dense k weightLexical weightDense =
    reciprocalRankFusion std' lexical dense k weightLexical weightDense

/-- **Fusion is a faithful merge, if and only if no two ids have the same score.** -/
theorem faithfulMerge_iff (hlexical : (ids lexical).Nodup) (hdense : (ids dense).Nodup) (hk : 0 < k) (hweightLexical : 0 < weightLexical)
    (hweightDense : 0 < weightDense) :
    FaithfulMerge lexical dense k weightLexical weightDense ↔
      ∀ a b, Ranked lexical dense a → Ranked lexical dense b → a ≠ b →
        fusedScore lexical dense k weightLexical weightDense a ≠ fusedScore lexical dense k weightLexical weightDense b := by
  have hentry {id : String} (h : Ranked lexical dense id) :
      (id, fusedScore lexical dense k weightLexical weightDense id) ∈ (scoresOf lexical dense k weightLexical weightDense).items :=
    (mem_scoresOf hlexical hdense).2 ⟨h, rfl⟩
  have hread {e : String × Rat} (h : e ∈ (scoresOf lexical dense k weightLexical weightDense).items) :
      Ranked lexical dense e.1 ∧ e.2 = fusedScore lexical dense k weightLexical weightDense e.1 := (mem_scoresOf hlexical hdense).1 h
  have hperm (std : RustStd) := reciprocalRankFusion_perm std lexical dense k weightLexical weightDense
  constructor
  · intro hmerge a b ha hb hne heq
    have hties := (same_iff_ties lexical dense k weightLexical weightDense).1 hmerge.same _ (hentry ha) _ (hentry hb)
    exact hne (congrArg Prod.fst (hties (by simp [better, heq]) (by simp [better, heq])))
  · intro hdistinct
    refine ⟨fun std => ?_, fun std id => ?_, fun std e he => ?_, fun std => reciprocalRankFusion_pairwise std _ _ _ _ _,
      fun std a b hb hdominates => ?_, (same_iff_ties lexical dense k weightLexical weightDense).2 fun e he e' he' hbetter hbetter' => ?_⟩
    · exact ((hperm std).map Prod.fst).nodup_iff.2 (scoresOf lexical dense k weightLexical weightDense).distinct
    · rw [ids, ((hperm std).map Prod.fst).mem_iff]
      constructor
      · intro h
        obtain ⟨e, he, rfl⟩ := List.mem_map.1 h
        exact (hread he).1
      · intro h
        exact List.mem_map.2 ⟨_, hentry h, rfl⟩
    · exact (hread ((hperm std).mem_iff.1 he)).2
    · have hlt := fusedScore_lt hk hweightLexical hweightDense hb hdominates
      have hpair := pair_sublist_of_pairwise (reciprocalRankFusion_pairwise std lexical dense k weightLexical weightDense)
        ((hperm std).mem_iff.2 (hentry (hdominates.ranked hb))) ((hperm std).mem_iff.2 (hentry hb))
        (fun h => hlt.ne' (congrArg Prod.snd h)) (not_le.2 hlt)
      exact hpair.map Prod.fst
    · obtain ⟨hranked, hscore⟩ := hread he
      obtain ⟨hranked', hscore'⟩ := hread he'
      have hequal : e.2 = e'.2 := le_antisymm (of_decide_eq_true hbetter') (of_decide_eq_true hbetter)
      have hid : e.1 = e'.1 := by
        by_contra hne
        exact hdistinct _ _ hranked hranked' hne (by rw [← hscore, ← hscore', hequal])
      exact Prod.ext hid hequal

/-- Two rankings that agree on the first of their two ids. -/
theorem faithfulMerge_agreeing : FaithfulMerge [("orders", 9), ("customers", 1)] [("orders", 9 / 10), ("customers", 1 / 10)] 60 1 1 := by
  refine (faithfulMerge_iff (by decide) (by decide) (by norm_num) (by norm_num) (by norm_num)).2 fun a b ha hb hne => ?_
  have hids {id : String} (h : Ranked [("orders", 9), ("customers", 1)] [("orders", 9 / 10), ("customers", 1 / 10)] id) :
      id = "orders" ∨ id = "customers" := by
    simpa [Ranked, ids] using h
  rcases hids ha with rfl | rfl <;> rcases hids hb with rfl | rfl
  · exact absurd rfl hne
  · decide +kernel
  · decide +kernel
  · exact absurd rfl hne

/-- Two ids that are first in one list each tie, and come out in the order of the map. -/
theorem tied_ids_in_map_order :
    (∃ std std', reciprocalRankFusion std [("orders", 9)] [("customers", 9 / 10)] 60 1 1 ≠
      reciprocalRankFusion std' [("orders", 9)] [("customers", 9 / 10)] 60 1 1) ∧
      ¬FaithfulMerge [("orders", 9)] [("customers", 9 / 10)] 60 1 1 := by
  have htie : fusedScore [("orders", 9)] [("customers", 9 / 10)] 60 1 1 "orders" = fusedScore [("orders", 9)] [("customers", 9 / 10)] 60 1 1 "customers" := by
    decide +kernel
  have hnot : ¬∀ std std', reciprocalRankFusion std [("orders", 9)] [("customers", 9 / 10)] 60 1 1 =
      reciprocalRankFusion std' [("orders", 9)] [("customers", 9 / 10)] 60 1 1 := by
    intro hsame
    have hentry (name : String) (h : Ranked [("orders", 9)] [("customers", 9 / 10)] name) :
        (name, fusedScore [("orders", 9)] [("customers", 9 / 10)] 60 1 1 name) ∈ (scoresOf [("orders", 9)] [("customers", 9 / 10)] 60 1 1).items :=
      (mem_scoresOf (by decide) (by decide)).2 ⟨h, rfl⟩
    have hequal := (same_iff_ties _ _ _ _ _).1 hsame _ (hentry "orders" (.inl (by decide))) _ (hentry "customers" (.inr (by decide)))
      (by simp [better, htie]) (by simp [better, htie])
    exact absurd (congrArg Prod.fst hequal) (by decide)
  refine ⟨?_, fun hmerge => hnot hmerge.same⟩
  simpa only [not_forall] using hnot

end Embedding

end GraphNight
