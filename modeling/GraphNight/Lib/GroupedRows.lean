import GraphNight.Lib.Page
import Mathlib.Data.List.Dedup
import Mathlib.Data.List.Sort

/-!
# Rows in groups

What a SELECT with a GROUP BY makes of some rows: those that pass its condition, cut into
groups by a key, one line for every group, sorted, and a window of the lines. The order of
groups that no sort order tells apart is left open, and so is that of the rows of a group.
-/

namespace Grouped

variable {ρ κ κ' ν α : Type}

/-- The rows of one key are one group, and no group is empty. -/
structure Groups (key : ρ → κ) (rows : List ρ) (groups : List (List ρ)) : Prop where
  rows : groups.flatten.Perm rows
  nonempty : ∀ group ∈ groups, group ≠ []
  together : ∀ group ∈ groups, ∀ r ∈ group, ∀ s ∈ group, key r = key s
  apart : groups.Pairwise fun group other => ∀ r ∈ group, ∀ s ∈ other, key r ≠ key s

namespace Groups

variable {key : ρ → κ} {key' : ρ → κ'} {rows : List ρ} {groups : List (List ρ)}

theorem subset (h : Groups key rows groups) {group : List ρ} (hgroup : group ∈ groups) : group ⊆ rows := by
  intro r hr
  exact h.rows.subset (List.mem_flatten.2 ⟨group, hgroup, hr⟩)

/-- Keys that tell the same rows apart make the same groups. -/
theorem congr (hkey : ∀ r ∈ rows, ∀ s ∈ rows, key r = key s ↔ key' r = key' s) (h : Groups key rows groups) :
    Groups key' rows groups := by
  refine ⟨h.rows, h.nonempty, fun group hgroup r hr s hs => ?_, ?_⟩
  · rw [← hkey r (h.subset hgroup hr) s (h.subset hgroup hs)]
    exact h.together group hgroup r hr s hs
  · refine h.apart.imp_of_mem fun {group other} hgroup hother hapart r hr s hs => ?_
    rw [Ne, ← hkey r (h.subset hgroup hr) s (h.subset hother hs)]
    exact hapart r hr s hs

/-- The groups in any order. -/
theorem perm (h : Groups key rows groups) {groups' : List (List ρ)} (hperm : groups.Perm groups') :
    Groups key rows groups' := by
  refine ⟨hperm.symm.flatten.trans h.rows, fun group hgroup => h.nonempty group (hperm.symm.subset hgroup),
    fun group hgroup => h.together group (hperm.symm.subset hgroup), ?_⟩
  exact hperm.pairwise h.apart fun hapart r hr s hs heq => hapart s hs r hr heq.symm

/-- Every table falls into groups. -/
theorem exists_groups (key : ρ → κ) (rows : List ρ) : ∃ groups, Groups key rows groups := by
  classical
  induction rows with
  | nil => exact ⟨[], .refl _, List.forall_mem_nil _, List.forall_mem_nil _, .nil⟩
  | cons r rows ih =>
    obtain ⟨groups, h⟩ := ih
    by_cases hmeets : ∃ group ∈ groups, ∃ s ∈ group, key s = key r
    · -- the row joins the group of its key
      obtain ⟨group, hgroup, s, hs, hsr⟩ := hmeets
      obtain ⟨before, after, rfl⟩ := List.append_of_mem hgroup
      have hfront : Groups key rows (group :: (before ++ after)) := h.perm List.perm_middle
      have hapart := List.pairwise_cons.1 hfront.apart
      refine ⟨(r :: group) :: (before ++ after), ?_, ?_, ?_, List.pairwise_cons.2 ⟨?_, hapart.2⟩⟩
      · exact hfront.rows.cons r
      · exact List.forall_mem_cons.2 ⟨List.cons_ne_nil _ _, fun g hg => hfront.nonempty g (List.mem_cons_of_mem _ hg)⟩
      · refine List.forall_mem_cons.2 ⟨?_, fun g hg => hfront.together g (List.mem_cons_of_mem _ hg)⟩
        have hkey : ∀ t ∈ r :: group, key t = key s := by
          refine List.forall_mem_cons.2 ⟨hsr.symm, fun t ht => ?_⟩
          exact hfront.together group (List.mem_cons_self ..) t ht s hs
        intro t ht u hu
        rw [hkey t ht, hkey u hu]
      · intro other hother t ht u hu
        rcases List.mem_cons.1 ht with rfl | ht
        · rw [← hsr]
          exact hapart.1 other hother s hs u hu
        · exact hapart.1 other hother t ht u hu
    · -- the row is the first of its key
      refine ⟨[r] :: groups, h.rows.cons r, ?_, ?_, List.pairwise_cons.2 ⟨?_, h.apart⟩⟩
      · exact List.forall_mem_cons.2 ⟨List.cons_ne_nil _ _, h.nonempty⟩
      · refine List.forall_mem_cons.2 ⟨fun t ht u hu => ?_, h.together⟩
        rw [List.mem_singleton.1 ht, List.mem_singleton.1 hu]
      · intro other hother t ht u hu heq
        obtain rfl := List.mem_singleton.1 ht
        exact hmeets ⟨other, hother, u, hu, heq.symm⟩

end Groups

/-- The first of several orders that tells two apart. -/
def lexicographic : List (α → α → Bool) → α → α → Bool
  | [], _, _ => false
  | before :: rest, a, b => before a b || (!before b a && lexicographic rest a b)

/-- What sorts: a strict order, of which ties are an equivalence. -/
structure WeakOrder (before : α → α → Bool) : Prop where
  asymm : ∀ a b, before a b = true → before b a = false
  trans : ∀ a b c, before a b = false → before b c = false → before a c = false

namespace WeakOrder

variable {before : α → α → Bool}

theorem swap (h : WeakOrder before) : WeakOrder fun a b => before b a :=
  ⟨fun a b hab => h.asymm b a hab, fun a b c hab hbc => h.trans c b a hbc hab⟩

theorem comap {β : Type} (h : WeakOrder before) (f : β → α) : WeakOrder fun a b => before (f a) (f b) :=
  ⟨fun a b hab => h.asymm (f a) (f b) hab, fun a b c hab hbc => h.trans (f a) (f b) (f c) hab hbc⟩

theorem lexicographic_cons_eq_false {rest : List (α → α → Bool)} {a b : α} :
    lexicographic (before :: rest) a b = false ↔
      before a b = false ∧ (before b a = true ∨ lexicographic rest a b = false) := by
  show (before a b || (!before b a && lexicographic rest a b)) = false ↔ _
  cases before a b <;> cases before b a <;> simp

/-- Orders that are tried in turn are one order. -/
theorem inTurn {orders : List (α → α → Bool)} (h : ∀ before ∈ orders, WeakOrder before) :
    WeakOrder (lexicographic orders) := by
  induction orders with
  | nil => exact ⟨fun a b hab => absurd hab Bool.false_ne_true, fun a b c _ _ => rfl⟩
  | cons before rest ih =>
    obtain ⟨hbefore, hrest⟩ := List.forall_mem_cons.1 h
    have ih := ih hrest
    refine ⟨fun a b hab => ?_, fun a b c hab hbc => ?_⟩
    · rw [lexicographic_cons_eq_false]
      rw [lexicographic, Bool.or_eq_true, Bool.and_eq_true, Bool.not_eq_true'] at hab
      rcases hab with hab | ⟨hba, hab⟩
      · exact ⟨hbefore.asymm a b hab, .inl hab⟩
      · exact ⟨hba, .inr (ih.asymm a b hab)⟩
    · rw [lexicographic_cons_eq_false] at hab hbc ⊢
      refine ⟨hbefore.trans a b c hab.1 hbc.1, ?_⟩
      by_cases hca : before c a = true
      · exact .inl hca
      -- no order between the ends, so none on the way
      have hca := Bool.eq_false_iff.2 hca
      have hba : before b a = false := hbefore.trans b c a hbc.1 hca
      have hcb : before c b = false := hbefore.trans c a b hca hab.1
      rw [hba] at hab
      rw [hcb] at hbc
      exact .inr (ih.trans a b c (hab.2.resolve_left Bool.false_ne_true) (hbc.2.resolve_left Bool.false_ne_true))

end WeakOrder

/-- A SELECT over some rows. -/
structure Select (ρ κ ν : Type) where
  passes : ρ → Bool
  /-- What the rows are grouped by. Without it they are one group, also where there is none. -/
  key : Option (ρ → κ)
  line : List ρ → ν
  before : List ρ → List ρ → Bool
  distinct : Bool
  skip : Nat
  keep : Option Nat

namespace Select

/-- The groups of some rows. -/
def IsGrouping (s : Select ρ κ ν) (rows : List ρ) (groups : List (List ρ)) : Prop :=
  s.key.elim (groups = [rows]) fun key => Groups key rows groups

/-- The lines a SELECT can return. -/
def Answers [DecidableEq ν] (s : Select ρ κ ν) (rows : List ρ) (answer : List ν) : Prop :=
  ∃ groups, s.IsGrouping (rows.filter s.passes) groups ∧
    groups.Pairwise (fun group later => s.before later group = false) ∧
    answer = Page.window s.skip s.keep (if s.distinct then (groups.map s.line).dedup else groups.map s.line)

variable {s : Select ρ κ ν} {t : Select ρ κ' ν} {rows : List ρ}

theorem IsGrouping.subset {groups : List (List ρ)} (h : s.IsGrouping rows groups) {group : List ρ}
    (hgroup : group ∈ groups) : group ⊆ rows := by
  unfold IsGrouping at h
  cases hkey : s.key with
  | none =>
    rw [hkey] at h
    obtain rfl : groups = [rows] := h
    rw [List.mem_singleton.1 hgroup]
    exact List.Subset.refl _
  | some key =>
    rw [hkey] at h
    exact Groups.subset h hgroup

/-- **Every table has an answer**: its groups can be sorted. -/
theorem exists_answers [DecidableEq ν] (h : WeakOrder s.before) (rows : List ρ) : ∃ answer, s.Answers rows answer := by
  obtain ⟨groups, hgroups⟩ : ∃ groups, s.IsGrouping (rows.filter s.passes) groups := by
    unfold IsGrouping
    cases s.key with
    | none => exact ⟨_, rfl⟩
    | some key => exact Groups.exists_groups key _
  let le (group later : List ρ) : Bool := !s.before later group
  have hsorted : (groups.mergeSort le).Pairwise fun group later => le group later = true := by
    refine List.pairwise_mergeSort (fun a b c hab hbc => ?_) (fun a b => ?_) groups
    · rw [Bool.not_eq_true'] at hab hbc ⊢
      exact h.trans c b a hbc hab
    · by_cases hba : s.before b a = true
      · simp [le, h.asymm b a hba]
      · simp [le, hba]
  refine ⟨_, groups.mergeSort le, ?_, hsorted.imp fun {group later} hle => ?_, rfl⟩
  · have hperm := List.mergeSort_perm groups le
    unfold IsGrouping at hgroups ⊢
    cases hkey : s.key with
    | none =>
      rw [hkey] at hgroups
      obtain rfl : groups = [rows.filter s.passes] := hgroups
      exact List.perm_singleton.1 hperm
    | some key =>
      rw [hkey] at hgroups
      exact Groups.perm hgroups hperm.symm
  · exact Bool.not_eq_true' _ ▸ hle

/-- Two SELECTs that agree on the rows of a table, and on the lines of its groups. -/
structure Agree (s : Select ρ κ ν) (t : Select ρ κ' ν) (rows : List ρ) : Prop where
  passes : ∀ r ∈ rows, s.passes r = t.passes r
  grouped : s.key = none ↔ t.key = none
  key : ∀ key key', s.key = some key → t.key = some key' → ∀ r ∈ rows, ∀ r' ∈ rows, key r = key r' ↔ key' r = key' r'
  line : ∀ group, group ⊆ rows → s.line group = t.line group
  before : ∀ group other, group ⊆ rows → other ⊆ rows → s.before group other = t.before group other
  distinct : s.distinct = t.distinct
  skip : s.skip = t.skip
  keep : s.keep = t.keep

theorem Agree.symm (h : Agree s t rows) : Agree t s rows :=
  ⟨fun r hr => (h.passes r hr).symm, h.grouped.symm, fun key key' hkey hkey' r hr r' hr' =>
    (h.key key' key hkey' hkey r hr r' hr').symm, fun group hgroup => (h.line group hgroup).symm,
    fun group other hgroup hother => (h.before group other hgroup hother).symm, h.distinct.symm, h.skip.symm, h.keep.symm⟩

theorem Agree.answers [DecidableEq ν] (h : Agree s t rows) {answer : List ν} (hs : s.Answers rows answer) :
    t.Answers rows answer := by
  obtain ⟨groups, hgroups, hsorted, rfl⟩ := hs
  have hfilter : rows.filter s.passes = rows.filter t.passes := List.filter_congr h.passes
  rw [hfilter] at hgroups
  have hsub : ∀ group ∈ groups, group ⊆ rows := fun group hgroup r hr =>
    List.mem_of_mem_filter (hgroups.subset hgroup hr)
  refine ⟨groups, ?_, ?_, ?_⟩
  · unfold IsGrouping at hgroups ⊢
    cases hkey : s.key with
    | none =>
      rw [h.grouped.1 hkey]
      rw [hkey] at hgroups
      exact hgroups
    | some key =>
      rw [hkey] at hgroups
      obtain ⟨key', hkey'⟩ : ∃ key', t.key = some key' := by
        refine Option.ne_none_iff_exists'.1 fun hnone => ?_
        rw [h.grouped.2 hnone] at hkey
        cases hkey
      rw [hkey']
      refine Groups.congr (fun r hr r' hr' => ?_) hgroups
      exact h.key key key' hkey hkey' r (List.mem_of_mem_filter hr) r' (List.mem_of_mem_filter hr')
  · refine hsorted.imp_of_mem fun {group later} hgroup hlater hle => ?_
    rw [← h.before later group (hsub later hlater) (hsub group hgroup)]
    exact hle
  · have hlines : groups.map s.line = groups.map t.line :=
      List.map_congr_left fun group hgroup => h.line group (hsub group hgroup)
    rw [h.skip, h.keep, h.distinct, hlines]

/-- **SELECTs that agree** answer the same. -/
theorem Agree.answers_iff [DecidableEq ν] (h : Agree s t rows) {answer : List ν} :
    s.Answers rows answer ↔ t.Answers rows answer :=
  ⟨h.answers, h.symm.answers⟩

/-- A line says which group it is of. -/
def TellsGroups (s : Select ρ κ ν) (rows : List ρ) : Prop :=
  ∀ key, s.key = some key → ∀ group other, group ⊆ rows → other ⊆ rows → s.line group = s.line other →
    ∀ r ∈ group, ∀ r' ∈ other, (∀ q ∈ group, key q = key r) → (∀ q ∈ other, key q = key r') → key r = key r'

/-- Lines that say which group they are of are distinct. -/
theorem TellsGroups.nodup {groups : List (List ρ)} (h : s.TellsGroups rows)
    (hgroups : s.IsGrouping (rows.filter s.passes) groups) : (groups.map s.line).Nodup := by
  have hsub : ∀ group ∈ groups, group ⊆ rows := fun group hgroup r hr =>
    List.mem_of_mem_filter (hgroups.subset hgroup hr)
  unfold IsGrouping at hgroups
  cases hkey : s.key with
  | none =>
    rw [hkey] at hgroups
    obtain rfl : groups = [rows.filter s.passes] := hgroups
    exact List.nodup_singleton _
  | some key =>
    rw [hkey] at hgroups
    have hgroups : Groups key (rows.filter s.passes) groups := hgroups
    refine List.pairwise_map.2 (hgroups.apart.imp_of_mem fun {group other} hgroup hother hapart hline => ?_)
    obtain ⟨r, hr⟩ := List.exists_mem_of_ne_nil group (hgroups.nonempty group hgroup)
    obtain ⟨r', hr'⟩ := List.exists_mem_of_ne_nil other (hgroups.nonempty other hother)
    refine hapart r hr r' hr' (h key hkey group other (hsub group hgroup) (hsub other hother) hline r hr r' hr' ?_ ?_)
    · exact fun q hq => hgroups.together group hgroup q hq r hr
    · exact fun q hq => hgroups.together other hother q hq r' hr'

/-- **A SELECT DISTINCT of such lines** is the SELECT. -/
theorem TellsGroups.answers_iff [DecidableEq ν] (h : s.TellsGroups rows) {answer : List ν} :
    s.Answers rows answer ↔ ({ s with distinct := false } : Select ρ κ ν).Answers rows answer := by
  have hlines (groups : List (List ρ)) (hgroups : s.IsGrouping (rows.filter s.passes) groups) :
      (if s.distinct then (groups.map s.line).dedup else groups.map s.line) = groups.map s.line := by
    rw [List.dedup_eq_self.2 (h.nodup hgroups), ite_self]
  constructor
  · rintro ⟨groups, hgroups, hsorted, rfl⟩
    exact ⟨groups, hgroups, hsorted, by rw [hlines groups hgroups]; rfl⟩
  · rintro ⟨groups, hgroups, hsorted, rfl⟩
    exact ⟨groups, hgroups, hsorted, by rw [hlines groups hgroups]; rfl⟩

end Select

end Grouped
