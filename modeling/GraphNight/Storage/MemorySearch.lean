import GraphNight.Lib.Page
import GraphNight.Lib.StableSort
import GraphNight.Storage.Postgres
import GraphNight.Storage.Yaml

/-!
# Searching memories

What a filter selects, and its page. YAML filters rows one by one and then cuts the page.
The SQL storages look for the entity anywhere in the JSON, cut the page there, and only
then look at the query.
-/

namespace GraphNight

namespace MemoryFilter

variable (toLowercase : String → String) (filter : MemoryFilter)

/-- The learning has the text of the query, in either case. -/
def queryMatches (m : Memory) : Bool :=
  filter.query.all fun q => Str.containsStr (toLowercase m.learning) (toLowercase q)

/-- The entity is linked. -/
def entityMatches (m : Memory) : Bool := filter.entity.all m.linkedEntities.contains

def selects (m : Memory) : Bool := filter.queryMatches toLowercase m && filter.entityMatches m

end MemoryFilter

/-- A store of some memories answers a filter with the page of the memories it selects. The
whole selection is what a page as long as the store shows. -/
def SearchesMemories {σ : Type} (b : Backend σ) (toLowercase : String → String) (s : σ) (ms : List Memory)
    (filter : MemoryFilter) : Prop :=
  ∃ selected, b.listMemories s { filter with limit := some ms.length, offset := none } = .ok selected ∧
    selected.Perm (ms.filter (filter.selects toLowercase)) ∧
    b.listMemories s filter = .ok (Page.window (filter.offset.getD 0) filter.limit selected)

/-! ## YAML -/

theorem YamlStorage.searchesMemories {toLowercase : String → String} {s : YamlStorage} {ms : List Memory}
    (h : s.memories.items.Perm ms) (filter : MemoryFilter) :
    SearchesMemories (backend toLowercase) toLowercase s ms filter := by
  have hselected : ((s.memories.items.filter (filter.queryMatches toLowercase)).filter filter.entityMatches) =
      s.memories.items.filter (filter.selects toLowercase) := by
    rw [List.filter_filter]
    exact List.filter_congr fun m _ => Bool.and_comm _ _
  have hlist : ∀ limit offset, s.listMemories toLowercase { filter with limit, offset } =
      .ok (Page.window (offset.getD 0) limit (s.memories.items.filter (filter.selects toLowercase))) := by
    intro limit offset
    rw [← hselected]
    cases limit <;> rfl
  have hwhole : Page.window 0 (some ms.length) (s.memories.items.filter (filter.selects toLowercase)) =
      s.memories.items.filter (filter.selects toLowercase) :=
    List.take_of_length_le (h.length_eq ▸ List.length_filter_le _ _)
  exact ⟨_, (hlist (some ms.length) none).trans (congrArg _ hwhole), h.filter _, hlist filter.limit filter.offset⟩

/-! ## A table of rows -/

/-- The memories whose JSON the rows of a table are. -/
structure MemoryRecords (json : Codec Memory) (table : KeyedList MemoryRow (·.id)) (record : MemoryRow → Memory) :
    Prop where
  id : ∀ row ∈ table.items, (record row).id = row.id
  written : ∀ row ∈ table.items, json.write (record row) = .ok row.data
  read : ∀ row ∈ table.items, json.read row.data = .ok (record row)

/-- The memories of a table, the newest first. -/
def recordsOf (table : KeyedList MemoryRow (·.id)) (record : MemoryRow → Memory) : List Memory :=
  (table.items.mergeSort fun a b => b.createdAt ≤ a.createdAt).map record

namespace MemoryRecords

variable {json : Codec Memory} {table : KeyedList MemoryRow (·.id)} {record : MemoryRow → Memory}

theorem ids (h : MemoryRecords json table record) : ((recordsOf table record).map (·.id)).Nodup := by
  have hread : table.items.map ((·.id) ∘ record) = table.items.map (·.id) := List.map_congr_left h.id
  have hids : ((recordsOf table record).map (·.id)).Perm (table.items.map (·.id)) := by
    have hperm : ((recordsOf table record).map (·.id)).Perm ((table.items.map record).map (·.id)) :=
      ((List.mergeSort_perm _ _).map record).map _
    rwa [List.map_map, hread] at hperm
  exact hids.nodup_iff.2 table.distinct

theorem nodup (h : MemoryRecords json table record) : (recordsOf table record).Nodup := List.Nodup.of_map _ h.ids

/-- The rows a statement selects, read, are the memories its condition selects. -/
theorem map_rows {p : MemoryRow → Bool} {matched : Memory → Bool}
    (hp : ∀ row ∈ table.items, p row = matched (record row)) :
    ((table.items.filter p).mergeSort fun a b => b.createdAt ≤ a.createdAt).map record =
      (recordsOf table record).filter matched := by
  rw [← StableSort.filter_mergeSort (by simp; omega) (by simp; omega), recordsOf, List.filter_map]
  refine congrArg _ (List.filter_congr fun row hrow => ?_)
  exact hp row (List.mem_mergeSort.1 hrow)

/-- Rows of the table are read back. -/
theorem mapM_read (h : MemoryRecords json table record) {rows : List MemoryRow} (hrows : ∀ row ∈ rows, row ∈ table.items) :
    (rows.mapM fun row => json.read row.data) = .ok (rows.map record) := by
  induction rows with
  | nil => rfl
  | cons row rows ih =>
    rw [List.mapM_cons, h.read row (hrows row List.mem_cons_self), ih fun r hr => hrows r (List.mem_cons_of_mem _ hr)]
    rfl

end MemoryRecords

/-! ## Paging before the query is looked at -/

/-- What makes a SQL storage search right: on the memories the query matches, its statement
selects the linked ones, and the rows it does not match cut no page short. -/
structure MemoryFilter.SearchedRight (toLowercase : String → String) (filter : MemoryFilter) (records : List Memory)
    (matched : Memory → Bool) (size : Nat) : Prop where
  entity : ∀ m ∈ records, filter.queryMatches toLowercase m → matched m = filter.entityMatches m
  cut : Page.CutsAfter (filter.queryMatches toLowercase) filter.limit
    ((records.filter matched).take (filter.offset.getD 0))
    (Page.page (filter.offset.getD 0) size (records.filter matched))
    ((records.filter matched).drop (filter.offset.getD 0 + size))

/-- Two selections are the same where they agree on each row. -/
theorem filter_perm_iff {α : Type} {l : List α} {p p' : α → Bool} :
    (l.filter p).Perm (l.filter p') ↔ ∀ a ∈ l, p a = p' a := by
  constructor
  · intro h a ha
    have hmem := h.mem_iff (a := a)
    rw [List.mem_filter, List.mem_filter] at hmem
    exact Bool.eq_iff_iff.2 ⟨fun hp => (hmem.1 ⟨ha, hp⟩).2, fun hp => (hmem.2 ⟨ha, hp⟩).2⟩
  · intro h
    rw [List.filter_congr h]

section Sql

variable {σ : Type} {b : Backend σ} {toLowercase : String → String} {s : σ} {ms records : List Memory}
  {filter : MemoryFilter} {matched : Memory → Bool} {size : Nat}

/-- A storage that cuts the page of what its statement matches, where it answers. -/
theorem searchesMemories_iff {whole paged : Prop} (hnodup : records.Nodup) (hperm : records.Perm ms)
    (hsize : ∀ l ∈ filter.limit, size = l)
    (hwhole : whole → b.listMemories s { filter with limit := some ms.length, offset := none } =
      .ok ((Page.page 0 ms.length (records.filter matched)).filter (filter.queryMatches toLowercase)))
    (hwhole' : ¬whole → ∃ e, b.listMemories s { filter with limit := some ms.length, offset := none } = .error e)
    (hpaged : paged → b.listMemories s filter =
      .ok ((Page.page (filter.offset.getD 0) size (records.filter matched)).filter (filter.queryMatches toLowercase)))
    (hpaged' : ¬paged → ∃ e, b.listMemories s filter = .error e) :
    SearchesMemories b toLowercase s ms filter ↔
      whole ∧ paged ∧ filter.SearchedRight toLowercase records matched size := by
  have hall : (Page.page 0 ms.length (records.filter matched)).filter (filter.queryMatches toLowercase) =
      (records.filter matched).filter (filter.queryMatches toLowercase) := by
    rw [Page.page, List.drop_zero, List.take_of_length_le (hperm.length_eq ▸ List.length_filter_le _ _)]
  have hselected : ((records.filter matched).filter (filter.queryMatches toLowercase)).Perm
      (ms.filter (filter.selects toLowercase)) ↔
        ∀ m ∈ records, filter.queryMatches toLowercase m → matched m = filter.entityMatches m := by
    rw [List.filter_filter, ← (hperm.filter _).congr_right, filter_perm_iff]
    refine forall₂_congr fun m _ => ?_
    rw [MemoryFilter.selects]
    cases filter.queryMatches toLowercase m <;> simp
  have hcut := @Page.filter_page_iff _ (filter.queryMatches toLowercase) (filter.offset.getD 0) size filter.limit _
    (hnodup.filter matched) hsize
  constructor
  · rintro ⟨selected, hsel, hmatch, hpage⟩
    have hw : whole := by
      by_contra hno
      obtain ⟨e, he⟩ := hwhole' hno
      rw [he] at hsel
      cases hsel
    have hp : paged := by
      by_contra hno
      obtain ⟨e, he⟩ := hpaged' hno
      rw [he] at hpage
      cases hpage
    rw [hwhole hw, hall] at hsel
    obtain rfl := Except.ok.inj hsel
    rw [hpaged hp] at hpage
    exact ⟨hw, hp, hselected.1 hmatch, hcut.1 (Except.ok.inj hpage)⟩
  · rintro ⟨hw, hp, hright⟩
    refine ⟨_, (hwhole hw).trans (congrArg _ hall), hselected.2 hright.entity, ?_⟩
    rw [hpaged hp, hcut.2 hright.cut]

end Sql

namespace SqliteStorage

variable {json : RecordJson} {toLowercase : String → String} {s : SqliteStorage} {record : MemoryRow → Memory}
  {filter : MemoryFilter}

/-- The JSON of a memory has the entity, as `LIKE` sees it. -/
def likesEntity (json : RecordJson) (filter : MemoryFilter) (m : Memory) : Bool :=
  filter.entity.all fun entity =>
    match json.memory.write m with
    | .ok data => likes ("%" ++ entity ++ "%") data
    | .error _ => false

/-- The entity is not too long for a pattern. -/
def ShortEntity (filter : MemoryFilter) : Prop := ∀ entity ∈ filter.entity, ("%" ++ entity ++ "%").utf8ByteSize ≤ 50000

/-- The statement is one, and its counts fit. -/
def ValidWindow (limit offset : Option Nat) : Prop :=
  (limit = none → offset = none) ∧ (∀ l ∈ limit, l < 2 ^ 63) ∧ ∀ o ∈ offset, o < 2 ^ 63

theorem checkWindow_eq (limit offset : Option Nat) :
    (ValidWindow limit offset ∧ checkWindow limit offset = .ok ()) ∨
      (¬ValidWindow limit offset ∧ ∃ e, checkWindow limit offset = .error e) := by
  unfold checkWindow
  split_ifs with hsyntax hcount
  · refine .inr ⟨fun h => ?_, _, rfl⟩
    rw [h.1 hsyntax.1] at hsyntax
    cases hsyntax.2
  · refine .inr ⟨fun h => ?_, _, rfl⟩
    simp only [Option.any_eq_true, decide_eq_true_eq] at hcount
    rcases hcount with ⟨l, hl, hle⟩ | ⟨o, ho, hle⟩
    · have hlt := h.2.1 l hl
      omega
    · have hlt := h.2.2 o ho
      omega
  · refine .inl ⟨⟨fun hl => ?_, fun l hl => ?_, fun o ho => ?_⟩, rfl⟩
    · cases offset with
      | none => rfl
      | some o => exact absurd ⟨hl, rfl⟩ hsyntax
    · by_contra hle
      exact hcount (.inl ((Option.any_eq_true _ _).2 ⟨l, hl, by simpa using hle⟩))
    · by_contra hle
      exact hcount (.inr ((Option.any_eq_true _ _).2 ⟨o, ho, by simpa using hle⟩))

/-- Rows with the entity, of rows that can be looked at. -/
theorem whereEntity_eq {rows : List MemoryRow} (h : ShortEntity filter ∨ rows = []) :
    whereEntity filter.entity rows =
      .ok (rows.filter fun row => filter.entity.all fun entity => likes ("%" ++ entity ++ "%") row.data) := by
  rcases h with h | rfl
  · cases hentity : filter.entity with
    | none => simp [whereEntity]
    | some entity =>
      have hmarked : (rows.mapM fun row => do return (row, ← like ("%" ++ entity ++ "%") row.data)) =
          .ok (rows.map fun row => (row, likes ("%" ++ entity ++ "%") row.data)) := by
        refine Res.mapM_pure fun row _ => ?_
        rw [like, if_neg (Nat.not_lt.2 (h entity hentity))]
        rfl
      simp only [whereEntity, hmarked]
      simp [bind, Except.bind, pure, Except.pure, List.filter_map, Function.comp_def]
  · cases filter.entity <;> rfl

/-- An entity that is too long fails at the first row. -/
theorem whereEntity_error {rows : List MemoryRow} (h : ¬(ShortEntity filter ∨ rows = [])) :
    ∃ e, whereEntity filter.entity rows = .error e := by
  simp only [ShortEntity, not_or, not_forall, Nat.not_le] at h
  obtain ⟨⟨entity, hentity, hlong⟩, hrows⟩ := h
  obtain ⟨row, rest, rfl⟩ := List.exists_cons_of_ne_nil hrows
  have hrejected : whereEntity filter.entity (row :: rest) = rejected 1 "LIKE or GLOB pattern too complex" := by
    rw [hentity, whereEntity, List.mapM_cons, like, if_pos hlong]
    rfl
  exact ⟨_, hrejected⟩

/-- The rows the statement yields. -/
theorem memoryRows_eq (hwindow : ValidWindow filter.limit filter.offset)
    (hshort : ShortEntity filter ∨ s.memories.items = [] ∨ filter.limit = some 0) :
    s.memoryRows filter = .ok (Page.window (filter.offset.getD 0) filter.limit
      ((s.memories.items.filter fun row => filter.entity.all fun entity => likes ("%" ++ entity ++ "%") row.data).mergeSort
        fun a b => b.createdAt ≤ a.createdAt)) := by
  have hcheck : checkWindow filter.limit filter.offset = .ok () := by
    obtain ⟨-, hok⟩ | ⟨hno, -⟩ := checkWindow_eq filter.limit filter.offset
    · exact hok
    · exact absurd hwindow hno
  rw [memoryRows, hcheck, whereEntity_eq (by split_ifs <;> tauto)]
  cases hlimit : filter.limit with
  | none => rfl
  | some l =>
    cases l with
    | zero => rw [Page.window_eq_nil_iff.2 (.inl rfl)]; rfl
    | succ l => rfl

theorem memoryRows_error (h : ¬(ValidWindow filter.limit filter.offset ∧
    (ShortEntity filter ∨ s.memories.items = [] ∨ filter.limit = some 0))) : ∃ e, s.memoryRows filter = .error e := by
  obtain ⟨hwindow, hok⟩ | ⟨-, e, he⟩ := checkWindow_eq filter.limit filter.offset
  · have hlong : ¬(ShortEntity filter ∨ (if filter.limit = some 0 then [] else s.memories.items) = []) := by
      split_ifs <;> tauto
    obtain ⟨e, he⟩ := whereEntity_error hlong
    exact ⟨e, by rw [memoryRows, hok, he]; rfl⟩
  · exact ⟨e, by rw [memoryRows, he]; rfl⟩

/-- What SQLite needs to answer a filter as it should. -/
structure SearchRight (json : RecordJson) (toLowercase : String → String) (filter : MemoryFilter) (records : List Memory) :
    Prop where
  count : records.length < 2 ^ 63
  window : ValidWindow filter.limit filter.offset
  short : ShortEntity filter ∨ records = []
  right : filter.SearchedRight toLowercase records (likesEntity json filter) (filter.limit.getD records.length)

theorem listMemories_eq (hanswers : s.sqlError = none) (hrecords : MemoryRecords json.memory s.memories record)
    (hwindow : ValidWindow filter.limit filter.offset)
    (hshort : ShortEntity filter ∨ s.memories.items = [] ∨ filter.limit = some 0) :
    s.listMemories json toLowercase filter = .ok ((Page.window (filter.offset.getD 0) filter.limit
      ((recordsOf s.memories record).filter (likesEntity json filter))).filter (filter.queryMatches toLowercase)) := by
  have hmatched : ∀ row ∈ s.memories.items,
      (filter.entity.all fun entity => likes ("%" ++ entity ++ "%") row.data) = likesEntity json filter (record row) := by
    intro row hrow
    rw [likesEntity, hrecords.written row hrow]
  have hrows := memoryRows_eq hwindow hshort
  have hmem : ∀ row ∈ Page.window (filter.offset.getD 0) filter.limit
      ((s.memories.items.filter fun row => filter.entity.all fun entity => likes ("%" ++ entity ++ "%") row.data).mergeSort
        fun a b => b.createdAt ≤ a.createdAt), row ∈ s.memories.items := fun row hrow =>
    List.mem_of_mem_filter (List.mem_mergeSort.1 ((Page.window_sublist _ _ _).subset hrow))
  have hread := hrecords.mapM_read hmem
  rw [listMemories, query, hanswers, hrows]
  simp only [bind, Except.bind, hread, pure, Except.pure]
  rw [Page.map_window, MemoryRecords.map_rows hmatched]
  rfl

theorem listMemories_error (hanswers : s.sqlError = none) (h : ¬(ValidWindow filter.limit filter.offset ∧
    (ShortEntity filter ∨ s.memories.items = [] ∨ filter.limit = some 0))) :
    ∃ e, s.listMemories json toLowercase filter = .error e := by
  obtain ⟨e, he⟩ := memoryRows_error h
  exact ⟨e, by rw [listMemories, query, hanswers, he]; rfl⟩

/-- Where SQLite answers a filter as it should. -/
theorem searchesMemories_iff {ms : List Memory} (hanswers : s.sqlError = none)
    (hrecords : MemoryRecords json.memory s.memories record) (hperm : (recordsOf s.memories record).Perm ms) :
    SearchesMemories (backend json toLowercase) toLowercase s ms filter ↔
      SearchRight json toLowercase filter (recordsOf s.memories record) := by
  have hempty : s.memories.items = [] ↔ recordsOf s.memories record = [] := by
    rw [← List.length_eq_zero_iff, ← List.length_eq_zero_iff, recordsOf, List.length_map, List.length_mergeSort]
  have hzero : ms.length = 0 ↔ s.memories.items = [] := by
    rw [hempty, ← hperm.length_eq, List.length_eq_zero_iff]
  have hiff := @GraphNight.searchesMemories_iff _ (backend json toLowercase) toLowercase s ms (recordsOf s.memories record)
    filter (likesEntity json filter) (filter.limit.getD (recordsOf s.memories record).length)
    (ms.length < 2 ^ 63 ∧ (ShortEntity filter ∨ s.memories.items = []))
    (ValidWindow filter.limit filter.offset ∧ (ShortEntity filter ∨ s.memories.items = [] ∨ filter.limit = some 0))
    hrecords.nodup hperm (fun l hl => by rw [hl]; rfl) ?_ ?_ ?_ (listMemories_error hanswers)
  · rw [hiff, hempty, hperm.length_eq]
    constructor
    · rintro ⟨⟨hcount, hshort⟩, ⟨hwindow, -⟩, hright⟩
      exact ⟨hperm.length_eq ▸ hcount, hwindow, hshort, hperm.length_eq ▸ hright⟩
    · rintro ⟨hcount, hwindow, hshort, hright⟩
      exact ⟨⟨hperm.length_eq ▸ hcount, hshort⟩, ⟨hwindow, hshort.imp_right .inl⟩, hperm.length_eq ▸ hright⟩
  · rintro ⟨hcount, hshort⟩
    exact @listMemories_eq _ _ _ _ { filter with limit := some ms.length, offset := none } hanswers hrecords
      ⟨nofun, fun l hl => by cases hl; exact hcount, nofun⟩ (hshort.imp_right .inl)
  · intro h
    refine @listMemories_error _ _ _ { filter with limit := some ms.length, offset := none } hanswers ?_
    rintro ⟨⟨-, hcount, -⟩, hshort⟩
    refine h ⟨hcount _ rfl, hshort.imp_right ?_⟩
    rintro (hnil | hlimit)
    · exact hnil
    · exact hzero.1 (Option.some.inj hlimit)
  · rintro ⟨hwindow, hshort⟩
    refine (listMemories_eq hanswers hrecords hwindow hshort).trans ?_
    cases hlimit : filter.limit with
    | some l => rfl
    | none =>
      -- without a limit there is no offset, and the page is all there is
      rw [hwindow.1 hlimit]
      refine congrArg (fun l => Except.ok (List.filter _ l)) ?_
      exact (List.take_of_length_le (List.length_filter_le _ _)).symm

end SqliteStorage

namespace PostgresMetadataStorage

variable {json : RecordJson} {locale : PostgresLocale} {toLowercase : String → String} {s : PostgresMetadataStorage}
  {record : MemoryRow → Memory} {filter : MemoryFilter}

/-- The JSON of a memory has the entity, as `ILIKE` sees it. -/
def ilikesEntity (json : RecordJson) (locale : PostgresLocale) (filter : MemoryFilter) (m : Memory) : Bool :=
  filter.entity.all fun entity =>
    match json.memory.write m with
    | .ok data => ilike locale ("%" ++ entity ++ "%") data
    | .error _ => false

/-- The counts fit, and the entity is a text of the database. -/
structure ValidStatement (filter : MemoryFilter) : Prop where
  limit : ∀ l ∈ filter.limit, l < 2 ^ 63
  offset : ∀ o ∈ filter.offset, o < 2 ^ 63
  entity : ∀ entity ∈ filter.entity, '\x00' ∉ entity.toList

/-- What Postgres needs to answer a filter as it should. -/
structure SearchRight (json : RecordJson) (locale : PostgresLocale) (toLowercase : String → String)
    (filter : MemoryFilter) (records : List Memory) : Prop where
  count : records.length < 2 ^ 63
  valid : ValidStatement filter
  right : filter.SearchedRight toLowercase records (ilikesEntity json locale filter) (filter.limit.getD 1000)

/-- A count that is given, or one that fits. -/
theorem getD_lt {n : Option Nat} {d : Nat} (hd : d < 2 ^ 63) : n.getD d < 2 ^ 63 ↔ ∀ k ∈ n, k < 2 ^ 63 := by
  cases n with
  | none => exact ⟨fun _ => nofun, fun _ => hd⟩
  | some k => exact ⟨fun h _ hk => Option.some.inj hk ▸ h, fun h => h k rfl⟩

theorem nul_iff (filter : MemoryFilter) : filter.entity.toList.any (·.toList.contains '\x00') = false ↔
    ∀ entity ∈ filter.entity, '\x00' ∉ entity.toList := by
  cases filter.entity <;> simp

theorem asI64_of_lt {n : Nat} (what : String) (h : n < 2 ^ 63) : asI64 what n = .ok n := if_pos h

theorem asI64_error {n : Nat} (what : String) (h : ¬n < 2 ^ 63) : ∃ e, asI64 what n = .error e := ⟨_, if_neg h⟩

theorem listMemories_eq (hanswers : s.sqlError = none) (hrecords : MemoryRecords json.memory s.memories record)
    (hvalid : ValidStatement filter) :
    s.listMemories json locale toLowercase filter = .ok ((Page.page (filter.offset.getD 0) (filter.limit.getD 1000)
      ((recordsOf s.memories record).filter (ilikesEntity json locale filter))).filter
        (filter.queryMatches toLowercase)) := by
  have hmatched : ∀ row ∈ s.memories.items, (filter.entity.all fun entity =>
      ilike locale ("%" ++ entity ++ "%") row.data) = ilikesEntity json locale filter (record row) := by
    intro row hrow
    rw [ilikesEntity, hrecords.written row hrow]
  have hmem : ∀ row ∈ Page.page (filter.offset.getD 0) (filter.limit.getD 1000)
      ((s.memories.items.filter fun row => filter.entity.all fun entity =>
        ilike locale ("%" ++ entity ++ "%") row.data).mergeSort fun a b => b.createdAt ≤ a.createdAt),
      row ∈ s.memories.items := fun row hrow =>
    List.mem_of_mem_filter (List.mem_mergeSort.1 (List.mem_of_mem_drop (List.mem_of_mem_take hrow)))
  have hrows : s.memoryRows locale filter = .ok (Page.page (filter.offset.getD 0) (filter.limit.getD 1000)
      ((s.memories.items.filter fun row => filter.entity.all fun entity =>
        ilike locale ("%" ++ entity ++ "%") row.data).mergeSort fun a b => b.createdAt ≤ a.createdAt)) := by
    rw [memoryRows, asI64_of_lt _ ((getD_lt (by omega)).2 hvalid.offset), asI64_of_lt _ ((getD_lt (by omega)).2 hvalid.limit)]
    rfl
  have hread := hrecords.mapM_read hmem
  rw [listMemories, query, hanswers, hrows]
  simp only [(nul_iff filter).2 hvalid.entity, Bool.false_eq_true, if_false, bind, Except.bind, hread, pure, Except.pure]
  rw [Page.page, List.map_take, List.map_drop, MemoryRecords.map_rows hmatched]
  rfl

theorem listMemories_error (hanswers : s.sqlError = none) (h : ¬ValidStatement filter) :
    ∃ e, s.listMemories json locale toLowercase filter = .error e := by
  have hrows : (∀ entity ∈ filter.entity, '\x00' ∉ entity.toList) → ∃ e, s.memoryRows locale filter = .error e := by
    intro hentity
    by_cases hoffset : filter.offset.getD 0 < 2 ^ 63
    · have hlimit : ¬filter.limit.getD 1000 < 2 ^ 63 := fun hlimit =>
        h ⟨(getD_lt (by omega)).1 hlimit, (getD_lt (by omega)).1 hoffset, hentity⟩
      obtain ⟨e, he⟩ := asI64_error "LIMIT" hlimit
      exact ⟨e, by rw [memoryRows, asI64_of_lt _ hoffset, he]; rfl⟩
    · obtain ⟨e, he⟩ := asI64_error "OFFSET" hoffset
      exact ⟨e, by rw [memoryRows, he]; rfl⟩
  rw [listMemories, query, hanswers]
  by_cases hentity : ∀ entity ∈ filter.entity, '\x00' ∉ entity.toList
  · obtain ⟨e, he⟩ := hrows hentity
    simp only [(nul_iff filter).2 hentity, he]
    exact ⟨e, rfl⟩
  · have hnul : filter.entity.toList.any (·.toList.contains '\x00') = true := by
      rw [← Bool.not_eq_false]
      exact fun hno => hentity ((nul_iff filter).1 hno)
    simp only [hnul]
    exact ⟨_, rfl⟩

/-- Where Postgres answers a filter as it should. -/
theorem searchesMemories_iff {ms : List Memory} (hanswers : s.sqlError = none)
    (hrecords : MemoryRecords json.memory s.memories record) (hperm : (recordsOf s.memories record).Perm ms) :
    SearchesMemories (backend json locale toLowercase) toLowercase s ms filter ↔
      SearchRight json locale toLowercase filter (recordsOf s.memories record) := by
  have hiff := @GraphNight.searchesMemories_iff _ (backend json locale toLowercase) toLowercase s ms
    (recordsOf s.memories record) filter (ilikesEntity json locale filter) (filter.limit.getD 1000)
    (ms.length < 2 ^ 63 ∧ ∀ entity ∈ filter.entity, '\x00' ∉ entity.toList) (ValidStatement filter) hrecords.nodup hperm
    (fun l hl => by rw [hl]; rfl) ?_ ?_ (listMemories_eq hanswers hrecords) (listMemories_error hanswers)
  · rw [hiff]
    constructor
    · rintro ⟨⟨hcount, -⟩, hvalid, hright⟩
      exact ⟨hperm.length_eq ▸ hcount, hvalid, hright⟩
    · rintro ⟨hcount, hvalid, hright⟩
      exact ⟨⟨hperm.length_eq ▸ hcount, hvalid.entity⟩, hvalid, hright⟩
  · rintro ⟨hcount, hentity⟩
    exact @listMemories_eq _ _ _ _ _ { filter with limit := some ms.length, offset := none } hanswers hrecords
      ⟨fun l hl => by cases hl; exact hcount, nofun, hentity⟩
  · intro h
    refine @listMemories_error _ _ _ _ { filter with limit := some ms.length, offset := none } hanswers ?_
    rintro ⟨hcount, -, hentity⟩
    exact h ⟨hcount _ rfl, hentity⟩

end PostgresMetadataStorage

/-! ## The three together -/

/-- **Searching memories alike**: YAML answers every filter as it should. SQLite and Postgres
do where the entity's text is in the JSON of the linked memories only, of those the query
matches, and where the rows it does not match take no room in the page. -/
theorem memorySearch_iff {json jsonb : RecordJson} {locale : PostgresLocale} {toLowercase : String → String}
    {yaml : YamlStorage} {sqlite : SqliteStorage} {postgres : PostgresMetadataStorage} {ms : List Memory}
    {record record' : MemoryRow → Memory} (hyaml : yaml.memories.items.Perm ms)
    (hsqlite : sqlite.sqlError = none) (hrecords : MemoryRecords json.memory sqlite.memories record)
    (hperm : (recordsOf sqlite.memories record).Perm ms)
    (hpostgres : postgres.sqlError = none) (hrecords' : MemoryRecords jsonb.memory postgres.memories record')
    (hperm' : (recordsOf postgres.memories record').Perm ms) (filter : MemoryFilter) :
    (SearchesMemories (YamlStorage.backend toLowercase) toLowercase yaml ms filter ∧
        SearchesMemories (SqliteStorage.backend json toLowercase) toLowercase sqlite ms filter ∧
        SearchesMemories (PostgresMetadataStorage.backend jsonb locale toLowercase) toLowercase postgres ms filter) ↔
      SqliteStorage.SearchRight json toLowercase filter (recordsOf sqlite.memories record) ∧
        PostgresMetadataStorage.SearchRight jsonb locale toLowercase filter (recordsOf postgres.memories record') := by
  rw [SqliteStorage.searchesMemories_iff hsqlite hrecords hperm,
    PostgresMetadataStorage.searchesMemories_iff hpostgres hrecords' hperm']
  exact ⟨fun h => h.2, fun h => ⟨YamlStorage.searchesMemories hyaml filter, h⟩⟩

namespace TwoMemories

def euros : Memory := ⟨"m1", "Amounts are in euros", ["orders"], none, 1704067200, 1704067200, .empty⟩

def items : Memory := ⟨"m2", "One row per item", ["reorders"], none, 1704153600, 1704153600, .empty⟩

/-- What `serde_json` writes. -/
def text (id learning entity day : String) : String :=
  String.join ["\x7b\"id\":\"", id, "\",\"learning\":\"", learning, "\",\"linked_entities\":[\"", entity,
    "\"],\"description\":null", ",\"created_at\":\"", day, "T00:00:00Z\",\"updated_at\":\"", day,
    "T00:00:00Z\",\"meta\":\x7b\x7d\x7d"]

/-- And what Postgres prints of it. -/
def printed (id learning entity day : String) : String :=
  String.join ["\x7b\"id\": \"", id, "\", \"meta\": \x7b\x7d, \"learning\": \"", learning, "\", \"created_at\": \"", day,
    "T00:00:00Z\", \"updated_at\": \"", day, "T00:00:00Z\", \"description\": ", "null, \"linked_entities\": [\"", entity,
    "\"]\x7d"]

section Written

variable (spell : String → String → String → String → String)

/-- The JSON of the two memories. -/
def first : String := spell "m1" "Amounts are in euros" "orders" "2024-01-01"

def second : String := spell "m2" "One row per item" "reorders" "2024-01-02"

def codec : RecordJson where
  model := ⟨fun _ => Res.fail "unknown", fun _ => Res.fail "EOF"⟩
  dataSource := ⟨fun _ => Res.fail "unknown", fun _ => Res.fail "EOF"⟩
  memory :=
    ⟨fun m => if m.id = "m1" then .ok (first spell) else if m.id = "m2" then .ok (second spell) else Res.fail "unknown",
      fun t => if t = first spell then .ok euros else if t = second spell then .ok items else Res.fail "EOF"⟩

def table : KeyedList MemoryRow (·.id) := .ofList [⟨"m2", second spell, 1704153600⟩, ⟨"m1", first spell, 1704067200⟩]

end Written

/-- The database of English and ASCII. -/
def locale : PostgresLocale := ⟨fun a b => a ≤ b, fun a b => a.toLower == b.toLower⟩

def record (row : MemoryRow) : Memory := if row.id = "m1" then euros else items

def yaml : YamlStorage := { memories := .ofList [euros, items] }

def sqlite : SqliteStorage := { memories := table text }

def postgres : PostgresMetadataStorage := { memories := table printed }

/-- The ids of what is listed. -/
def ids (r : Res String (List Memory)) : Res String (List String) := r.map (·.map (·.id))

variable {spell : String → String → String → String → String}

theorem items_table (spell : String → String → String → String → String) :
    (table spell).items = [⟨"m2", second spell, 1704153600⟩, ⟨"m1", first spell, 1704067200⟩] :=
  KeyedList.items_ofList (show ["m2", "m1"].Nodup by decide)

theorem recordsOf_table (spell : String → String → String → String → String) :
    recordsOf (table spell) record = [items, euros] := by
  rw [recordsOf, items_table, List.mergeSort_of_pairwise (by simp)]
  rfl

theorem records_table (hne : second spell ≠ first spell) : MemoryRecords (codec spell).memory (table spell) record := by
  have hrows : ∀ row ∈ (table spell).items,
      row = ⟨"m2", second spell, 1704153600⟩ ∨ row = ⟨"m1", first spell, 1704067200⟩ := by
    intro row hrow
    simpa [items_table] using hrow
  refine ⟨fun row hrow => ?_, fun row hrow => ?_, fun row hrow => ?_⟩
  · rcases hrows row hrow with rfl | rfl <;> rfl
  · rcases hrows row hrow with rfl | rfl <;> rfl
  · rcases hrows row hrow with rfl | rfl
    · exact (if_neg hne).trans (if_pos rfl)
    · exact if_pos rfl

theorem write_items : (codec spell).memory.write items = .ok (second spell) := rfl

theorem write_euros : (codec spell).memory.write euros = .ok (first spell) := rfl

theorem likes_orders :
    SqliteStorage.likes ("%" ++ "orders" ++ "%") (second text) = true ∧
      SqliteStorage.likes ("%" ++ "orders" ++ "%") (first text) = true := by
  rw [first, second, SqliteStorage.likes, SqliteStorage.likes, text, text, String.toList_join,
    String.toList_join]
  decide +kernel

theorem ilikes_orders :
    PostgresMetadataStorage.ilike locale ("%" ++ "orders" ++ "%") (second printed) = true ∧
      PostgresMetadataStorage.ilike locale ("%" ++ "orders" ++ "%") (first printed) = true := by
  rw [first, second, PostgresMetadataStorage.ilike, PostgresMetadataStorage.ilike, printed, printed, String.toList_join,
    String.toList_join]
  decide +kernel

theorem second_ne_first : second text ≠ first text ∧ second printed ≠ first printed := by
  rw [first, second, first, second, text, text, printed, printed]
  decide +kernel

/-- What the statements select without an entity, and with the one whose name both have. -/
theorem matched_items_euros {filter : MemoryFilter} (h : ∀ entity ∈ filter.entity, entity = "orders") :
    [items, euros].filter (SqliteStorage.likesEntity (codec text) filter) = [items, euros] ∧
      [items, euros].filter (PostgresMetadataStorage.ilikesEntity (codec printed) locale filter) = [items, euros] := by
  rw [List.filter_eq_self, List.filter_eq_self]
  simp only [List.mem_cons, List.not_mem_nil, or_false, forall_eq_or_imp, forall_eq]
  cases hentity : filter.entity with
  | none =>
    unfold SqliteStorage.likesEntity PostgresMetadataStorage.ilikesEntity
    rw [hentity]
    exact ⟨⟨rfl, rfl⟩, rfl, rfl⟩
  | some entity =>
    obtain rfl := h entity hentity
    unfold SqliteStorage.likesEntity PostgresMetadataStorage.ilikesEntity
    rw [hentity, Option.all_some, Option.all_some, Option.all_some, Option.all_some, write_items, write_euros,
      write_items, write_euros]
    exact ⟨likes_orders, ilikes_orders⟩

end TwoMemories

open TwoMemories in
/-- Both rows have the name in their JSON, but only one of them is about euros. -/
theorem memorySearch_iff_euros :
    let filter : MemoryFilter := { query := some "euros", entity := some "orders", limit := some 2 }
    SearchesMemories (YamlStorage.backend Str.toAsciiLowercase) Str.toAsciiLowercase yaml [items, euros] filter ∧
      SearchesMemories (SqliteStorage.backend (codec text) Str.toAsciiLowercase) Str.toAsciiLowercase sqlite
        [items, euros] filter ∧
      SearchesMemories (PostgresMetadataStorage.backend (codec printed) locale Str.toAsciiLowercase) Str.toAsciiLowercase
        postgres [items, euros] filter := by
  intro filter
  have hsqlite : recordsOf sqlite.memories record = [items, euros] := recordsOf_table text
  have hpostgres : recordsOf postgres.memories record = [items, euros] := recordsOf_table printed
  obtain ⟨hlike, hilike⟩ := @matched_items_euros filter fun _ h => (Option.some.inj h).symm
  have hquery : filter.queryMatches Str.toAsciiLowercase items = false ∧
      filter.queryMatches Str.toAsciiLowercase euros = true := by decide +kernel
  have hright : ∀ matched size, [items, euros].filter matched = [items, euros] → 2 ≤ size →
      filter.SearchedRight Str.toAsciiLowercase [items, euros] matched size := by
    intro matched size hmatched hsize
    have heuros : matched euros = true := (List.filter_eq_self.1 hmatched) euros (by simp)
    refine ⟨?_, ?_⟩
    · simp only [List.mem_cons, List.not_mem_nil, or_false, forall_eq_or_imp, forall_eq]
      rw [hquery.1, heuros]
      exact ⟨nofun, fun _ => by decide +kernel⟩
    · rw [hmatched]
      refine .inr ⟨rfl, .inr ?_⟩
      rw [List.drop_of_length_le (show 2 ≤ 0 + size by omega)]
      rfl
  refine (memorySearch_iff (List.Perm.swap items euros []) rfl (records_table second_ne_first.1)
    (hsqlite ▸ List.Perm.refl _) rfl (records_table second_ne_first.2) (hpostgres ▸ List.Perm.refl _) filter).2 ⟨?_, ?_⟩
  · rw [hsqlite]
    exact ⟨by simp, ⟨nofun, by simp [filter], nofun⟩, .inl fun entity h => by cases h; decide +kernel,
      hright _ _ hlike (Nat.le_refl _)⟩
  · rw [hpostgres]
    exact ⟨by simp, ⟨by simp [filter], nofun, by simp [filter]⟩, hright _ _ hilike (Nat.le_refl _)⟩

open TwoMemories in
/-- The name of an entity finds what is linked to a longer name on the SQL storages, and a
row that the query does not match takes the place of the one it does. -/
theorem memory_search_differs :
    let yamlBackend := YamlStorage.backend Str.toAsciiLowercase
    let sqliteBackend := SqliteStorage.backend (codec text) Str.toAsciiLowercase
    let postgresBackend := PostgresMetadataStorage.backend (codec printed) locale Str.toAsciiLowercase
    let linked : MemoryFilter := { entity := some "orders" }
    let newest : MemoryFilter := { query := some "euros", limit := some 1 }
    (ids (yamlBackend.listMemories yaml linked) = .ok ["m1"] ∧
        ids (sqliteBackend.listMemories sqlite linked) = .ok ["m2", "m1"] ∧
        ids (postgresBackend.listMemories postgres linked) = .ok ["m2", "m1"]) ∧
      (ids (yamlBackend.listMemories yaml newest) = .ok ["m1"] ∧
        ids (sqliteBackend.listMemories sqlite newest) = .ok [] ∧
        ids (postgresBackend.listMemories postgres newest) = .ok []) ∧
      ¬(SearchesMemories yamlBackend Str.toAsciiLowercase yaml [items, euros] linked ∧
        SearchesMemories sqliteBackend Str.toAsciiLowercase sqlite [items, euros] linked ∧
        SearchesMemories postgresBackend Str.toAsciiLowercase postgres [items, euros] linked) := by
  intro yamlBackend sqliteBackend postgresBackend linked newest
  have hsqlite : ∀ filter : MemoryFilter, SqliteStorage.ValidWindow filter.limit filter.offset →
      (∀ entity ∈ filter.entity, entity = "orders") → ids (sqliteBackend.listMemories sqlite filter) =
        .ok (((Page.window (filter.offset.getD 0) filter.limit [items, euros]).filter
          (filter.queryMatches Str.toAsciiLowercase)).map (·.id)) := by
    intro filter hwindow hentity
    have hshort : SqliteStorage.ShortEntity filter := fun entity h => by
      rw [hentity entity h]
      decide +kernel
    rw [← (matched_items_euros hentity).1, ← recordsOf_table text]
    exact congrArg ids (SqliteStorage.listMemories_eq rfl (records_table second_ne_first.1) hwindow (.inl hshort))
  have hpostgres : ∀ filter : MemoryFilter, PostgresMetadataStorage.ValidStatement filter →
      (∀ entity ∈ filter.entity, entity = "orders") → ids (postgresBackend.listMemories postgres filter) =
        .ok (((Page.page (filter.offset.getD 0) (filter.limit.getD 1000) [items, euros]).filter
          (filter.queryMatches Str.toAsciiLowercase)).map (·.id)) := by
    intro filter hvalid hentity
    rw [← (matched_items_euros hentity).2, ← recordsOf_table printed]
    exact congrArg ids (PostgresMetadataStorage.listMemories_eq rfl (records_table second_ne_first.2) hvalid)
  have hlinked : ids (sqliteBackend.listMemories sqlite linked) = .ok ["m2", "m1"] :=
    hsqlite linked ⟨fun _ => rfl, nofun, nofun⟩ fun _ h => (Option.some.inj h).symm
  refine ⟨⟨by decide +kernel, hlinked, ?_⟩, ⟨by decide +kernel, ?_, ?_⟩, ?_⟩
  · exact hpostgres linked ⟨nofun, nofun, by simp [linked]⟩ fun _ h => (Option.some.inj h).symm
  · exact (hsqlite newest ⟨nofun, by simp [newest], nofun⟩ nofun).trans (by decide +kernel)
  · exact (hpostgres newest ⟨by simp [newest], nofun, nofun⟩ nofun).trans (by decide +kernel)
  · rintro ⟨-, ⟨selected, -, hmatch, hpage⟩, -⟩
    have hlength : ([items, euros].filter (linked.selects Str.toAsciiLowercase)).length = 1 := by decide +kernel
    have hselected : Except.ok ["m2", "m1"] = Except.ok (selected.map (·.id)) := hlinked.symm.trans (congrArg ids hpage)
    have htwo := congrArg List.length (Except.ok.inj hselected)
    rw [List.length_map, hmatch.length_eq, hlength] at htwo
    cases htwo

end GraphNight
