import GraphNight.Storage.MemorySearch

/-!
# What a store draws its answers from

A search for models answers with the first of one ranking. A listing of memories looks at
the first rows of one sequence, and may leave some of them out. A store may fail instead.
-/

namespace GraphNight

/-- The ranking of each text and the sequence of each filter, in a state of a store. -/
structure Backend.Scan {σ : Type} (b : Backend σ) (s : σ) where
  ranking : String → List SearchResult
  search : ∀ q n hits, b.search s q n = .ok hits → hits = (ranking q).take n
  /-- The rows of a query and an entity. -/
  rows : Option String → Option String → List Memory
  /-- Whether a row that was looked at is listed. -/
  keeps : Option String → Memory → Bool
  memories : ∀ query entity n ms, b.listMemories s { query, entity, limit := some n } = .ok ms →
    ms = ((rows query entity).take n).filter (keeps query)
  distinct : ∀ query entity, ((rows query entity).map (·.id)).Nodup

namespace YamlStorage

/-- Every row that is looked at is listed. -/
def scan (toLowercase : String → String) (s : YamlStorage) : (backend toLowercase).Scan s where
  ranking q := ((s.models.items.map (·.2)).filterMap fun model =>
    let (matched, score) := matchModel toLowercase (toLowercase q) model
    if matched.isEmpty then none
    else some ⟨model.name, model.datasource, score, matched, model.description.getD ""⟩).mergeSort
      fun a b => b.score ≤ a.score
  search _ _ _ h := (Except.ok.inj h).symm
  rows query entity := (s.memories.items.filter (MemoryFilter.queryMatches toLowercase { query })).filter
    (MemoryFilter.entityMatches { entity })
  keeps _ _ := true
  memories query entity n ms h := by
    rw [List.filter_eq_self.2 fun _ _ => rfl]
    exact (Except.ok.inj h).symm
  distinct query entity :=
    s.memories.distinct.sublist ((List.filter_sublist.trans List.filter_sublist).map _)

end YamlStorage

namespace SqliteStorage

/-- The name or the JSON of a row has the text. -/
def likesModel (pattern : String) (row : ModelRow) : Bool := likes pattern row.name || likes pattern row.data

theorem like_eq_ok {pattern text : String} {found : Bool} (h : like pattern text = .ok found) :
    found = likes pattern text := by
  unfold like at h
  split_ifs at h
  · cases h
  · exact (Except.ok.inj h).symm

theorem likeModel_eq_ok {pattern : String} {row : ModelRow} {found : Bool} (h : likeModel pattern row = .ok found) :
    found = likesModel pattern row := by
  unfold likeModel at h
  cases hname : like pattern row.name with
  | error e =>
    rw [hname] at h
    cases h
  | ok byName =>
    rw [hname] at h
    rw [likesModel, ← like_eq_ok hname]
    cases byName with
    | true => exact (Except.ok.inj h).symm
    | false => exact like_eq_ok h

/-- What a search makes of a row. -/
def rowHit (json : RecordJson) (row : ModelRow) : SearchResult :=
  ⟨row.name, row.datasource, 1, [], ((json.model.read row.data).toOption.bind (·.description)).getD ""⟩

/-- Rows that could be read, as hits. -/
theorem hits_of_mapM {json : RecordJson} {rows : List ModelRow} {hits : List SearchResult}
    (h : (rows.mapM fun row => do
      let model ← json.model.read row.data
      return (⟨row.name, row.datasource, 1, [], model.description.getD ""⟩ : SearchResult)) = .ok hits) :
    hits = rows.map (rowHit json) := by
  refine Res.map_of_mapM h fun row _ hit hrow => ?_
  obtain ⟨model, hread, hhit⟩ := Res.bind_eq_ok.1 hrow
  rw [rowHit, hread, ← Except.ok.inj hhit]
  rfl

/-- Hits are the first of the rows with the text, where the count fits. -/
theorem search_eq_ok {json : RecordJson} {toLowercase : String → String} {s : SqliteStorage} {q : String} {n : Nat}
    {hits : List SearchResult} (hsize : s.models.items.length < 2 ^ 63)
    (h : s.search json toLowercase q n = .ok hits) :
    hits = ((s.models.items.filter (likesModel ("%" ++ toLowercase q ++ "%"))).map (rowHit json)).take n := by
  simp only [search, Res.bind_eq_ok] at h
  obtain ⟨marked, hmarked, hread⟩ := h
  have hlooked : ((if n = 0 then [] else s.models.items).mapM fun row => do
      return (row, ← likeModel ("%" ++ toLowercase q ++ "%") row)) = .ok marked := by
    unfold query at hmarked
    split at hmarked
    · cases hmarked
    · exact hmarked
  have hmarks : (marked.filter (·.2)).map (·.1) =
      (if n = 0 then [] else s.models.items).filter (likesModel ("%" ++ toLowercase q ++ "%")) := by
    have hall := @Res.map_of_mapM _ _ _ _ (fun row => (row, likesModel ("%" ++ toLowercase q ++ "%") row)) _ _ hlooked
      fun row _ mark hrow => by
        obtain ⟨found, hfound, hmark⟩ := Res.bind_eq_ok.1 hrow
        rw [← likeModel_eq_ok hfound, ← Except.ok.inj hmark]
    rw [hall, List.filter_map, List.map_map]
    exact List.map_id _
  have hfirst : (if n < 2 ^ 63 then ((marked.filter (·.2)).map (·.1)).take n else (marked.filter (·.2)).map (·.1)) =
      (s.models.items.filter (likesModel ("%" ++ toLowercase q ++ "%"))).take n := by
    rw [hmarks]
    split_ifs with hfits hzero hzero
    · rw [hzero]
      rfl
    · rfl
    · exact absurd (hzero ▸ Nat.two_pow_pos 63) hfits
    · refine (List.take_of_length_le ((List.length_filter_le _ _).trans ?_)).symm
      omega
  rw [hits_of_mapM hread, hfirst, List.map_take]

theorem memories_eq_ok {json : RecordJson} {toLowercase : String → String} {s : SqliteStorage}
    {record : MemoryRow → Memory} (hanswers : s.sqlError = none) (hrecords : MemoryRecords json.memory s.memories record)
    {query entity : Option String} {n : Nat} {ms : List Memory}
    (h : s.listMemories json toLowercase { query, entity, limit := some n } = .ok ms) :
    ms = (((recordsOf s.memories record).filter (likesEntity json { entity })).take n).filter
      (MemoryFilter.queryMatches toLowercase { query }) := by
  by_cases hvalid : ValidWindow (some n) none ∧
      (ShortEntity { query, entity, limit := some n } ∨ s.memories.items = [] ∨ some n = some 0)
  · exact Except.ok.inj (h.symm.trans (listMemories_eq hanswers hrecords hvalid.1 hvalid.2))
  · obtain ⟨e, he⟩ := @listMemories_error json toLowercase s { query, entity, limit := some n } hanswers hvalid
    rw [he] at h
    cases h

/-- The rows with the entity in their JSON are looked at, the newest first. -/
def scan {json : RecordJson} (toLowercase : String → String) {s : SqliteStorage} {record : MemoryRow → Memory}
    (hsize : s.models.items.length < 2 ^ 63) (hanswers : s.sqlError = none)
    (hrecords : MemoryRecords json.memory s.memories record) : (backend json toLowercase).Scan s where
  ranking q := (s.models.items.filter (likesModel ("%" ++ toLowercase q ++ "%"))).map (rowHit json)
  search _ _ _ h := search_eq_ok hsize h
  rows _ entity := (recordsOf s.memories record).filter (likesEntity json { entity })
  keeps query := MemoryFilter.queryMatches toLowercase { query }
  memories _ _ _ _ h := memories_eq_ok hanswers hrecords h
  distinct _ _ := hrecords.ids.sublist (List.filter_sublist.map _)

end SqliteStorage

namespace PostgresMetadataStorage

variable {json : RecordJson} {locale : PostgresLocale} {toLowercase : String → String} {s : PostgresMetadataStorage}
  {record : MemoryRow → Memory}

/-- Hits are the first of the rows with the text, by name. -/
theorem search_eq_ok {q : String} {n : Nat} {hits : List SearchResult} (h : s.search json locale q n = .ok hits) :
    hits = ((byName locale (s.models.items.filter fun row => ilike locale ("%" ++ q ++ "%") row.name ||
      ilike locale ("%" ++ q ++ "%") row.data)).map (SqliteStorage.rowHit json)).take n := by
  simp only [search, Res.bind_eq_ok] at h
  obtain ⟨rows, hrows, hread⟩ := h
  obtain ⟨limit, hlimit, htake⟩ := Res.bind_eq_ok.1 (of_query hrows)
  obtain rfl : limit = n := by
    unfold asI64 at hlimit
    split_ifs at hlimit
    · exact (Except.ok.inj hlimit).symm
    · cases hlimit
  rw [SqliteStorage.hits_of_mapM hread, ← Except.ok.inj htake, List.map_take]

theorem memories_eq_ok (hanswers : s.sqlError = none) (hrecords : MemoryRecords json.memory s.memories record)
    {query entity : Option String} {n : Nat} {ms : List Memory}
    (h : s.listMemories json locale toLowercase { query, entity, limit := some n } = .ok ms) :
    ms = (((recordsOf s.memories record).filter (ilikesEntity json locale { entity })).take n).filter
      (MemoryFilter.queryMatches toLowercase { query }) := by
  by_cases hvalid : ValidStatement { query, entity, limit := some n }
  · exact Except.ok.inj (h.symm.trans (listMemories_eq hanswers hrecords hvalid))
  · obtain ⟨e, he⟩ := listMemories_error hanswers hvalid
    rw [he] at h
    cases h

variable (locale toLowercase) in
def scan (hanswers : s.sqlError = none) (hrecords : MemoryRecords json.memory s.memories record) :
    (backend json locale toLowercase).Scan s where
  ranking q := (byName locale (s.models.items.filter fun row => ilike locale ("%" ++ q ++ "%") row.name ||
    ilike locale ("%" ++ q ++ "%") row.data)).map (SqliteStorage.rowHit json)
  search _ _ _ h := search_eq_ok h
  rows _ entity := (recordsOf s.memories record).filter (ilikesEntity json locale { entity })
  keeps query := MemoryFilter.queryMatches toLowercase { query }
  memories _ _ _ _ h := memories_eq_ok hanswers hrecords h
  distinct _ _ := hrecords.ids.sublist (List.filter_sublist.map _)

end PostgresMetadataStorage

end GraphNight
