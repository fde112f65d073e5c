import GraphNight.Sql.Names

/-!
# The model behind a column

A field is resolved to a column after the alias of some model: the source's own, or that of a
join. Whether a dimension is selected as GeoJSON is decided by a second resolution, and the two
agree on every field but the ones no model lists.
-/

namespace GraphNight

open SqlText

namespace SqlGenerator

/-! ## Resolution with the model -/

/-- The model an alias stands for in a query on `base`. -/
inductive GoesBy (g : SqlGenerator) (base sourceAlias : String) : String → Model → Prop where
  | source {m : Model} (hm : g.model base = some m) : GoesBy g base sourceAlias sourceAlias m
  | joined {m joined : Model} {join : Join} (hm : g.model base = some m) (hjoin : join ∈ m.joins)
      (hjoined : g.model join.model = some joined) : GoesBy g base sourceAlias (joinAlias join) joined

/-- A column, the alias before it, and the model that alias stands for; no model where the source
is not registered. -/
structure OwnedColumn where
  aliasName : String
  column : String
  model : Option Model

/-- The resolution of `qualify_field`, with the model it settles on. -/
def resolveOwner (g : SqlGenerator) (base field sourceAlias : String) : Option OwnedColumn :=
  if field = "*" then none
  else
    match g.model base with
    | none => some ⟨sourceAlias, field, none⟩
    | some m =>
      if modelHasPlainField m field then some ⟨sourceAlias, field, some m⟩
      else
        match g.findJoin m.joins fun _ joined => modelHasPlainField joined field with
        | some (join, joined) => some ⟨joinAlias join, field, some joined⟩
        | none =>
          match Str.rsplitOnce field '.' with
          | some (pre, column) =>
            if pre = base then some ⟨sourceAlias, column, some m⟩
            else
              match g.findJoin m.joins (joinOwns pre column) with
              | some (join, joined) => some ⟨joinAlias join, column, some joined⟩
              | none => some ⟨sourceAlias, field, some m⟩
          | none => some ⟨sourceAlias, field, some m⟩

/-- No join's target passes a test. -/
def NoJoin (g : SqlGenerator) (joins : List Join) (test : Join → Model → Bool) : Prop :=
  ∀ join ∈ joins, ∀ joined, g.model join.model = some joined → test join joined = false

/-- A field that neither the source nor any joined model lists, under any spelling. -/
def Unlisted (g : SqlGenerator) (m : Model) (base field : String) : Prop :=
  field ≠ "*" ∧ modelHasPlainField m field = false ∧ g.NoJoin m.joins (fun _ joined => modelHasPlainField joined field) ∧
    ∀ pre column, Str.rsplitOnce field '.' = some (pre, column) → pre ≠ base ∧ g.NoJoin m.joins (joinOwns pre column)

section

variable {g : SqlGenerator} {base field sourceAlias : String} {m : Model} {c : OwnedColumn}

theorem findJoin_eq_some {joins : List Join} {test : Join → Model → Bool} {join : Join} {joined : Model}
    (h : g.findJoin joins test = some (join, joined)) : join ∈ joins ∧ g.model join.model = some joined ∧ test join joined = true := by
  obtain ⟨join', hjoin, hfound⟩ := List.exists_of_findSome?_eq_some h
  obtain ⟨joined', hmodel, hfound⟩ := Option.bind_eq_some_iff.1 hfound
  split_ifs at hfound with htest
  obtain ⟨rfl, rfl⟩ := Prod.mk.inj (Option.some.inj hfound)
  exact ⟨hjoin, hmodel, htest⟩

theorem findJoin_eq_none {joins : List Join} {test : Join → Model → Bool} : g.findJoin joins test = none ↔ g.NoJoin joins test := by
  rw [findJoin, List.findSome?_eq_none_iff]
  refine forall₂_congr fun join _ => ?_
  rw [Option.bind_eq_none_iff]
  refine forall₂_congr fun joined _ => ?_
  cases test join joined <;> simp

/-- The two resolutions end at one column. -/
theorem resolveField_eq_resolveOwner (g : SqlGenerator) (base field sourceAlias : String) :
    g.resolveField base field sourceAlias = (g.resolveOwner base field sourceAlias).map fun c => (c.aliasName, c.column) := by
  unfold resolveField resolveOwner
  split_ifs with hstar
  · rfl
  cases g.model base with
  | none => rfl
  | some m =>
    dsimp only
    split_ifs with hplain
    · rfl
    cases g.findJoin m.joins fun _ joined => modelHasPlainField joined field with
    | some found => rfl
    | none =>
      dsimp only
      cases Str.rsplitOnce field '.' with
      | none => rfl
      | some parts =>
        dsimp only
        split_ifs with hbase
        · rfl
        · cases g.findJoin m.joins (joinOwns parts.1 parts.2) <;> rfl

/-- **What a field is resolved to**: a column of the source or of a join's target, named as the field or as
what follows the qualifier, and listed there unless nothing lists the field. -/
theorem resolveOwner_spec (hm : g.model base = some m) (h : g.resolveOwner base field sourceAlias = some c) :
    ∃ owner, c.model = some owner ∧ g.GoesBy base sourceAlias c.aliasName owner ∧
      (c.column = field ∨ ∃ pre, Str.rsplitOnce field '.' = some (pre, c.column)) ∧
      (g.fieldIsGeometry base field = owner.isGeometryColumn c.column ∧ ¬g.Unlisted m base field ∨
        g.fieldIsGeometry base field = false ∧ owner = m ∧ c.column = field ∧ g.Unlisted m base field) := by
  unfold resolveOwner at h
  unfold fieldIsGeometry
  rw [hm] at h ⊢
  split_ifs at h ⊢ with hstar
  dsimp only at h ⊢
  by_cases hplain : modelHasPlainField m field = true
  · rw [if_pos hplain] at h ⊢
    obtain rfl := Option.some.inj h
    refine ⟨m, rfl, .source hm, .inl rfl, .inl ⟨rfl, fun hno => ?_⟩⟩
    rw [hno.2.1] at hplain
    cases hplain
  rw [if_neg hplain] at h ⊢
  rw [Bool.not_eq_true] at hplain
  cases hjoin : g.findJoin m.joins fun _ joined => modelHasPlainField joined field with
  | some found =>
    obtain ⟨join, joined⟩ := found
    rw [hjoin] at h
    dsimp only at h ⊢
    obtain ⟨hmem, hjoined, htest⟩ := findJoin_eq_some hjoin
    obtain rfl := Option.some.inj h
    refine ⟨joined, rfl, .joined hm hmem hjoined, .inl rfl, .inl ⟨rfl, fun hno => ?_⟩⟩
    exact absurd (htest.symm.trans (hno.2.2.1 join hmem joined hjoined)) (by decide)
  | none =>
    have hnone := findJoin_eq_none.1 hjoin
    rw [hjoin] at h
    dsimp only at h ⊢
    cases hsplit : Str.rsplitOnce field '.' with
    | none =>
      rw [hsplit] at h
      dsimp only at h ⊢
      obtain rfl := Option.some.inj h
      exact ⟨m, rfl, .source hm, .inl rfl, .inr ⟨rfl, rfl, rfl, hstar, hplain, hnone, fun pre column hparts => by
        rw [hsplit] at hparts; cases hparts⟩⟩
    | some parts =>
      obtain ⟨pre, column⟩ := parts
      rw [hsplit] at h
      dsimp only at h ⊢
      split_ifs at h ⊢ with hbase
      · obtain rfl := Option.some.inj h
        exact ⟨m, rfl, .source hm, .inr ⟨pre, rfl⟩, .inl ⟨rfl, fun hno => (hno.2.2.2 pre column hsplit).1 hbase⟩⟩
      · cases howns : g.findJoin m.joins (joinOwns pre column) with
        | some found =>
          obtain ⟨join, joined⟩ := found
          rw [howns] at h
          dsimp only at h ⊢
          obtain ⟨hmem, hjoined, htest⟩ := findJoin_eq_some howns
          obtain rfl := Option.some.inj h
          refine ⟨joined, rfl, .joined hm hmem hjoined, .inr ⟨pre, rfl⟩, .inl ⟨rfl, fun hno => ?_⟩⟩
          rw [(hno.2.2.2 pre column hsplit).2 join hmem joined hjoined] at htest
          cases htest
        | none =>
          rw [howns] at h
          dsimp only at h ⊢
          obtain rfl := Option.some.inj h
          refine ⟨m, rfl, .source hm, .inl rfl, .inr ⟨rfl, rfl, rfl, hstar, hplain, hnone, fun pre' column' hparts => ?_⟩⟩
          rw [hsplit] at hparts
          obtain ⟨rfl, rfl⟩ := Prod.mk.inj (Option.some.inj hparts)
          exact ⟨hbase, findJoin_eq_none.1 howns⟩

theorem resolveOwner_eq_none : g.resolveOwner base field sourceAlias = none ↔ field = "*" := by
  rw [← @resolveField_eq_none g base field sourceAlias, resolveField_eq_resolveOwner, Option.map_eq_none_iff]

/-- No model is behind a column of a source that is not registered. -/
theorem model_of_resolveOwner (hm : g.model base = none) (h : g.resolveOwner base field sourceAlias = some c) : c.model = none := by
  unfold resolveOwner at h
  rw [hm] at h
  split_ifs at h
  obtain rfl := Option.some.inj h
  rfl

/-! ## Geometries -/

/-- The column of a field is a geometry, by the record of the model its alias stands for. -/
def RecordsGeometry (g : SqlGenerator) (base field sourceAlias : String) : Prop :=
  ∃ c owner, g.resolveOwner base field sourceAlias = some c ∧ c.model = some owner ∧ owner.isGeometryColumn c.column = true

/-- No model lists the field, and the source records a geometry of its name. -/
def UnlistedGeometry (g : SqlGenerator) (base field : String) : Prop :=
  ∃ m, g.model base = some m ∧ g.Unlisted m base field ∧ m.isGeometryColumn field = true

/-- The second resolution agrees with the first wherever some model lists the field. -/
theorem fieldIsGeometry_iff (g : SqlGenerator) (base field sourceAlias : String) :
    (g.fieldIsGeometry base field = true ↔ g.RecordsGeometry base field sourceAlias) ↔ ¬g.UnlistedGeometry base field := by
  by_cases hstar : field = "*"
  · have hno : ¬g.RecordsGeometry base field sourceAlias := by
      rintro ⟨c, -, hc, -⟩
      rw [resolveOwner_eq_none.2 hstar] at hc
      cases hc
    have hgeo : g.fieldIsGeometry base field = false := if_pos hstar
    refine iff_of_true (iff_of_false (by simp [hgeo]) hno) ?_
    rintro ⟨m, -, hunlisted, -⟩
    exact hunlisted.1 hstar
  obtain ⟨c, hc⟩ := Option.ne_none_iff_exists'.1 fun hnone => hstar ((@resolveOwner_eq_none g base field sourceAlias).1 hnone)
  cases hm : g.model base with
  | none =>
    have hno : ¬g.RecordsGeometry base field sourceAlias := by
      rintro ⟨c, owner, hc, howner, -⟩
      rw [model_of_resolveOwner hm hc] at howner
      cases howner
    have hgeo : g.fieldIsGeometry base field = false := by
      unfold fieldIsGeometry
      rw [hm, if_neg hstar]
    refine iff_of_true (iff_of_false (by simp [hgeo]) hno) ?_
    rintro ⟨m, hm', -⟩
    rw [hm] at hm'
    cases hm'
  | some m =>
    obtain ⟨owner, howner, -, -, hgeo⟩ := resolveOwner_spec hm hc
    have hrecords : g.RecordsGeometry base field sourceAlias ↔ owner.isGeometryColumn c.column = true := by
      constructor
      · rintro ⟨c', owner', hc', howner', hrecord⟩
        rw [hc] at hc'
        obtain rfl := Option.some.inj hc'
        rw [howner] at howner'
        rwa [Option.some.inj howner']
      · exact fun hrecord => ⟨c, owner, hc, howner, hrecord⟩
    have hunlisted : g.UnlistedGeometry base field ↔ g.Unlisted m base field ∧ m.isGeometryColumn field = true := by
      unfold UnlistedGeometry
      rw [hm]
      simp
    rw [hrecords, hunlisted]
    obtain ⟨heq, hlisted⟩ | ⟨hfalse, rfl, hcolumn, hno⟩ := hgeo
    · rw [heq]
      exact iff_of_true Iff.rfl fun h => hlisted h.1
    · rw [hfalse, hcolumn]
      simp [hno]

/-- **The select item of a dimension.** -/
theorem dimensionItem_parts {d : Dialect} {dim : Dimension} {item : SelectItem} (h : g.dimensionItem d sourceAlias base dim = .ok item) :
    item.aliasName = some (dim.label.getD dim.name) ∧
      (g.fieldIsGeometry base dim.name = true ∧ d.geometryAsGeojson (g.qualifyField base dim.name sourceAlias) = some item.expression ∨
        g.fieldIsGeometry base dim.name = false ∧ item.expression = columnText (g.resolveField base dim.name sourceAlias)) := by
  unfold dimensionItem at h
  by_cases hgeo : g.fieldIsGeometry base dim.name = true
  · simp only [if_pos hgeo, Res.bind_eq_ok, Res.ofOption_eq_ok] at h
    obtain ⟨expr, hexpr, h⟩ := h
    obtain rfl := Except.ok.inj h
    exact ⟨rfl, .inl ⟨hgeo, hexpr⟩⟩
  · simp only [if_neg hgeo, Res.bind_eq_ok, Except.ok.injEq, exists_eq_left'] at h
    obtain rfl := Except.ok.inj h
    exact ⟨rfl, .inr ⟨by simpa using hgeo, qualifyField_eq g base dim.name sourceAlias⟩⟩

/-- A text is not its own GeoJSON. -/
theorem geometryAsGeojson_ne_self (d : Dialect) (t : SqlText) : d.geometryAsGeojson t ≠ some t := by
  intro h
  have hcall : call "ST_AsGeoJSON" t = t := by
    cases d with
    | postgres | duckDb => exact Option.some.inj h
    | mySql | sqlite => cases h
  have hlength := congrArg List.length hcall
  simp [call, code] at hlength
  omega

end

/-- A dimension is selected as the GeoJSON of its column exactly if that is a geometry on record. -/
def SelectedByRecord (g : SqlGenerator) (d : Dialect) (base sourceAlias : String) (dim : Dimension) (item : SelectItem) : Prop :=
  d.geometryAsGeojson (g.qualifyField base dim.name sourceAlias) = some item.expression ↔ g.RecordsGeometry base dim.name sourceAlias

/-- The items of a query's dimensions among those it selects. -/
def dimensionItems (query : Query) (items : List SelectItem) : List SelectItem :=
  (items.drop query.measures.length).take query.dimensions.length

/-- **When geometries are selected as GeoJSON**: in every query that is
built a dimension is selected by the record of the model behind it, unless no model lists it and the source
records a geometry of its name. -/
theorem geometries_selected_iff (g : SqlGenerator) (query : Query) (d : Dialect) (sourceAlias base : String) (items : List SelectItem)
    (hitems : g.buildSelectItems query d sourceAlias base = .ok items) :
    List.Forall₂ (fun dim item => g.SelectedByRecord d base sourceAlias dim item ↔ ¬g.UnlistedGeometry base dim.name)
      query.dimensions (dimensionItems query items) := by
  obtain ⟨measures, hmeasures, hitems⟩ := Res.bind_eq_ok.1 hitems
  obtain ⟨dims, hdims, hitems⟩ := Res.bind_eq_ok.1 hitems
  have hall := Res.forall₂_of_mapM hdims
  have hslice : dimensionItems query items = dims := by
    rw [← Except.ok.inj hitems, dimensionItems, (Res.forall₂_of_mapM hmeasures).length_eq, hall.length_eq, List.append_assoc,
      List.drop_left, List.take_left]
  rw [hslice]
  refine hall.imp fun dim item hitem => ?_
  rw [← fieldIsGeometry_iff g base dim.name sourceAlias]
  refine iff_congr ?_ Iff.rfl
  obtain ⟨-, ⟨hgeo, hexpr⟩ | ⟨hgeo, hexpr⟩⟩ := dimensionItem_parts hitem
  · exact iff_of_true hexpr hgeo
  · rw [hexpr, ← qualifyField_eq, hgeo]
    exact iff_of_false (geometryAsGeojson_ne_self d _) (by decide)

/-- Parcels, whose outline is recorded as a geometry and listed as no dimension. -/
def parcels : Model where
  name := "parcels"
  datasource := "gis"
  dimensions := [{ name := "owner" }]
  metadata := [(Model.geometryColumnsMetaKey, .array [.string "outline"])]

/-- Parcels with the outline listed as well. -/
def listedParcels : Model := { parcels with dimensions := [{ name := "owner" }, { name := "outline" }] }

def parcelsGenerator (m : Model) : SqlGenerator := (SqlGenerator.new .postgres ⟨fun _ => false, fun _ => false⟩).registerModel m

def outlines : Query := { name := some "parcels", dimensions := [{ name := "outline" }] }

theorem geometries_selected_iff_outlines :
    List.Forall₂ (fun dim item => (parcelsGenerator listedParcels).SelectedByRecord .postgres "parcels" "p" dim item ↔
      ¬(parcelsGenerator listedParcels).UnlistedGeometry "parcels" dim.name) outlines.dimensions
      (dimensionItems outlines [⟨call "ST_AsGeoJSON" (qualified "p" "outline"), some "outline"⟩]) :=
  geometries_selected_iff _ outlines .postgres "p" "parcels" _ (by decide +kernel)

/-- An outline no model lists is selected as it is stored. -/
theorem unlisted_outline_is_plain :
    ∃ item, (parcelsGenerator parcels).buildSelectItems outlines .postgres "p" "parcels" = .ok [item] ∧
      item.expression = qualified "p" "outline" ∧ (parcelsGenerator parcels).RecordsGeometry "parcels" "outline" "p" ∧
      ¬(parcelsGenerator parcels).SelectedByRecord .postgres "parcels" "p" { name := "outline" } item := by
  have hplain : (parcelsGenerator parcels).qualifyField "parcels" "outline" "p" = qualified "p" "outline" := by decide +kernel
  have hrecord : (parcelsGenerator parcels).RecordsGeometry "parcels" "outline" "p" :=
    ⟨⟨"p", "outline", some parcels⟩, parcels, by rfl, rfl, by decide⟩
  refine ⟨⟨qualified "p" "outline", some "outline"⟩, by decide +kernel, rfl, hrecord, fun h => ?_⟩
  have hgeo := h.2 hrecord
  rw [hplain] at hgeo
  exact geometryAsGeojson_ne_self .postgres _ hgeo

end SqlGenerator

end GraphNight
