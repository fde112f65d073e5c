import Mathlib.Data.List.Forall2
import GraphNight.Core.Importers

/-!
# Importing whole schemas

What one conversion makes of a field, and that the import keeps what each makes and reports what
each warns of: the report is written to and never read, so it is as if each conversion had one
of its own.
-/

namespace GraphNight

/-- The SQL of a measure; the name stands in for it. -/
def CubeMeasure.text (raw : CubeMeasure) : String := (cubeSql raw.sql).getD raw.name

/-- The label of an imported measure. -/
def CubeMeasure.label (raw : CubeMeasure) : Option String := raw.title.or (some raw.name)

/-! ## The conversions -/

/-- Warnings put behind those there are. -/
def ImportReport.warnAll (report : ImportReport) (messages : List String) : ImportReport :=
  { report with warnings := report.warnings ++ messages }

theorem ImportReport.warnAll_nil (report : ImportReport) : report.warnAll [] = report := by
  rw [warnAll, List.append_nil]

theorem ImportReport.warnAll_warnAll (report : ImportReport) (messages others : List String) :
    (report.warnAll messages).warnAll others = report.warnAll (messages ++ others) := by
  simp only [warnAll, List.append_assoc]

/-- A warning opens with what it is about. -/
def IsAbout (subject message : String) : Prop := (subject ++ ": ").toList <+: message.toList

theorem isAbout_of_mark (subject mark : String) (h : ": ".toList <+: mark.toList) : IsAbout subject (subject ++ mark) := by
  have hlist : (subject ++ mark).toList = subject.toList ++ mark.toList := String.toList_append
  rw [IsAbout, hlist, String.toList_append]
  exact (List.prefix_append_right_inj _).2 h

theorem IsAbout.append {subject message : String} (h : IsAbout subject message) (rest : String) : IsAbout subject (message ++ rest) := by
  have hlist : (message ++ rest).toList = message.toList ++ rest.toList := String.toList_append
  rw [IsAbout, hlist]
  exact h.trans (List.prefix_append _ _)

variable {alphanumeric : Alphanumeric} {toLowercase : String → String}

/-- What becomes of a measure: it counts; it is skipped or kept with a warning that names it; or
it is kept without one, as a call on a plain column or as its SQL in the aggregation of its type. -/
inductive MeasureOutcome (alphanumeric : Alphanumeric) (raw : CubeMeasure) (model : String) : Option Measure → List String → Prop
  | counted (hcount : raw.isCount = true) :
      MeasureOutcome alphanumeric raw model (some ⟨{ expression := "*", label := raw.label }, .count⟩) []
  | skipped (message : String) (habout : IsAbout (model ++ "." ++ raw.name) message) : MeasureOutcome alphanumeric raw model none [message]
  | flagged (m : Measure) (message : String) (habout : IsAbout (model ++ "." ++ raw.name) message) :
      MeasureOutcome alphanumeric raw model (some m) [message]
  | called (func expr : String) (aggregation : AggregationType) (hcount : raw.isCount = false)
      (hsplit : splitAggregate raw.text = some (func, some expr))
      (hfunc : AggregationType.parseStrict func = .ok aggregation) (hplain : isPlainColumn alphanumeric expr = true) :
      MeasureOutcome alphanumeric raw model (some ⟨{ expression := expr, label := raw.label }, aggregation⟩) []
  | applied (func t : String) (aggregation inner : AggregationType) (hcount : raw.isCount = false)
      (hsplit : splitAggregate raw.text = some (func, none)) (hfunc : AggregationType.parseStrict func = .ok inner)
      (htype : raw.measureType = some t) (hagg : AggregationType.parseStrict t = .ok aggregation) :
      MeasureOutcome alphanumeric raw model (some ⟨{ expression := raw.text, label := raw.label }, aggregation⟩) []

theorem eq_ok_of_toOption {ε α : Type} {result : Except ε α} {a : α} (h : result.toOption = some a) : result = .ok a := by
  cases result with
  | error e => cases h
  | ok b => exact congrArg Except.ok (Option.some.inj h)

theorem measureOutcome (raw : CubeMeasure) (model : String) : ∃ converted messages,
    MeasureOutcome alphanumeric raw model converted messages ∧
      ∀ report, cubeMeasureToMeasure alphanumeric raw model report = (converted, report.warnAll messages) := by
  have htext : (cubeSql raw.sql).getD raw.name = raw.text := rfl
  unfold cubeMeasureToMeasure
  dsimp only
  rw [htext]
  cases hcount : raw.isCount with
  | true => exact ⟨_, [], .counted hcount, fun report => by rw [report.warnAll_nil]; rfl⟩
  | false =>
    simp only [Bool.false_eq_true, if_false]
    have hopen := isAbout_of_mark (model ++ "." ++ raw.name) ": `" (by decide)
    cases hsplit : splitAggregate raw.text with
    | none =>
      refine ⟨_, [_], .skipped _ ?_, fun report => rfl⟩
      exact ((hopen.append _).append _).append _
    | some call =>
      obtain ⟨func, inner⟩ := call
      dsimp only
      cases hfunc : AggregationType.parseStrict func with
      | error e =>
        refine ⟨_, [_], .skipped _ ?_, fun report => rfl⟩
        exact (hopen.append _).append _
      | ok aggregation =>
        cases inner with
        | some expr =>
          dsimp only
          cases hplain : isPlainColumn alphanumeric expr with
          | true =>
            refine ⟨_, [], .called func expr aggregation hcount hsplit hfunc hplain, fun report => ?_⟩
            rw [report.warnAll_nil]
            rfl
          | false =>
            refine ⟨_, [_], .flagged _ _ ?_, fun report => rfl⟩
            exact ((hopen.append _).append _).append _
        | none =>
          dsimp only
          cases htype : raw.measureType.bind fun t => (AggregationType.parseStrict t).toOption with
          | none =>
            refine ⟨_, [_], .skipped _ ?_, fun report => rfl⟩
            have hmark := isAbout_of_mark (model ++ "." ++ raw.name) ": could not determine an aggregation from `" (by decide)
            exact ((hmark.append _).append _).append _
          | some agg =>
            obtain ⟨t, ht, hagg⟩ := Option.bind_eq_some_iff.1 htype
            refine ⟨_, [], .applied func t agg aggregation hcount hsplit hfunc ht (eq_ok_of_toOption hagg), fun report => ?_⟩
            rw [report.warnAll_nil]
            rfl

/-! ## What the conversions make -/

section

variable {raw : CubeMeasure} {cube : String}

theorem convert_counted (h : raw.isCount = true) (report : ImportReport) :
    cubeMeasureToMeasure alphanumeric raw cube report = (some ⟨{ expression := "*", label := raw.label }, .count⟩, report) := by
  unfold cubeMeasureToMeasure
  rw [h]
  rfl

theorem convert_called {func expr : String} {aggregation : AggregationType} (hcount : raw.isCount = false)
    (hsplit : splitAggregate raw.text = some (func, some expr)) (hfunc : AggregationType.parseStrict func = .ok aggregation)
    (hplain : isPlainColumn alphanumeric expr = true) (report : ImportReport) :
    cubeMeasureToMeasure alphanumeric raw cube report =
      (some ⟨{ expression := expr, label := raw.label }, aggregation⟩, report) := by
  have hsplit' : splitAggregate ((cubeSql raw.sql).getD raw.name) = some (func, some expr) := hsplit
  unfold cubeMeasureToMeasure
  dsimp only
  rw [hcount, hsplit']
  simp only [hfunc, hplain, Bool.false_eq_true, if_false, if_true]
  rfl

theorem convert_applied {func t : String} {aggregation inner : AggregationType} (hcount : raw.isCount = false)
    (hsplit : splitAggregate raw.text = some (func, none)) (hfunc : AggregationType.parseStrict func = .ok inner)
    (htype : raw.measureType = some t) (hagg : AggregationType.parseStrict t = .ok aggregation) (report : ImportReport) :
    cubeMeasureToMeasure alphanumeric raw cube report =
      (some ⟨{ expression := raw.text, label := raw.label }, aggregation⟩, report) := by
  have hsplit' : splitAggregate ((cubeSql raw.sql).getD raw.name) = some (func, none) := hsplit
  have hdeclared : (raw.measureType.bind fun t => (AggregationType.parseStrict t).toOption) = some aggregation := by
    rw [htype, Option.bind_some, hagg]
    rfl
  unfold cubeMeasureToMeasure
  dsimp only
  rw [hcount, hsplit']
  simp only [hfunc, hdeclared, Bool.false_eq_true, if_false]
  rfl

end

/-! ## The import of a schema -/

/-- A conversion only adds warnings to the report, and does not read it. -/
def Reports {α : Type} (convert : ImportReport → α × ImportReport) : Prop :=
  ∀ report, convert report = ((convert {}).1, report.warnAll (convert {}).2.warnings)

theorem reports_of_eq {α : Type} {convert : ImportReport → α × ImportReport} {converted : α} {messages : List String}
    (h : ∀ report, convert report = (converted, report.warnAll messages)) : Reports convert := fun report => by
  rw [h report, h {}]
  rfl

theorem reports_measure (alphanumeric : Alphanumeric) (raw : CubeMeasure) (cube : String) :
    Reports (cubeMeasureToMeasure alphanumeric raw cube) := by
  obtain ⟨converted, messages, -, hconvert⟩ := @measureOutcome alphanumeric raw cube
  exact reports_of_eq hconvert

theorem reports_dimension (raw : CubeDimension) (cube : String) : Reports (cubeDimensionToDimension raw cube) := by
  have hquiet (report : ImportReport) : report = report.warnAll [] := report.warnAll_nil.symm
  unfold cubeDimensionToDimension
  cases hsql : cubeSql raw.sql with
  | none =>
    cases raw.isTime <;> exact reports_of_eq fun report => Prod.ext rfl (hquiet report)
  | some sql =>
    by_cases hflag : sql ≠ raw.name ∧ Str.containsStr sql raw.name = false
    · simp only [if_pos hflag]
      cases raw.isTime <;> exact reports_of_eq fun report => rfl
    · simp only [if_neg hflag]
      cases raw.isTime <;> exact reports_of_eq fun report => Prod.ext rfl (hquiet report)

/-- What a list of conversions makes, and all that they warn of. -/
theorem convertAll_eq {ρ α : Type} {convert : ρ → ImportReport → Option α × ImportReport} (h : ∀ raw, Reports (convert raw)) (raws : List ρ)
    (report : ImportReport) : convertAll convert raws report =
      (raws.flatMap fun raw => (convert raw {}).1.toList, report.warnAll (raws.flatMap fun raw => (convert raw {}).2.warnings)) := by
  induction raws generalizing report with
  | nil => rw [convertAll, List.flatMap_nil, List.flatMap_nil, report.warnAll_nil]
  | cons raw raws ih =>
    rw [convertAll, h raw report]
    simp only [ih, ImportReport.warnAll_warnAll, List.flatMap_cons]

theorem convertDimensions_eq (cube : String) (raws : List CubeDimension) (report : ImportReport) : convertDimensions cube raws report =
    (raws.flatMap fun raw => (convertDimensions cube [raw] {}).1, raws.flatMap fun raw => (convertDimensions cube [raw] {}).2.1,
      report.warnAll (raws.flatMap fun raw => (convertDimensions cube [raw] {}).2.2.warnings)) := by
  induction raws generalizing report with
  | nil => rw [convertDimensions, List.flatMap_nil, List.flatMap_nil, List.flatMap_nil, report.warnAll_nil]
  | cons raw raws ih =>
    rw [convertDimensions]
    cases htime : raw.isTime with
    | true =>
      have hone : convertDimensions cube [raw] {} =
          ([], [{ dimension := raw.name, granularity := .day, label := raw.title }], {}) := by
        simp only [convertDimensions, htime, if_true]
      simp only [if_true, ih, List.flatMap_cons, hone]
      rfl
    | false =>
      have hone : convertDimensions cube [raw] {} =
          ((cubeDimensionToDimension raw cube {}).1.toList, [], (cubeDimensionToDimension raw cube {}).2) := by
        simp only [convertDimensions, htime, Bool.false_eq_true, if_false, List.append_nil]
      simp only [Bool.false_eq_true, if_false]
      rw [reports_dimension raw cube report]
      simp only [ih, ImportReport.warnAll_warnAll, List.flatMap_cons, hone, List.nil_append]

/-- A join without a target names it. -/
def Join.withTarget (join : Join) : Join := if join.model = "" then { join with model := join.name } else join

/-- A model is what the conversions make of a cube, and all their warnings are reported. -/
structure CubeImported (alphanumeric : Alphanumeric) (report : ImportReport) (cube : Cube) (model : Model) : Prop where
  name : model.name = cube.name
  measures : model.measures = cube.measures.flatMap fun raw => (cubeMeasureToMeasure alphanumeric raw cube.name {}).1.toList
  dimensions : model.dimensions = cube.dimensions.flatMap fun raw => (convertDimensions cube.name [raw] {}).1
  timeDimensions : model.timeDimensions = cube.dimensions.flatMap fun raw => (convertDimensions cube.name [raw] {}).2.1
  joins : model.joins = (cube.joins.flatMap fun raw => (cubeJoinToJoin raw {}).1.toList).map Join.withTarget
  measureWarnings : ∀ raw ∈ cube.measures, (cubeMeasureToMeasure alphanumeric raw cube.name {}).2.warnings ⊆ report.warnings
  dimensionWarnings : ∀ raw ∈ cube.dimensions, (convertDimensions cube.name [raw] {}).2.2.warnings ⊆ report.warnings
  joinWarnings : ∀ raw ∈ cube.joins, (cubeJoinToJoin raw {}).2.warnings ⊆ report.warnings

/-- Only warnings are added to the report. -/
def Grows (report report' : ImportReport) : Prop := report.warnings ⊆ report'.warnings ∧ report'.models = report.models

theorem Grows.refl (report : ImportReport) : Grows report report := ⟨List.Subset.refl _, rfl⟩

theorem Grows.trans {report report' report'' : ImportReport} (h : Grows report report') (h' : Grows report' report'') :
    Grows report report'' := ⟨List.Subset.trans h.1 h'.1, h'.2.trans h.2⟩

theorem grows_warnAll (report : ImportReport) (messages : List String) : Grows report (report.warnAll messages) :=
  ⟨List.subset_append_left _ _, rfl⟩

theorem grows_warn (report : ImportReport) (message : String) : Grows report (report.warn message) := grows_warnAll report [message]

theorem grows_ite (p : Prop) [Decidable p] (report : ImportReport) (message : String) :
    Grows report (if p then report.warn message else report) := by
  split
  · exact grows_warn report message
  · exact Grows.refl report

theorem grows_warnOnCaseCollisions (toLowercase : String → String) (name : String) (fields : List String)
    (seen : List (String × String)) (report : ImportReport) :
    Grows report (warnOnCaseCollisions toLowercase name fields seen report) := by
  induction fields generalizing seen report with
  | nil => exact Grows.refl report
  | cons field fields ih =>
    rw [warnOnCaseCollisions]
    cases seen.lookup (toLowercase field) with
    | none => exact ih _ _
    | some first => exact (grows_warn report _).trans (ih _ _)

theorem reports_join (raw : CubeJoin) : Reports (cubeJoinToJoin raw) := by
  unfold cubeJoinToJoin
  have hquiet (report : ImportReport) : report = report.warnAll [] := report.warnAll_nil.symm
  cases cubeSql raw.sql with
  | none => exact reports_of_eq fun report => Prod.ext rfl (hquiet report)
  | some sql =>
    dsimp only
    cases Str.splitOnce sql '=' with
    | none => exact reports_of_eq fun report => Prod.ext rfl (hquiet report)
    | some sides =>
      by_cases hblank : cleanJoinSide sides.1 raw = "" ∨ cleanJoinSide sides.2 raw = ""
      · simp only [if_pos hblank]
        exact reports_of_eq fun report => rfl
      · simp only [if_neg hblank]
        exact reports_of_eq fun report => Prod.ext rfl (hquiet report)

/-- The warnings of the conversions of a cube. -/
def Cube.warnings (alphanumeric : Alphanumeric) (cube : Cube) : List String :=
  (cube.measures.flatMap fun raw => (cubeMeasureToMeasure alphanumeric raw cube.name {}).2.warnings) ++
    ((cube.dimensions.flatMap fun raw => (convertDimensions cube.name [raw] {}).2.2.warnings) ++
      cube.joins.flatMap fun raw => (cubeJoinToJoin raw {}).2.warnings)

theorem warnAll_conversions (report : ImportReport) (cube : Cube) :
    ((report.warnAll (cube.measures.flatMap fun raw => (cubeMeasureToMeasure alphanumeric raw cube.name {}).2.warnings)).warnAll
      (cube.dimensions.flatMap fun raw => (convertDimensions cube.name [raw] {}).2.2.warnings)).warnAll
        (cube.joins.flatMap fun raw => (cubeJoinToJoin raw {}).2.warnings) = report.warnAll (cube.warnings alphanumeric) := by
  rw [ImportReport.warnAll_warnAll, ImportReport.warnAll_warnAll]
  rfl

/-- Other warnings may follow those of the conversions. -/
theorem cubeImported_of_grows {cube : Cube} {model : Model} {report last : ImportReport}
    (hgrows : Grows (report.warnAll (cube.warnings alphanumeric)) last) (hname : model.name = cube.name)
    (hmeasures : model.measures = cube.measures.flatMap fun raw => (cubeMeasureToMeasure alphanumeric raw cube.name {}).1.toList)
    (hdimensions : model.dimensions = cube.dimensions.flatMap fun raw => (convertDimensions cube.name [raw] {}).1)
    (htimes : model.timeDimensions = cube.dimensions.flatMap fun raw => (convertDimensions cube.name [raw] {}).2.1)
    (hjoins : model.joins = (cube.joins.flatMap fun raw => (cubeJoinToJoin raw {}).1.toList).map Join.withTarget) :
    ∃ imported, ({ last with models := last.models ++ [model] } : ImportReport).models = report.models ++ [imported] ∧
      report.warnings ⊆ ({ last with models := last.models ++ [model] } : ImportReport).warnings ∧
      CubeImported alphanumeric { last with models := last.models ++ [model] } cube imported := by
  obtain ⟨hwarnings, hmodels⟩ := hgrows
  simp only [ImportReport.warnAll, Cube.warnings, List.append_subset] at hwarnings
  obtain ⟨hreport, hmeasure, hdimension, hjoin⟩ := hwarnings
  refine ⟨model, congrArg (· ++ [model]) hmodels, hreport, hname, hmeasures, hdimensions, htimes, hjoins, ?_, ?_, ?_⟩
  · exact fun raw hraw => List.Subset.trans (fun _ hmessage => List.mem_flatMap.2 ⟨raw, hraw, hmessage⟩) hmeasure
  · exact fun raw hraw => List.Subset.trans (fun _ hmessage => List.mem_flatMap.2 ⟨raw, hraw, hmessage⟩) hdimension
  · exact fun raw hraw => List.Subset.trans (fun _ hmessage => List.mem_flatMap.2 ⟨raw, hraw, hmessage⟩) hjoin

/-- One round adds one model, which is made of its cube. -/
theorem importCube_models (datasource : String) (report : ImportReport) (cube : Cube) : ∃ model,
    (importCube alphanumeric toLowercase datasource report cube).models = report.models ++ [model] ∧
      report.warnings ⊆ (importCube alphanumeric toLowercase datasource report cube).warnings ∧
      CubeImported alphanumeric (importCube alphanumeric toLowercase datasource report cube) cube model := by
  unfold importCube
  rw [convertAll_eq fun raw => reports_measure alphanumeric raw cube.name]
  dsimp only
  rw [convertDimensions_eq]
  dsimp only
  rw [convertAll_eq reports_join]
  dsimp only
  rw [warnAll_conversions]
  refine cubeImported_of_grows ?_ rfl rfl rfl rfl rfl
  exact ((grows_ite _ _ _).trans (grows_warnOnCaseCollisions _ _ _ _ _)).trans (grows_ite _ _ _)

theorem CubeImported.of_subset {report report' : ImportReport} {cube : Cube} {model : Model}
    (h : CubeImported alphanumeric report cube model) (hwarnings : report.warnings ⊆ report'.warnings) :
    CubeImported alphanumeric report' cube model :=
  { h with
    measureWarnings := fun raw hraw => List.Subset.trans (h.measureWarnings raw hraw) hwarnings
    dimensionWarnings := fun raw hraw => List.Subset.trans (h.dimensionWarnings raw hraw) hwarnings
    joinWarnings := fun raw hraw => List.Subset.trans (h.joinWarnings raw hraw) hwarnings }

/-- The loop over the cubes adds a model for each. -/
theorem importCubes_models (datasource : String) (cubes : List Cube) (report : ImportReport) : ∃ models,
    (cubes.foldl (importCube alphanumeric toLowercase datasource) report).models = report.models ++ models ∧
      report.warnings ⊆ (cubes.foldl (importCube alphanumeric toLowercase datasource) report).warnings ∧
      List.Forall₂ (CubeImported alphanumeric (cubes.foldl (importCube alphanumeric toLowercase datasource) report)) cubes models := by
  induction cubes generalizing report with
  | nil => exact ⟨[], (List.append_nil _).symm, List.Subset.refl _, .nil⟩
  | cons cube cubes ih =>
    obtain ⟨model, hmodels, hwarnings, himported⟩ := @importCube_models alphanumeric toLowercase datasource report cube
    obtain ⟨models, hmodels', hwarnings', himported'⟩ := ih (importCube alphanumeric toLowercase datasource report cube)
    refine ⟨model :: models, ?_, List.Subset.trans hwarnings hwarnings', .cons (himported.of_subset hwarnings') himported'⟩
    rw [List.foldl_cons, hmodels', hmodels, List.append_assoc]
    rfl

theorem grows_warnAboutDanglingJoins (report : ImportReport) : Grows report (warnAboutDanglingJoins report) := by
  have hfold (messages : List String) (report : ImportReport) : Grows report (messages.foldl ImportReport.warn report) := by
    induction messages generalizing report with
    | nil => exact Grows.refl report
    | cons message messages ih => exact (grows_warn report message).trans (ih _)
  exact hfold _ report

/-- **An import is made of its cubes**: one model for each, in their order. -/
theorem importCubeSchema_models (schema : CubeSchema) (datasource : String) :
    List.Forall₂ (CubeImported alphanumeric (importCubeSchema alphanumeric toLowercase schema datasource)) schema.cubes
      (importCubeSchema alphanumeric toLowercase schema datasource).models := by
  obtain ⟨models, hmodels, -, himported⟩ := @importCubes_models alphanumeric toLowercase datasource schema.cubes {}
  obtain ⟨hwarnings, hsame⟩ := grows_warnAboutDanglingJoins (schema.cubes.foldl (importCube alphanumeric toLowercase datasource) {})
  unfold importCubeSchema
  rw [hsame, hmodels]
  exact himported.imp fun _ _ h => h.of_subset hwarnings

end GraphNight
