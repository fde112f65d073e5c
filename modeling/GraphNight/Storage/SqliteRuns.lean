import GraphNight.Storage.Sqlite

/-!
# Histories of the SQLite storage

A model is cached under its datasource and name when it is created, and under its name
alone when the storage is opened; it is looked up under either. So no state that holds a
model behaves as a map of them.
-/

namespace GraphNight

namespace SqliteStorage

/-- One step of a history: a call on models, or a process that opens the file again. -/
inductive ModelStep where
  | createModel (model : StoredModel)
  | updateModel (name : String) (model : StoredModel)
  | deleteModel (name : String) (datasource : Option String)
  | getModel (name : String) (datasource : Option String)
  | listModels (datasource : Option String)
  | reopen
deriving DecidableEq, Repr

/-- A storage, with the models created in it and not deleted since. -/
structure Held where
  live : List StoredModel := []
  storage : SqliteStorage := {}

namespace ModelStep

variable (json : RecordJson)

/-- What a step leaves; a file that does not open ends the history. -/
def apply (h : Held) : ModelStep → Res String Held
  | createModel model =>
    let (result, storage) := h.storage.createModel json model
    .ok ⟨h.live ++ result.toOption.toList, storage⟩
  | updateModel name model =>
    let (result, storage) := h.storage.updateModel json name model
    .ok ⟨match result with
      | .ok saved => h.live.map fun m => if m.name = name ∧ m.datasource = model.datasource then saved else m
      | .error _ => h.live, storage⟩
  | deleteModel name datasource =>
    let (result, storage) := h.storage.deleteModel name datasource
    .ok ⟨match result with
      | .ok true => h.live.filter fun m => !(m.name == name && datasource.all (m.datasource == ·))
      | _ => h.live, storage⟩
  | getModel .. | listModels _ => .ok h
  | reopen => (h.storage.reopen json).map fun storage => ⟨h.live, storage⟩

/-- The step creates a model, which can be written as JSON. -/
def creates : ModelStep → Bool
  | createModel model => (json.model.write model).toOption.isSome
  | _ => false

end ModelStep

variable (json : RecordJson)

/-- A history of a new database. -/
def after (steps : List ModelStep) : Res String Held := steps.foldlM (ModelStep.apply json) {}

/-- A storage that behaves as the map of its live models. -/
structure Held.MapLike (h : Held) : Prop where
  found : ∀ m ∈ h.live, h.storage.getModel m.name (some m.datasource) = .ok (some m) ∧
    h.storage.getModel m.name none = .ok (some m)
  rejected : ∀ m ∈ h.live, ∀ m', m'.name = m.name → m'.datasource = m.datasource →
    ∃ e, (h.storage.createModel json m').1 = .error e
  returned : ∀ name datasource m, h.storage.getModel name datasource = .ok (some m) → m ∈ h.live
  warm : ∃ t, h.storage.reopen json = .ok t ∧ ∀ key, t.modelsCache.get key = h.storage.modelsCache.get key

variable {json}

/-- A storage that was just opened has every model under its name. -/
theorem key_of_reopen {s t : SqliteStorage} (h : s.reopen json = .ok t) :
    ∀ entry ∈ t.modelsCache.items, entry.1 = entry.2.name := by
  simp only [reopen, warmCache, Res.bind_eq_ok, pure, Except.pure, Except.ok.injEq] at h
  obtain ⟨models, -, datasources, -, rfl⟩ := h
  intro entry hentry
  rcases KeyedList.mem_foldl_insert hentry with hempty | ⟨model, -, rfl⟩
  · exact absurd hempty List.not_mem_nil
  · rfl

/-- No state with a live model is like a map: the key with the datasource is not the name. -/
theorem Held.MapLike.live_eq_nil {h : Held} (hmap : h.MapLike json) : h.live = [] := by
  by_contra hlive
  obtain ⟨m, hm⟩ := List.exists_mem_of_ne_nil h.live hlive
  obtain ⟨t, hopened, hsame⟩ := hmap.warm
  have hfound := (hmap.found m hm).1
  simp only [getModel, Except.ok.injEq, Option.map_eq_some_iff] at hfound
  obtain ⟨entry, hentry, hvalue⟩ := hfound
  rw [← hsame] at hentry
  have hkey : entry.1 = m.datasource ++ "." ++ m.name := KeyedList.key_of_get hentry
  have hname := key_of_reopen hopened entry (KeyedList.mem_of_get hentry)
  have hlength := congrArg String.length (hkey.symm.trans hname)
  rw [hvalue, String.length_append, String.length_append] at hlength
  have hdot : ".".length = 1 := rfl
  omega

/-- A database without models behaves as the map of none. -/
theorem mapLike_empty : Held.MapLike json {} where
  found m hm := absurd hm List.not_mem_nil
  rejected m hm := absurd hm List.not_mem_nil
  returned name datasource m h := by cases h
  warm := ⟨{}, rfl, fun _ => rfl⟩

/-- A step that creates nothing leaves a database without models as it is. -/
theorem ModelStep.apply_empty {step : ModelStep} (h : step.creates json = false) : step.apply json {} = .ok {} := by
  cases step with
  | createModel model =>
    unfold creates at h
    cases hdata : json.model.write model with
    | error e => simp [ModelStep.apply, SqliteStorage.createModel, putThrough, hdata, KeyedList.empty, KeyedList.get, Except.toOption]
    | ok data => simp [hdata, Except.toOption] at h
  | _ => rfl

theorem after_of_no_creates {steps : List ModelStep} (h : ∀ step ∈ steps, step.creates json = false) :
    after json steps = .ok {} := by
  unfold after
  induction steps with
  | nil => rfl
  | cons step steps ih =>
    rw [List.foldlM_cons, ModelStep.apply_empty (h step List.mem_cons_self)]
    exact ih fun step' hstep' => h step' (List.mem_cons_of_mem _ hstep')

/-- The first model that is created is live. -/
theorem apply_creates {step : ModelStep} (h : step.creates json = true) :
    ∃ m s, step.apply json {} = .ok ⟨[m], s⟩ := by
  cases step with
  | createModel model =>
    unfold ModelStep.creates at h
    cases hdata : json.model.write model with
    | error e => simp [hdata, Except.toOption] at h
    | ok data =>
      have hcreated : ∃ s, ({} : SqliteStorage).createModel json model = (.ok model, s) := by
        simp only [SqliteStorage.createModel, putThrough, hdata]
        exact ⟨_, rfl⟩
      obtain ⟨s, hcreated⟩ := hcreated
      refine ⟨model, s, ?_⟩
      simp only [ModelStep.apply, hcreated]
      rfl
  | _ => cases h

/-- **A map of models** is what the storage is along the histories that create none. -/
theorem mapLike_along_iff (json : RecordJson) (steps : List ModelStep) :
    (∀ before h, before <+: steps → after json before = .ok h → h.MapLike json) ↔
      ∀ step ∈ steps, step.creates json = false := by
  constructor
  · intro hmap
    by_contra hcreates
    obtain ⟨step, hfirst⟩ : ∃ step, steps.find? (·.creates json) = some step := by
      rw [← Option.isSome_iff_exists, List.find?_isSome]
      simpa using hcreates
    obtain ⟨hstep, before, rest, hsteps, hbefore⟩ := List.find?_eq_some_iff_append.1 hfirst
    obtain ⟨m, s, happly⟩ := apply_creates hstep
    have hafter : after json (before ++ [step]) = .ok ⟨[m], s⟩ := by
      have hempty : after json before = .ok {} := after_of_no_creates fun step' hstep' => by simpa using hbefore step' hstep'
      unfold after at hempty ⊢
      rw [List.foldlM_append, hempty]
      exact (bind_pure (step.apply json {})).trans happly
    have hpre : before ++ [step] <+: steps := ⟨rest, by simp [hsteps]⟩
    exact absurd (hmap _ _ hpre hafter).live_eq_nil (by simp)
  · intro h before held hpre hafter
    rw [after_of_no_creates fun step hstep => h step (hpre.subset hstep)] at hafter
    obtain rfl := Except.ok.inj hafter
    exact mapLike_empty

end SqliteStorage

/-! ## One model -/

namespace OrdersModel

def orders : StoredModel := { name := "orders", datasource := "shop" }

/-- `orders` as JSON. -/
def text : String :=
  "\x7b\"name\":\"orders\",\"datasource\":\"shop\",\"description\":null,\"measures\":[],\"dimensions\":[]," ++
    "\"time_dimensions\":[],\"joins\":[],\"sql\":null,\"meta\":\x7b\x7d\x7d"

/-- What `serde_json` does with it. -/
def json : RecordJson where
  model := ⟨fun m => if m = orders then .ok text else Res.fail "unknown", fun t =>
    if t = text then .ok orders else Res.fail "expected value at line 1 column 1"⟩
  dataSource := ⟨fun _ => Res.fail "unknown", fun _ => Res.fail "EOF"⟩
  memory := ⟨fun _ => Res.fail "unknown", fun _ => Res.fail "EOF"⟩

end OrdersModel

open OrdersModel SqliteStorage in
/-- A model just created is not found without its datasource; opened again, it is not found with
it; and deleted then, it is back the next time. -/
theorem created_model_lost :
    (after json [.createModel orders]).map (fun h => (h.live, h.storage.getModel "orders" none)) =
        .ok ([orders], .ok none) ∧
      (after json [.createModel orders, .reopen]).map (fun h => (h.live, h.storage.getModel "orders" (some "shop"))) =
        .ok ([orders], .ok none) ∧
      (after json [.createModel orders, .reopen, .deleteModel "orders" none, .reopen]).map
        (fun h => (h.live, h.storage.getModel "orders" none)) = .ok ([], .ok (some orders)) ∧
      ¬∀ before h, before <+: [.createModel orders] → after json before = .ok h → h.MapLike json := by
  have hcreated : (after json [.createModel orders]).map (fun h => (h.live, h.storage.getModel "orders" none)) =
      .ok ([orders], .ok none) := by decide +kernel
  refine ⟨hcreated, by decide +kernel, by decide +kernel, fun hmap => ?_⟩
  cases hafter : after json [.createModel orders] with
  | error e =>
    rw [hafter] at hcreated
    cases hcreated
  | ok h =>
    rw [hafter] at hcreated
    simp only [Except.map, Except.ok.injEq, Prod.mk.injEq] at hcreated
    have hfound := ((hmap _ h (List.prefix_refl _) hafter).found orders (hcreated.1 ▸ List.mem_cons_self)).2
    rw [show orders.name = "orders" from rfl, hcreated.2] at hfound
    cases hfound

end GraphNight
