import Mathlib.Logic.Relation
import GraphNight.Storage.YamlFiles

/-!
# Concurrent changes of the YAML storage

Tasks interleave between the write lock of a map and the file it is written to. A file that
is written late holds the map as it is then, so files keep up with the maps. Loading puts a
record under its own name, and an update may have put it under another.
-/

namespace GraphNight

/-- Records collected under their names, as `load` does. -/
def collectRecords {α : Type} (name : α → String) (records : List α) : KeyedList (String × α) Prod.fst :=
  records.foldl (fun map a => map.insert (name a, a)) .empty

/-- Every record of a map stands under its own name. -/
def NamedKeys {α : Type} (name : α → String) (map : KeyedList (String × α) Prod.fst) : Prop :=
  ∀ entry ∈ map.items, entry.1 = name entry.2

section

variable {α : Type} {name : α → String} {map : KeyedList (String × α) Prod.fst} {records : List α}

theorem collectRecords_eq (name : α → String) (records : List α) :
    collectRecords name records = .ofList (records.map fun a => (name a, a)) := by
  rw [collectRecords, KeyedList.ofList, List.foldl_map]

theorem namedKeys_collectRecords (name : α → String) (records : List α) : NamedKeys name (collectRecords name records) := by
  intro entry hentry
  rw [collectRecords_eq] at hentry
  obtain ⟨a, -, rfl⟩ := List.mem_map.1 (KeyedList.mem_ofList hentry)
  rfl

theorem NamedKeys.insert (h : NamedKeys name map) (a : α) : NamedKeys name (map.insert (name a, a)) := by
  intro entry hentry
  rcases KeyedList.mem_insert hentry with rfl | hentry
  · rfl
  · exact h entry hentry

theorem NamedKeys.erase (h : NamedKeys name map) (key : String) : NamedKeys name (map.erase key) :=
  fun entry hentry => h entry (List.mem_of_mem_filter hentry)

/-- The records of a map under their names, in whatever order they come, are collected into it. -/
theorem NamedKeys.get_collect (h : NamedKeys name map) (hperm : records.Perm (map.items.map (·.2))) (key : String) :
    (collectRecords name records).get key = map.get key := by
  have hentries : (records.map fun a => (name a, a)).Perm map.items := by
    refine (hperm.map _).trans (List.Perm.of_eq ?_)
    rw [List.map_map]
    refine (List.map_congr_left fun entry hentry => ?_).trans (List.map_id _)
    exact Prod.ext (h entry hentry).symm rfl
  have hdistinct : ((records.map fun a => (name a, a)).map Prod.fst).Nodup :=
    (hentries.map Prod.fst).nodup_iff.2 map.distinct
  apply KeyedList.get_of_perm
  rw [collectRecords_eq, KeyedList.items_ofList hdistinct]
  exact hentries

/-- A map that loading gives back has its records under their names. -/
theorem namedKeys_of_get (h : ∀ key, (collectRecords name records).get key = map.get key) : NamedKeys name map := by
  intro entry hentry
  have hget : map.get entry.1 = some entry := KeyedList.get_eq_some.2 ⟨hentry, rfl⟩
  rw [← h] at hget
  exact namedKeys_collectRecords name records entry (KeyedList.mem_of_get hget)

end

namespace YamlDirectory

/-- The file of a map. -/
inductive MapFile where
  | models
  | datasources
deriving DecidableEq, Repr

/-- The file a change is written to. -/
def fileOf : StorageWrite → MapFile
  | .createModel _ | .updateModel .. | .deleteModel .. => .models
  | .createDatasource _ | .updateDatasource .. | .deleteDatasource _ => .datasources

/-- The critical section of a change, and whether its file is to be written. -/
def lockWrite (d : YamlDirectory) : StorageWrite → Res String Bool × YamlDirectory
  | .createModel model => let r := d.lock (·.createModel model); (r.1.map fun _ => true, r.2)
  | .updateModel name model => let r := d.lock (·.updateModel name model); (r.1.map fun _ => true, r.2)
  | .deleteModel name datasource => d.lock (·.deleteModel name datasource)
  | .createDatasource ds => let r := d.lock (·.createDatasource ds); (r.1.map fun _ => true, r.2)
  | .updateDatasource name ds => let r := d.lock (·.updateDatasource name ds); (r.1.map fun _ => true, r.2)
  | .deleteDatasource name => d.lock (·.deleteDatasource name)

def persist (yaml : FileYaml) (d : YamlDirectory) : MapFile → Res String Unit × YamlDirectory
  | .models => d.persistModels yaml
  | .datasources => d.persistDatasources yaml

theorem change_eq {α : Type} (d : YamlDirectory) (critical : YamlStorage → Res String α × YamlStorage)
    (changed : α → Bool) (persist : YamlDirectory → Res String Unit × YamlDirectory) :
    ((d.change critical changed persist).1.map (fun _ => ()), (d.change critical changed persist).2) =
      match ((d.lock critical).1.map changed, (d.lock critical).2) with
      | (.error e, d) => (.error e, d)
      | (.ok true, d) => persist d
      | (.ok false, d) => (.ok (), d) := by
  unfold change
  dsimp only
  cases (d.lock critical).1 with
  | error e => rfl
  | ok a =>
    simp only [Except.map]
    cases changed a with
    | false => rfl
    | true =>
      simp only [if_true]
      cases hwritten : (persist (d.lock critical).2).1 with
      | error e => exact Prod.ext hwritten.symm rfl
      | ok u => exact Prod.ext hwritten.symm rfl

/-- A change is its critical section, and then its file. -/
theorem write_eq (yaml : FileYaml) (toLowercase : String → String) (d : YamlDirectory) (w : StorageWrite) :
    (backend yaml toLowercase).write d w =
      match d.lockWrite w with
      | (.error e, d) => (.error e, d)
      | (.ok true, d) => d.persist yaml (fileOf w)
      | (.ok false, d) => (.ok (), d) := by
  have hid : ∀ r : Res String Bool, r.map id = r := by
    intro r
    cases r <;> rfl
  cases w with
  | createModel model => exact d.change_eq (·.createModel model) (fun _ => true) (persistModels yaml)
  | updateModel name model => exact d.change_eq (·.updateModel name model) (fun _ => true) (persistModels yaml)
  | deleteModel name datasource =>
    have hchange := d.change_eq (·.deleteModel name datasource) id (persistModels yaml)
    rw [hid] at hchange
    exact hchange
  | createDatasource ds => exact d.change_eq (·.createDatasource ds) (fun _ => true) (persistDatasources yaml)
  | updateDatasource name ds => exact d.change_eq (·.updateDatasource name ds) (fun _ => true) (persistDatasources yaml)
  | deleteDatasource name =>
    have hchange := d.change_eq (·.deleteDatasource name) id (persistDatasources yaml)
    rw [hid] at hchange
    exact hchange

/-! ## Tasks -/

/-- The directory, the tasks that wait for the lock, and the files still to be written by tasks
that have had it. -/
structure Tasks where
  dir : YamlDirectory
  waiting : List StorageWrite
  writing : List MapFile := []

/-- A file written without error, its records in the order in which the map yields them. -/
def Writes (yaml : FileYaml) (d d' : YamlDirectory) : MapFile → Prop
  | .models => ∃ order content, order.Perm (d.storage.models.items.map (·.2)) ∧ yaml.models.write order = .ok content ∧
      d' = { d with files := { d.files with models := some content } }
  | .datasources => ∃ order content, order.Perm (d.storage.datasources.items.map (·.2)) ∧
      yaml.datasources.write order = .ok content ∧ d' = { d with files := { d.files with datasources := some content } }

/-- The files that a task that has had the lock goes on to write. -/
def pending (w : StorageWrite) : Res String Bool → List MapFile
  | .ok true => [fileOf w]
  | _ => []

/-- One step of one of the tasks. -/
inductive Step (yaml : FileYaml) : Tasks → Tasks → Prop where
  | lock {d : YamlDirectory} {before after : List StorageWrite} {w : StorageWrite} {writing : List MapFile} :
      Step yaml ⟨d, before ++ w :: after, writing⟩
        ⟨(d.lockWrite w).2, before ++ after, pending w (d.lockWrite w).1 ++ writing⟩
  | persist {d d' : YamlDirectory} {waiting : List StorageWrite} {before after : List MapFile} {file : MapFile} :
      Writes yaml d d' file → Step yaml ⟨d, waiting, before ++ file :: after⟩ ⟨d', waiting, before ++ after⟩

theorem writeFile_ok {d d' : YamlDirectory} {put : Option String → YamlFiles} {content : String}
    (h : d.writeFile put content = (.ok (), d')) : d' = { d with files := put (some content) } := by
  unfold writeFile at h
  split at h
  · cases congrArg Prod.fst h
  · exact (congrArg Prod.snd h).symm

/-- `persist` without an error is such a write. -/
theorem writes_of_persist {yaml : FileYaml} {d d' : YamlDirectory} {file : MapFile} (h : d.persist yaml file = (.ok (), d')) :
    Writes yaml d d' file := by
  cases file with
  | models =>
    simp only [persist, persistModels] at h
    cases hcontent : yaml.models.write (d.storage.models.items.map (·.2)) with
    | error e => simp [hcontent] at h
    | ok content =>
      rw [hcontent] at h
      exact ⟨_, content, .refl _, hcontent, writeFile_ok h⟩
  | datasources =>
    simp only [persist, persistDatasources] at h
    cases hcontent : yaml.datasources.write (d.storage.datasources.items.map (·.2)) with
    | error e => simp [hcontent] at h
    | ok content =>
      rw [hcontent] at h
      exact ⟨_, content, .refl _, hcontent, writeFile_ok h⟩

/-- A call of the storage that nothing interrupts is a run of its task. -/
theorem run_of_write {yaml : FileYaml} {toLowercase : String → String} {d d' : YamlDirectory} {w : StorageWrite}
    (h : (backend yaml toLowercase).write d w = (.ok (), d')) :
    Relation.ReflTransGen (Step yaml) ⟨d, [w], []⟩ ⟨d', [], []⟩ := by
  have hlock : Step yaml ⟨d, [w], []⟩ ⟨(d.lockWrite w).2, [], pending w (d.lockWrite w).1⟩ := by
    have hstep := @Step.lock yaml d [] [] w []
    simpa only [List.nil_append, List.append_nil] using hstep
  rw [write_eq] at h
  generalize d.lockWrite w = locked at h hlock
  obtain ⟨changed, after⟩ := locked
  cases changed with
  | error e => cases congrArg Prod.fst h
  | ok changed =>
    apply Relation.ReflTransGen.head hlock
    cases changed with
    | false =>
      obtain rfl : after = d' := congrArg Prod.snd h
      apply Relation.ReflTransGen.refl
    | true =>
      apply Relation.ReflTransGen.single
      exact @Step.persist yaml after d' [] [] [] (fileOf w) (writes_of_persist h)

/-- The directory loads as what is in memory. -/
def Reloads (yaml : FileYaml) (d : YamlDirectory) : Prop :=
  ∃ t, load yaml d.files = .ok t ∧ ∀ key, t.storage.models.get key = d.storage.models.get key ∧
    t.storage.datasources.get key = d.storage.datasources.get key

/-- An update of a record that keeps its name. -/
def KeepsName : StorageWrite → Prop
  | .updateModel name model => model.name = name
  | .updateDatasource name ds => ds.name = name
  | _ => True

/-- Every record in memory stands under its own name. -/
def WellNamed (d : YamlDirectory) : Prop :=
  NamedKeys (·.name) d.storage.models ∧ NamedKeys (·.name) d.storage.datasources

/-- A file format that gives back what it wrote, and writes no blank file. -/
structure Faithful {α : Type} (codec : Codec (List α)) : Prop where
  roundTrips : codec.RoundTrips
  notBlank : ∀ l text, codec.write l = .ok text → Str.trim text ≠ ""

theorem Faithful.load {α : Type} {codec : Codec (List α)} (h : Faithful codec) {records : List α} {content : String}
    (hwrite : codec.write records = .ok content) : loadRecords codec (some content) = .ok records := by
  rw [loadRecords, if_neg (h.notBlank records content hwrite)]
  exact h.roundTrips records content hwrite

/-- A file holds the records of a map, or loads as the map. -/
def Synced {α : Type} (name : α → String) (codec : Codec (List α)) (content : Option String)
    (map : KeyedList (String × α) Prod.fst) : Prop :=
  ∃ records, loadRecords codec content = .ok records ∧
    (records.Perm (map.items.map (·.2)) ∨ ∀ key, (collectRecords name records).get key = map.get key)

/-- A synced file loads as its map exactly where the records stand under their names. -/
theorem Synced.reloads_iff {α : Type} {name : α → String} {codec : Codec (List α)} {content : Option String}
    {map : KeyedList (String × α) Prod.fst} (h : Synced name codec content map) :
    (∃ records, loadRecords codec content = .ok records ∧ ∀ key, (collectRecords name records).get key = map.get key) ↔
      NamedKeys name map := by
  constructor
  · rintro ⟨records, -, hget⟩
    exact namedKeys_of_get hget
  · intro hnamed
    obtain ⟨records, hload, hperm | hget⟩ := h
    · exact ⟨records, hload, hnamed.get_collect hperm⟩
    · exact ⟨records, hload, hget⟩

/-- What holds all along: a file is synced, or a task is still to write it. -/
structure Consistent (yaml : FileYaml) (files : YamlFiles) (s : Tasks) : Prop where
  models : .models ∈ s.writing ∨ Synced (·.name) yaml.models s.dir.files.models s.dir.storage.models
  datasources : .datasources ∈ s.writing ∨
    Synced (·.name) yaml.datasources s.dir.files.datasources s.dir.storage.datasources
  memories : s.dir.files.memories = files.memories
  priority : s.dir.files.priority = files.priority

/-- What a task does under the lock: no file changes, a map changes where its file is to be
written, and records keep standing under their names where the update keeps its own. -/
structure LockSpec (d : YamlDirectory) (w : StorageWrite) : Prop where
  files : (d.lockWrite w).2.files = d.files
  models : .models ∈ pending w (d.lockWrite w).1 ∨ (d.lockWrite w).2.storage.models = d.storage.models
  datasources : .datasources ∈ pending w (d.lockWrite w).1 ∨
    (d.lockWrite w).2.storage.datasources = d.storage.datasources
  named : KeepsName w → d.WellNamed → (d.lockWrite w).2.WellNamed

theorem LockSpec.of_same {d : YamlDirectory} {w : StorageWrite}
    (h : (d.lockWrite w).2 = { d with storage := { d.storage with writeError := none } }) : LockSpec d w where
  files := by rw [h]
  models := .inr (by rw [h])
  datasources := .inr (by rw [h])
  named _ hnamed := by
    rw [h]
    exact hnamed

/-- A change of the models, which is to be written. -/
theorem LockSpec.of_models {d : YamlDirectory} {w : StorageWrite} {map : KeyedList (String × StoredModel) Prod.fst}
    (hok : pending w (d.lockWrite w).1 = [.models])
    (h : (d.lockWrite w).2 = { d with storage := { d.storage with models := map, writeError := none } })
    (hmap : KeepsName w → NamedKeys (·.name) d.storage.models → NamedKeys (·.name) map) : LockSpec d w where
  files := by rw [h]
  models := .inl (by simp [hok])
  datasources := .inr (by rw [h])
  named hkeeps hnamed := by
    rw [h]
    exact ⟨hmap hkeeps hnamed.1, hnamed.2⟩

theorem LockSpec.of_datasources {d : YamlDirectory} {w : StorageWrite}
    {map : KeyedList (String × StoredDataSource) Prod.fst} (hok : pending w (d.lockWrite w).1 = [.datasources])
    (h : (d.lockWrite w).2 = { d with storage := { d.storage with datasources := map, writeError := none } })
    (hmap : KeepsName w → NamedKeys (·.name) d.storage.datasources → NamedKeys (·.name) map) : LockSpec d w where
  files := by rw [h]
  models := .inr (by rw [h])
  datasources := .inl (by simp [hok])
  named hkeeps hnamed := by
    rw [h]
    exact ⟨hnamed.1, hmap hkeeps hnamed.2⟩

theorem lockWrite_spec (d : YamlDirectory) (w : StorageWrite) : LockSpec d w := by
  cases w with
  | createModel model =>
    obtain ⟨-, -, hafter⟩ | ⟨-, hok, hafter⟩ := d.lock_createModel model
    · exact .of_same hafter
    · refine .of_models ?_ hafter fun _ hnamed => hnamed.insert model
      simp [lockWrite, hok, pending, fileOf, Except.map]
  | updateModel name model =>
    obtain ⟨-, -, hafter⟩ | ⟨-, hok, hafter⟩ := d.lock_updateModel name model
    · exact .of_same hafter
    · refine .of_models ?_ hafter fun (hkeeps : model.name = name) hnamed => hkeeps ▸ hnamed.insert model
      simp [lockWrite, hok, pending, fileOf, Except.map]
  | deleteModel name datasource =>
    obtain ⟨-, hafter⟩ | ⟨-, hok, hafter⟩ := d.lock_deleteModel name datasource
    · exact .of_same hafter
    · refine .of_models ?_ hafter fun _ hnamed => hnamed.erase name
      simp [lockWrite, hok, pending, fileOf]
  | createDatasource ds =>
    obtain ⟨-, -, hafter⟩ | ⟨-, hok, hafter⟩ := d.lock_createDatasource ds
    · exact .of_same hafter
    · refine .of_datasources ?_ hafter fun _ hnamed => hnamed.insert ds
      simp [lockWrite, hok, pending, fileOf, Except.map]
  | updateDatasource name ds =>
    obtain ⟨-, -, hafter⟩ | ⟨-, hok, hafter⟩ := d.lock_updateDatasource name ds
    · exact .of_same hafter
    · refine .of_datasources ?_ hafter fun (hkeeps : ds.name = name) hnamed => hkeeps ▸ hnamed.insert ds
      simp [lockWrite, hok, pending, fileOf, Except.map]
  | deleteDatasource name =>
    obtain ⟨-, hafter⟩ | ⟨-, hok, hafter⟩ := d.lock_deleteDatasource name
    · exact .of_same hafter
    · refine .of_datasources ?_ hafter fun _ hnamed => hnamed.erase name
      simp [lockWrite, hok, pending, fileOf]

/-! ## Steps and runs -/

variable {yaml : FileYaml} {files : YamlFiles} {s s' : Tasks}

/-- **A step keeps the files in step with the maps.** -/
theorem Consistent.step (hmodels : Faithful yaml.models) (hdatasources : Faithful yaml.datasources)
    (h : Consistent yaml files s) (hstep : Step yaml s s') : Consistent yaml files s' := by
  cases hstep with
  | @lock d before after w writing =>
    have hspec := d.lockWrite_spec w
    constructor
    · rcases hspec.models with hpending | hsame
      · exact .inl (List.mem_append_left _ hpending)
      · rcases h.models with hwriting | hsynced
        · exact .inl (List.mem_append_right _ hwriting)
        · refine .inr ?_
          rw [hspec.files, hsame]
          exact hsynced
    · rcases hspec.datasources with hpending | hsame
      · exact .inl (List.mem_append_left _ hpending)
      · rcases h.datasources with hwriting | hsynced
        · exact .inl (List.mem_append_right _ hwriting)
        · refine .inr ?_
          rw [hspec.files, hsame]
          exact hsynced
    · rw [hspec.files]
      exact h.memories
    · rw [hspec.files]
      exact h.priority
  | @persist d d' waiting before after file hwrites =>
    -- a file that is still to be written stays so, but for one writing of this one
    have hstays : ∀ file', file' ∈ before ++ file :: after → file' ≠ file → file' ∈ before ++ after := by
      intro file' hfile hne
      rcases List.mem_append.1 hfile with hfile | hfile
      · exact List.mem_append_left _ hfile
      · exact List.mem_append_right _ ((List.mem_cons.1 hfile).resolve_left hne)
    cases file with
    | models =>
      obtain ⟨order, content, hperm, hwrite, rfl⟩ := hwrites
      refine ⟨.inr ⟨order, hmodels.load hwrite, .inl hperm⟩, ?_, h.memories, h.priority⟩
      exact h.datasources.imp_left fun hfile => hstays _ hfile (by decide)
    | datasources =>
      obtain ⟨order, content, hperm, hwrite, rfl⟩ := hwrites
      refine ⟨?_, .inr ⟨order, hdatasources.load hwrite, .inl hperm⟩, h.memories, h.priority⟩
      exact h.models.imp_left fun hfile => hstays _ hfile (by decide)

theorem wellNamed_step (hkeeps : ∀ w ∈ s.waiting, KeepsName w) (hnamed : s.dir.WellNamed) (hstep : Step yaml s s') :
    (∀ w ∈ s'.waiting, KeepsName w) ∧ s'.dir.WellNamed := by
  cases hstep with
  | @lock d before after w writing =>
    refine ⟨fun w' hw' => hkeeps w' ?_, (d.lockWrite_spec w).named (hkeeps w (by simp)) hnamed⟩
    rcases List.mem_append.1 hw' with hw' | hw'
    · exact List.mem_append_left _ hw'
    · exact List.mem_append_right _ (List.mem_cons_of_mem _ hw')
  | @persist d d' waiting before after file hwrites =>
    refine ⟨hkeeps, ?_⟩
    cases file with
    | models =>
      obtain ⟨order, content, -, -, rfl⟩ := hwrites
      exact hnamed
    | datasources =>
      obtain ⟨order, content, -, -, rfl⟩ := hwrites
      exact hnamed

/-- A directory just loaded is consistent. -/
theorem consistent_of_load {d : YamlDirectory} (h : load yaml files = .ok d) (tasks : List StorageWrite) :
    Consistent yaml files ⟨d, tasks, []⟩ ∧ d.WellNamed := by
  simp only [load, Res.bind_eq_ok, pure, Except.pure, Except.ok.injEq] at h
  obtain ⟨models, hmodels, datasources, hdatasources, memories, -, priority, -, rfl⟩ := h
  refine ⟨⟨.inr ⟨models, hmodels, .inr fun _ => rfl⟩, .inr ⟨datasources, hdatasources, .inr fun _ => rfl⟩, rfl, rfl⟩, ?_⟩
  exact ⟨namedKeys_collectRecords _ models, namedKeys_collectRecords _ datasources⟩

/-- Once no file is to be written, the directory loads as its maps where they are well named. -/
theorem Consistent.reloads_iff {d : YamlDirectory} (h : Consistent yaml files s) (hloads : load yaml files = .ok d)
    (hdone : s.writing = []) : s.dir.Reloads yaml ↔ s.dir.WellNamed := by
  have hmodels := (h.models.resolve_left (by simp [hdone])).reloads_iff
  have hdatasources := (h.datasources.resolve_left (by simp [hdone])).reloads_iff
  simp only [load, Res.bind_eq_ok, pure, Except.pure, Except.ok.injEq] at hloads
  obtain ⟨-, -, -, -, memories, hmemories, priority, hpriority, -⟩ := hloads
  rw [WellNamed, ← hmodels, ← hdatasources, Reloads]
  simp only [load, Res.bind_eq_ok, pure, Except.pure, Except.ok.injEq, h.memories, h.priority]
  constructor
  · rintro ⟨t, ⟨models, hm, datasources, hd, _, -, _, -, rfl⟩, hget⟩
    exact ⟨⟨models, hm, fun key => (hget key).1⟩, datasources, hd, fun key => (hget key).2⟩
  · rintro ⟨⟨models, hm, hgetm⟩, datasources, hd, hgetd⟩
    exact ⟨_, ⟨models, hm, datasources, hd, memories, hmemories, priority, hpriority, rfl⟩,
      fun key => ⟨hgetm key, hgetd key⟩⟩

/-- **Files and memory**: once no task has a file to write, the directory loads as what is in memory
exactly where every record stands under its own name; and there it does where every update
keeps the name it is for. A call of the storage by itself is such a run. -/
theorem tasks_reload_iff (hmodels : Faithful yaml.models) (hdatasources : Faithful yaml.datasources) {d : YamlDirectory}
    (hloads : load yaml files = .ok d) {tasks : List StorageWrite} (hrun : Relation.ReflTransGen (Step yaml) ⟨d, tasks, []⟩ s)
    (hwriting : s.writing = []) :
    (s.dir.Reloads yaml ↔ s.dir.WellNamed) ∧ ((∀ w ∈ tasks, KeepsName w) → s.dir.Reloads yaml) ∧
      ∀ (toLowercase : String → String) (d d' : YamlDirectory) (w : StorageWrite),
        (backend yaml toLowercase).write d w = (.ok (), d') →
          Relation.ReflTransGen (Step yaml) ⟨d, [w], []⟩ ⟨d', [], []⟩ := by
  obtain ⟨hstart, hnamed⟩ := consistent_of_load hloads tasks
  have hconsistent : Consistent yaml files s := by
    clear hwriting
    induction hrun with
    | refl => exact hstart
    | tail _ hstep ih => exact ih.step hmodels hdatasources hstep
  have hiff := hconsistent.reloads_iff hloads hwriting
  refine ⟨hiff, fun hkeeps => hiff.2 ?_, fun _ _ _ _ => run_of_write⟩
  have hkept : (∀ w ∈ s.waiting, KeepsName w) ∧ s.dir.WellNamed := by
    clear hwriting hiff hconsistent
    induction hrun with
    | refl => exact ⟨hkeeps, hnamed⟩
    | tail _ hstep ih => exact wellNamed_step ih.1 ih.2 hstep
  exact hkept.2

end YamlDirectory

/-! ## An update under another name -/

namespace RenamedOrders

open YamlDirectory

def orders : StoredModel := { name := "orders", datasource := "shop" }

def sales : StoredModel := { orders with name := "sales" }

/-- `models.yaml` with one model. -/
def text (name : String) : String :=
  "- name: " ++ name ++ "\n  datasource: shop\n  description: null\n  measures: []\n  dimensions: []\n" ++
    "  time_dimensions: []\n  joins: []\n  sql: null\n  meta: \x7b\x7d\n"

/-- `serde_yaml` on a list of none or one of them. -/
def modelsCodec : Codec (List StoredModel) where
  write l := if l = [orders] then .ok (text "orders") else if l = [sales] then .ok (text "sales")
    else if l = [] then .ok "[]\n" else Res.fail "unknown"
  read t := if t = text "orders" then .ok [orders] else if t = text "sales" then .ok [sales] else .ok []

def emptyCodec {α : Type} : Codec (List α) where
  write l := if l.isEmpty then .ok "[]\n" else Res.fail "unknown"
  read _ := .ok []

def yaml : FileYaml := ⟨modelsCodec, emptyCodec, emptyCodec, emptyCodec⟩

theorem faithful_models : Faithful yaml.models := by
  constructor
  · intro l t h
    simp only [yaml, modelsCodec] at h ⊢
    split_ifs at h with horders hsales hempty
    · cases h
      rw [horders]
      decide +kernel
    · cases h
      rw [hsales]
      decide +kernel
    · cases h
      rw [hempty]
      decide +kernel
    · cases h
  · intro l t h
    simp only [yaml, modelsCodec] at h
    split_ifs at h
    · cases h
      decide +kernel
    · cases h
      decide +kernel
    · cases h
      decide +kernel
    · cases h

theorem faithful_datasources : Faithful yaml.datasources := by
  constructor
  · intro l t h
    cases l with
    | nil => rfl
    | cons a l => cases h
  · intro l t h
    cases l with
    | nil =>
      cases h
      decide +kernel
    | cons a l => cases h

def create : StorageWrite := .createModel orders

def rename : StorageWrite := .updateModel "orders" sales

/-- The directory with the model, and after its update under another name. -/
def created : YamlDirectory := { (({} : YamlDirectory).lockWrite create).2 with files := { models := some (text "orders") } }

def renamed : YamlDirectory := { (created.lockWrite rename).2 with files := { models := some (text "sales") } }

theorem run_create (rest : List StorageWrite) :
    Relation.ReflTransGen (Step yaml) ⟨{}, create :: rest, []⟩ ⟨created, rest, []⟩ := by
  apply Relation.ReflTransGen.head (@Step.lock yaml {} [] rest create [])
  apply Relation.ReflTransGen.single
  exact @Step.persist yaml _ created rest [] [] .models ⟨[orders], text "orders", .refl _, by decide +kernel, rfl⟩

theorem run_rename : Relation.ReflTransGen (Step yaml) ⟨{}, [create, rename], []⟩ ⟨renamed, [], []⟩ := by
  apply (run_create [rename]).trans
  apply Relation.ReflTransGen.head (@Step.lock yaml created [] [] rename [])
  apply Relation.ReflTransGen.single
  exact @Step.persist yaml _ renamed [] [] [] .models ⟨[sales], text "sales", .refl _, by decide +kernel, rfl⟩

end RenamedOrders

open RenamedOrders YamlDirectory in
/-- Two tasks one after the other: the model is in memory under the name it was created with,
and under its other name after a restart. -/
theorem renamed_model_moves :
    Relation.ReflTransGen (Step yaml) ⟨{}, [create, rename], []⟩ ⟨renamed, [], []⟩ ∧
      renamed.storage.getModel "orders" none = .ok (some sales) ∧
      (load yaml renamed.files).map (fun t => (t.storage.getModel "orders" none, t.storage.getModel "sales" none)) =
        .ok (.ok none, .ok (some sales)) ∧
      ¬renamed.Reloads yaml := by
  have hmemory : renamed.storage.getModel "orders" none = .ok (some sales) := by decide +kernel
  have hrestarted : (load yaml renamed.files).map
      (fun t => (t.storage.getModel "orders" none, t.storage.getModel "sales" none)) = .ok (.ok none, .ok (some sales)) := by
    decide +kernel
  refine ⟨run_rename, hmemory, hrestarted, ?_⟩
  rintro ⟨t, hload, hget⟩
  have hsame : t.storage.getModel "orders" none = renamed.storage.getModel "orders" none := by
    simp only [YamlStorage.getModel, (hget "orders").1]
  rw [hload] at hrestarted
  have hgone := congrArg Prod.fst (Except.ok.inj hrestarted)
  cases hgone.symm.trans (hsame.trans hmemory)

open RenamedOrders YamlDirectory in
/-- A creation, written down. -/
theorem YamlDirectory.tasks_reload_iff_created : created.Reloads yaml := by
  apply (@tasks_reload_iff yaml {} ⟨created, [], []⟩ faithful_models faithful_datasources {} rfl [create]
    (run_create []) rfl).2.1
  intro w hw
  rw [List.mem_singleton.1 hw]
  trivial

end GraphNight
