import GraphNight.Lib.SelfLock
import GraphNight.Storage.YamlTasks

/-!
# Backup and restore of the YAML storage (`graphnight-storage/src/yaml.rs`)

A restore replaces each map under its write lock and writes the file before it gives the
lock back; writing the file takes the read lock of the same map.
-/

namespace GraphNight

/-- `StorageBackup`. -/
structure StorageBackup where
  version : String
  createdAt : Int
  models : List StoredModel
  datasources : List StoredDataSource
  memories : List Memory
  datasourcePriority : List String

namespace YamlDirectory

open SelfLock

/-- The locks of the storage. -/
inductive YamlLock where
  | models
  | datasources
  | memories
  | priority
deriving DecidableEq, Repr

variable (json : Codec StorageBackup) (yaml : FileYaml) (d : YamlDirectory)

/-- What the storage holds. -/
def backupOf (now : Int) : StorageBackup where
  version := "1"
  createdAt := now
  models := d.storage.models.items.map (·.2)
  datasources := d.storage.datasources.items.map (·.2)
  memories := d.storage.memories.items
  datasourcePriority := d.priority

/-- The text `backup` writes. -/
def backup (now : Int) : Res String String := json.write (d.backupOf now)

/-- A `persist_` call, with the lock it takes. -/
def persistLocked (lock : YamlLock) (persist : YamlDirectory → Res String Unit × YamlDirectory) :
    List (Action YamlLock YamlDirectory) :=
  [.acquire lock .read,
    .act fun d => match persist d with
      | (.ok (), d) => .ok d
      | (.error e, _) => .error e,
    .release lock .read]

/-- Replace a map under its write lock, and write its file. -/
def restoreMap (lock : YamlLock) (replace : YamlDirectory → YamlDirectory)
    (persist : YamlDirectory → Res String Unit × YamlDirectory) : List (Action YamlLock YamlDirectory) :=
  [.acquire lock .write, .act fun d => .ok (replace d)] ++ persistLocked lock persist ++ [.release lock .write]

/-- What `restore` does with a backup it has read. -/
def restoreActions (backup : StorageBackup) : List (Action YamlLock YamlDirectory) :=
  restoreMap .models (fun d => { d with storage := { d.storage with
      models := collectRecords (·.name) backup.models } }) (persistModels yaml) ++
    restoreMap .datasources (fun d => { d with storage := { d.storage with
      datasources := collectRecords (·.name) backup.datasources } }) (persistDatasources yaml) ++
    restoreMap .memories (fun d => { d with storage := { d.storage with
      memories := .ofList backup.memories } }) (persistMemories yaml) ++
    restoreMap .priority (fun d => { d with priority := backup.datasourcePriority }) (persistPriority yaml)

/-- Restore metadata from the text of a file. -/
def restore (text : String) : Outcome YamlLock YamlDirectory :=
  match json.read text with
  | .error e => .failed e d
  | .ok backup =>
    if backup.version ≠ "1" then
      .failed (.err ("Storage backend error: Unsupported backup version: " ++ backup.version)) d
    else run (restoreActions yaml backup) [] d

/-- The backup that a text holds, in a version that is supported. -/
def readBackup (text : String) : Option StorageBackup := (json.read text).toOption.filter (·.version == "1")

/-- Two storages with the same models, datasources, memories and priority. -/
structure SameContents (s : YamlDirectory) : Prop where
  models : ∀ key, d.storage.models.get key = s.storage.models.get key
  datasources : ∀ key, d.storage.datasources.get key = s.storage.datasources.get key
  memories : ∀ id, d.storage.memories.get id = s.storage.memories.get id
  priority : d.priority = s.priority

/-- What a restore should do: with the backup of a storage it completes, and what that storage
held is in memory and on disk; a text that is no backup it rejects, and touches nothing. -/
structure RestoresRight (text : String) : Prop where
  undoes : ∀ s now, backup json s now = .ok text → ∃ t, d.restore json yaml text = .done t ∧ t.SameContents s ∧
    ∃ u, load yaml t.files = .ok u ∧ u.SameContents s
  rejects : readBackup json text = none → ∃ e, d.restore json yaml text = .failed e d

variable {json yaml d}

/-- A map that is replaced under its lock: writing its file does not get the lock. -/
theorem run_restoreMap (lock : YamlLock) (replace : YamlDirectory → YamlDirectory)
    (persist : YamlDirectory → Res String Unit × YamlDirectory) (rest : List (Action YamlLock YamlDirectory)) :
    run (restoreMap lock replace persist ++ rest) [] d = .waits lock (replace d) := by
  simp only [restoreMap, persistLocked, List.cons_append, List.nil_append]
  rw [run_acquire_free, run]
  exact run_acquire_held .read (replace d) List.mem_cons_self

/-- **A restore waits for itself**: with the models replaced, it asks for the lock it holds. -/
theorem restore_waits {text : String} {backup : StorageBackup} (h : readBackup json text = some backup) :
    d.restore json yaml text = .waits .models { d with storage := { d.storage with
      models := collectRecords (·.name) backup.models } } := by
  obtain ⟨hread, hversion⟩ := Option.filter_eq_some_iff.1 h
  cases hjson : json.read text with
  | error e =>
    rw [hjson] at hread
    cases hread
  | ok backup' =>
    rw [hjson] at hread
    obtain rfl := Option.some.inj hread
    have hsupported : ¬backup'.version ≠ "1" := by simpa using hversion
    simp only [restore, hjson, if_neg hsupported, restoreActions, List.append_assoc]
    rw [run_restoreMap]

theorem restore_rejects {text : String} (h : readBackup json text = none) : ∃ e, d.restore json yaml text = .failed e d := by
  unfold restore
  cases hjson : json.read text with
  | error e => exact ⟨e, rfl⟩
  | ok backup =>
    have hversion : backup.version ≠ "1" := by
      simpa [readBackup, hjson, Except.toOption] using h
    exact ⟨_, if_pos hversion⟩

/-- The text of a backup is read as one. -/
theorem readBackup_backup (hjson : json.RoundTrips) {s : YamlDirectory} {now : Int} {text : String}
    (h : s.backup json now = .ok text) : readBackup json text = some (s.backupOf now) := by
  rw [readBackup, hjson (s.backupOf now) text h]
  rfl

/-- **A restore does what it should** with exactly the texts that are nobody's backup. -/
theorem restoresRight_iff (hjson : json.RoundTrips) {text : String} :
    d.RestoresRight json yaml text ↔ ∀ s now, backup json s now ≠ .ok text := by
  constructor
  · intro h s now hbackup
    obtain ⟨t, hdone, -⟩ := h.undoes s now hbackup
    rw [restore_waits (readBackup_backup hjson hbackup)] at hdone
    cases hdone
  · intro hno
    exact ⟨fun s now h => absurd h (hno s now), restore_rejects⟩

end YamlDirectory

/-! ## The backup of one model -/

namespace OrdersBackup

open RenamedOrders

/-- A storage with `orders` alone. -/
def shop : YamlDirectory := { storage := { models := .ofList [("orders", orders)] } }

def stored : StorageBackup := shop.backupOf 0

/-- Its backup as JSON. -/
def text : String :=
  "\x7b\n  \"version\": \"1\",\n  \"created_at\": \"1970-01-01T00:00:00Z\",\n  \"models\": [\n    \x7b\n" ++
    "      \"name\": \"orders\",\n      \"datasource\": \"shop\",\n      \"description\": null,\n" ++
    "      \"measures\": [],\n      \"dimensions\": [],\n      \"time_dimensions\": [],\n      \"joins\": [],\n" ++
    "      \"sql\": null,\n      \"meta\": \x7b\x7d\n    \x7d\n  ],\n  \"datasources\": [],\n" ++
    "  \"memories\": [],\n  \"datasource_priority\": []\n\x7d"

/-- What `serde_json` does with it. -/
def json : Codec StorageBackup where
  write b :=
    if b.version = "1" ∧ b.createdAt = 0 ∧ b.models = [orders] ∧ b.datasources = [] ∧ b.memories.isEmpty ∧
      b.datasourcePriority = [] then .ok text
    else Res.fail "unknown"
  read t := if t = text then .ok stored else Res.fail "expected value at line 1 column 1"

theorem roundTrips : json.RoundTrips := by
  intro b t h
  simp only [json] at h ⊢
  split_ifs at h with hstored
  · obtain ⟨hversion, hcreated, hmodels, hdatasources, hmemories, hpriority⟩ := hstored
    cases h
    rw [if_pos rfl]
    obtain ⟨version, createdAt, models, datasources, memories, priority⟩ := b
    simp only at hversion hcreated hmodels hdatasources hmemories hpriority
    obtain rfl : memories = [] := by simpa using hmemories
    subst hversion hcreated hmodels hdatasources hpriority
    rfl
  · cases h

end OrdersBackup

open OrdersBackup RenamedOrders YamlDirectory in
/-- The backup of `shop` is restored by a task that never ends, with the model in memory and
nothing on disk. -/
theorem restore_never_ends :
    shop.backup json 0 = .ok text ∧
      ({} : YamlDirectory).restore json yaml text = .waits .models { storage := { models := .ofList [("orders", orders)] } } ∧
      ¬({} : YamlDirectory).RestoresRight json yaml text := by
  have hbackup : shop.backup json 0 = .ok text := rfl
  have hrestore : ({} : YamlDirectory).restore json yaml text =
      .waits .models { storage := { models := .ofList [("orders", orders)] } } :=
    restore_waits (readBackup_backup roundTrips hbackup)
  refine ⟨hbackup, hrestore, fun h => ?_⟩
  obtain ⟨t, hdone, -⟩ := h.undoes shop 0 hbackup
  rw [hrestore] at hdone
  cases hdone

open OrdersBackup RenamedOrders YamlDirectory in
/-- A text that is no backup is rejected as it should be; that of `shop` is not restored. -/
theorem YamlDirectory.restoresRight_iff_texts :
    shop.RestoresRight json yaml "" ∧ ¬shop.RestoresRight json yaml text := by
  refine ⟨(restoresRight_iff roundTrips).2 fun s now hbackup => ?_, fun h =>
    (restoresRight_iff roundTrips).1 h shop 0 rfl⟩
  simp only [backup, json] at hbackup
  split_ifs at hbackup
  · exact absurd (Except.ok.inj hbackup) (by decide +kernel)
  · cases hbackup

end GraphNight
