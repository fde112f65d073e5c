import GraphNight.Core.RustStd
import GraphNight.Runtime.Governance

/-!
# Multi-stage queries (`graphnight-runtime/src/governance.rs`)

A pipeline of named queries: a stage may refer to one other stage, whose first row
becomes equality filters on it. Each stage runs through `execute`, once the one it
refers to has.
-/

namespace GraphNight

/-- `ExecuteOptions::dry_run`. -/
def ExecuteOptions.compile : ExecuteOptions := { dryRun := true, explain := true }

/-- `ExecuteOptions::executing`. -/
def ExecuteOptions.executing : ExecuteOptions := {}

namespace MultiStage

variable (std : RustStd)

/-- One pass over the stages still waiting: those that are ready, and the others. -/
def pass (stages : List (String × Query)) : List (String × Query) → List String → List (String × Query) →
    Res ServiceError (List String × List (String × Query))
  | [], resolved, waiting => .ok (resolved, waiting)
  | entry :: rest, resolved, waiting =>
    match entry.2.stageRef with
    | none => pass stages rest (resolved ++ [entry.1]) waiting
    | some reference =>
      if stages.any (·.1 == reference) then
        if resolved.contains reference then pass stages rest (resolved ++ [entry.1]) waiting
        else pass stages rest resolved (waiting ++ [entry])
      else
        Res.fail (.invalidQuery
          ("stage_ref " ++ std.debug reference ++ " does not name a stage in this pipeline"))

/-- Passes until nothing waits. A pass that leaves every stage waiting ends them, so
there are at most as many as stages. -/
def passes (stages : List (String × Query)) : Nat → List String → List (String × Query) →
    Res ServiceError (List String)
  | _, resolved, [] => .ok resolved
  | 0, _, _ :: _ => .error .panic
  | n + 1, resolved, entry :: rest => do
    let (resolved', waiting) ← pass std stages (entry :: rest) resolved []
    if resolved'.length = resolved.length then
      Res.fail (.invalidQuery
        ("cycle detected in multi-stage query: " ++ Str.join " -> " (waiting.map (·.1))))
    else passes stages n resolved' waiting

/-- Order stages so every `stage_ref` points at something already run. -/
def topologicalOrder (stages : List (String × Query)) : Res ServiceError (List String) :=
  passes std stages stages.length [] stages

/-- Turn a referenced stage's first row into equality filters on this stage. -/
def applyStageRef (query : Query) (previous : QueryOutcome) : Query :=
  match previous.data with
  | .object first :: _ =>
    let filters := (first.filter fun e => !(Str.containsChar e.1 ' ' || e.1 == "")).map fun e =>
      { field := e.1, operator := .eq, value := e.2 : Filter }
    { query with filters := query.filters ++ filters }
  | _ => query

/-- The place of every stage in the caller's order. -/
def positions : List (String × Query) → Nat → KeyedList (String × Nat) Prod.fst →
    Res ServiceError (KeyedList (String × Nat) Prod.fst)
  | [], _, m => .ok m
  | (name, _) :: rest, i, m =>
    if (m.get name).isSome then Res.fail (.invalidQuery ("duplicate stage name: " ++ name))
    else positions rest (i + 1) (m.insert (name, i))

/-- The outcomes of the stages run so far. -/
abbrev Outcomes := KeyedList (String × QueryOutcome) Prod.fst

/-- The query of a stage, with what it takes from the stage it refers to. -/
def prepare (stages : List (String × Query)) (byName : Outcomes) (name : String) : Res ServiceError Query :=
  match (stages.find? (·.1 == name)).map (·.2) with
  | none => .error .panic
  | some query => do
    let query ← match query.stageRef with
      | none => .ok query
      | some reference =>
        match byName.get reference with
        | none =>
          Res.fail (.invalidQuery ("stage_ref " ++ std.debug reference ++
            " does not name an earlier stage; known stages: " ++
            std.debugAll (std.hashOrder (byName.items.map (·.1)))))
        | some (_, previous) => .ok (applyStageRef query previous)
    if query.name = none ∧ query.sourceModel = none then .ok { query with name := some name } else .ok query

/-- The stages run one after the other, each outcome put in its place. -/
def run (host : Host) (ctx : CallContext) (stages : List (String × Query)) (position : KeyedList (String × Nat) Prod.fst)
    (options : ExecuteOptions) : List String → Outcomes → List (Option QueryOutcome) → QueryService →
    Res ServiceError (List (Option QueryOutcome)) × QueryService
  | [], _, out, s => (.ok out, s)
  | name :: order, byName, out, s =>
    match prepare std stages byName name with
    | .error e => (.error e, s)
    | .ok query =>
      let (result, s) := s.execute host ctx query options
      match result with
      | .error e => (.error e, s)
      | .ok outcome =>
        match position.get name with
        | none => (.error .panic, s)
        | some (_, i) =>
          run host ctx stages position options order (byName.insert (name, outcome)) (out.set i (some outcome)) s

/-- The order the stages are run in, and where their outcomes go. -/
def plan (stages : List (String × Query)) : Res ServiceError (List String × KeyedList (String × Nat) Prod.fst) :=
  if stages.isEmpty then Res.fail (.invalidQuery "no stages supplied")
  else do
    let order ← topologicalOrder std stages
    let position ← positions stages 0 .empty
    return (order, position)

end MultiStage

open MultiStage in
/-- Execute a pipeline of stages, returning results in caller order. -/
def QueryService.executeMultiStage (std : RustStd) (s : QueryService) (host : Host) (ctx : CallContext)
    (stages : List (String × Query)) (dryRun : Bool) : Res ServiceError (List QueryOutcome) × QueryService :=
  match plan std stages with
  | .error e => (.error e, s)
  | .ok (order, position) =>
    let options := if dryRun then ExecuteOptions.compile else ExecuteOptions.executing
    let (result, s) := run std host ctx stages position options order .empty (stages.map fun _ => none) s
    (result.map (·.filterMap id), s)

namespace MultiStage

variable (std : RustStd) (host : Host) (ctx : CallContext) (stages : List (String × Query))

/-- Running the stages leaves storage and everything of the engine but its cache alone. -/
theorem run_frame (position : KeyedList (String × Nat) Prod.fst) (options : ExecuteOptions) (order : List String)
    (byName : Outcomes) (out : List (Option QueryOutcome)) (s : QueryService) :
    (run std host ctx stages position options order byName out s).2.storage = s.storage ∧
      (run std host ctx stages position options order byName out s).2.sqlEngine.generator = s.sqlEngine.generator := by
  induction order generalizing byName out s with
  | nil => exact ⟨rfl, rfl⟩
  | cons name order ih =>
    rw [run]
    cases prepare std stages byName name with
    | error e => exact ⟨rfl, rfl⟩
    | ok query =>
      have hstep := s.execute_frame host ctx query options
      dsimp only
      cases (s.execute host ctx query options).1 with
      | error e => exact hstep
      | ok outcome =>
        dsimp only
        cases position.get name with
        | none => exact hstep
        | some place =>
          obtain ⟨hstorage, hgenerator⟩ := ih (byName.insert (name, outcome)) (out.set place.2 (some outcome))
            (s.execute host ctx query options).2
          exact ⟨hstorage.trans hstep.1, hgenerator.trans hstep.2⟩

end MultiStage

/-- A pipeline leaves storage and everything of the engine but its cache alone. -/
theorem QueryService.executeMultiStage_frame (std : RustStd) (s : QueryService) (host : Host) (ctx : CallContext)
    (stages : List (String × Query)) (dryRun : Bool) :
    (s.executeMultiStage std host ctx stages dryRun).2.storage = s.storage ∧
      (s.executeMultiStage std host ctx stages dryRun).2.sqlEngine.generator = s.sqlEngine.generator := by
  unfold executeMultiStage
  cases MultiStage.plan std stages with
  | error e => exact ⟨rfl, rfl⟩
  | ok planned => apply MultiStage.run_frame

end GraphNight
