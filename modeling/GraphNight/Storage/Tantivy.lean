import Mathlib.Algebra.Order.Ring.Rat
import GraphNight.Lib.Str
import GraphNight.Storage.Backend

/-!
# Tantivy storage (`graphnight-storage/src/tantivy.rs`)

The models in memory and the documents of the index. A document that is added is searched from the
next commit on; no call takes one out again. How Tantivy reads a query and scores documents is a
parameter. A failure to open the index for a search is left out, as are datasources, memories and
what is read back from the files.
-/

namespace GraphNight

/-- A document of the index. -/
structure Document where
  modelName : String
  datasource : String
  description : String
  measures : String
  dimensions : String
  timeDimensions : String
  content : String
deriving DecidableEq, Repr

/-- What surrounds a call: whether its thread may block, and what the writes fail with. -/
structure Surroundings where
  mayBlock : Bool := true
  addError : Option String := none
  commitError : Option String := none
  writeError : Option String := none

structure TantivyStorage where
  models : KeyedList (String × StoredModel) Prod.fst := .empty
  /-- The committed documents. -/
  index : List Document := []
  /-- Those added since the last commit. -/
  pending : List Document := []

namespace TantivyStorage

/-- The document of a model. -/
def document (model : StoredModel) : Document :=
  let measures := Str.join " " (model.measures.map (·.formula.expression))
  let dimensions := Str.join " " (model.dimensions.map (·.name))
  let timeDimensions := Str.join " " (model.timeDimensions.map (·.dimension))
  let description := model.description.getD ""
  { modelName := model.name
    datasource := model.datasource
    description
    measures
    dimensions
    timeDimensions
    content := model.name ++ " " ++ description ++ " " ++ measures ++ " " ++ dimensions ++ " " ++ timeDimensions }

variable (w : Surroundings) (s : TantivyStorage)

/-- `index_model_sync`: `blocking_write` panics on a thread that drives asynchronous tasks. -/
def indexModelSync (model : StoredModel) : Res String Unit × TantivyStorage :=
  if w.mayBlock then
    match w.addError with
    | some e => (Res.fail ("Tantivy error: " ++ e), s)
    | none =>
      let pending := s.pending ++ [document model]
      match w.commitError with
      | some e => (Res.fail ("Tantivy error: " ++ e), { s with pending })
      | none => (.ok (), { s with index := s.index ++ pending, pending := [] })
  else (.error .panic, s)

/-- `persist_models`, which ends a change. -/
def persist {α : Type} (a : α) : Res String α × TantivyStorage :=
  match w.writeError with
  | some e => (Res.fail e, s)
  | none => (.ok a, s)

def createModel (model : StoredModel) : Res String StoredModel × TantivyStorage :=
  if (s.models.get model.name).isSome then (Res.fail ("Model already exists: " ++ model.name), s)
  else
    match indexModelSync w s model with
    | (.error e, s) => (.error e, s)
    | (.ok _, s) => persist w { s with models := s.models.insert (model.name, model) } model

def updateModel (name : String) (model : StoredModel) : Res String StoredModel × TantivyStorage :=
  if (s.models.get name).isSome then
    match indexModelSync w s model with
    | (.error e, s) => (.error e, s)
    | (.ok _, s) => persist w { s with models := s.models.insert (name, model) } model
  else (Res.fail ("Model not found: " ++ name), s)

/-- The model a deletion takes. -/
def deletes (name : String) (datasource : Option String) : Bool :=
  match datasource with
  | some ds => ((s.models.get name).map fun entry => entry.2.datasource == ds).getD false
  | none => (s.models.get name).isSome

def deleteModel (name : String) (datasource : Option String) : Res String Bool × TantivyStorage :=
  if deletes s name datasource then persist w { s with models := s.models.erase name } true else (.ok false, s)

/-- `index_model`. -/
def indexModel (model : StoredModel) : Res String Unit × TantivyStorage := indexModelSync w s model

/-- A query as Tantivy reads it: the score of a document among all, if it matches. -/
abbrev Query := List Document → Document → Option Rat

/-- The hit a document makes. -/
def hit (found : Document × Rat) : SearchResult :=
  ⟨found.1.modelName, found.1.datasource, found.2, ["content"], found.1.description⟩

/-- `search`: the best documents, of those as good in the order they were added. `TopDocs` panics without a limit. -/
def search (parseQuery : String → Except String Query) (query : String) (limit : Nat) : Res String (List SearchResult) :=
  match parseQuery query with
  | .error e => Res.fail ("Tantivy query parser error: " ++ e)
  | .ok score =>
    if limit = 0 then .error .panic
    else
      let found := s.index.filterMap fun doc => (score s.index doc).map fun value => (doc, value)
      .ok (((found.mergeSort fun a b => b.2 ≤ a.2).take limit).map hit)

/-- The call of a change. -/
inductive Call where
  | createModel (model : StoredModel)
  | updateModel (name : String) (model : StoredModel)
  | deleteModel (name : String) (datasource : Option String)
  | indexModel (model : StoredModel)
deriving DecidableEq, Repr

/-- The state behind a call. -/
def after : Call → TantivyStorage
  | .createModel model => (createModel w s model).2
  | .updateModel name model => (updateModel w s name model).2
  | .deleteModel name datasource => (deleteModel w s name datasource).2
  | .indexModel model => (indexModel w s model).2

/-- The state behind a run of calls, each in its surroundings. -/
def run (s : TantivyStorage) (calls : List (Surroundings × Call)) : TantivyStorage :=
  calls.foldl (fun s call => after call.1 s call.2) s

/-- A storage that is opened with the models of its file: each is added to the index and to the map. -/
def opened (models : List StoredModel) : TantivyStorage :=
  models.foldl (fun s model =>
    { s with index := s.index ++ [document model], models := s.models.insert (model.name, model) }) {}

/-! ## A mirror of the models -/

/-- The documents of the index are those of models that exist, one for each at most. -/
structure Mirrors (s : TantivyStorage) : Prop where
  settled : s.pending = []
  distinct : (s.index.map (·.modelName)).Nodup
  current : ∀ doc ∈ s.index, ∃ model, s.models.get doc.modelName = some (doc.modelName, model) ∧
    doc.datasource = model.datasource ∧ doc.description = model.description.getD ""

/-- The hits of every search name models as they are, each once. -/
def Mirrored (s : TantivyStorage) : Prop :=
  ∀ parseQuery query limit hits, search s parseQuery query limit = .ok hits →
    (hits.map (·.modelName)).Nodup ∧
      ∀ found ∈ hits, ∃ model, s.models.get found.modelName = some (found.modelName, model) ∧
        found.datasource = model.datasource ∧ found.snippet = model.description.getD ""

variable {w : Surroundings} {s : TantivyStorage}

/-- The documents a query finds are documents of the index, in their order. -/
theorem map_found (score : Document → Option Rat) (index : List Document) :
    (index.filterMap fun doc => (score doc).map fun value => (doc, value)).map (·.1) = index.filter fun doc => (score doc).isSome := by
  induction index with
  | nil => rfl
  | cons doc index ih =>
    rw [List.filterMap_cons, List.filter_cons]
    cases score doc with
    | none => exact ih
    | some value => exact congrArg (doc :: ·) ih

/-- **A mirror is what searches need.** -/
theorem Mirrors.mirrored (h : Mirrors s) : Mirrored s := by
  intro parseQuery query limit hits hsearch
  unfold search at hsearch
  cases hparse : parseQuery query with
  | error e =>
    rw [hparse] at hsearch
    cases hsearch
  | ok score =>
    rw [hparse] at hsearch
    dsimp only at hsearch
    split at hsearch
    · cases hsearch
    · obtain rfl := Except.ok.inj hsearch
      generalize hfound : (s.index.filterMap fun doc => (score s.index doc).map fun value => (doc, value)) = found
      have hdocs := map_found (score s.index) s.index
      rw [hfound] at hdocs
      constructor
      · -- a selection of the documents, in another order
        have hselected : ((found.map (·.1)).map (·.modelName)).Nodup := by
          rw [hdocs]
          exact h.distinct.sublist (List.filter_sublist.map _)
        have hsorted : ((found.mergeSort fun a b => b.2 ≤ a.2).map (·.1.modelName)).Nodup := by
          rw [((List.mergeSort_perm found _).map (·.1.modelName)).nodup_iff]
          rwa [List.map_map] at hselected
        rw [List.map_map, List.map_take]
        exact hsorted.sublist (List.take_sublist _ _)
      · intro result hresult
        obtain ⟨e, he, rfl⟩ := List.mem_map.1 hresult
        have hmem : e ∈ found := List.mem_mergeSort.1 (List.mem_of_mem_take he)
        have hdoc : e.1 ∈ s.index := by
          have hfirst : e.1 ∈ found.map (·.1) := List.mem_map_of_mem hmem
          rw [hdocs] at hfirst
          exact List.mem_of_mem_filter hfirst
        exact h.current e.1 hdoc

/-! ## Runs -/

/-- A call that gets through to the index adds a document and takes none out. -/
def Clean (w : Surroundings) (s : TantivyStorage) : Call → Prop
  | .createModel model => (s.models.get model.name).isSome = true ∨ w.mayBlock = false ∨ w.addError ≠ none ∨ w.commitError = none
  | .updateModel name _ => (s.models.get name).isSome = false ∨ w.mayBlock = false ∨ w.addError ≠ none
  | .deleteModel name datasource => deletes s name datasource = false
  | .indexModel _ => w.mayBlock = false ∨ w.addError ≠ none

theorem persist_snd {α : Type} (a : α) : (persist w s a).2 = s := by
  unfold persist
  split <;> rfl

/-- A call that does not reach the index changes nothing. -/
theorem indexModelSync_refused (h : w.mayBlock = false ∨ w.addError ≠ none) (model : StoredModel) :
    ∃ e, indexModelSync w s model = (.error e, s) := by
  unfold indexModelSync
  cases hblock : w.mayBlock with
  | false => exact ⟨.panic, rfl⟩
  | true =>
    cases hadd : w.addError with
    | none => exact absurd hadd (h.resolve_left (by simp [hblock]))
    | some e => exact ⟨.err ("Tantivy error: " ++ e), rfl⟩

theorem indexModelSync_ok (hblock : w.mayBlock = true) (hadd : w.addError = none) (hcommit : w.commitError = none) (hsettled : s.pending = [])
    (model : StoredModel) : indexModelSync w s model = (.ok (), { s with index := s.index ++ [document model] }) := by
  unfold indexModelSync
  rw [hblock, hadd, hcommit]
  obtain ⟨models, index, pending⟩ := s
  obtain rfl : pending = [] := hsettled
  rfl

/-- **A new model with its document keeps the mirror.** -/
theorem Mirrors.add (h : Mirrors s) {model : StoredModel} (hnew : (s.models.get model.name).isSome = false) :
    Mirrors { s with index := s.index ++ [document model], models := s.models.insert (model.name, model) } := by
  have hnone : s.models.get model.name = none := by simpa using hnew
  have hfresh : ∀ doc ∈ s.index, doc.modelName ≠ model.name := by
    intro doc hdoc heq
    obtain ⟨_, hget, -⟩ := h.current doc hdoc
    rw [heq, hnone] at hget
    cases hget
  refine ⟨h.settled, ?_, ?_⟩
  · rw [List.map_append, List.nodup_append]
    refine ⟨h.distinct, List.nodup_singleton _, fun name hname name' hname' => ?_⟩
    obtain ⟨doc, hdoc, rfl⟩ := List.mem_map.1 hname
    obtain rfl : name' = model.name := List.mem_singleton.1 hname'
    exact hfresh doc hdoc
  · intro doc hdoc
    rcases List.mem_append.1 hdoc with hold | hadded
    · obtain ⟨old, hget, htexts⟩ := h.current doc hold
      refine ⟨old, ?_, htexts⟩
      rw [KeyedList.get_insert, if_neg fun heq => hfresh doc hold heq.symm]
      exact hget
    · obtain rfl : doc = document model := List.mem_singleton.1 hadded
      refine ⟨model, ?_, rfl, rfl⟩
      rw [KeyedList.get_insert]
      exact if_pos rfl

/-- **A clean call keeps the mirror.** -/
theorem Mirrors.after (h : Mirrors s) {call : Call} (hclean : Clean w s call) : Mirrors (after w s call) := by
  cases call with
  | createModel model =>
    show Mirrors (TantivyStorage.createModel w s model).2
    unfold TantivyStorage.createModel
    split
    · exact h
    · next hnew =>
      rcases hclean with hexists | hrefused | hrefused | hcommit
      · exact absurd hexists hnew
      · obtain ⟨e, hindex⟩ := @indexModelSync_refused w s (.inl hrefused) model
        rw [hindex]
        exact h
      · obtain ⟨e, hindex⟩ := @indexModelSync_refused w s (.inr hrefused) model
        rw [hindex]
        exact h
      · by_cases hreached : w.mayBlock = true ∧ w.addError = none
        · rw [indexModelSync_ok hreached.1 hreached.2 hcommit h.settled]
          dsimp only
          rw [persist_snd]
          exact h.add (by simpa using hnew)
        · obtain ⟨e, hindex⟩ := @indexModelSync_refused w s (by
            cases hblock : w.mayBlock with
            | false => exact .inl rfl
            | true => exact .inr fun hadd => hreached ⟨hblock, hadd⟩) model
          rw [hindex]
          exact h
  | updateModel name model =>
    show Mirrors (TantivyStorage.updateModel w s name model).2
    unfold TantivyStorage.updateModel
    split
    · next hexists =>
      obtain ⟨e, hindex⟩ := @indexModelSync_refused w s (hclean.resolve_left (by simp [hexists])) model
      rw [hindex]
      exact h
    · exact h
  | deleteModel name datasource =>
    have hnone : deletes s name datasource = false := hclean
    show Mirrors (TantivyStorage.deleteModel w s name datasource).2
    unfold TantivyStorage.deleteModel
    rw [hnone]
    exact h
  | indexModel model =>
    show Mirrors (indexModelSync w s model).2
    obtain ⟨e, hindex⟩ := @indexModelSync_refused w s hclean model
    rw [hindex]
    exact h

theorem Mirrors.addAll {models : List StoredModel} (h : Mirrors s) (hdistinct : (models.map (·.name)).Nodup)
    (hnew : ∀ model ∈ models, (s.models.get model.name).isSome = false) :
    Mirrors (models.foldl (fun s model =>
      { s with index := s.index ++ [document model], models := s.models.insert (model.name, model) }) s) := by
  induction models generalizing s with
  | nil => exact h
  | cons model models ih =>
    obtain ⟨hother, hdistinct⟩ := List.nodup_cons.1 hdistinct
    refine ih (h.add (hnew model List.mem_cons_self)) hdistinct fun other hmem => ?_
    have hne : model.name ≠ other.name := by
      intro heq
      exact hother (List.mem_map.2 ⟨other, hmem, heq.symm⟩)
    rw [KeyedList.get_insert, if_neg hne]
    exact hnew other (List.mem_cons_of_mem _ hmem)

/-- A file without duplicate names opens as a mirror. -/
theorem mirrors_opened {models : List StoredModel} (h : (models.map (·.name)).Nodup) : Mirrors (opened models) :=
  Mirrors.addAll ⟨rfl, List.nodup_nil, fun _ hdoc => absurd hdoc List.not_mem_nil⟩ h fun _ _ => rfl

/-- Every call of a run is clean where it is made. -/
def CleanRun : TantivyStorage → List (Surroundings × Call) → Prop
  | _, [] => True
  | s, call :: calls => Clean call.1 s call.2 ∧ CleanRun (TantivyStorage.after call.1 s call.2) calls

theorem Mirrors.run (h : Mirrors s) {calls : List (Surroundings × Call)} (hclean : CleanRun s calls) (n : Nat) :
    Mirrors (run s (calls.take n)) := by
  induction calls generalizing s n with
  | nil =>
    rw [List.take_nil]
    exact h
  | cons call calls ih =>
    cases n with
    | zero => exact h
    | succ n => exact ih (h.after hclean.1) hclean.2 n

/-- **The index mirrors the store behind every call of a clean run.** -/
theorem mirrored_of_cleanRun {models : List StoredModel} (hdistinct : (models.map (·.name)).Nodup) {calls : List (Surroundings × Call)}
    (hclean : CleanRun (opened models) calls) (n : Nat) : Mirrored (run (opened models) (calls.take n)) :=
  ((mirrors_opened hdistinct).run hclean n).mirrored

/-! ## A model that changes -/

def orders : StoredModel := { name := "orders", datasource := "shop", description := some "every order" }

def paidOrders : StoredModel := { orders with description := some "every paid order" }

def customers : StoredModel := { name := "customers", datasource := "shop" }

/-- A model is added, and another cannot be indexed. -/
def additions : List (Surroundings × Call) := [({}, .createModel customers), ({ mayBlock := false }, .indexModel paidOrders)]

theorem mirrored_added : Mirrored (run (opened [orders]) (additions.take 2)) := by
  have hclean : CleanRun (opened [orders]) additions :=
    ⟨Or.inr (Or.inr (Or.inr rfl)), Or.inl rfl, trivial⟩
  have hdistinct : ([orders].map (·.name)).Nodup := List.nodup_singleton _
  exact mirrored_of_cleanRun hdistinct hclean 2

/-- Every document matches as well as every other. -/
def everything (_ : String) : Except String Query := .ok fun _ _ => some 1

/-- A model that was updated is found twice, once as it was before; one that was deleted is still found. -/
theorem updated_model_found_twice :
    (let s := run (opened [orders]) [({}, .updateModel "orders" paidOrders)]
     s.models.get "orders" = some ("orders", paidOrders) ∧
       search s everything "orders" 10 = .ok
         [⟨"orders", "shop", 1, ["content"], "every order"⟩, ⟨"orders", "shop", 1, ["content"], "every paid order"⟩] ∧
       ¬Mirrored s) ∧
      let s := run (opened [orders]) [({ mayBlock := false }, .deleteModel "orders" none)]
      s.models.get "orders" = none ∧
        search s everything "orders" 10 = .ok [⟨"orders", "shop", 1, ["content"], "every order"⟩] ∧ ¬Mirrored s := by
  have htwice : search (run (opened [orders]) [({}, .updateModel "orders" paidOrders)]) everything "orders" 10 = .ok
      [⟨"orders", "shop", 1, ["content"], "every order"⟩, ⟨"orders", "shop", 1, ["content"], "every paid order"⟩] := by
    show Except.ok (((List.mergeSort [(document orders, (1 : Rat)), (document paidOrders, 1)] fun a b => b.2 ≤ a.2).take 10).map hit) = _
    rw [List.mergeSort_of_pairwise (by simp)]
    rfl
  have hghost : search (run (opened [orders]) [({ mayBlock := false }, .deleteModel "orders" none)]) everything "orders" 10 = .ok
      [⟨"orders", "shop", 1, ["content"], "every order"⟩] := by
    show Except.ok (((List.mergeSort [(document orders, (1 : Rat))] fun a b => b.2 ≤ a.2).take 10).map hit) = _
    rw [List.mergeSort_singleton]
    rfl
  refine ⟨⟨rfl, htwice, fun h => ?_⟩, rfl, hghost, fun h => ?_⟩
  · exact absurd (h everything "orders" 10 _ htwice).1 (by decide)
  · obtain ⟨model, hget, -⟩ := (h everything "orders" 10 _ hghost).2 _ List.mem_cons_self
    cases hget

end TantivyStorage

end GraphNight
