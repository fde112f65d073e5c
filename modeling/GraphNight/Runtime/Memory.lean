import Mathlib.Algebra.Order.Ring.Rat
import GraphNight.Runtime.Governance
import GraphNight.Storage.Backend

/-!
# Agent memory (`graphnight-runtime/src/memory.rs`)

A typed view over the stored row: kind, importance and scope live in the row's free-form
map. What `f32` arithmetic rounds to, and how such a number is written to JSON and read
back, is a parameter. The clock and the fresh id a record is given are arguments.
-/

namespace GraphNight

/-- Typed classification of a memory. -/
inductive MemoryKind where
  | learning | fact | episode | decision | error
deriving DecidableEq, Repr

namespace MemoryKind

def parse (s : Option String) : MemoryKind :=
  match Str.toAsciiLowercase (s.getD "") with
  | "fact" => fact
  | "episode" => episode
  | "decision" => decision
  | "error" => error
  | _ => learning

def asStr : MemoryKind → String
  | learning => "learning"
  | fact => "fact"
  | episode => "episode"
  | decision => "decision"
  | error => "error"

end MemoryKind

/-- Who a memory belongs to. -/
inductive MemoryScope where
  | global
  | tenant (id : String)
  | user (id : String)
deriving DecidableEq, Repr

namespace MemoryScope

def asStr : MemoryScope → String
  | global => "global"
  | tenant _ => "tenant"
  | user _ => "user"

/-- Whether a caller may read a memory in this scope. -/
def visibleTo (ctx : CallContext) : MemoryScope → Bool
  | global => true
  | tenant t => ctx.tenantId == some t
  | user u => ctx.userId == some u

def scopeId : MemoryScope → Option String
  | global => none
  | tenant t | user t => some t

end MemoryScope

/-- The `f32` numbers: the one a number is rounded to, how one is written to JSON, and the one
`as_f64` reads in a JSON number. -/
structure F32 where
  round : Rat → Rat
  write : Rat → String
  read : String → Rat

/-- A typed view over a stored memory row. -/
structure MemoryRecord where
  id : String
  text : String
  linkedEntities : List String
  kind : MemoryKind
  /-- 0.0–1.0. -/
  importance : Rat
  scope : MemoryScope
  description : Option String
  createdAt : Int
  updatedAt : Int
deriving DecidableEq, Repr

/-- `m.meta.get(key).and_then(as_str)`. -/
def Memory.metaStr (m : Memory) (key : String) : Option String := (m.metadata.get key).bind (·.2.asStr)

namespace MemoryRecord

def metaKind : String := "gn_kind"

def metaImportance : String := "gn_importance"

def metaScope : String := "gn_scope"

def metaScopeId : String := "gn_scope_id"

/-- The scope of a row: an absent one means a row of the first version, which is global. -/
def scopeOf (m : Memory) : MemoryScope :=
  match m.metaStr metaScope with
  | some "tenant" => .tenant ((m.metaStr metaScopeId).getD "")
  | some "user" => .user ((m.metaStr metaScopeId).getD "")
  | _ => .global

/-- Read a record out of a row, defaulting anything absent. -/
def fromStorage (f : F32) (m : Memory) : MemoryRecord where
  id := m.id
  text := m.learning
  linkedEntities := m.linkedEntities
  kind := MemoryKind.parse (m.metaStr metaKind)
  importance :=
    match m.metadata.get metaImportance with
    | some (_, .number text) => f.read text
    | _ => 1 / 2
  scope := scopeOf m
  description := m.description
  createdAt := m.createdAt
  updatedAt := m.updatedAt

/-- The free-form map of a record. -/
def metaOf (f : F32) (r : MemoryRecord) : KeyedList (String × Value) Prod.fst :=
  let entries : List (String × Value) :=
    [(metaKind, .string r.kind.asStr), (metaImportance, .number (f.write r.importance)),
      (metaScope, .string r.scope.asStr)]
  .ofList (entries ++ (r.scope.scopeId.map fun id => (metaScopeId, Value.string id)).toList)

/-- Project back down to the row shape for persistence. -/
def toStorage (f : F32) (r : MemoryRecord) : Memory where
  id := r.id
  learning := r.text
  linkedEntities := r.linkedEntities
  description := r.description
  createdAt := r.createdAt
  updatedAt := r.updatedAt
  metadata := metaOf f r

/-- The caller's own scope, so a memory is never broadcast by omission. -/
def ownScope (ctx : CallContext) : MemoryScope :=
  match ctx.tenantId, ctx.userId with
  | _, some u => .user u
  | some t, none => .tenant t
  | none, none => .global

/-- Build a record from an agent's `remember` tool input. -/
def fromAgentInput (text : String) (linkedEntities : List String) (kind : Option String)
    (importance : Option Rat) (description : Option String) (ctx : CallContext) (id : String) (now : Int) :
    Res ServiceError MemoryRecord :=
  let text := Str.trim text
  if text = "" then Res.fail (.invalid "memory text must not be empty")
  else .ok {
    id
    text
    linkedEntities := linkedEntities.filter fun e => Str.trim e ≠ ""
    kind := MemoryKind.parse kind
    -- clamped, not rejected
    importance := max 0 (min 1 (importance.getD (1 / 2)))
    scope := ownScope ctx
    description
    createdAt := now
    updatedAt := now }

/-- Importance, the share of the query's terms that occur, and a mild recency tiebreak, each sum and each
quotient rounded. -/
def rankScore (f : F32) (queryTerms : List String) (now : Int) (r : MemoryRecord) : Rat :=
  let score :=
    if queryTerms.isEmpty then r.importance
    else
      let haystack := Str.toAsciiLowercase (r.text ++ " " ++ Str.join " " r.linkedEntities)
      let hits := (queryTerms.filter fun t => Str.containsStr haystack (Str.toAsciiLowercase t)).length
      let share := f.round (f.round hits / f.round queryTerms.length)
      f.round (r.importance + f.round (share * 2))
  let ageDays : Int := max 0 ((now - r.createdAt).tdiv 86400)
  f.round (score + f.round (1 / f.round (1 + f.round ageDays)))

/-- Rank records, dropping any not visible to the caller. -/
def ranked (f : F32) (records : List MemoryRecord) (ctx : CallContext) (query : Option String) (now : Int) :
    List MemoryRecord :=
  let terms := (query.map fun q => Str.splitWhitespace (Str.toAsciiLowercase q)).getD []
  (records.filter fun r => r.scope.visibleTo ctx).mergeSort fun a b => rankScore f terms now b ≤ rankScore f terms now a

/-! ## What storage keeps of the scope -/

theorem metaStr_scope (f : F32) (r : MemoryRecord) : (r.toStorage f).metaStr metaScope = some r.scope.asStr := by
  have hget : (metaOf f r).get metaScope = some (metaScope, .string r.scope.asStr) := by
    refine KeyedList.get_ofList
      (l := [(metaKind, Value.string r.kind.asStr), (metaImportance, Value.number (f.write r.importance))])
      fun e he => ?_
    obtain ⟨id, -, rfl⟩ := Option.map_eq_some_iff.1 (Option.mem_toList.1 he)
    show metaScopeId ≠ metaScope
    decide
  show ((metaOf f r).get metaScope).bind _ = _
  rw [hget]
  rfl

theorem metaStr_scopeId (f : F32) (r : MemoryRecord) {id : String} (hid : r.scope.scopeId = some id) :
    (r.toStorage f).metaStr metaScopeId = some id := by
  have hget : (metaOf f r).get metaScopeId = some (metaScopeId, .string id) := by
    unfold metaOf
    rw [hid]
    exact KeyedList.get_ofList (r := []) (by simp)
  show ((metaOf f r).get metaScopeId).bind _ = _
  rw [hget]
  rfl

/-- **The scope survives storage.** -/
theorem scopeOf_toStorage (f : F32) (r : MemoryRecord) : scopeOf (r.toStorage f) = r.scope := by
  unfold scopeOf
  rw [metaStr_scope]
  cases hscope : r.scope with
  | global => rfl
  | tenant t =>
    have hid : (r.toStorage f).metaStr metaScopeId = some t := metaStr_scopeId f r (by rw [hscope]; rfl)
    simp only [MemoryScope.asStr, hid, Option.getD_some]
  | user u =>
    have hid : (r.toStorage f).metaStr metaScopeId = some u := metaStr_scopeId f r (by rw [hscope]; rfl)
    simp only [MemoryScope.asStr, hid, Option.getD_some]

/-- A record is built with its caller's scope and the id it is given. -/
theorem fromAgentInput_eq_ok {text : String} {linkedEntities : List String} {kind : Option String}
    {importance : Option Rat} {description : Option String} {ctx : CallContext} {id : String} {now : Int}
    {r : MemoryRecord}
    (h : fromAgentInput text linkedEntities kind importance description ctx id now = .ok r) :
    r.id = id ∧ r.scope = ownScope ctx := by
  unfold fromAgentInput at h
  dsimp only at h
  split_ifs at h
  · cases h
  · obtain rfl := Except.ok.inj h
    exact ⟨rfl, rfl⟩

theorem mem_ranked {f : F32} {records : List MemoryRecord} {ctx : CallContext} {query : Option String} {now : Int}
    {r : MemoryRecord} : r ∈ ranked f records ctx query now ↔ r ∈ records ∧ r.scope.visibleTo ctx = true := by
  rw [ranked, List.mem_mergeSort, List.mem_filter]

/-! ## What storage keeps of a record -/

theorem get_kind (f : F32) (r : MemoryRecord) : (metaOf f r).get metaKind = some (metaKind, .string r.kind.asStr) := by
  refine KeyedList.get_ofList (l := []) fun e he => ?_
  obtain rfl | rfl | he : e = (metaImportance, Value.number (f.write r.importance)) ∨ e = (metaScope, Value.string r.scope.asStr) ∨
      e ∈ (r.scope.scopeId.map fun id => (metaScopeId, Value.string id)).toList := by simpa using he
  · show metaImportance ≠ metaKind
    decide
  · show metaScope ≠ metaKind
    decide
  · obtain ⟨id, -, rfl⟩ := Option.map_eq_some_iff.1 (Option.mem_toList.1 he)
    show metaScopeId ≠ metaKind
    decide

theorem get_importance (f : F32) (r : MemoryRecord) :
    (metaOf f r).get metaImportance = some (metaImportance, .number (f.write r.importance)) := by
  refine KeyedList.get_ofList (l := [(metaKind, Value.string r.kind.asStr)]) fun e he => ?_
  obtain rfl | he : e = (metaScope, Value.string r.scope.asStr) ∨
      e ∈ (r.scope.scopeId.map fun id => (metaScopeId, Value.string id)).toList := by simpa using he
  · show metaScope ≠ metaImportance
    decide
  · obtain ⟨id, -, rfl⟩ := Option.map_eq_some_iff.1 (Option.mem_toList.1 he)
    show metaScopeId ≠ metaImportance
    decide

theorem parse_asStr (kind : MemoryKind) : MemoryKind.parse (some kind.asStr) = kind := by cases kind <;> decide

/-- **A record is read back from its row**, and a row that is rewritten stays visible to whom it was. -/
theorem fromStorage_toStorage (f : F32) :
    (∀ r : MemoryRecord, f.read (f.write r.importance) = r.importance → fromStorage f (r.toStorage f) = r) ∧
      ∀ (m : Memory) (ctx : CallContext),
        (fromStorage f ((fromStorage f m).toStorage f)).scope.visibleTo ctx = (fromStorage f m).scope.visibleTo ctx := by
  have hscope (r : MemoryRecord) : (fromStorage f (r.toStorage f)).scope = r.scope := scopeOf_toStorage f r
  constructor
  · intro r hexact
    have hkind : MemoryKind.parse ((r.toStorage f).metaStr metaKind) = r.kind := by
      show MemoryKind.parse (((metaOf f r).get metaKind).bind _) = _
      rw [get_kind]
      exact parse_asStr r.kind
    have himportance : (fromStorage f (r.toStorage f)).importance = r.importance := by
      show (match (metaOf f r).get metaImportance with
        | some (_, .number text) => f.read text
        | _ => 1 / 2) = _
      rw [get_importance]
      exact hexact
    calc
      fromStorage f (r.toStorage f) =
        { r with
          kind := MemoryKind.parse ((r.toStorage f).metaStr metaKind)
          importance := (fromStorage f (r.toStorage f)).importance
          scope := (fromStorage f (r.toStorage f)).scope } := rfl
      _ = r := by rw [hkind, himportance, hscope]
  · intro m ctx
    rw [hscope]

/-- A decision of one user, whose importance JSON holds exactly. -/
theorem fromStorage_toStorage_decision :
    let f : F32 := ⟨fun r => r, fun _ => "0.5", fun _ => 1 / 2⟩
    let r : MemoryRecord := ⟨"m1", "revenue is net", ["orders"], .decision, 1 / 2, .user "ana", none, 0, 0⟩
    fromStorage f (r.toStorage f) = r :=
  (fromStorage_toStorage ⟨fun r => r, fun _ => "0.5", fun _ => 1 / 2⟩).1
    ⟨"m1", "revenue is net", ["orders"], .decision, 1 / 2, .user "ana", none, 0, 0⟩ rfl

end MemoryRecord

end GraphNight
