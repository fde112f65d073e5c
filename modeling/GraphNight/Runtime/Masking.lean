import GraphNight.Runtime.Governance
import GraphNight.Sql.Executor
import GraphNight.Sql.Paging

/-!
# What masking leaves readable

Masks are applied to the rows that come back, under the names of the output columns,
and to strings only. A column of the model reaches the output through every SELECT
item whose expression reads it, under the name the query gives that item.
-/

namespace GraphNight

open QueryService SqlGenerator SqlText

/-! ## Masking one cell -/

/-- What the masks make of a cell: a string under the name of a mask is replaced. The
result is `none` when the mask panics. -/
def maskedCell (masks : List (String × MaskFn)) (name : String) (cell : Value) : Option Value :=
  match (masks.find? (·.1 == name)).map (·.2), cell with
  | some mask, .string s => (mask s).map Value.string
  | _, cell => some cell

section

variable {masks : List (String × MaskFn)} {row row' : Row} {name : String} {cell : Value}

/-- A mask leaves the cells under other names alone. -/
theorem maskColumn_other {mask : String × MaskFn} (h : maskColumn row mask = .ok row') (hname : mask.1 ≠ name) :
    row'.get name = row.get name := by
  unfold maskColumn at h
  split at h
  · split at h
    · obtain rfl := Except.ok.inj h
      rw [KeyedList.get_insert, if_neg hname]
    · cases h
  · rw [Except.ok.inj h]

theorem maskColumn_get {mask : String × MaskFn} (h : maskColumn row mask = .ok row')
    (hcell : row.get name = some (name, cell)) :
    ∃ cell', maskedCell [mask] name cell = some cell' ∧ row'.get name = some (name, cell') := by
  obtain ⟨column, f⟩ := mask
  by_cases hname : column = name
  · subst hname
    unfold maskColumn at h
    simp only [hcell] at h
    cases cell with
    | string s =>
      simp only at h
      cases hf : f s with
      | none => simp [hf] at h
      | some masked =>
        simp only [hf, Except.ok.injEq] at h
        refine ⟨.string masked, by simp [maskedCell, hf], ?_⟩
        rw [← h, KeyedList.get_insert, if_pos rfl]
    | null | bool _ | number _ | array _ | object _ =>
      obtain rfl : row = row' := Except.ok.inj h
      exact ⟨_, by simp [maskedCell], hcell⟩
  · exact ⟨cell, by simp [maskedCell, hname], (maskColumn_other h hname).trans hcell⟩

/-- **A masked row**, cell by cell. -/
theorem maskRow_get (hdistinct : (masks.map (·.1)).Nodup) (h : maskRow masks row = .ok row')
    (hcell : row.get name = some (name, cell)) :
    ∃ cell', maskedCell masks name cell = some cell' ∧ row'.get name = some (name, cell') := by
  induction masks generalizing row cell with
  | nil =>
    obtain rfl : row = row' := Except.ok.inj h
    exact ⟨cell, by simp [maskedCell], hcell⟩
  | cons mask masks ih =>
    obtain ⟨middle, hfirst, hrest⟩ := Res.bind_eq_ok.1 h
    obtain ⟨hnew, hdistinct⟩ := List.nodup_cons.1 hdistinct
    obtain ⟨cell₁, hcell₁, hget₁⟩ := maskColumn_get hfirst hcell
    obtain ⟨cell₂, hcell₂, hget₂⟩ := ih hdistinct hrest hget₁
    refine ⟨cell₂, ?_, hget₂⟩
    by_cases hname : mask.1 = name
    · -- the masks that follow have other names
      have hnone : masks.find? (·.1 == name) = none := by
        rw [List.find?_eq_none]
        intro other hother hbeq
        exact hnew (List.mem_map.2 ⟨other, hother, (by simpa using hbeq : other.1 = name).trans hname.symm⟩)
      have hsame : cell₁ = cell₂ := by simpa [maskedCell, hnone] using hcell₂
      rw [← hsame, ← hcell₁]
      simp [maskedCell, hname]
    · have hsame : cell = cell₁ := by simpa [maskedCell, hname] using hcell₁
      rw [hsame, ← hcell₂]
      simp [maskedCell, hname]

/-- A row is masked where no mask panics on its string. -/
theorem maskRow_ok (hdistinct : (masks.map (·.1)).Nodup)
    (h : ∀ mask ∈ masks, ∀ s, row.get mask.1 = some (mask.1, .string s) → (mask.2 s).isSome) :
    ∃ row', maskRow masks row = .ok row' := by
  induction masks generalizing row with
  | nil => exact ⟨row, rfl⟩
  | cons mask masks ih =>
    obtain ⟨hnew, hdistinct⟩ := List.nodup_cons.1 hdistinct
    have hfirst : ∃ middle, maskColumn row mask = .ok middle := by
      unfold maskColumn
      split
      · rename_i name s hcell
        obtain ⟨masked, hmasked⟩ := Option.isSome_iff_exists.1
          (h mask List.mem_cons_self s ((KeyedList.key_of_get hcell : name = mask.1) ▸ hcell))
        exact ⟨_, by rw [hmasked]⟩
      · exact ⟨row, rfl⟩
    obtain ⟨middle, hmiddle⟩ := hfirst
    have hrest : ∃ row', maskRow masks middle = .ok row' := by
      apply ih hdistinct
      intro other hother s hcell
      apply h other (List.mem_cons_of_mem _ hother) s
      have hne : mask.1 ≠ other.1 := fun heq => hnew (List.mem_map.2 ⟨other, hother, heq.symm⟩)
      rw [← maskColumn_other hmiddle hne, hcell]
    obtain ⟨row', hrow'⟩ := hrest
    exact ⟨row', Res.bind_eq_ok.2 ⟨middle, hmiddle, hrow'⟩⟩

end

/-- The mask of the column maps the value to itself. -/
def Kept (masks : List (String × MaskFn)) (c : String) (cell : Value) : Prop :=
  ∃ mask s, (c, mask) ∈ masks ∧ cell = .string s ∧ mask s = some s

/-! ## The cells that show a column -/

/-- How a database takes the names of a statement: where it has letters of either case for the same, and
where a source stands under several aliases. -/
structure Naming where
  /-- What stands behind an unquoted alias. -/
  source : String → String
  /-- What the name of a column is compared as, quoted or not. -/
  column : Bool → String → String
  /-- The text that a custom aggregation is spliced as reads the column. -/
  custom : String → Prop

/-- A column as the generator names it, quoted behind its alias or spliced there. -/
def reference (owner : String) (quoted : Bool) (name : String) : SqlText :=
  if quoted then qualified owner name else SqlText.raw owner ++ code "." ++ SqlText.raw name

/-- To the database the names are those of the column `c` of the source that goes by `aliasName`. -/
def Naming.Means (naming : Naming) (aliasName c owner : String) (quoted : Bool) (name : String) : Prop :=
  naming.source owner = naming.source aliasName ∧ naming.column quoted name = naming.column true c

/-- What the databases hold and compute about a column. An expression is evaluated over a group of
source rows, given by what the column holds in them. -/
structure MaskedColumn where
  /-- The values the column holds, null aside. -/
  raw : Value → Prop
  notNull : ¬raw .null
  eval : SqlText → List Value → Value

/-- The expression of the item reads the column, and not only to count it. -/
def Carries (naming : Naming) (aliasName c : String) (item : SelectItem) : Prop :=
  ((∃ owner quoted name, naming.Means aliasName c owner quoted name ∧ reference owner quoted name <:+: item.expression) ∨
      ∃ text, naming.custom text ∧ Frag.code text ∈ item.expression) ∧
    ∀ column, item.expression ≠ aggregateText .count column ∧
      item.expression ≠ aggregateText .countDistinct column

/-- The name of an item's output column. -/
def itemName (item : SelectItem) : String := item.aliasName.getD ""

/-- The name an item's column comes back under. -/
def Dialect.sentName (d : Dialect) (item : SelectItem) : String := d.columnName (itemName item)

/-- The item is the last one under its name, so its cell is the one a row keeps. -/
def Visible (d : Dialect) (items : List SelectItem) (item : SelectItem) : Prop :=
  ∃ before after, items = before ++ item :: after ∧ ∀ other ∈ after, d.sentName other ≠ d.sentName item

namespace MaskedColumn

variable (naming : Naming) (d : Dialect) (aliasName c : String) (col : MaskedColumn)

/-- The item may have this value in a result row. -/
def Shows (item : SelectItem) (cell : Value) : Prop :=
  ∃ group, group ≠ [] ∧ (∀ v ∈ group, col.raw v) ∧ col.eval item.expression group = cell

/-- A result row, cell by cell: the items that carry the column show it, or null, and the
others hold anything. -/
def ResultRow (items : List SelectItem) (row : Row) : Prop :=
  ∃ cells : List (SelectItem × Value), cells.map (·.1) = items ∧
    (∀ cell ∈ cells, Carries naming aliasName c cell.1 → cell.2 = .null ∨ col.Shows cell.1 cell.2) ∧
    row = .ofList (cells.map fun cell => (d.sentName cell.1, cell.2))

/-- No cell that shows the column is one of its raw values, unless its mask keeps that. -/
def NotReadable (masks : List (String × MaskFn)) (items : List SelectItem) (out : QueryOutcome) : Prop :=
  ∀ fields, Value.object fields ∈ out.data → ∀ item, Visible d items item → Carries naming aliasName c item →
    ∀ cell, (d.sentName item, cell) ∈ fields → col.raw cell → Kept masks c cell

/-- What the masks make of any value an item may show, under the item's own name, is no raw
value, unless the column's mask keeps that. -/
def Covered (masks : List (String × MaskFn)) (items : List SelectItem) : Prop :=
  ∀ item, Visible d items item → Carries naming aliasName c item → ∀ shown, col.Shows item shown →
    ∀ cell, maskedCell masks (d.sentName item) shown = some cell → col.raw cell → Kept masks c cell

end MaskedColumn

/-- The limit of a statement lets some row through. -/
def LetsThrough (d : Dialect) (limit offset : Option Nat) : Prop :=
  ∃ w, readWindow d (Str.words (d.render (d.limitOffset [] limit offset))) = some w ∧ w.keep ≠ some 0

/-- A call that gets as far as its database, with a statement that selects `items` from
the source that goes by `aliasName`. -/
structure Asks (s : QueryService) (ctx : CallContext) (query : Query) (options : ExecuteOptions) (d : Dialect)
    (aliasName : String) (items : List SelectItem) : Prop where
  runs : options.dryRun = false
  governed : ∃ gov ds, s.govern ctx query options = .ok gov ∧
    s.storage.getDatasource gov.model.datasource = .ok (some ds)
  generated : ∃ sql source, ∃ maker : SqlGenerator,
    (s.sqlEngine.generateSql (governedQuery ctx.sessionPolicy query options.maxRows)).1 = .ok sql ∧
      maker.generate (governedQuery ctx.sessionPolicy query options.maxRows) = .ok sql ∧
      maker.resolveSource (governedQuery ctx.sessionPolicy query options.maxRows) = .ok (source, aliasName) ∧
      maker.dialectFor source = d ∧
      maker.buildSelectItems (governedQuery ctx.sessionPolicy query options.maxRows) d aliasName source = .ok items

section

variable {s : QueryService} {ctx : CallContext} {query : Query} {options : ExecuteOptions} {naming : Naming} {d : Dialect}
  {aliasName c : String} {items : List SelectItem}

/-- The cell of a visible item is the one the row has under its name. -/
theorem get_of_visible {cells : List (SelectItem × Value)} {item : SelectItem}
    (h : Visible d (cells.map (·.1)) item) : ∃ cell, (item, cell) ∈ cells ∧
      (KeyedList.ofList (cells.map fun cell => (d.sentName cell.1, cell.2)) : Row).get (d.sentName item) =
        some (d.sentName item, cell) := by
  obtain ⟨before, after, hitems, hlast⟩ := h
  obtain ⟨cells₁, rest, rfl, -, hrest⟩ := List.map_eq_append_iff.1 hitems
  obtain ⟨⟨item', cell⟩, cells₂, rfl, rfl, rfl⟩ := List.map_eq_cons_iff.1 hrest
  refine ⟨cell, by simp, ?_⟩
  rw [List.map_append, List.map_cons]
  apply KeyedList.get_ofList (a := (d.sentName item', cell))
  intro other hother
  obtain ⟨cell', hcell', rfl⟩ := List.mem_map.1 hother
  exact hlast cell'.1 (List.mem_map_of_mem hcell')

/-- A row that shows a value in the cell of one visible item, and null everywhere else. -/
theorem exists_resultRow (col : MaskedColumn) {item : SelectItem} (hvisible : Visible d items item)
    {shown : Value} (hshown : col.Shows item shown) : ∃ row, col.ResultRow naming d aliasName c items row ∧
      row.get (d.sentName item) = some (d.sentName item, shown) ∧
      ∀ name cell, row.get name = some (name, cell) → cell = .null ∨ name = d.sentName item ∧ cell = shown := by
  obtain ⟨before, after, rfl, hlast⟩ := hvisible
  let cells : List (SelectItem × Value) :=
    before.map (·, .null) ++ (item, shown) :: after.map (·, .null)
  have hcells : ∀ cell ∈ cells, cell.2 = .null ∨ cell = (item, shown) := by
    intro cell hcell
    rcases List.mem_append.1 hcell with hcell | hcell
    · obtain ⟨_, -, rfl⟩ := List.mem_map.1 hcell
      exact .inl rfl
    · rcases List.mem_cons.1 hcell with rfl | hcell
      · exact .inr rfl
      · obtain ⟨_, -, rfl⟩ := List.mem_map.1 hcell
        exact .inl rfl
  refine ⟨.ofList (cells.map fun cell => (d.sentName cell.1, cell.2)), ⟨cells, ?_, ?_, rfl⟩, ?_, ?_⟩
  · simp [cells, Function.comp_def]
  · intro cell hcell _
    rcases hcells cell hcell with hnull | rfl
    · exact .inl hnull
    · exact .inr hshown
  · simp only [cells, List.map_append, List.map_cons]
    apply KeyedList.get_ofList (a := (d.sentName item, shown))
    intro other hother
    obtain ⟨cell', hcell', rfl⟩ := List.mem_map.1 hother
    obtain ⟨item', hitem', rfl⟩ := List.mem_map.1 hcell'
    exact hlast item' hitem'
  · intro name cell hget
    obtain ⟨cell', hcell', heq⟩ := List.mem_map.1 (KeyedList.mem_ofList (KeyedList.mem_of_get hget))
    obtain ⟨rfl, rfl⟩ := Prod.mk.inj heq
    rcases hcells cell' hcell' with hnull | rfl
    · exact .inl hnull
    · exact .inr ⟨rfl, rfl⟩

/-- A row that is returned comes from a row of the reply, masked. -/
theorem row_of_data {policy : SessionPolicy} {host : Host} {gov : Governed} {sql : GeneratedSql} {dialect : String}
    {rows : List Row} {out : QueryOutcome} (h : outcome host policy options gov sql dialect (.rows rows) = .ok out)
    {fields : List (String × Value)} (hfields : Value.object fields ∈ out.data) :
    ∃ row ∈ rows, ∃ row', maskRow policy.columnMasks.items row = .ok row' ∧ fields = row'.items := by
  obtain ⟨rows', masked, hrows, hmasked, hdata, -⟩ := outcome_eq_ok h
  obtain rfl : rows = rows' := ExecReply.rows.inj hrows
  rw [hdata] at hfields
  obtain ⟨row', hrow', heq⟩ := List.mem_map.1 hfields
  obtain ⟨row, hrow, hmask⟩ := Res.mem_of_mapM hmasked row' hrow'
  exact ⟨row, hrow, row', hmask, (Value.object.inj heq).symm⟩

theorem mem_of_window {α : Type} {skip : Nat} {keep : Option Nat} {rows : List α} {row : α}
    (h : row ∈ Page.window skip keep rows) : row ∈ rows := by
  cases keep with
  | none => exact List.mem_of_mem_drop h
  | some n => exact List.mem_of_mem_drop (List.mem_of_mem_take h)

theorem window_replicate {α : Type} (row : α) (skip : Nat) {keep : Option Nat} (hkeep : keep ≠ some 0) :
    Page.window skip keep (List.replicate (skip + 1) row) = [row] := by
  have hdrop : (List.replicate (skip + 1) row).drop skip = [row] := by
    rw [List.drop_replicate, Nat.add_sub_cancel_left]
    rfl
  cases keep with
  | none => exact hdrop
  | some n =>
    have hn : n ≠ 0 := fun hzero => hkeep (hzero ▸ rfl)
    rw [Page.window, Page.page, hdrop, List.take_of_length_le]
    show 1 ≤ n
    omega

/-- A call whose database returns one row returns it masked. -/
theorem execute_row (h : Asks s ctx query options d aliasName items) (row : Row) {row' : Row}
    (hmask : maskRow ctx.sessionPolicy.columnMasks.items row = .ok row') :
    ∃ out, (s.execute ⟨fun _ _ => .rows [row], false⟩ ctx query options).1 = .ok out ∧
      out.data = [Value.object row'.items] := by
  obtain ⟨gov, ds, hgov, hds⟩ := h.governed
  obtain ⟨sql, -, -, hsql, -⟩ := h.generated
  obtain ⟨-, -, -, -, hquery, -⟩ := govern_eq_ok.1 hgov
  let host : Host := ⟨fun _ _ => .rows [row], false⟩
  have hmasked : [row].mapM (maskRow ctx.sessionPolicy.columnMasks.items) = .ok [row'] := by
    rw [List.mapM_cons, hmask]
    rfl
  have hnext : ∃ next, nextOffsetOf host gov.query.offset [row].length
      (decide (gov.effectiveLimit ≤ [row].length)) = .ok next := by
    unfold nextOffsetOf Host.usizeAdd
    split_ifs with _ _ hchecks
    · exact ⟨_, rfl⟩
    · exact hchecks.elim
    · exact ⟨_, rfl⟩
    · exact ⟨_, rfl⟩
  obtain ⟨next, hnext⟩ := hnext
  have houtcome : ∃ out, outcome host ctx.sessionPolicy options gov sql
      (s.sqlEngine.dialectNameForModel gov.modelName) (.rows [row]) = .ok out ∧
        out.data = [Value.object row'.items] := by
    obtain ⟨out, hout, hdata, -⟩ := outcome_rows hmasked hnext
    exact ⟨out, hout, hdata⟩
  obtain ⟨out, hout, hdata⟩ := houtcome
  exact ⟨out, execute_ok hgov (hquery ▸ hsql) h.runs hds hout, hdata⟩

end

/-! ## A masked column under a label -/

namespace LabelledColumn

/-- `masks::ssn_mask`. -/
def ssnMask : MaskFn := fun _ => some "***-**-****"

def users : Model := { name := "users", datasource := "warehouse", dimensions := [⟨"ssn", none⟩] }

def storage : StorageBackend where
  getModel name _ := .ok (if name = "users" then some users else none)
  getDatasource name := .ok (if name = "warehouse" then some ⟨name, "sqlite", ""⟩ else none)

def service : QueryService :=
  .new ((SqlEngine.new .sqlite ⟨fun _ => false, fun _ => false⟩).withModels [users]) LabelledColumn.storage

def ctx : CallContext := { policy := some { columnMasks := .ofList [("ssn", ssnMask)] } }

/-- A dimension under an output name. -/
def query (name : String) (label : Option String) : Query := { name := some "users", dimensions := [⟨name, label⟩] }

def items (name : String) (label : Option String) : List SelectItem := [⟨qualified "users" name, some (label.getD name)⟩]

/-- SQLite's names, in which capital letters are as good as small ones. -/
def naming : Naming := ⟨Str.toAsciiLowercase, fun _ => Str.toAsciiLowercase, fun _ => False⟩

/-- A table of one user, whose column an expression reads as it stands. -/
def column : MaskedColumn where
  raw v := v = .string "123-45-6789"
  notNull := by simp
  eval _ group := group.headD .null

/-- The table's row, as the database returns it. -/
def row (output : String) : Row := .ofList [(output, .string "123-45-6789")]

theorem carries {name : String} (hname : Str.toAsciiLowercase name = "ssn") (output : Option String) :
    Carries naming "users" "ssn" ⟨qualified "users" name, output⟩ := by
  refine ⟨.inl ⟨"users", true, name, ⟨rfl, ?_⟩, List.infix_rfl⟩, fun column => ⟨?_, ?_⟩⟩
  · have hself : Str.toAsciiLowercase "ssn" = "ssn" := by decide
    exact hname.trans hself.symm
  · intro h
    cases (List.cons.inj h).1
  · intro h
    cases (List.cons.inj h).1

theorem resultRow (name : String) (label : Option String) :
    column.ResultRow naming .sqlite "users" "ssn" (items name label) (row (label.getD name)) := by
  refine ⟨[(⟨qualified "users" name, some (label.getD name)⟩, .string "123-45-6789")], rfl, ?_, rfl⟩
  intro cell hcell _
  obtain rfl := List.mem_singleton.1 hcell
  exact .inr ⟨[.string "123-45-6789"], by simp, by simp [column], rfl⟩

/-- The raw value is read where it comes back under a name that is not the mask's. -/
theorem readable {name : String} {label : Option String} (hname : Str.toAsciiLowercase name = "ssn") {out : QueryOutcome}
    (hdata : out.data = [.object [(label.getD name, .string "123-45-6789")]]) :
    ¬column.NotReadable naming .sqlite "users" "ssn" ctx.sessionPolicy.columnMasks.items (items name label) out := by
  intro hread
  have hkept := hread [(label.getD name, .string "123-45-6789")] (hdata ▸ List.mem_singleton.2 rfl)
    ⟨qualified "users" name, some (label.getD name)⟩ ⟨[], [], rfl, by simp⟩ (carries hname _)
    (.string "123-45-6789") (List.mem_singleton.2 rfl) rfl
  obtain ⟨mask, s, hmask, hcell, hfix⟩ := hkept
  obtain rfl : mask = ssnMask := congrArg Prod.snd (List.mem_singleton.1 hmask)
  cases hcell
  exact absurd hfix (by decide)

/-- A call that selects the column returns its raw value. -/
def Escapes (name : String) (label : Option String) : Prop :=
  ∃ out, Asks service ctx (query name label) {} .sqlite "users" (items name label) ∧
    column.ResultRow naming .sqlite "users" "ssn" (items name label) (row (label.getD name)) ∧
    (service.execute ⟨fun _ _ => .rows [row (label.getD name)], true⟩ ctx (query name label) {}).1 = .ok out ∧
    out.data = [.object [(label.getD name, .string "123-45-6789")]] ∧
    ¬column.NotReadable naming .sqlite "users" "ssn" ctx.sessionPolicy.columnMasks.items (items name label) out

end LabelledColumn

end GraphNight
