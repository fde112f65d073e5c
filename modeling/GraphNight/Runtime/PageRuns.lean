import GraphNight.Runtime.RowCap

/-!
# Paging through a result

A client that re-issues its query with the offset it was handed, until it is handed
none. The databases behind it are taken to select the rows from the offset up to
the limit of a fixed sequence, so what is proved here is about the offsets: that
each call moves forward, that the calls end, and that together they return every
row from the first offset on, once and in order.
-/

namespace GraphNight

open QueryService

/-- What stays the same while a client pages: who calls, how, and the rows there are. -/
structure PagingClient where
  ctx : CallContext
  options : ExecuteOptions
  rows : ResultSeq Row
  overflowChecks : Bool

namespace PagingClient

/-- The query the client's call sends to the generator. -/
def governed (c : PagingClient) (query : Query) : Query :=
  governedQuery c.ctx.sessionPolicy query c.options.maxRows

/-- Databases that answer with the rows a query's limit and offset select. -/
def host (c : PagingClient) (query : Query) : Host where
  executeSqlx _ _ := .rows (Page.window ((c.governed query).offset.getD 0) (c.governed query).limit c.rows.1)
  overflowChecks := c.overflowChecks

/-- One call. -/
def call (c : PagingClient) (s : QueryService) (query : Query) : Res ServiceError QueryOutcome × QueryService :=
  s.execute (c.host query) c.ctx query c.options

/-- The calls a client comes to make: each after the first with the offset it was handed. -/
inductive Reissued (c : PagingClient) (s : QueryService) (query : Query) : QueryService → Query → Prop where
  | first : Reissued c s query s query
  | next {s' : QueryService} {query' : Query} {out : QueryOutcome} {offset : Nat} :
      Reissued c s query s' query' → (c.call s' query').1 = .ok out → out.nextOffset = some offset →
        Reissued c s query (c.call s' query').2 { query' with offset := some offset }

/-- The outcomes of at most `n` calls, when the last of them hands out no offset. -/
def visit (c : PagingClient) : Nat → QueryService → Query → Option (List QueryOutcome)
  | 0, _, _ => none
  | n + 1, s, query =>
    match c.call s query with
    | (.ok out, s') =>
      match out.nextOffset with
      | none => some [out]
      | some offset => (visit c n s' { query with offset := some offset }).map (out :: ·)
    | (.error _, _) => none

/-- The rows from position `offset` on, as a client gets to see them. -/
def Shows (c : PagingClient) (offset : Nat) (data : List Value) : Prop :=
  ∃ masked, (c.rows.1.drop offset).mapM (maskRow c.ctx.sessionPolicy.columnMasks.items) = .ok masked ∧
    data = masked.map fun row => Value.object row.items

/-- Paging is lossless and ends. -/
structure Lossless (c : PagingClient) (s : QueryService) (query : Query) : Prop where
  /-- An offset handed out is the sum of the call's own and its row count, and lies beyond its own. -/
  progress : ∀ s' query', c.Reissued s query s' query' → ∃ out, (c.call s' query').1 = .ok out ∧
    ∀ offset, out.nextOffset = some offset →
      query'.offset.getD 0 < offset ∧ offset = query'.offset.getD 0 + out.rowCount
  /-- Finitely many calls end the run, and return the rows from the first offset on. -/
  complete : ∃ n outs, c.visit n s query = some outs ∧
    c.Shows (query.offset.getD 0) (outs.flatMap (·.data))

/-- The client's calls go through: the query is let through, has a plan and a
datasource, and no mask panics on a row. -/
structure Serves (c : PagingClient) (s : QueryService) (query : Query) : Prop where
  executes : c.options.dryRun = false
  governs : ∃ gov ds, s.govern c.ctx query c.options = .ok gov ∧
    s.storage.getDatasource gov.model.datasource = .ok (some ds)
  generates : ∃ sql, s.sqlEngine.generator.generate (c.governed query) = .ok sql
  masks : ∀ row ∈ c.rows.1, ∃ masked, maskRow c.ctx.sessionPolicy.columnMasks.items row = .ok masked
  offset : InRange query.offset

section

variable {c : PagingClient} {s : QueryService} {query : Query}

/-- The offset does not enter governance. -/
theorem govern_offset {ctx : CallContext} {options : ExecuteOptions} {gov : Governed}
    (h : s.govern ctx query options = .ok gov) (offset : Option Nat) :
    s.govern ctx { query with offset := offset } options =
      .ok { gov with query := { gov.query with offset := offset } } := by
  obtain ⟨hauth, hname, hmodel, hadmits, hquery, hlimit⟩ := govern_eq_ok.1 h
  refine govern_eq_ok.2 ⟨hauth, hname, hmodel, hadmits, ?_, hlimit⟩
  simp only [hquery]
  rfl

/-- **One call of a client**: it returns the page, counts its rows, and hands out the
sum of its offset and the count when the page is full. -/
theorem call_ok (h : c.Serves s query) {cap : Nat} (hcap : (c.governed query).limit = some cap)
    (hsum : cap ≤ (Page.page (query.offset.getD 0) cap c.rows.1).length →
      query.offset.getD 0 + (Page.page (query.offset.getD 0) cap c.rows.1).length < UInt64.size) :
    ∃ out masked, (c.call s query).1 = .ok out ∧
      (Page.page (query.offset.getD 0) cap c.rows.1).mapM (maskRow c.ctx.sessionPolicy.columnMasks.items) =
        .ok masked ∧
      out.data = masked.map (fun row => Value.object row.items) ∧
      out.rowCount = (Page.page (query.offset.getD 0) cap c.rows.1).length ∧
      out.nextOffset = if cap ≤ out.rowCount then some (query.offset.getD 0 + out.rowCount) else none := by
  obtain ⟨gov, ds, hgov, hds⟩ := h.governs
  obtain ⟨-, -, -, -, hquery, hlimit⟩ := govern_eq_ok.1 hgov
  obtain ⟨sql, hsql⟩ := h.generates
  rw [governed, ← hquery] at hsql
  obtain ⟨sql', hanswer⟩ := SqlEngine.generateSql_ok hsql
  obtain rfl : cap = gov.effectiveLimit := by
    rw [governed, ← hquery, hlimit] at hcap
    exact (Option.some.inj hcap).symm
  have hoffset : gov.query.offset = query.offset := by rw [hquery, governedQuery_offset]
  have hreply : (c.host query).executeSqlx ds sql' =
      .rows (Page.page (query.offset.getD 0) gov.effectiveLimit c.rows.1) := by
    simp only [host, hcap]
    rfl
  obtain ⟨masked, hmasked⟩ := Res.mapM_ok (f := maskRow c.ctx.sessionPolicy.columnMasks.items)
    (l := Page.page (query.offset.getD 0) gov.effectiveLimit c.rows.1)
    fun row hrow => h.masks row (List.mem_of_mem_drop (List.mem_of_mem_take hrow))
  have hnext : nextOffsetOf (c.host query) gov.query.offset
      (Page.page (query.offset.getD 0) gov.effectiveLimit c.rows.1).length
      (decide (gov.effectiveLimit ≤ (Page.page (query.offset.getD 0) gov.effectiveLimit c.rows.1).length)) =
      .ok (if gov.effectiveLimit ≤ (Page.page (query.offset.getD 0) gov.effectiveLimit c.rows.1).length then
        some (query.offset.getD 0 + (Page.page (query.offset.getD 0) gov.effectiveLimit c.rows.1).length)
        else none) := by
    rw [hoffset]
    by_cases hfull : gov.effectiveLimit ≤ (Page.page (query.offset.getD 0) gov.effectiveLimit c.rows.1).length
    · simp only [nextOffsetOf, hfull, decide_true, if_true, Host.usizeAdd, if_pos (hsum hfull), Except.map]
    · simp only [nextOffsetOf, hfull, decide_false, Bool.false_eq_true, if_false]
  obtain ⟨out, hout, hdata, hcount, -, hnextOut⟩ := outcome_rows hmasked hnext
  refine ⟨out, masked, ?_, hmasked, hdata, hcount, hcount ▸ hnextOut⟩
  exact execute_ok hgov hanswer h.executes hds (hreply ▸ hout)

/-- A client's calls keep going through, whatever offset in range they ask for. -/
theorem Serves.reissue (h : c.Serves s query) {s' : QueryService} {offset : Nat}
    (hstorage : s'.storage = s.storage) (hgen : s'.sqlEngine.generator = s.sqlEngine.generator)
    (hrange : offset < UInt64.size) : c.Serves s' { query with offset := some offset } := by
  obtain ⟨gov, ds, hgov, hds⟩ := h.governs
  obtain ⟨sql, hsql⟩ := h.generates
  have hgov' : s'.govern c.ctx query c.options = .ok gov := by
    rw [govern_eq_ok] at hgov ⊢
    rw [hstorage]
    exact hgov
  refine ⟨h.executes, ⟨_, ds, govern_offset hgov' _, hstorage ▸ hds⟩, ?_, h.masks, ?_⟩
  · rw [hgen]
    exact SqlGenerator.generate_offset hsql _
  · rintro k ⟨⟩
    exact hrange

theorem call_frame (c : PagingClient) (s : QueryService) (query : Query) :
    (c.call s query).2.storage = s.storage ∧
      (c.call s query).2.sqlEngine.generator = s.sqlEngine.generator :=
  execute_frame ..

/-- A full page ends in range. -/
theorem sum_inRange (h : c.Serves s query) {cap : Nat}
    (hfull : cap ≤ (Page.page (query.offset.getD 0) cap c.rows.1).length) :
    query.offset.getD 0 + (Page.page (query.offset.getD 0) cap c.rows.1).length < UInt64.size := by
  have hlen := Page.length_page (query.offset.getD 0) cap c.rows.1
  have hrows := c.rows.2
  rcases Nat.eq_zero_or_pos cap with rfl | hpos
  · rw [hlen, Nat.zero_min, Nat.add_zero]
    cases ho : query.offset with
    | none => exact Nat.zero_lt_succ _
    | some o => exact h.offset o ho
  · have hend := Page.end_of_full hfull hpos
    omega

theorem visit_last {out : QueryOutcome} (hcall : (c.call s query).1 = .ok out) (hnext : out.nextOffset = none) :
    c.visit 1 s query = some [out] := by
  rw [visit, show c.call s query = (.ok out, (c.call s query).2) from Prod.ext hcall rfl]
  simp only [hnext]

theorem visit_next {out : QueryOutcome} {offset n : Nat} {outs : List QueryOutcome}
    (hcall : (c.call s query).1 = .ok out) (hnext : out.nextOffset = some offset)
    (hrest : c.visit n (c.call s query).2 { query with offset := some offset } = some outs) :
    c.visit (n + 1) s query = some (out :: outs) := by
  rw [visit, show c.call s query = (.ok out, (c.call s query).2) from Prod.ext hcall rfl]
  simp only [hnext, hrest, Option.map_some]

/-- What a page shows and what the rest shows is what they show together. -/
theorem Shows.append {offset cap : Nat} {masked : List Row} {data : List Value}
    (hpage : (Page.page offset cap c.rows.1).mapM (maskRow c.ctx.sessionPolicy.columnMasks.items) = .ok masked)
    (hrest : c.Shows (offset + cap) data) :
    c.Shows offset (masked.map (fun row => Value.object row.items) ++ data) := by
  obtain ⟨rest, hmap, rfl⟩ := hrest
  refine ⟨masked ++ rest, ?_, by rw [List.map_append]⟩
  rw [← Page.page_append_drop offset cap, List.mapM_append, hpage, hmap]
  rfl

/-- **Paging with a cap of at least one row** is lossless from any offset. -/
theorem complete_of_pos {cap : Nat} (hpos : 0 < cap) : ∀ {s : QueryService} {query : Query},
    c.Serves s query → (c.governed query).limit = some cap → ∃ n outs, c.visit n s query = some outs ∧
      c.Shows (query.offset.getD 0) (outs.flatMap (·.data)) := by
  intro s query
  -- by the number of rows left
  induction hleft : c.rows.1.length - query.offset.getD 0 using Nat.strong_induction_on
    generalizing s query with
  | _ left ih =>
    intro h hcap
    obtain ⟨out, masked, hcall, hmasked, hdata, hcount, hnext⟩ := call_ok h hcap fun hfull => sum_inRange h hfull
    by_cases hfull : cap ≤ out.rowCount
    · rw [if_pos hfull] at hnext
      have hend : query.offset.getD 0 + cap ≤ c.rows.1.length := Page.end_of_full (hcount ▸ hfull) hpos
      have hcap' : out.rowCount = cap := by
        rw [hcount, Page.length_page]
        omega
      rw [hcap'] at hnext
      have hrows := c.rows.2
      obtain ⟨hstorage, hgen⟩ := c.call_frame s query
      have hin : query.offset.getD 0 + cap < UInt64.size := by omega
      have hserves := h.reissue hstorage hgen hin
      obtain ⟨n, outs, hvisit, hshows⟩ := ih _ (by simp only [Option.getD_some]; omega) rfl hserves hcap
      refine ⟨n + 1, out :: outs, visit_next hcall hnext hvisit, ?_⟩
      rw [List.flatMap_cons, hdata]
      exact Shows.append hmasked hshows
    · rw [if_neg hfull] at hnext
      refine ⟨1, [out], visit_last hcall hnext, masked, ?_, by simp [hdata]⟩
      have hshort : (Page.page (query.offset.getD 0) cap c.rows.1).length < cap := by omega
      rw [← Page.page_of_not_full hshort, hmasked]

/-- Every call the client comes to make goes through, under the first call's cap. -/
theorem Serves.reissued (h : c.Serves s query) {s' : QueryService} {query' : Query}
    (hreach : c.Reissued s query s' query') :
    c.Serves s' query' ∧ (c.governed query').limit = (c.governed query).limit := by
  induction hreach with
  | first => exact ⟨h, rfl⟩
  | @next s' query' out offset _ hcall hnext ih =>
    obtain ⟨hserves, hlimit⟩ := ih
    obtain ⟨cap, hcap⟩ : ∃ cap, (c.governed query').limit = some cap := ⟨_, rfl⟩
    obtain ⟨out', masked, hcall', -, -, hcount, hnext'⟩ :=
      call_ok hserves hcap fun hfull => sum_inRange hserves hfull
    obtain rfl : out = out' := Except.ok.inj (hcall.symm.trans hcall')
    rw [hnext'] at hnext
    split_ifs at hnext with hfull
    obtain ⟨hstorage, hgen⟩ := c.call_frame s' query'
    refine ⟨hserves.reissue hstorage hgen ?_, hlimit⟩
    rw [← Option.some.inj hnext, hcount]
    exact sum_inRange hserves (hcount ▸ hfull)

/-- **Paging** is lossless and ends exactly when no cap is zero: the policy's, the
call's and the query's own limit all let at least one row through. -/
theorem lossless_iff (h : c.Serves s query) :
    c.Lossless s query ↔ ∀ n ∈ caps c.ctx.sessionPolicy query c.options.maxRows, 0 < n := by
  obtain ⟨cap, hcap⟩ : ∃ cap, (c.governed query).limit = some cap := ⟨_, rfl⟩
  obtain ⟨hmem, hle⟩ := List.min?_eq_some_iff.1 (governedQuery_limit.symm.trans hcap)
  have hcaps : (∀ n ∈ caps c.ctx.sessionPolicy query c.options.maxRows, 0 < n) ↔ 0 < cap :=
    ⟨fun hall => hall cap hmem, fun hpos n hn => hpos.trans_le (hle n hn)⟩
  rw [hcaps]
  constructor
  · intro hlossless
    obtain ⟨out, hcall, hforward⟩ := hlossless.progress s query .first
    by_contra hzero
    obtain rfl : cap = 0 := by omega
    -- a page of no rows counts as full and hands the call's own offset out again
    obtain ⟨out', masked, hcall', -, -, hcount, hnext⟩ := call_ok h hcap fun hfull => sum_inRange h hfull
    obtain rfl : out = out' := Except.ok.inj (hcall.symm.trans hcall')
    rw [if_pos (Nat.zero_le _)] at hnext
    have hcount0 : out.rowCount = 0 := by rw [hcount, Page.length_page, Nat.zero_min]
    have := (hforward _ hnext).1
    omega
  · intro hpos
    refine ⟨fun s' query' hreach => ?_, complete_of_pos hpos h hcap⟩
    obtain ⟨hserves, hlimit⟩ := h.reissued hreach
    obtain ⟨out, masked, hcall, -, -, hcount, hnext⟩ :=
      call_ok hserves (hlimit.trans hcap) fun hfull => sum_inRange hserves hfull
    refine ⟨out, hcall, fun offset hoffset => ?_⟩
    rw [hnext] at hoffset
    split_ifs at hoffset with hfull
    obtain rfl := Option.some.inj hoffset
    exact ⟨by omega, rfl⟩

end

end PagingClient

/-! ## A limit of zero -/

namespace ZeroLimit

def orders : Model := { name := "orders", datasource := "warehouse", dimensions := [⟨"status", none⟩] }

def warehouse : DataSource := ⟨"warehouse", "postgres", "postgres://localhost/warehouse"⟩

def storage : StorageBackend where
  getModel name _ := .ok (if name = "orders" then some orders else none)
  getDatasource name := .ok (if name = "warehouse" then some warehouse else none)

def service : QueryService :=
  .new ((SqlEngine.new .postgres ⟨fun _ => false, fun _ => false⟩).withModels [orders]) storage

/-- An anonymous client without a policy, and two orders. -/
def client : PagingClient where
  ctx := {}
  options := {}
  rows := ⟨[.ofList [("status", .string "open")], .ofList [("status", .string "paid")]], by decide⟩
  overflowChecks := true

def query (limit : Nat) : Query :=
  { name := some "orders", dimensions := [⟨"status", none⟩], limit := some limit }

theorem serves (limit : Nat) : client.Serves service (query limit) where
  executes := rfl
  governs := ⟨_, warehouse, rfl, rfl⟩
  generates := ⟨_, rfl⟩
  masks row _ := ⟨row, rfl⟩
  offset := by rintro k ⟨⟩

end ZeroLimit

open ZeroLimit in
/-- A query with limit 0 is handed its own offset again, call after call. -/
theorem zero_limit_repeats : (∃ out, (client.call service (query 0)).1 = .ok out ∧ out.rowCount = 0 ∧
      out.truncated = true ∧ out.nextOffset = some 0) ∧ ¬client.Lossless service (query 0) := by
  have hcall : ∃ out, (client.call service (query 0)).1 = .ok out ∧ out.rowCount = 0 ∧
      out.truncated = true ∧ out.nextOffset = some 0 := ⟨_, rfl, rfl, rfl, rfl⟩
  refine ⟨hcall, fun h => ?_⟩
  obtain ⟨out, hout, -, -, hnext⟩ := hcall
  obtain ⟨out', hout', hforward⟩ := h.progress service (query 0) .first
  obtain rfl : out = out' := Except.ok.inj (hout.symm.trans hout')
  exact absurd (hforward 0 hnext).1 (Nat.lt_irrefl 0)

open ZeroLimit in
/-- With a limit of one row, two orders are paged through. -/
theorem lossless_iff_one_row : client.Lossless service (query 1) :=
  (PagingClient.lossless_iff (serves 1)).2 (by decide)

end GraphNight
