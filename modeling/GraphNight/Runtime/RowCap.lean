import GraphNight.Runtime.Governance
import GraphNight.Sql.Paging

/-!
# The row cap in the statement

Governance sets the limit of a query to the tightest of the policy's cap, the
call's cap and the query's own limit. What the database returns for it depends on
the LIMIT/OFFSET text of the dialect.
-/

namespace GraphNight

open QueryService

/-- The caps on the rows of a call: the policy's (or the default), the call's and the
query's own limit. -/
def caps (policy : SessionPolicy) (query : Query) (perCall : Option Nat) : List Nat :=
  policy.maxRows.getD defaultMaxRows :: (perCall.toList ++ query.limit.toList)

/-- Paging and the row cap mean the same as on a plain sequence of rows. -/
structure RowCapSound (d : Dialect) (policy : SessionPolicy) (query : Query) (perCall : Option Nat) :
    Prop where
  /-- The query's own limit and offset select its page. -/
  page : PagesRight Row d query.limit query.offset
  /-- So do those of the governed statement. -/
  governedPage : PagesRight Row d (governedQuery policy query perCall).limit
    (governedQuery policy query perCall).offset
  /-- The governed statement returns no more rows than any cap allows. -/
  bounded : ∀ rows : ResultSeq Row, ∃ out,
    d.selected (governedQuery policy query perCall).limit (governedQuery policy query perCall).offset rows.1 =
      some out ∧ ∀ c ∈ caps policy query perCall, out.length ≤ c

/-- The limits and offsets the dialect renders right: its database counts to every number that is written, and
MySQL's are the same where there are two. -/
structure PagingInput (d : Dialect) (policy : SessionPolicy) (query : Query) (perCall : Option Nat) : Prop where
  limit : Counts d query.limit
  cap : Counts d (caps policy query perCall).min?
  offset : Counts d query.offset
  sqlite : d = .sqlite → query.limit = none → query.offset = none
  mySql : d = .mySql → ∀ o, query.offset = some o →
    (∀ l, query.limit = some l → l = o) ∧ (caps policy query perCall).min? = some o

section

variable {d : Dialect} {policy : SessionPolicy} {query : Query} {perCall : Option Nat}

/-- **The effective limit** of a governed query is the smallest of the caps. -/
theorem governedQuery_limit : (governedQuery policy query perCall).limit = (caps policy query perCall).min? := by
  symm
  refine List.min?_eq_some_iff.2 ?_
  simp only [rowCap, caps]
  rcases perCall with _ | call <;> rcases query.limit with _ | own <;>
    refine ⟨?_, fun c hc => ?_⟩ <;>
    simp only [Option.toList_none, Option.toList_some, List.nil_append, List.cons_append, List.append_nil,
      List.mem_cons, List.not_mem_nil, or_false] at * <;>
    omega

@[simp] theorem governedQuery_offset : (governedQuery policy query perCall).offset = query.offset := rfl

theorem pagingInput_iff :
    PagingInput d policy query perCall ↔ PagingSound d query.limit query.offset ∧
      PagingSound d (governedQuery policy query perCall).limit query.offset := by
  have hcaps : ∃ cap, (caps policy query perCall).min? = some cap := ⟨_, governedQuery_limit.symm⟩
  obtain ⟨cap, hcap⟩ := hcaps
  rw [governedQuery_limit, hcap]
  constructor
  · intro h
    refine ⟨⟨h.limit, h.offset, fun hd l o hl ho => ((h.mySql hd o ho).1 l hl), h.sqlite⟩,
      ⟨hcap ▸ h.cap, h.offset, fun hd l o hl ho => ?_, fun _ hnone => by cases hnone⟩⟩
    exact Option.some.inj (hl.symm.trans (hcap.symm.trans (h.mySql hd o ho).2))
  · rintro ⟨hown, hgov⟩
    refine ⟨hown.limitCounts, hcap.symm ▸ hgov.limitCounts, hown.offsetCounts, hown.sqlite, fun hd o ho => ⟨fun l hl => ?_, ?_⟩⟩
    · exact hown.mySql hd l o hl ho
    · rw [hcap, hgov.mySql hd cap o rfl ho]

/-- **Row cap and paging**: they mean the same on the dialect exactly for the limits
and offsets of `PagingInput`. -/
theorem rowCapSound_iff : RowCapSound d policy query perCall ↔ PagingInput d policy query perCall := by
  have hown : PagesRight Row d query.limit query.offset ↔ PagingSound d query.limit query.offset := pagesRight_iff .empty
  have hgov : PagesRight Row d (governedQuery policy query perCall).limit query.offset ↔
      PagingSound d (governedQuery policy query perCall).limit query.offset := pagesRight_iff .empty
  rw [pagingInput_iff]
  constructor
  · intro h
    exact ⟨hown.1 h.page, hgov.1 h.governedPage⟩
  · rintro ⟨hq, hg⟩
    refine ⟨hown.2 hq, hgov.2 hg, fun rows => ⟨_, hgov.2 hg rows, fun c hc => ?_⟩⟩
    have hcaps : ∃ cap, (governedQuery policy query perCall).limit = some cap := ⟨_, rfl⟩
    obtain ⟨cap, hcap⟩ := hcaps
    have hle := (List.min?_eq_some_iff.1 (governedQuery_limit.symm.trans hcap)).2 c hc
    rw [hcap]
    simp only [Page.window, Page.length_page]
    omega

end

/-- Two rows from the third one on. -/
def twoFromThree : Query := { name := some "orders", limit := some 2, offset := some 3 }

/-- MySQL takes three rows from position two: other rows, and more than the query's limit. -/
theorem mySql_swaps_limit_and_offset :
    Dialect.mySql.render (Dialect.mySql.limitOffset [] (governedQuery {} twoFromThree none).limit
        (governedQuery {} twoFromThree none).offset) = " LIMIT 3 OFFSET 2" ∧
      Dialect.mySql.selected (some 2) (some 3) [0, 1, 2, 3, 4, 5] = some [2, 3, 4] ∧
      Page.window 3 (some 2) [0, 1, 2, 3, 4, 5] = [3, 4] ∧ ¬RowCapSound .mySql {} twoFromThree none := by
  refine ⟨by decide, by decide, by decide, fun h => ?_⟩
  have hswap := ((pagesRight_iff .empty).1 h.page).mySql rfl 2 3 rfl rfl
  exact absurd hswap (by decide)

/-- Without an offset, MySQL keeps to the call's cap of five rows. -/
theorem rowCapSound_iff_first_page :
    RowCapSound .mySql {} { name := some "orders", limit := some 8 } (some 5) := by
  refine rowCapSound_iff.2 ⟨by decide, by decide, by decide, ?_, ?_⟩
  · exact fun _ hlimit => by cases hlimit
  · exact fun _ o ho => by cases ho

end GraphNight
