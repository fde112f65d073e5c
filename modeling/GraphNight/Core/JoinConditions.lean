import GraphNight.Core.ImportRuns
import GraphNight.Lib.Affix

/-!
# The conditions of imported joins

What a join condition of a Cube schema says: equalities between a column of the cube and one of the
cube it joins, in either order, as many as there are. Against it stands the one pair of columns the
importer reads off the first `=`.
-/

namespace GraphNight

/-! ## What a condition says -/

/-- The two cubes of a join. -/
inductive JoinCube where
  | base
  | target
deriving DecidableEq, Repr

/-- The ways to write a cube's name in front of a column. -/
def cubeSpellings (name : String) : List String := ["\x7b" ++ name ++ "\x7d", "$\x7b" ++ name ++ "\x7d", name]

/-- The cube a qualifier stands for: `{CUBE}` is the one the join belongs to. -/
def qualifiedCube (cube target qualifier : String) : Option JoinCube :=
  if qualifier ∈ ["\x7bCUBE\x7d", "$\x7bCUBE\x7d"] then some .base
  else if qualifier ∈ cubeSpellings target then some .target
  else if qualifier ∈ cubeSpellings cube then some .base
  else none

/-- Letters, digits, underscores and dollars make a column name. -/
def isColumnChar (c : Char) : Bool :=
  Str.isAsciiAlphanumeric c || c == '_' || c == '$' || decide (128 ≤ c.toNat) && !Str.isWhitespace c

def isColumnName (name : String) : Bool := name != "" && name.toList.all isColumnChar

/-- A side as it is written, without the blanks around it and the quotes around the whole of it. -/
def unquotedSide (side : String) : String := Str.trim (Str.trimMatches '"' (Str.trim side))

/-- A column on one side of an equality, and its cube where that is written. -/
structure JoinSide where
  cube : Option JoinCube
  column : String
deriving DecidableEq, Repr

/-- A column alone, or behind its cube, which a schema may precede. -/
def readJoinSide (cube target side : String) : Option JoinSide :=
  match Str.rsplitOnce (unquotedSide side) '.' with
  | none => if isColumnName (unquotedSide side) then some ⟨none, unquotedSide side⟩ else none
  | some (qualifier, column) =>
    if isColumnName (Str.trim column) then
      (qualifiedCube cube target (Str.lastSegment (Str.trim qualifier))).map fun owner => ⟨some owner, Str.trim column⟩
    else none

/-- The first side is the base's and the second the target's: at least one says so, and the other does not deny it. -/
def baseFirst (first second : JoinSide) : Bool :=
  first.cube == some .base && second.cube != some .base || first.cube == none && second.cube == some .target

/-- The pair of an equality, the base's column first. -/
def orient (left right : JoinSide) : Option (String × String) :=
  if baseFirst left right then some (left.column, right.column)
  else if baseFirst right left then some (right.column, left.column)
  else none

/-- The sides of an equality; it has one `=`. -/
def readEquality (cube target clause : String) : Option (JoinSide × JoinSide) :=
  match Str.splitOnce clause '=' with
  | none => none
  | some (left, right) =>
    if Str.containsChar right '=' then none
    else do
      let left ← readJoinSide cube target left
      let right ← readJoinSide cube target right
      return (left, right)

/-- The clauses that `AND` connects. -/
inductive Conjunction : String → List String → Prop
  | single (clause : String) : Conjunction clause [clause]
  | and (clause before word after : String) {rest : String} {clauses : List String} (hbefore : before ≠ "" ∧ ∀ c ∈ before.toList, Str.isWhitespace c = true)
      (hword : Str.eqIgnoreAsciiCase word "and" = true) (hafter : after ≠ "" ∧ ∀ c ∈ after.toList, Str.isWhitespace c = true)
      (hrest : Conjunction rest clauses) : Conjunction (clause ++ before ++ word ++ after ++ rest) (clause :: clauses)

/-- The equality pairs of a condition that is made of equalities between the two cubes. -/
def HasPairs (cube target sql : String) (pairs : List (String × String)) : Prop :=
  ∃ clauses, Conjunction sql clauses ∧
    List.Forall₂ (fun clause pair => ((readEquality cube target clause).bind fun sides => orient sides.1 sides.2) = some pair) clauses pairs

/-- A join is imported with the pairs of its condition, or skipped with a warning that names it. -/
def JoinFaithful (cube : String) (raw : CubeJoin) (sql : String) (report : ImportReport) : Prop :=
  (∃ join pairs, (cubeJoinToJoin raw report).1 = some join ∧ HasPairs cube raw.name sql pairs ∧ join.on.Perm pairs) ∨
    (cubeJoinToJoin raw report).1 = none ∧
      ∃ message, IsAbout ("join `" ++ raw.name ++ "`") message ∧ (cubeJoinToJoin raw report).2 = report.warn message

/-! ## What the importer reads -/

/-- One equality whose sides stand in the order of the pair, or have columns of one name. -/
def InOrder (cube target sql : String) : Prop :=
  ∃ left right, readEquality cube target sql = some (left, right) ∧
    (baseFirst left right = true ∨ baseFirst right left = true ∧ left.column = right.column)

/-- A text without the placeholders of the two cubes. -/
def withoutPlaceholders (target s : String) : String :=
  Str.remove ("\x7b" ++ target ++ "\x7d") (Str.remove ("$\x7b" ++ target ++ "\x7d")
    (Str.remove "\x7bCUBE\x7d" (Str.remove "$\x7bCUBE\x7d" s)))

/-- Nothing but blanks is left of a side behind its last dot. -/
def Nameless (target side : String) : Prop := Str.trim (Str.lastSegment (withoutPlaceholders target (unquotedSide side))) = ""

/-- A side of the first `=` is nameless. -/
def HasNamelessSide (target sql : String) : Prop :=
  ∃ left right, Str.splitOnce sql '=' = some (left, right) ∧ (Nameless target left ∨ Nameless target right)

theorem cleanJoinSide_eq (side : String) (raw : CubeJoin) :
    cleanJoinSide side raw = Str.trim (Str.lastSegment (withoutPlaceholders raw.name (unquotedSide side))) := by
  have hclean : cleanJoinSide side raw = Str.trim (Str.lastSegment ((Str.stripPrefix (withoutPlaceholders raw.name (unquotedSide side)) ".").getD
    (withoutPlaceholders raw.name (unquotedSide side)))) := rfl
  rw [hclean]
  cases hdot : Str.stripPrefix (withoutPlaceholders raw.name (unquotedSide side)) "." with
  | none => rfl
  | some rest =>
    rw [Str.stripPrefix_eq_some.1 hdot, Str.lastSegment_dot]
    rfl

theorem cleanJoinSide_eq_empty_iff {side : String} {raw : CubeJoin} : cleanJoinSide side raw = "" ↔ Nameless raw.name side := by
  rw [cleanJoinSide_eq]
  exact Iff.rfl

theorem isColumnName_iff {name : String} : isColumnName name = true ↔ name ≠ "" ∧ ∀ c ∈ name.toList, isColumnChar c = true := by
  simp [isColumnName]

/-- Whitespace and what has a meaning around columns is in no column name. -/
theorem not_mem_column {name : String} (h : isColumnName name = true) {c : Char} (hc : isColumnChar c = false) : c ∉ name.toList := by
  intro hmem
  have hall := (isColumnName_iff.1 h).2 c hmem
  rw [hc] at hall
  cases hall

/-- Each placeholder ends in a brace. -/
theorem withoutPlaceholders_append (target : String) {tail : String} (h : '\x7d' ∉ tail.toList) (s : String) :
    ∃ front, withoutPlaceholders target (s ++ tail) = front ++ tail := by
  have hlast (before : String) : (before ++ "\x7d").toList.getLast? = some '\x7d' := by
    rw [String.toList_append]
    exact List.getLast?_append_of_ne_nil _ (by decide)
  obtain ⟨s₁, h₁⟩ := Str.remove_append (hlast "$\x7bCUBE") h s
  obtain ⟨s₂, h₂⟩ := Str.remove_append (hlast "\x7bCUBE") h s₁
  obtain ⟨s₃, h₃⟩ := Str.remove_append (hlast ("$\x7b" ++ target)) h s₂
  obtain ⟨s₄, h₄⟩ := Str.remove_append (hlast ("\x7b" ++ target)) h s₃
  refine ⟨s₄, ?_⟩
  have hfirst : Str.remove "$\x7bCUBE\x7d" (s ++ tail) = s₁ ++ tail := h₁
  have hsecond : Str.remove "\x7bCUBE\x7d" (s₁ ++ tail) = s₂ ++ tail := h₂
  rw [withoutPlaceholders, hfirst, hsecond, h₃, h₄]

/-- A text without braces has no placeholders. -/
theorem withoutPlaceholders_of_not_mem (target : String) {s : String} (h : '\x7d' ∉ s.toList) : withoutPlaceholders target s = s := by
  have hremove (before : String) : Str.remove (before ++ "\x7d") s = s := by
    rw [Str.remove, String.toList_append]
    have hnone := Str.removeFrom_of_not_mem before.toList h
    exact (congrArg String.ofList hnone).trans String.ofList_toList
  have hfirst : Str.remove "$\x7bCUBE\x7d" s = s := hremove "$\x7bCUBE"
  have hsecond : Str.remove "\x7bCUBE\x7d" s = s := hremove "\x7bCUBE"
  rw [withoutPlaceholders, hfirst, hsecond, hremove, hremove]

/-- **The importer keeps the column** of a side that is one. -/
theorem cleanJoinSide_of_read {cube side : String} {raw : CubeJoin} {s : JoinSide} (h : readJoinSide cube raw.name side = some s) :
    cleanJoinSide side raw = s.column ∧ s.column ≠ "" := by
  rw [cleanJoinSide_eq]
  unfold readJoinSide at h
  cases hdot : Str.rsplitOnce (unquotedSide side) '.' with
  | none =>
    rw [hdot] at h
    dsimp only at h
    cases hcolumn : isColumnName (unquotedSide side) with
    | false => simp [hcolumn] at h
    | true =>
      rw [hcolumn, if_pos rfl] at h
      obtain rfl := Option.some.inj h
      rw [withoutPlaceholders_of_not_mem raw.name (not_mem_column hcolumn (by decide)),
        Str.lastSegment_of_not_mem (not_mem_column hcolumn (by decide))]
      exact ⟨Str.trim_trim _, (isColumnName_iff.1 hcolumn).1⟩
  | some parts =>
    obtain ⟨qualifier, column⟩ := parts
    rw [hdot] at h
    dsimp only at h
    cases hcolumn : isColumnName (Str.trim column) with
    | false => simp [hcolumn] at h
    | true =>
      rw [hcolumn, if_pos rfl] at h
      obtain ⟨owner, -, rfl⟩ := Option.map_eq_some_iff.1 h
      obtain ⟨hside, hplain⟩ := Str.rsplitOnce_eq_some hdot
      have hbrace : '\x7d' ∉ ("." ++ column).toList := by
        rw [String.toList_append, List.mem_append]
        rintro (hmem | hmem)
        · exact absurd hmem (by decide)
        · exact not_mem_column hcolumn (by decide) ((Str.mem_trim (by decide)).2 hmem)
      obtain ⟨front, hfront⟩ := withoutPlaceholders_append raw.name hbrace qualifier
      have htail : unquotedSide side = qualifier ++ ("." ++ column) := hside.trans String.append_assoc
      rw [htail, hfront, ← String.append_assoc, Str.lastSegment_append hplain]
      exact ⟨rfl, (isColumnName_iff.1 hcolumn).1⟩

/-! ## Faithful joins -/

theorem readEquality_eq_some {cube target clause : String} {left right : JoinSide} (h : readEquality cube target clause = some (left, right)) :
    ∃ l r, Str.splitOnce clause '=' = some (l, r) ∧ readJoinSide cube target l = some left ∧ readJoinSide cube target r = some right := by
  unfold readEquality at h
  cases hsplit : Str.splitOnce clause '=' with
  | none =>
    rw [hsplit] at h
    cases h
  | some sides =>
    obtain ⟨l, r⟩ := sides
    rw [hsplit] at h
    dsimp only at h
    cases hsecond : Str.containsChar r '=' with
    | true => simp [hsecond] at h
    | false =>
      simp only [hsecond, Bool.false_eq_true, if_false, Option.bind_eq_bind, Option.bind_eq_some_iff, Option.pure_def, Option.some.injEq] at h
      obtain ⟨left', hleft, right', hright, hpair⟩ := h
      obtain ⟨rfl, rfl⟩ := Prod.mk.inj hpair
      exact ⟨l, r, rfl, hleft, hright⟩

/-- The pair stands as it is written. -/
theorem orient_eq_written_iff {left right : JoinSide} : orient left right = some (left.column, right.column) ↔
    baseFirst left right = true ∨ baseFirst right left = true ∧ left.column = right.column := by
  unfold orient
  cases hfirst : baseFirst left right with
  | true => simp
  | false =>
    cases hsecond : baseFirst right left with
    | false => simp
    | true =>
      simp only [Bool.false_eq_true, if_false, if_true, false_or, true_and, Option.some.injEq, Prod.mk.injEq]
      exact ⟨fun h => h.2, fun h => ⟨h.symm, h⟩⟩

/-- A readable equality is imported as it is written. -/
theorem cubeJoinToJoin_of_read {cube sql : String} {raw : CubeJoin} {left right : JoinSide} (hsql : cubeSql raw.sql = some sql)
    (h : readEquality cube raw.name sql = some (left, right)) (report : ImportReport) :
    ∃ join, (cubeJoinToJoin raw report).1 = some join ∧ join.on = [(left.column, right.column)] := by
  obtain ⟨l, r, hsplit, hleft, hright⟩ := readEquality_eq_some h
  obtain ⟨hl, hlne⟩ := cleanJoinSide_of_read hleft
  obtain ⟨hr, hrne⟩ := cleanJoinSide_of_read hright
  unfold cubeJoinToJoin
  rw [hsql]
  dsimp only
  rw [hsplit]
  dsimp only
  rw [hl, hr, if_neg (by simp [hlne, hrne])]
  exact ⟨_, rfl, rfl⟩

/-- What the importer makes of a text with an `=`. -/
theorem cubeJoinToJoin_of_split {sql : String} {raw : CubeJoin} {l r : String} (hsql : cubeSql raw.sql = some sql)
    (hsplit : Str.splitOnce sql '=' = some (l, r)) (report : ImportReport) :
    (Nameless raw.name l ∨ Nameless raw.name r) ∧ (cubeJoinToJoin raw report).1 = none ∧
        (cubeJoinToJoin raw report).2 = report.warn ("join `" ++ raw.name ++ "`: could not read `" ++ sql ++ "` as a column pair; join skipped") ∨
      ¬(Nameless raw.name l ∨ Nameless raw.name r) ∧
        ∃ join, (cubeJoinToJoin raw report).1 = some join ∧ join.on = [(cleanJoinSide l raw, cleanJoinSide r raw)] := by
  unfold cubeJoinToJoin
  rw [hsql]
  dsimp only
  rw [hsplit]
  dsimp only
  by_cases hblank : cleanJoinSide l raw = "" ∨ cleanJoinSide r raw = ""
  · rw [if_pos hblank]
    rw [cleanJoinSide_eq_empty_iff, cleanJoinSide_eq_empty_iff] at hblank
    exact .inl ⟨hblank, rfl, rfl⟩
  · rw [if_neg hblank]
    rw [cleanJoinSide_eq_empty_iff, cleanJoinSide_eq_empty_iff] at hblank
    exact .inr ⟨hblank, _, rfl, rfl⟩

/-- Without an `=` a join is dropped, and nothing is said. -/
theorem cubeJoinToJoin_of_no_split {sql : String} {raw : CubeJoin} (hsql : cubeSql raw.sql = some sql)
    (hsplit : Str.splitOnce sql '=' = none) (report : ImportReport) : cubeJoinToJoin raw report = (none, report) := by
  unfold cubeJoinToJoin
  rw [hsql]
  dsimp only
  rw [hsplit]

theorem Conjunction.ne_nil {sql : String} {clauses : List String} (h : Conjunction sql clauses) : clauses ≠ [] := by
  cases h with
  | single => exact List.cons_ne_nil _ _
  | and => exact List.cons_ne_nil _ _

/-- One pair is that of the whole text. -/
theorem HasPairs.single {cube target sql : String} {pair : String × String} (h : HasPairs cube target sql [pair]) :
    ∃ left right, readEquality cube target sql = some (left, right) ∧ orient left right = some pair := by
  obtain ⟨clauses, hconjunction, hpairs⟩ := h
  cases hpairs with
  | cons hpair hrest =>
    cases hrest
    cases hconjunction with
    | single =>
      obtain ⟨⟨left, right⟩, hread, horient⟩ := Option.bind_eq_some_iff.1 hpair
      exact ⟨left, right, hread, horient⟩
    | and _ _ _ _ _ _ _ hrest => exact absurd rfl hrest.ne_nil

variable {cube sql : String} {raw : CubeJoin} {report : ImportReport}

theorem JoinFaithful.inOrder_or (hsql : cubeSql raw.sql = some sql) (h : JoinFaithful cube raw sql report) :
    InOrder cube raw.name sql ∨ HasNamelessSide raw.name sql := by
  cases hsplit : Str.splitOnce sql '=' with
  | none =>
    have hdropped := cubeJoinToJoin_of_no_split hsql hsplit report
    rcases h with ⟨join, pairs, himported, -⟩ | ⟨-, message, -, hwarned⟩
    · rw [hdropped] at himported
      cases himported
    · rw [hdropped] at hwarned
      have hlength := congrArg (·.warnings.length) hwarned
      simp at hlength
  | some sides =>
    rcases cubeJoinToJoin_of_split hsql hsplit report with ⟨hblank, -, -⟩ | ⟨-, join, himport, hon⟩
    · exact .inr ⟨_, _, hsplit, hblank⟩
    · rcases h with ⟨join', pairs, himported, hpairs, hperm⟩ | ⟨hnone, -⟩
      · obtain rfl := Option.some.inj (himport.symm.trans himported)
        rw [hon] at hperm
        obtain rfl := List.singleton_perm.1 hperm
        obtain ⟨left, right, hread, horient⟩ := hpairs.single
        obtain ⟨join', himported', hon'⟩ := cubeJoinToJoin_of_read hsql hread report
        obtain rfl := Option.some.inj (himport.symm.trans himported')
        have hpair := List.head_eq_of_cons_eq (hon.symm.trans hon')
        rw [hpair] at horient
        exact .inl ⟨left, right, hread, orient_eq_written_iff.1 horient⟩
      · rw [himport] at hnone
        cases hnone

theorem joinFaithful_of_inOrder (hsql : cubeSql raw.sql = some sql) (h : InOrder cube raw.name sql) : JoinFaithful cube raw sql report := by
  obtain ⟨left, right, hread, horder⟩ := h
  obtain ⟨join, himport, hon⟩ := cubeJoinToJoin_of_read hsql hread report
  refine .inl ⟨join, [(left.column, right.column)], himport, ⟨[sql], .single sql, .cons ?_ .nil⟩, List.Perm.of_eq hon⟩
  rw [hread]
  exact orient_eq_written_iff.2 horder

/-- The warning of a skipped join opens with its name. -/
theorem isAbout_skipped (name sql : String) :
    IsAbout ("join `" ++ name ++ "`") ("join `" ++ name ++ "`: could not read `" ++ sql ++ "` as a column pair; join skipped") := by
  refine ⟨("could not read `" ++ sql ++ "` as a column pair; join skipped").toList, ?_⟩
  have hmark : "`: could not read `" = "`" ++ ": " ++ "could not read `" := rfl
  rw [hmark]
  simp only [String.toList_append, List.append_assoc]

theorem joinFaithful_of_nameless (hsql : cubeSql raw.sql = some sql) (h : HasNamelessSide raw.name sql) : JoinFaithful cube raw sql report := by
  obtain ⟨l, r, hsplit, hblank⟩ := h
  rcases cubeJoinToJoin_of_split hsql hsplit report with ⟨-, hnone, hwarned⟩ | ⟨hsome, -⟩
  · exact .inr ⟨hnone, _, isAbout_skipped raw.name sql, hwarned⟩
  · exact absurd hblank hsome

/-- **A join is imported faithfully if and only if** its condition is one equality that is written with
the base's column first, or with columns of one name, or a side of the first `=` names no column. -/
theorem joinFaithful_iff (cube : String) (raw : CubeJoin) (report : ImportReport) {sql : String} (hsql : cubeSql raw.sql = some sql) :
    JoinFaithful cube raw sql report ↔ InOrder cube raw.name sql ∨ HasNamelessSide raw.name sql :=
  ⟨fun h => h.inOrder_or hsql, fun h => h.elim (joinFaithful_of_inOrder hsql) (joinFaithful_of_nameless hsql)⟩

/-! ## The other order -/

/-- A join with customers on a condition. -/
def customersOn (sql : String) : CubeJoin := { name := "customers", sql := some (.string sql) }

theorem joinFaithful_base_first :
    JoinFaithful "orders" (customersOn "\x7bCUBE\x7d.customer_id = \x7bcustomers\x7d.id") "\x7bCUBE\x7d.customer_id = \x7bcustomers\x7d.id" {} :=
  (joinFaithful_iff "orders" (customersOn "\x7bCUBE\x7d.customer_id = \x7bcustomers\x7d.id") {} rfl).2
    (.inl ⟨⟨some .base, "customer_id"⟩, ⟨some .target, "id"⟩, by decide +kernel, .inl (by decide)⟩)

/-- The same equality the other way round pairs each column with the wrong cube. -/
theorem target_first_imported_as_base :
    (cubeJoinToJoin (customersOn "\x7bcustomers\x7d.id = \x7bCUBE\x7d.customer_id") {}).1.map (·.on) = some [("id", "customer_id")] ∧
      HasPairs "orders" "customers" "\x7bcustomers\x7d.id = \x7bCUBE\x7d.customer_id" [("customer_id", "id")] ∧
      ¬JoinFaithful "orders" (customersOn "\x7bcustomers\x7d.id = \x7bCUBE\x7d.customer_id")
        "\x7bcustomers\x7d.id = \x7bCUBE\x7d.customer_id" {} := by
  have hread : readEquality "orders" "customers" "\x7bcustomers\x7d.id = \x7bCUBE\x7d.customer_id" =
      some (⟨some .target, "id"⟩, ⟨some .base, "customer_id"⟩) := by decide +kernel
  refine ⟨by decide +kernel, ⟨_, .single _, .cons ?_ .nil⟩, fun h => ?_⟩
  · rw [hread]
    rfl
  · rcases h.inOrder_or rfl with ⟨left, right, hsides, horder⟩ | ⟨l, r, hsplit, hblank⟩
    · obtain ⟨rfl, rfl⟩ := Prod.mk.inj (Option.some.inj (hread.symm.trans hsides))
      exact absurd horder (by decide)
    · have hsides : Str.splitOnce "\x7bcustomers\x7d.id = \x7bCUBE\x7d.customer_id" '=' =
          some ("\x7bcustomers\x7d.id ", " \x7bCUBE\x7d.customer_id") := by decide +kernel
      obtain ⟨rfl, rfl⟩ := Prod.mk.inj (Option.some.inj (hsides.symm.trans hsplit))
      unfold Nameless at hblank
      exact absurd hblank (by decide +kernel)

end GraphNight
