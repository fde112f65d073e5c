import GraphNight.Lib.Affix
import GraphNight.Runtime.Suggest
import Mathlib.Tactic.SplitIfs

/-!
# How a filter text is read (`graphnight-runtime/src/suggest.rs`)

A filter text is cut at its first two colons. Its value is unquoted as a whole before it is cut
at commas, and what was quoted is read like everything else: as a number, a boolean or a null
where it looks like one.
-/

namespace GraphNight

/-- What is documented of floats: they are spelled with letters, digits, signs and a point and are none of
the words the sources know, a text that reads as an integer reads as a finite one, and in JSON they have a
point or an exponent. -/
structure RustStd.FloatsSpelled (std : RustStd) : Prop where
  nonempty : std.parseF64 "" = none
  letters : ∀ {s v}, std.parseF64 s = some v → ∀ c ∈ ['\'', ':', ','], c ∉ s.toList
  words : ∀ {s v}, std.parseF64 s = some v → Str.toAsciiLowercase s ∉ ["true", "false", "null", "none"]
  finite : ∀ {s}, std.parseF64 s = some .null → parseI64 s = none
  written : ∀ {s v}, std.parseF64 s = some v → v = .null ∨ ∃ text : String, v = .number text ∧ ('.' ∈ text.toList ∨ 'e' ∈ text.toList)

namespace Suggest

variable {std : RustStd}

/-! ## The parts of a filter text -/

/-- The field, the operator and the value: `splitn(3, ':')`. -/
def filterParts (spec : String) : String × String × String :=
  let (field, rest) := (Str.splitOnce spec ':').getD (spec, "")
  let (operator, value) := (Str.splitOnce rest ':').getD (rest, "")
  (field, operator, value)

/-- A filter whose operator is `o` is accepted. -/
structure Accepted (std : RustStd) (spec : String) (o : FilterOperator) : Prop where
  field : Str.trim (filterParts spec).1 ≠ ""
  named : Str.trim (filterParts spec).2.1 ≠ ""
  operator : parseOperator std (Str.toAsciiLowercase (Str.trim (filterParts spec).2.1)) = .ok o
  value : o.needsValue = true → (filterParts spec).2.2 ≠ ""

theorem parseFilter_eq_ok {spec : String} {f : Filter} :
    parseFilter std spec = .ok f ↔ Accepted std spec f.operator ∧
      f = { field := Str.trim (filterParts spec).1, operator := f.operator, value := coerceValue std f.operator (filterParts spec).2.2 } := by
  obtain ⟨field, rest, hfirst⟩ : ∃ field rest, (Str.splitOnce spec ':').getD (spec, "") = (field, rest) := ⟨_, _, rfl⟩
  obtain ⟨operator, value, hsecond⟩ : ∃ operator value, (Str.splitOnce rest ':').getD (rest, "") = (operator, value) := ⟨_, _, rfl⟩
  have hparts : filterParts spec = (field, operator, value) := by simp only [filterParts, hfirst, hsecond]
  unfold parseFilter
  simp only [hfirst, hsecond, hparts]
  constructor
  · intro h
    by_cases hfield : Str.trim field = ""
    · rw [if_pos hfield] at h
      cases h
    by_cases hnamed : Str.trim operator = ""
    · rw [if_neg hfield, if_pos hnamed] at h
      cases h
    rw [if_neg hfield, if_neg hnamed] at h
    obtain ⟨o, ho, h⟩ := Res.bind_eq_ok.1 h
    by_cases hvalue : o.needsValue = true ∧ value = ""
    · rw [if_pos hvalue] at h
      cases h
    rw [if_neg hvalue] at h
    obtain rfl := Except.ok.inj h
    refine ⟨⟨?_, ?_, ?_, ?_⟩, rfl⟩ <;> rw [hparts]
    · exact hfield
    · exact hnamed
    · exact ho
    · exact fun hneeds hempty => hvalue ⟨hneeds, hempty⟩
  · rintro ⟨⟨hfield, hnamed, ho, hvalue⟩, hf⟩
    rw [hparts] at hfield hnamed ho hvalue
    rw [if_neg hfield, if_neg hnamed]
    refine Res.bind_eq_ok.2 ⟨f.operator, ho, ?_⟩
    rw [if_neg fun h => hvalue h.1 h.2, ← hf]

theorem filterParts_of_texts {field operator value : String} (hfield : ':' ∉ field.toList) (hoperator : ':' ∉ operator.toList) :
    filterParts (field ++ ":" ++ (operator ++ ":" ++ value)) = (field, operator, value) := by
  have houter := Str.splitOnce_append hfield (operator ++ ":" ++ value)
  have hinner := Str.splitOnce_append hoperator value
  have hcolon : String.singleton ':' = ":" := rfl
  rw [hcolon] at houter hinner
  simp [filterParts, houter, hinner]

/-- The colon of a field stands in for the one behind the operator. -/
theorem filterParts_of_colon {field operator value : String} (hfield : ':' ∈ field.toList) :
    ∃ more, (filterParts (field ++ ":" ++ (operator ++ ":" ++ value))).2.2 = more ++ ":" ++ value := by
  obtain ⟨first, second, rfl, hfirst⟩ := Str.exists_split hfield
  have houter := Str.splitOnce_append hfirst (second ++ ":" ++ (operator ++ ":" ++ value))
  have hcolon : String.singleton ':' = ":" := rfl
  by_cases hsecond : ':' ∈ second.toList
  · obtain ⟨third, fourth, rfl, hthird⟩ := Str.exists_split hsecond
    have hinner := Str.splitOnce_append hthird (fourth ++ ":" ++ (operator ++ ":" ++ value))
    refine ⟨fourth ++ ":" ++ operator, ?_⟩
    simp only [hcolon, String.append_assoc] at houter hinner ⊢
    simp [filterParts, houter, hinner]
  · have hinner := Str.splitOnce_append hsecond (operator ++ ":" ++ value)
    refine ⟨operator, ?_⟩
    simp only [hcolon, String.append_assoc] at houter hinner ⊢
    simp [filterParts, houter, hinner]

/-! ## The quotes around a value -/

/-- A value without the quotes around it. -/
def unquote (raw : String) : String := ((Str.stripPrefix raw "'").bind fun r => Str.stripSuffixChar r '\'').getD raw

theorem unquote_quoted (s : String) : unquote ("'" ++ s ++ "'") = s := by
  have hprefix : Str.stripPrefix ("'" ++ s ++ "'") "'" = some (s ++ "'") := by
    rw [String.append_assoc]
    exact Str.stripPrefix_append "'" (s ++ "'")
  simp [unquote, hprefix, Str.stripSuffixChar]

/-- Nothing but quotes is taken off. -/
theorem mem_unquote {raw : String} {c : Char} (hc : c ≠ '\'') : c ∈ (unquote raw).toList ↔ c ∈ raw.toList := by
  unfold unquote
  cases hprefix : Str.stripPrefix raw "'" with
  | none => rfl
  | some rest =>
    obtain rfl := Str.stripPrefix_eq_some.1 hprefix
    rw [Option.bind_some, Str.stripSuffixChar]
    split_ifs with hlast
    · have hrest : rest.toList = rest.toList.dropLast ++ ['\''] := by
        obtain ⟨front, hfront⟩ := List.getLast?_eq_some_iff.1 hlast
        rw [hfront, List.dropLast_concat]
      rw [Option.getD_some, String.toList_ofList, String.toList_append, hrest]
      simp [hc]
    · rfl

theorem unquote_of_not_mem {raw : String} (h : '\'' ∉ raw.toList) : unquote raw = raw := by
  have hprefix : Str.stripPrefix raw "'" = none := by
    rw [Str.stripPrefix_eq_none]
    rintro rest rfl
    exact h (by simp)
  rw [unquote, hprefix]
  rfl

/-- A quoted text behind something keeps its first quote. -/
theorem quote_mem_unquote {more s : String} (h : more ≠ "") : '\'' ∈ (unquote (more ++ "'" ++ s ++ "'")).toList := by
  unfold unquote
  cases hprefix : Str.stripPrefix (more ++ "'" ++ s ++ "'") "'" with
  | none => simp
  | some rest =>
    have hrest := Str.stripPrefix_eq_some.1 hprefix
    obtain ⟨c, cs, hmore⟩ := List.exists_cons_of_ne_nil (mt String.toList_eq_nil_iff.1 h)
    have hchars := congrArg String.toList hrest
    simp only [String.toList_append, hmore, List.cons_append] at hchars
    have hchars : cs ++ (['\''] ++ (s.toList ++ ['\''])) = rest.toList := by simpa using (List.cons.inj hchars).2
    have hlast : rest.toList.getLast? = some '\'' := by
      rw [← hchars, ← List.append_assoc, ← List.append_assoc, List.getLast?_concat]
    have hfront : rest.toList.dropLast = cs ++ (['\''] ++ s.toList) := by
      rw [← hchars, ← List.append_assoc, ← List.append_assoc, List.dropLast_concat, List.append_assoc]
    rw [Option.bind_some, Str.stripSuffixChar, if_pos hlast, Option.getD_some, String.toList_ofList, hfront]
    simp

/-! ## What a scalar is read as -/

/-- Whether a text begins with a minus sign, and what stands behind a sign. -/
def signedDigits : List Char → Bool × List Char
  | '-' :: cs => (true, cs)
  | '+' :: cs => (false, cs)
  | cs => (false, cs)

/-- The integer of a text, however large: an optional sign and digits. -/
def readInt (s : String) : Option Int :=
  let parts := signedDigits s.toList
  let n : Int := parts.2.foldl (fun n c => n * 10 + (c.toNat - '0'.toNat : Nat)) 0
  if parts.2.isEmpty ∨ !parts.2.all Str.isAsciiDigit then none else some (if parts.1 then -n else n)

theorem parseI64_eq (s : String) : parseI64 s = (readInt s).filter fun n => -(2 ^ 63) ≤ n ∧ n < 2 ^ 63 := by
  have hparse : parseI64 s =
      if (signedDigits s.toList).2.isEmpty ∨ !(signedDigits s.toList).2.all Str.isAsciiDigit then none
      else
        let n : Int := (signedDigits s.toList).2.foldl (fun n c => n * 10 + (c.toNat - '0'.toNat : Nat)) 0
        let n := if (signedDigits s.toList).1 then -n else n
        if -(2 ^ 63) ≤ n ∧ n < 2 ^ 63 then some n else none := rfl
  rw [hparse, readInt]
  by_cases hdigits : (signedDigits s.toList).2.isEmpty ∨ !(signedDigits s.toList).2.all Str.isAsciiDigit
  · rw [if_pos hdigits, if_pos hdigits]
    rfl
  · rw [if_neg hdigits, if_neg hdigits]
    simp only [Option.filter, decide_eq_true_eq]

theorem mem_signedDigits {cs : List Char} {c : Char} (hc : c ∈ cs) : c ∈ (signedDigits cs).2 ∨ c = '-' ∨ c = '+' := by
  unfold signedDigits
  split
  · exact (List.mem_cons.1 hc).elim (fun h => .inr (.inl h)) .inl
  · exact (List.mem_cons.1 hc).elim (fun h => .inr (.inr h)) .inl
  · exact .inl hc

/-- An integer is spelled with digits and a sign. -/
theorem spelled_of_readInt {s : String} {n : Int} (h : readInt s = some n) {c : Char} (hc : c ∈ s.toList) :
    Str.isAsciiDigit c = true ∨ c = '-' ∨ c = '+' := by
  unfold readInt at h
  by_cases hdigits : (signedDigits s.toList).2.isEmpty ∨ !(signedDigits s.toList).2.all Str.isAsciiDigit
  · rw [if_pos hdigits] at h
    cases h
  · simp only [not_or, Bool.not_eq_true', Bool.not_eq_false] at hdigits
    exact (mem_signedDigits hc).imp_left (List.all_eq_true.1 hdigits.2 c)

theorem spelled_of_parseI64 {s : String} {n : Int} (h : parseI64 s = some n) {c : Char} (hc : c ∈ s.toList) :
    Str.isAsciiDigit c = true ∨ c = '-' ∨ c = '+' := by
  rw [parseI64_eq, Option.filter_eq_some_iff] at h
  exact spelled_of_readInt h.1 hc

/-- What no number and no word the sources know is spelled with. -/
def Separator (c : Char) : Prop := c = '\'' ∨ c = ':' ∨ c = ','

/-- A text that is none of the other things is read as itself. -/
theorem parseScalar_of_plain {s : String} (h : Str.trim s ≠ "" → parseI64 (Str.trim s) = none ∧ std.parseF64 (Str.trim s) = none ∧
    Str.toAsciiLowercase (Str.trim s) ∉ ["true", "false", "null", "none"]) : parseScalar std s = .string (Str.trim s) := by
  unfold parseScalar
  by_cases hempty : Str.trim s = ""
  · simp only [hempty, if_true]
  · obtain ⟨hint, hreal, hwords⟩ := h hempty
    simp only [if_neg hempty, hint, hreal]
    split
    · rename_i hword
      exact absurd (by simp [hword]) hwords
    · rename_i hword
      exact absurd (by simp [hword]) hwords
    · rename_i hword
      exact absurd (by simp [hword]) hwords
    · rename_i hword
      exact absurd (by simp [hword]) hwords
    · rfl

/-- What is read as a text was none of the other things. -/
theorem plain_of_parseScalar (hfloat : std.FloatsSpelled) {s t : String} (h : parseScalar std t = .string s) :
    Str.trim t = s ∧ (s ≠ "" → parseI64 s = none ∧ std.parseF64 s = none ∧ Str.toAsciiLowercase s ∉ ["true", "false", "null", "none"]) := by
  unfold parseScalar at h
  by_cases hempty : Str.trim t = ""
  · simp only [hempty, if_true, Value.string.injEq] at h
    exact ⟨hempty.trans h, fun hne => absurd h.symm hne⟩
  simp only [if_neg hempty] at h
  cases hint : parseI64 (Str.trim t) with
  | some n =>
    rw [hint] at h
    cases h
  | none =>
    cases hreal : std.parseF64 (Str.trim t) with
    | some v =>
      rw [hint, hreal] at h
      simp only at h
      subst h
      obtain h | ⟨text, h, -⟩ := hfloat.written hreal
      · cases h
      · cases h
    | none =>
      rw [hint, hreal] at h
      simp only at h
      split at h
      · cases h
      · cases h
      · cases h
      · cases h
      · obtain rfl := Value.string.inj h
        rename_i htrue hfalse hnull hnone
        refine ⟨rfl, fun _ => ⟨hint, hreal, ?_⟩⟩
        simpa using ⟨htrue, hfalse, hnull, hnone⟩

/-- A text that is read as itself: without whitespace at its ends, and nothing else it could be. -/
def PlainText (std : RustStd) (s : String) : Prop :=
  Str.trim s = s ∧ (s ≠ "" → parseI64 s = none ∧ std.parseF64 s = none ∧ Str.toAsciiLowercase s ∉ ["true", "false", "null", "none"])

theorem parseScalar_eq_string (hfloat : std.FloatsSpelled) {s : String} : parseScalar std s = .string s ↔ PlainText std s := by
  constructor
  · exact plain_of_parseScalar hfloat
  · rintro ⟨htrim, hplain⟩
    have h := @parseScalar_of_plain std s (by rwa [htrim])
    rwa [htrim] at h

theorem Separator.not_spelled {c : Char} (hc : Separator c) : ¬(Str.isAsciiDigit c = true ∨ c = '-' ∨ c = '+') := by
  obtain rfl | rfl | rfl := hc <;> decide

/-- A text with a separator in it is no number and no word. -/
theorem parseScalar_of_separator (hfloat : std.FloatsSpelled) {s : String} {c : Char} (hc : Separator c) (hmem : c ∈ s.toList) :
    parseScalar std s = .string (Str.trim s) := by
  have hspace : Str.isWhitespace c = false := by obtain rfl | rfl | rfl := hc <;> decide
  have htrim : c ∈ (Str.trim s).toList := (Str.mem_trim hspace).2 hmem
  refine parseScalar_of_plain fun _ => ⟨?_, ?_, ?_⟩
  · rw [Option.eq_none_iff_forall_ne_some]
    exact fun n hn => hc.not_spelled (spelled_of_parseI64 hn htrim)
  · rw [Option.eq_none_iff_forall_ne_some]
    refine fun v hv => hfloat.letters hv c ?_ htrim
    obtain rfl | rfl | rfl := hc <;> simp
  · intro hword
    have hlower : c ∈ (Str.toAsciiLowercase (Str.trim s)).toList := by
      rw [Str.toAsciiLowercase, String.toList_ofList]
      have hfix : c.toLower = c := by obtain rfl | rfl | rfl := hc <;> decide
      exact hfix ▸ List.mem_map_of_mem htrim
    simp only [List.mem_cons, List.not_mem_nil, or_false] at hword
    obtain rfl | rfl | rfl := hc <;> obtain hword | hword | hword | hword := hword <;> (rw [hword] at hlower; revert hlower; decide)

/-! ## What a value is read as -/

/-- An operator with one value. -/
def takesOne (o : FilterOperator) : Bool := !o.isValueless && !o.needsTwoValues && o != .in && o != .notIn

/-- The texts the scalars of a value are read from. -/
def pieces (o : FilterOperator) (value : String) : List String :=
  let unquoted := unquote (Str.trim value)
  if o.isValueless then []
  else if o.needsTwoValues then
    let cut := (Str.splitOnce unquoted ',').getD (unquoted, "")
    [cut.1, cut.2]
  else if o = .in ∨ o = .notIn then (Str.split unquoted ',').map Str.trim
  else [unquoted]

/-- The value is made of the scalars; a list keeps those that are no null. -/
theorem coerceValue_eq (o : FilterOperator) (value : String) :
    coerceValue std o value =
      let scalars := (pieces o value).map (parseScalar std)
      if o.isValueless then .null
      else if o.needsTwoValues then .array scalars
      else if o = .in ∨ o = .notIn then .array (scalars.filter (· ≠ .null))
      else scalars.headD .null := by
  unfold coerceValue pieces unquote
  by_cases hvalueless : o.isValueless = true
  · simp only [if_pos hvalueless]
  simp only [if_neg hvalueless]
  by_cases htwo : o.needsTwoValues = true
  · simp only [if_pos htwo, List.map_cons, List.map_nil]
  simp only [if_neg htwo]
  by_cases hlist : o = .in ∨ o = .notIn
  · simp only [if_pos hlist, List.map_map, Function.comp_def]
  · simp only [if_neg hlist, List.map_cons, List.map_nil, List.headD_cons]

/-- A separator of the unquoted value ends up in a text, unless the operator takes no value. -/
theorem coerceValue_of_mem (hfloat : std.FloatsSpelled) {o : FilterOperator} {value : String} {c : Char} (hc : c = '\'' ∨ c = ':')
    (hmem : c ∈ (unquote (Str.trim value)).toList) :
    coerceValue std o value = .null ∨ (∃ s, coerceValue std o value = .string s ∧ c ∈ s.toList) ∨
      ∃ vs, coerceValue std o value = .array vs ∧ ∃ s, .string s ∈ vs ∧ c ∈ s.toList := by
  have hseparator : Separator c := hc.imp_right .inl
  have hspace : Str.isWhitespace c = false := by obtain rfl | rfl := hc <;> decide
  have hcomma : c ≠ ',' := by obtain rfl | rfl := hc <;> decide
  have hread : ∀ {s : String}, c ∈ s.toList → parseScalar std s = .string (Str.trim s) ∧ c ∈ (Str.trim s).toList :=
    fun hs => ⟨parseScalar_of_separator hfloat hseparator hs, (Str.mem_trim hspace).2 hs⟩
  by_cases hvalueless : o.isValueless = true
  · rw [coerceValue_eq, if_pos hvalueless]
    exact .inl rfl
  -- one of the pieces holds it
  obtain ⟨piece, hpiece, hpc⟩ : ∃ piece ∈ pieces o value, c ∈ piece.toList := by
    unfold pieces
    simp only [if_neg hvalueless]
    split_ifs with htwo hlist
    · obtain hfirst | hsecond := Str.mem_splitOnce hcomma hmem
      · exact ⟨_, List.mem_cons_self, hfirst⟩
      · exact ⟨_, List.mem_cons_of_mem _ List.mem_cons_self, hsecond⟩
    · obtain hsame | ⟨part, hpart, hpc⟩ := @Str.mem_split _ ',' _ hmem
      · exact absurd hsame hcomma
      · exact ⟨_, List.mem_map_of_mem hpart, (Str.mem_trim hspace).2 hpc⟩
    · exact ⟨_, List.mem_singleton_self _, hmem⟩
  obtain ⟨hscalar, hkept⟩ := hread hpc
  have hmapped : Value.string (Str.trim piece) ∈ (pieces o value).map (parseScalar std) := List.mem_map.2 ⟨piece, hpiece, hscalar⟩
  rw [coerceValue_eq, if_neg hvalueless]
  split_ifs with htwo hlist
  · exact .inr (.inr ⟨_, rfl, _, hmapped, hkept⟩)
  · exact .inr (.inr ⟨_, rfl, _, List.mem_filter.2 ⟨hmapped, by simp⟩, hkept⟩)
  · have hone : pieces o value = [unquote (Str.trim value)] := by
      unfold pieces
      simp only [if_neg hvalueless, if_neg htwo, if_neg hlist]
    rw [hone, List.mem_singleton] at hpiece
    subst hpiece
    rw [hone, List.map_cons, List.headD_cons, hscalar]
    exact .inr (.inl ⟨_, rfl, hkept⟩)

theorem pieces_of_takesOne {o : FilterOperator} (h : takesOne o = true) (value : String) :
    pieces o value = [unquote (Str.trim value)] := by
  simp only [takesOne, Bool.and_eq_true, Bool.not_eq_true', bne_iff_ne, ne_eq] at h
  obtain ⟨⟨⟨hvalueless, htwo⟩, hin⟩, hnotIn⟩ := h
  have hlist : ¬(o = .in ∨ o = .notIn) := not_or.2 ⟨hin, hnotIn⟩
  rw [pieces]
  simp only [hvalueless, htwo, hlist, if_false, Bool.false_eq_true]

theorem coerceValue_of_takesOne {o : FilterOperator} (h : takesOne o = true) (value : String) :
    coerceValue std o value = parseScalar std (unquote (Str.trim value)) := by
  simp only [takesOne, Bool.and_eq_true, Bool.not_eq_true', bne_iff_ne, ne_eq] at h
  obtain ⟨⟨⟨hvalueless, htwo⟩, hin⟩, hnotIn⟩ := h
  have hlist : ¬(o = .in ∨ o = .notIn) := not_or.2 ⟨hin, hnotIn⟩
  rw [coerceValue_eq, pieces]
  simp only [hvalueless, htwo, hlist, if_false, Bool.false_eq_true, List.map_cons, List.map_nil, List.headD_cons]

/-! ## Filter texts -/

/-- `field:operator:value` -/
def filterText (field operator value : String) : String := field ++ ":" ++ (operator ++ ":" ++ value)

/-- A field that stays apart from the operator. -/
def FieldFits (field : String) : Prop := ':' ∉ field.toList ∧ Str.trim field ≠ ""

/-- An operator goes by a name. -/
structure Names (std : RustStd) (name : String) (o : FilterOperator) : Prop where
  colon : ':' ∉ name.toList
  nonblank : Str.trim name ≠ ""
  parse : parseOperator std (Str.toAsciiLowercase (Str.trim name)) = .ok o

theorem parseFilter_filterText {field name value : String} {o : FilterOperator} {f : Filter} (hfield : ':' ∉ field.toList)
    (hname : Names std name o) : parseFilter std (filterText field name value) = .ok f ↔
      Str.trim field ≠ "" ∧ (o.needsValue = true → value ≠ "") ∧ f = { field := Str.trim field, operator := o, value := coerceValue std o value } := by
  have hparts : filterParts (filterText field name value) = (field, name, value) := filterParts_of_texts hfield hname.colon
  rw [parseFilter_eq_ok]
  constructor
  · rintro ⟨⟨hnonblank, -, hoperator, hvalue⟩, hf⟩
    simp only [hparts] at hnonblank hoperator hvalue hf
    obtain rfl : o = f.operator := Except.ok.inj (hname.parse.symm.trans hoperator)
    exact ⟨hnonblank, hvalue, hf⟩
  · rintro ⟨hnonblank, hvalue, rfl⟩
    refine ⟨⟨?_, ?_, ?_, ?_⟩, ?_⟩ <;> simp only [hparts]
    · exact hnonblank
    · exact hname.nonblank
    · exact hname.parse
    · exact hvalue

theorem parseFilter_of_fits {field name value : String} {o : FilterOperator} (hfield : FieldFits field) (hname : Names std name o)
    (hvalue : value ≠ "") : parseFilter std (filterText field name value) =
      .ok { field := Str.trim field, operator := o, value := coerceValue std o value } :=
  (parseFilter_filterText hfield.1 hname).2 ⟨hfield.2, fun _ => hvalue, rfl⟩

theorem quoted_ne_empty (s : String) : "'" ++ s ++ "'" ≠ "" := by
  intro hempty
  simpa using congrArg String.toList hempty

/-- A field with a colon in it leaves a colon before the value. -/
theorem parseFilter_of_colon {field name value : String} {f : Filter} (hfield : ':' ∈ field.toList)
    (h : parseFilter std (filterText field name value) = .ok f) :
    ∃ more, f.value = coerceValue std f.operator (more ++ ":" ++ value) := by
  obtain ⟨more, hmore⟩ := @filterParts_of_colon field name value hfield
  refine ⟨more, ?_⟩
  rw [filterText] at h
  have hf := congrArg Filter.value (parseFilter_eq_ok.1 h).2
  rwa [hmore] at hf

theorem trim_quoted (s : String) : Str.trim ("'" ++ s ++ "'") = "'" ++ s ++ "'" := by
  have hends : Str.Trimmed ("'" ++ s ++ "'").toList := by
    constructor
    · intro c hc
      obtain rfl : '\'' = c := by simpa using hc
      decide
    · intro c hc
      have hlast : ("'" ++ s ++ "'").toList.getLast? = some '\'' := by
        rw [String.toList_append]
        exact List.getLast?_concat
      obtain rfl : '\'' = c := Option.some.inj (hlast.symm.trans hc)
      decide
  have h := @Str.trim_of_padded ("'" ++ s ++ "'") [] _ [] (by simp) Str.Blank.nil Str.Blank.nil hends
  rwa [String.ofList_toList] at h

/-- A quoted value behind a colon keeps a quote. -/
theorem quote_mem_of_colon (more s : String) : '\'' ∈ (unquote (Str.trim (more ++ ":" ++ ("'" ++ s ++ "'")))).toList := by
  obtain ⟨front, hne, htrim⟩ := @Str.trim_append (more ++ ":") ("'" ++ s ++ "'") ⟨':', by simp, by decide⟩ ⟨'\'', by
    rw [String.toList_append]
    exact List.getLast?_concat, by decide⟩
  rw [htrim]
  simpa only [String.append_assoc] using @quote_mem_unquote front s hne

end Suggest

end GraphNight
