import GraphNight.Runtime.FilterTexts

/-!
# What shorthand filters say (`graphnight-runtime/src/suggest.rs`)

Which quoted texts, lists, numbers and nulls come out of a filter text as they went in.
-/

namespace GraphNight

namespace Suggest

variable {std : RustStd}

/-! ## Quoted values -/

theorem names_eq : Names std "eq" .eq := ⟨by decide, by decide +kernel, by rfl⟩

/-- The text between quotes is the value of the filter. -/
def QuotedKept (std : RustStd) (field s : String) : Prop :=
  ∃ f, parseFilter std (filterText field "eq" ("'" ++ s ++ "'")) = .ok f ∧ f.value = .string s

theorem quotedKept_iff (hfloat : std.FloatsSpelled) {field s : String} (hs : '\'' ∉ s.toList) :
    QuotedKept std field s ↔ FieldFits field ∧ PlainText std s := by
  have hvalue : coerceValue std .eq ("'" ++ s ++ "'") = parseScalar std s := by
    rw [coerceValue_of_takesOne rfl, trim_quoted, unquote_quoted]
  constructor
  · rintro ⟨f, hf, hkept⟩
    by_cases hfield : ':' ∈ field.toList
    · obtain ⟨more, hmore⟩ := parseFilter_of_colon hfield hf
      rw [hkept] at hmore
      obtain hnull | ⟨t, ht, hquote⟩ | ⟨vs, hvs, -⟩ := coerceValue_of_mem hfloat (o := f.operator) (.inl rfl) (quote_mem_of_colon more s)
      · rw [hnull] at hmore
        cases hmore
      · rw [ht] at hmore
        cases hmore
        exact absurd hquote hs
      · rw [hvs] at hmore
        cases hmore
    · obtain ⟨hnonblank, -, rfl⟩ := (parseFilter_filterText hfield names_eq).1 hf
      simp only [hvalue] at hkept
      exact ⟨⟨hfield, hnonblank⟩, (parseScalar_eq_string hfloat).1 hkept⟩
  · rintro ⟨hfield, hplain⟩
    have hparsed := @parseFilter_of_fits std _ _ _ _ hfield names_eq (quoted_ne_empty s)
    rw [hvalue, (parseScalar_eq_string hfloat).2 hplain] at hparsed
    exact ⟨_, hparsed, rfl⟩

/-! ## Lists of quoted values -/

/-- The quoted items between commas. -/
def quotedList (items : List String) : String := Str.join "," (items.map fun item => "'" ++ item ++ "'")

/-- The items between quotes are the values of the filter, in their order. -/
def ListKept (std : RustStd) (field name : String) (items : List String) : Prop :=
  ∃ f, parseFilter std (filterText field name (quotedList items)) = .ok f ∧ f.value = .array (items.map .string)

/-- Behind the first quote of a list stands a text that ends in a quote, with others in it for every further item. -/
theorem exists_quotedList (item : String) (items : List String) :
    ∃ body, quotedList (item :: items) = "'" ++ body ++ "'" ∧ (items ≠ [] → '\'' ∈ body.toList) ∧ (items = [] → body = item) := by
  induction items generalizing item with
  | nil => exact ⟨item, rfl, fun h => absurd rfl h, fun _ => rfl⟩
  | cons next items ih =>
    obtain ⟨body, hbody, -, -⟩ := ih next
    refine ⟨item ++ "'" ++ "," ++ "'" ++ body, ?_, fun _ => by simp, fun h => by cases h⟩
    have hlist : quotedList (item :: next :: items) = "'" ++ item ++ "'" ++ "," ++ quotedList (next :: items) := rfl
    rw [hlist, hbody]
    simp only [String.append_assoc]

/-- A list of one item keeps it if it is plain and in one piece. -/
theorem plain_of_single (hfloat : std.FloatsSpelled) {s : String}
    (h : (((Str.split s ',').map Str.trim).map (parseScalar std)).filter (· ≠ .null) = [.string s]) :
    ',' ∉ s.toList ∧ PlainText std s := by
  have hmem : Value.string s ∈ (((Str.split s ',').map Str.trim).map (parseScalar std)).filter (· ≠ .null) := by
    rw [h]
    exact List.mem_singleton_self _
  obtain ⟨piece, hpiece, hread⟩ := List.mem_map.1 (List.mem_filter.1 hmem).1
  obtain ⟨part, hpart, rfl⟩ := List.mem_map.1 hpiece
  obtain ⟨htrim, hplain⟩ := plain_of_parseScalar hfloat hread
  rw [Str.trim_trim] at htrim
  have hcomma : ',' ∉ s.toList := by
    rw [← htrim, Str.mem_trim (by decide)]
    exact Str.not_mem_of_mem_split hpart
  refine ⟨hcomma, ?_, hplain⟩
  rw [← htrim, Str.trim_trim]

theorem listKept_iff (hfloat : std.FloatsSpelled) {field name : String} {o : FilterOperator} {items : List String} (hname : Names std name o)
    (ho : o = .in ∨ o = .notIn) (hitems : ∀ item ∈ items, '\'' ∉ item.toList) :
    ListKept std field name items ↔ FieldFits field ∧ ∃ s, items = [s] ∧ ',' ∉ s.toList ∧ PlainText std s := by
  have hvalueless : o.isValueless = false := by obtain rfl | rfl := ho <;> rfl
  have hneeds : o.needsValue = true := by obtain rfl | rfl := ho <;> rfl
  have htwo : o.needsTwoValues = false := by obtain rfl | rfl := ho <;> rfl
  have hvalue : ∀ s, coerceValue std o ("'" ++ s ++ "'") =
      .array ((((Str.split s ',').map Str.trim).map (parseScalar std)).filter (· ≠ .null)) := by
    intro s
    rw [coerceValue_eq, pieces]
    simp only [hvalueless, htwo, ho, if_true, Bool.false_eq_true, if_false, trim_quoted, unquote_quoted]
  have hone : ∀ s, ',' ∉ s.toList → coerceValue std o ("'" ++ s ++ "'") = .array ([parseScalar std (Str.trim s)].filter (· ≠ .null)) := by
    intro s hs
    rw [hvalue, Str.split_of_not_mem hs]
    rfl
  constructor
  · rintro ⟨f, hf, hkept⟩
    have hno : ∀ c vs, f.value = .array vs → (∃ s, Value.string s ∈ vs ∧ c ∈ s.toList) → ∃ item ∈ items, c ∈ item.toList := by
      rintro c vs hvs ⟨s, hs, hcs⟩
      rw [hkept] at hvs
      obtain rfl := Value.array.inj hvs
      obtain ⟨item, hitem, hsame⟩ := List.mem_map.1 hs
      obtain rfl := Value.string.inj hsame
      exact ⟨item, hitem, hcs⟩
    have hno : ∀ {value c}, c = '\'' ∨ c = ':' → c ∈ (unquote (Str.trim value)).toList → f.value = coerceValue std f.operator value →
        ∃ item ∈ items, c ∈ item.toList := by
      intro value c hc hmem hv
      obtain hnull | ⟨t, ht, -⟩ | ⟨vs, hvs, hstring⟩ := coerceValue_of_mem hfloat (o := f.operator) hc hmem
      · rw [hnull, hkept] at hv
        cases hv
      · rw [ht, hkept] at hv
        cases hv
      · exact hno c vs (hv.trans hvs) hstring
    cases items with
    | nil =>
      exfalso
      by_cases hfield : ':' ∈ field.toList
      · obtain ⟨more, hmore⟩ := parseFilter_of_colon hfield hf
        have hcolon : ':' ∈ (unquote (Str.trim (more ++ ":" ++ quotedList []))).toList :=
          (mem_unquote (by decide)).2 ((Str.mem_trim (by decide)).2 (by simp))
        obtain ⟨item, hitem, -⟩ := hno (.inr rfl) hcolon hmore
        cases hitem
      · exact ((parseFilter_filterText hfield hname).1 hf).2.1 hneeds rfl
    | cons item rest =>
      obtain ⟨body, hbody, hquote, hsingle⟩ := exists_quotedList item rest
      rw [hbody] at hf
      by_cases hfield : ':' ∈ field.toList
      · obtain ⟨more, hmore⟩ := parseFilter_of_colon hfield hf
        obtain ⟨other, hother, hin⟩ := hno (.inl rfl) (quote_mem_of_colon more body) hmore
        exact absurd hin (hitems other hother)
      obtain ⟨hnonblank, -, rfl⟩ := (parseFilter_filterText hfield hname).1 hf
      refine ⟨⟨hfield, hnonblank⟩, item, ?_⟩
      by_cases hrest : rest = []
      · obtain rfl := hsingle hrest
        subst hrest
        refine ⟨rfl, ?_⟩
        simp only [hvalue, Value.array.injEq] at hkept
        exact plain_of_single hfloat hkept
      · exfalso
        have hin : '\'' ∈ (unquote (Str.trim ("'" ++ body ++ "'"))).toList := by
          rw [trim_quoted, unquote_quoted]
          exact hquote hrest
        obtain ⟨other, hother, hmem⟩ := hno (.inl rfl) hin rfl
        exact hitems other hother hmem
  · rintro ⟨hfield, s, rfl, hcomma, hplain⟩
    have hparsed := @parseFilter_of_fits std _ _ _ _ hfield hname (quoted_ne_empty s)
    rw [hone s hcomma, hplain.1, (parseScalar_eq_string hfloat).2 hplain] at hparsed
    exact ⟨_, hparsed, rfl⟩

/-! ## Numbers and booleans -/

def truthValue (text : String) : Option Value :=
  match Str.toAsciiLowercase text with
  | "true" => some (.bool true)
  | "false" => some (.bool false)
  | _ => none

/-- The JSON value an unquoted number or boolean denotes: an integer itself as far as JSON numbers go, any other
number the float it reads as. -/
def denoted (std : RustStd) (text : String) : Option Value :=
  let real := (std.parseF64 (Str.trim text)).filter (· ≠ .null)
  match readInt (Str.trim text) with
  | some n => if -(2 ^ 63) ≤ n ∧ n < 2 ^ 64 then some (.number (toString n)) else real
  | none =>
    match real with
    | some v => some v
    | none => truthValue (Str.trim text)

theorem truthValue_eq_some {text : String} {v : Value} (h : truthValue text = some v) :
    ∃ b, v = .bool b ∧ Str.toAsciiLowercase text = if b then "true" else "false" := by
  unfold truthValue at h
  split at h
  · exact ⟨true, (Option.some.inj h).symm, ‹_›⟩
  · exact ⟨false, (Option.some.inj h).symm, ‹_›⟩
  · cases h

/-- What an unquoted text denotes is the value of the filter. -/
def NumberKept (std : RustStd) (field name text : String) (v : Value) : Prop :=
  ∃ f, parseFilter std (filterText field name text) = .ok f ∧ f.value = v

/-- An integer that fits an unsigned word, but no signed one. -/
def BeyondI64 (text : String) : Prop := ∃ n, readInt (Str.trim text) = some n ∧ 2 ^ 63 ≤ n ∧ n < 2 ^ 64

theorem mem_toString_int {n : Int} {c : Char} (h : c ∈ (toString n).toList) : c.isDigit = true ∨ c = '-' := by
  have hnat : ∀ {m : Nat}, c ∈ (toString m).toList → c.isDigit = true := by
    intro m hm
    rw [Nat.toString_eq_repr, Nat.toList_repr] at hm
    exact Nat.isDigit_of_mem_toDigits (by decide) (by decide) hm
  cases n with
  | ofNat m => exact .inl (hnat h)
  | negSucc m =>
    have hneg : toString (Int.negSucc m) = "-" ++ toString (m + 1) := rfl
    rw [hneg, String.toList_append, List.mem_append] at h
    obtain h | h := h
    · exact .inr (by simpa using h)
    · exact .inl (hnat h)

/-- An integer is written otherwise than a float. -/
theorem number_ne_of_written {n : Int} {text : String} (h : '.' ∈ text.toList ∨ 'e' ∈ text.toList) : text ≠ toString n := by
  rintro rfl
  obtain h | h := h
  · exact absurd (mem_toString_int h) (by decide)
  · exact absurd (mem_toString_int h) (by decide)

/-- A text that is a number, a truth value, or neither. -/
inductive Reading (std : RustStd) (text : String) : Value → Prop where
  | small (n : Int) (hint : readInt text = some n) (hlow : -(2 ^ 63) ≤ n) (hhigh : n < 2 ^ 63) : Reading std text (.number (toString n))
  | beyond (n : Int) (hint : readInt text = some n) (hlow : 2 ^ 63 ≤ n) (hhigh : n < 2 ^ 64) : Reading std text (.number (toString n))
  | real (v : Value) (hint : parseI64 text = none) (hreal : std.parseF64 text = some v) (hnull : v ≠ .null)
      (hbeyond : ∀ n, readInt text = some n → ¬(2 ^ 63 ≤ n ∧ n < 2 ^ 64)) : Reading std text v
  | truth (b : Bool) (hint : readInt text = none) (hreal : std.parseF64 text = none)
      (hword : Str.toAsciiLowercase text = if b then "true" else "false") : Reading std text (.bool b)

theorem reading_of_denoted (hfloat : std.FloatsSpelled) {text : String} {v : Value} (h : denoted std text = some v) :
    Reading std (Str.trim text) v := by
  unfold denoted at h
  cases hint : readInt (Str.trim text) with
  | some n =>
    have hparse : parseI64 (Str.trim text) = (some n).filter fun n => -(2 ^ 63) ≤ n ∧ n < 2 ^ 63 := by rw [parseI64_eq, hint]
    simp only [hint] at h
    by_cases hrange : -(2 ^ 63) ≤ n ∧ n < 2 ^ 64
    · rw [if_pos hrange] at h
      obtain rfl := Option.some.inj h
      by_cases hhigh : n < 2 ^ 63
      · exact .small n hint hrange.1 hhigh
      · exact .beyond n hint (not_lt.1 hhigh) hrange.2
    · rw [if_neg hrange] at h
      obtain ⟨hreal, hnull⟩ := Option.filter_eq_some_iff.1 h
      refine .real v ?_ hreal (by simpa using hnull) ?_
      · have hout : ¬(-(2 ^ 63) ≤ n ∧ n < 2 ^ 63) := by omega
        rw [hparse, Option.filter, decide_eq_false hout]
        rfl
      · intro m hm
        obtain rfl := Option.some.inj (hint.symm.trans hm)
        omega
  | none =>
    have hparse : parseI64 (Str.trim text) = none := by rw [parseI64_eq, hint]; rfl
    simp only [hint] at h
    cases hreal : std.parseF64 (Str.trim text) with
    | some w =>
      by_cases hnull : w = .null
      · subst hnull
        rw [hreal] at h
        obtain ⟨b, rfl, hword⟩ := truthValue_eq_some h
        refine absurd ?_ (hfloat.words hreal)
        rw [hword]
        cases b <;> simp
      · have hreal' : (std.parseF64 (Str.trim text)).filter (· ≠ .null) = some w := by rw [hreal, Option.filter, decide_eq_true hnull]; rfl
        rw [hreal'] at h
        obtain rfl := Option.some.inj h
        refine .real w hparse hreal hnull fun n hn => ?_
        rw [hint] at hn
        cases hn
    | none =>
      rw [hreal] at h
      obtain ⟨b, rfl, hword⟩ := truthValue_eq_some h
      exact .truth b hint hreal hword

theorem Reading.number_or_bool (hfloat : std.FloatsSpelled) {text : String} {v : Value} (h : Reading std text v) :
    (∃ digits, v = .number digits) ∨ ∃ b, v = .bool b := by
  cases h with
  | small n => exact .inl ⟨_, rfl⟩
  | beyond n => exact .inl ⟨_, rfl⟩
  | real v hint hreal hnull =>
    obtain rfl | ⟨digits, rfl, -⟩ := hfloat.written hreal
    · exact absurd rfl hnull
    · exact .inl ⟨_, rfl⟩
  | truth b => exact .inr ⟨b, rfl⟩

/-- What is read is spelled without separators. -/
theorem Reading.not_mem (hfloat : std.FloatsSpelled) {text : String} {v : Value} {c : Char} (h : Reading std text v) (hc : Separator c) :
    c ∉ text.toList := by
  intro hmem
  cases h with
  | small n hint => exact hc.not_spelled (spelled_of_readInt hint hmem)
  | beyond n hint => exact hc.not_spelled (spelled_of_readInt hint hmem)
  | real v hint hreal =>
    apply hfloat.letters hreal c _ hmem
    obtain rfl | rfl | rfl := hc <;> simp
  | truth b hint hreal hword =>
    have hlower : c.toLower ∈ (Str.toAsciiLowercase text).toList := by
      rw [Str.toAsciiLowercase, String.toList_ofList]
      exact List.mem_map_of_mem hmem
    rw [hword] at hlower
    obtain rfl | rfl | rfl := hc <;> (cases b <;> revert hlower <;> decide)

theorem Reading.ne_empty (hfloat : std.FloatsSpelled) {v : Value} : ¬Reading std "" v := by
  intro h
  generalize htext : "" = text at h
  cases h with
  | small n hint | beyond n hint =>
    subst htext
    cases hint
  | real v hint hreal =>
    subst htext
    rw [hfloat.nonempty] at hreal
    cases hreal
  | truth b hint hreal hword =>
    subst htext
    cases b <;> revert hword <;> decide

/-- The sources read a number or a truth value as it is, up to the integers that fit an unsigned word only. -/
theorem Reading.parse_iff (hfloat : std.FloatsSpelled) {text : String} {v : Value} (htrim : Str.trim text = text) (h : Reading std text v) :
    parseScalar std text = v ↔ ¬∃ n, readInt text = some n ∧ 2 ^ 63 ≤ n ∧ n < 2 ^ 64 := by
  have hne : text ≠ "" := by
    rintro rfl
    exact Reading.ne_empty hfloat h
  unfold parseScalar
  simp only [htrim, if_neg hne]
  cases h with
  | small n hint hlow hhigh =>
    have hparse : parseI64 text = some n := by
      rw [parseI64_eq, hint, Option.filter, decide_eq_true ⟨hlow, hhigh⟩]
      rfl
    simp only [hparse, true_iff]
    rintro ⟨m, hm, hbeyond, -⟩
    obtain rfl := Option.some.inj (hint.symm.trans hm)
    omega
  | beyond n hint hlow hhigh =>
    have hparse : parseI64 text = none := by
      rw [parseI64_eq, hint, Option.filter, decide_eq_false (by omega)]
      rfl
    have hiff : ∀ {p : Prop}, ¬p → (p ↔ ¬∃ n, readInt text = some n ∧ 2 ^ 63 ≤ n ∧ n < 2 ^ 64) :=
      fun hp => iff_of_false hp (not_not.2 ⟨n, hint, hlow, hhigh⟩)
    refine hiff ?_
    simp only [hparse]
    cases hreal : std.parseF64 text with
    | some w =>
      simp only
      rintro rfl
      obtain hnull | ⟨digits, hdigits, hwritten⟩ := hfloat.written hreal
      · cases hnull
      · exact number_ne_of_written hwritten (Value.number.inj hdigits).symm
    | none =>
      simp only
      split <;> intro h <;> cases h
  | real v hint hreal hnull hbeyond =>
    simp only [hint, hreal, true_iff]
    rintro ⟨n, hn, hrange⟩
    exact hbeyond n hn hrange
  | truth b hint hreal hword =>
    have hparse : parseI64 text = none := by
      rw [parseI64_eq, hint]
      rfl
    simp only [hparse, hreal, hword, hint]
    cases b <;> simp

theorem numberKept_iff (hfloat : std.FloatsSpelled) {field name text : String} {o : FilterOperator} {v : Value} (hname : Names std name o)
    (ho : takesOne o = true) (hv : denoted std text = some v) :
    NumberKept std field name text v ↔ FieldFits field ∧ ¬BeyondI64 text := by
  have hreading := reading_of_denoted hfloat hv
  have hquote : '\'' ∉ (Str.trim text).toList := hreading.not_mem hfloat (.inl rfl)
  have hvalue : coerceValue std o text = parseScalar std (Str.trim text) := by
    rw [coerceValue_of_takesOne ho, unquote_of_not_mem hquote]
  have hne : text ≠ "" := by
    rintro rfl
    rw [Str.trim_empty] at hreading
    exact Reading.ne_empty hfloat hreading
  have hread : parseScalar std (Str.trim text) = v ↔ ¬BeyondI64 text := hreading.parse_iff hfloat (Str.trim_trim text)
  constructor
  · rintro ⟨f, hf, hkept⟩
    by_cases hfield : ':' ∈ field.toList
    · exfalso
      obtain ⟨more, hmore⟩ := parseFilter_of_colon hfield hf
      have hcolon : ':' ∈ (unquote (Str.trim (more ++ ":" ++ text))).toList :=
        (mem_unquote (by decide)).2 ((Str.mem_trim (by decide)).2 (by simp))
      rw [hkept] at hmore
      obtain hnull | ⟨t, ht, -⟩ | ⟨vs, hvs, -⟩ := coerceValue_of_mem hfloat (o := f.operator) (.inr rfl) hcolon
      · obtain ⟨digits, rfl⟩ | ⟨b, rfl⟩ := hreading.number_or_bool hfloat <;> cases hmore.trans hnull
      · obtain ⟨digits, rfl⟩ | ⟨b, rfl⟩ := hreading.number_or_bool hfloat <;> cases hmore.trans ht
      · obtain ⟨digits, rfl⟩ | ⟨b, rfl⟩ := hreading.number_or_bool hfloat <;> cases hmore.trans hvs
    · obtain ⟨hnonblank, -, rfl⟩ := (parseFilter_filterText hfield hname).1 hf
      simp only [hvalue] at hkept
      exact ⟨⟨hfield, hnonblank⟩, hread.1 hkept⟩
  · rintro ⟨hfield, hbeyond⟩
    have hparsed := @parseFilter_of_fits std _ _ _ _ hfield hname hne
    rw [hvalue, hread.2 hbeyond] at hparsed
    exact ⟨_, hparsed, rfl⟩

/-! ## Several numbers and booleans -/

/-- Unquoted numbers and booleans between commas are the values of the filter, in their order. -/
def NumbersKept (std : RustStd) (field name : String) (texts : List String) (vs : List Value) : Prop :=
  ∃ f, parseFilter std (filterText field name (Str.join "," texts)) = .ok f ∧ f.value = .array vs

/-- The operator takes a list, or a pair where there are two texts. -/
def TakesSeveral (o : FilterOperator) (texts : List String) : Prop :=
  o = .in ∨ o = .notIn ∨ o.needsTwoValues = true ∧ texts.length = 2

theorem TakesSeveral.not_valueless {o : FilterOperator} {texts : List String} (h : TakesSeveral o texts) : o.isValueless = false := by
  rcases h with rfl | rfl | ⟨htwo, -⟩
  · rfl
  · rfl
  · cases o <;> first | rfl | cases htwo

theorem parseScalar_trim (text : String) : parseScalar std (Str.trim text) = parseScalar std text := by
  unfold parseScalar
  rw [Str.trim_trim]

/-- The pieces of a list or a pair are the texts between the commas. -/
theorem pieces_join {o : FilterOperator} {texts : List String} (ho : TakesSeveral o texts) (hne : texts ≠ [])
    (hcomma : ∀ text ∈ texts, ',' ∉ text.toList) (hquote : '\'' ∉ (Str.join "," texts).toList) :
    (pieces o (Str.join "," texts)).map Str.trim = texts.map Str.trim := by
  have hsplit : (Str.split (Str.trim (Str.join "," texts)) ',').map Str.trim = texts.map Str.trim := by
    rw [Str.map_trim_split (by decide)]
    exact congrArg (List.map Str.trim) (Str.split_join hne hcomma)
  have hunquote : unquote (Str.trim (Str.join "," texts)) = Str.trim (Str.join "," texts) :=
    unquote_of_not_mem fun hmem => hquote (Str.mem_of_mem_trim hmem)
  have hlist (h : o = .in ∨ o = .notIn) : pieces o (Str.join "," texts) = (Str.split (Str.trim (Str.join "," texts)) ',').map Str.trim := by
    unfold pieces
    rw [hunquote]
    obtain rfl | rfl := h <;> rfl
  have htrims (parts : List String) : (parts.map Str.trim).map Str.trim = parts.map Str.trim := by
    rw [List.map_map]
    exact List.map_congr_left fun part _ => Str.trim_trim part
  rcases ho with ho | ho | ⟨htwo, hlength⟩
  · rw [hlist (.inl ho), htrims, hsplit]
  · rw [hlist (.inr ho), htrims, hsplit]
  · obtain ⟨a, b, rfl⟩ := List.length_eq_two.1 hlength
    have hcut : ∃ p q, Str.split (Str.trim (Str.join "," [a, b])) ',' = [p, q] := by
      apply List.length_eq_two.1
      have := congrArg List.length hsplit
      simpa using this
    obtain ⟨p, q, hcut⟩ := hcut
    have hpair : Str.splitOnce (Str.trim (Str.join "," [a, b])) ',' = some (p, q) := by
      have hp : ',' ∉ p.toList := Str.not_mem_of_mem_split (hcut ▸ List.mem_cons_self)
      have hjoin := Str.join_split (Str.trim (Str.join "," [a, b])) ','
      rw [hcut] at hjoin
      rw [← hjoin]
      exact Str.splitOnce_append hp q
    have hvalueless : o.isValueless = false := TakesSeveral.not_valueless (.inr (.inr ⟨htwo, hlength⟩))
    unfold pieces
    simp only [hunquote, hvalueless, htwo, if_true, Bool.false_eq_true, if_false, hpair, Option.getD_some]
    rw [hcut] at hsplit
    exact hsplit

/-- The scalars of a list or a pair are read from the texts between the commas. -/
theorem coerceValue_join {o : FilterOperator} {texts : List String} (ho : TakesSeveral o texts) (hne : texts ≠ [])
    (hcomma : ∀ text ∈ texts, ',' ∉ text.toList) (hquote : '\'' ∉ (Str.join "," texts).toList) :
    coerceValue std o (Str.join "," texts) = .array (if o.needsTwoValues then texts.map (parseScalar std)
      else (texts.map (parseScalar std)).filter (· ≠ .null)) := by
  have hscalars : (pieces o (Str.join "," texts)).map (parseScalar std) = texts.map (parseScalar std) := by
    have htrim (parts : List String) : parts.map (parseScalar std) = (parts.map Str.trim).map (parseScalar std) := by
      rw [List.map_map]
      apply List.map_congr_left
      intro part _
      rw [Function.comp_apply, parseScalar_trim]
    rw [htrim, pieces_join ho hne hcomma hquote, ← htrim]
  have hvalueless : o.isValueless = false := ho.not_valueless
  rw [coerceValue_eq, hscalars]
  simp only [hvalueless, Bool.false_eq_true, if_false]
  cases htwo : o.needsTwoValues with
  | true => simp only [if_true]
  | false =>
    have hlist : o = .in ∨ o = .notIn := by
      rcases ho with ho | ho | ⟨htwo', -⟩
      · exact .inl ho
      · exact .inr ho
      · rw [htwo] at htwo'
        cases htwo'
    simp only [hlist, if_true, Bool.false_eq_true, if_false]

/-- Scalars that are read are the values exactly where none is an integer beyond a signed word. -/
theorem map_parseScalar_iff (hfloat : std.FloatsSpelled) {texts : List String} {vs : List Value}
    (hv : List.Forall₂ (fun text v => denoted std text = some v) texts vs) :
    texts.map (parseScalar std) = vs ↔ ∀ text ∈ texts, ¬BeyondI64 text := by
  induction hv with
  | nil => simp
  | @cons text v texts vs htext _ ih =>
    have hread := (reading_of_denoted hfloat htext).parse_iff hfloat (Str.trim_trim text)
    rw [parseScalar_trim] at hread
    rw [List.map_cons, List.cons.injEq, ih, hread, List.forall_mem_cons]
    rfl

/-- What denotes a number or a boolean holds no comma and no quote. -/
theorem texts_spelled (hfloat : std.FloatsSpelled) {texts : List String} {vs : List Value}
    (hv : List.Forall₂ (fun text v => denoted std text = some v) texts vs) :
    ∀ text ∈ texts, ',' ∉ text.toList ∧ '\'' ∉ text.toList := by
  induction hv with
  | nil => simp
  | @cons text v texts vs htext _ ih =>
    rw [List.forall_mem_cons]
    have hreading := reading_of_denoted hfloat htext
    refine ⟨⟨?_, ?_⟩, ih⟩
    · intro hmem
      exact hreading.not_mem hfloat (.inr (.inr rfl)) ((Str.mem_trim (by decide)).2 hmem)
    · intro hmem
      exact hreading.not_mem hfloat (.inl rfl) ((Str.mem_trim (by decide)).2 hmem)

theorem exists_denoted {texts : List String} {vs : List Value} (hv : List.Forall₂ (fun text v => denoted std text = some v) texts vs)
    {v : Value} (hmem : v ∈ vs) : ∃ text ∈ texts, denoted std text = some v := by
  induction hv with
  | nil => cases hmem
  | @cons text w texts vs htext _ ih =>
    rcases List.mem_cons.1 hmem with rfl | hmem
    · exact ⟨text, List.mem_cons_self, htext⟩
    · obtain ⟨text', htext', hdenoted⟩ := ih hmem
      exact ⟨text', List.mem_cons_of_mem _ htext', hdenoted⟩

/-- A list leaves out no scalar that it keeps as it is. -/
theorem filter_scalars_iff (hfloat : std.FloatsSpelled) {texts : List String} {vs : List Value}
    (hv : List.Forall₂ (fun text v => denoted std text = some v) texts vs) :
    (texts.map (parseScalar std)).filter (· ≠ .null) = vs ↔ ∀ text ∈ texts, ¬BeyondI64 text := by
  rw [← map_parseScalar_iff hfloat hv]
  constructor
  · intro h
    have hlength : ((texts.map (parseScalar std)).filter (· ≠ .null)).length = (texts.map (parseScalar std)).length := by
      rw [h, List.length_map, hv.length_eq]
    rw [← h]
    exact (List.filter_eq_self.2 (List.length_filter_eq_length_iff.1 hlength)).symm
  · intro h
    rw [h, List.filter_eq_self]
    intro v hmem
    obtain ⟨text, -, hdenoted⟩ := exists_denoted hv hmem
    obtain ⟨digits, rfl⟩ | ⟨b, rfl⟩ := (reading_of_denoted hfloat hdenoted).number_or_bool hfloat <;> rfl

theorem numbersKept_iff (hfloat : std.FloatsSpelled) {field name : String} {o : FilterOperator} {texts : List String} {vs : List Value}
    (hname : Names std name o) (ho : TakesSeveral o texts)
    (hv : List.Forall₂ (fun text v => denoted std text = some v) texts vs) :
    NumbersKept std field name texts vs ↔ FieldFits field ∧ texts ≠ [] ∧ ∀ text ∈ texts, ¬BeyondI64 text := by
  have hneeds : o.needsValue = true := by
    rw [FilterOperator.needsValue, ho.not_valueless]
    rfl
  have hspelled := texts_spelled hfloat hv
  have hquote : '\'' ∉ (Str.join "," texts).toList := by
    rw [Str.toList_join]
    intro hmem
    obtain hsep | ⟨part, hpart, hc⟩ := Str.mem_intercalate hmem
    · exact absurd hsep (by decide)
    · obtain ⟨text, htext, rfl⟩ := List.mem_map.1 hpart
      exact (hspelled text htext).2 hc
  have hread := map_parseScalar_iff hfloat hv
  have hkeeps := filter_scalars_iff hfloat hv
  have hvalue (hne : texts ≠ []) : coerceValue std o (Str.join "," texts) = .array vs ↔ ∀ text ∈ texts, ¬BeyondI64 text := by
    rw [coerceValue_join ho hne (fun text htext => (hspelled text htext).1) hquote, Value.array.injEq]
    cases o.needsTwoValues with
    | true => exact hread
    | false => exact hkeeps
  constructor
  · rintro ⟨f, hf, hkept⟩
    by_cases hfield : ':' ∈ field.toList
    · exfalso
      obtain ⟨more, hmore⟩ := parseFilter_of_colon hfield hf
      have hcolon : ':' ∈ (unquote (Str.trim (more ++ ":" ++ Str.join "," texts))).toList :=
        (mem_unquote (by decide)).2 ((Str.mem_trim (by decide)).2 (by simp))
      rw [hkept] at hmore
      obtain hnull | ⟨t, ht, -⟩ | ⟨vs', hvs, s, hs, -⟩ := coerceValue_of_mem hfloat (o := f.operator) (.inr rfl) hcolon
      · cases hmore.trans hnull
      · cases hmore.trans ht
      · obtain rfl := Value.array.inj (hmore.trans hvs)
        obtain ⟨text, -, hdenoted⟩ := exists_denoted hv hs
        obtain ⟨digits, h⟩ | ⟨b, h⟩ := (reading_of_denoted hfloat hdenoted).number_or_bool hfloat <;> cases h
    · obtain ⟨hnonblank, hnonempty, rfl⟩ := (parseFilter_filterText hfield hname).1 hf
      have hne : texts ≠ [] := by
        rintro rfl
        exact hnonempty hneeds rfl
      exact ⟨⟨hfield, hnonblank⟩, hne, (hvalue hne).1 hkept⟩
  · rintro ⟨hfield, hne, hbeyond⟩
    have hnonempty : Str.join "," texts ≠ "" := by
      intro hempty
      cases hv with
      | nil => exact hne rfl
      | @cons text v texts vs htext hv =>
        cases texts with
        | nil =>
          obtain rfl : text = "" := hempty
          exact Reading.ne_empty hfloat (reading_of_denoted hfloat htext)
        | cons next texts =>
          have hmem : ',' ∈ (Str.join "," (text :: next :: texts)).toList := by simp
          rw [hempty] at hmem
          cases hmem
    have hparsed := @parseFilter_of_fits std _ _ _ _ hfield hname hnonempty
    rw [(hvalue hne).2 hbeyond] at hparsed
    exact ⟨_, hparsed, rfl⟩

/-! ## Nulls and pairs -/

/-- A text that says there is no value. -/
def IsNullText (text : String) : Prop := Str.toAsciiLowercase (Str.trim text) ∈ ["null", "none"]

/-- Nothing a filter says is read as a null but a text that says so. -/
def NullKept (std : RustStd) (spec : String) : Prop :=
  ∀ f, parseFilter std spec = .ok f → ∀ piece ∈ pieces f.operator (filterParts spec).2.2,
    parseScalar std piece = .null → IsNullText (if takesOne f.operator then (filterParts spec).2.2 else piece)

/-- No piece of the value is a float that is not finite, and none says between quotes that there is no value. -/
def NullFits (std : RustStd) (spec : String) : Prop :=
  ∀ o, Accepted std spec o → ∀ piece ∈ pieces o (filterParts spec).2.2,
    std.parseF64 (Str.trim piece) ≠ some .null ∧ (takesOne o = true → Str.trim (filterParts spec).2.2 ≠ piece → ¬IsNullText piece)

theorem not_nullText_of_quote {text : String} (h : '\'' ∈ (Str.trim text).toList) : ¬IsNullText text := by
  intro hword
  have hlower : '\'' ∈ (Str.toAsciiLowercase (Str.trim text)).toList := by
    rw [Str.toAsciiLowercase, String.toList_ofList]
    exact List.mem_map_of_mem (f := Char.toLower) h
  simp only [IsNullText, List.mem_cons, List.not_mem_nil, or_false] at hword
  obtain hword | hword := hword <;> (rw [hword] at hlower; revert hlower; decide)

theorem forall_accepted {spec : String} {p : FilterOperator → Prop} :
    (∀ f, parseFilter std spec = .ok f → p f.operator) ↔ ∀ o, Accepted std spec o → p o := by
  constructor
  · intro h o ho
    exact h { field := Str.trim (filterParts spec).1, operator := o, value := coerceValue std o (filterParts spec).2.2 }
      (parseFilter_eq_ok.2 ⟨ho, rfl⟩)
  · intro h f hf
    exact h f.operator (parseFilter_eq_ok.1 hf).1

/-- Lower-casing leaves an integer as it is. -/
theorem lower_of_parseI64 {text : String} {n : Int} (h : parseI64 text = some n) : Str.toAsciiLowercase text = text := by
  have hfix : ∀ c ∈ text.toList, c.toLower = c := by
    intro c hc
    obtain hdigit | rfl | rfl := spelled_of_parseI64 h hc
    · simp only [Str.isAsciiDigit, Bool.and_eq_true, decide_eq_true_eq] at hdigit
      refine dif_neg ?_
      rintro ⟨hupper, -⟩
      have hnine : c.val ≤ '9'.val := hdigit.2
      exact absurd (UInt32.le_trans hupper hnine) (by decide)
    · rfl
    · rfl
  rw [Str.toAsciiLowercase, List.map_congr_left hfix, List.map_id', String.ofList_toList]

theorem parseScalar_of_nullText (hfloat : std.FloatsSpelled) {text : String} (h : IsNullText text) : parseScalar std text = .null := by
  unfold IsNullText at h
  have hempty : Str.trim text ≠ "" := by
    intro hempty
    rw [hempty] at h
    revert h
    decide
  have hint : parseI64 (Str.trim text) = none := by
    rw [Option.eq_none_iff_forall_ne_some]
    intro n hn
    have hnone : ∀ word ∈ ["null", "none"], parseI64 word = none := by decide +kernel
    rw [lower_of_parseI64 hn] at h
    rw [hnone _ h] at hn
    cases hn
  have hreal : std.parseF64 (Str.trim text) = none := by
    rw [Option.eq_none_iff_forall_ne_some]
    intro v hv
    refine hfloat.words hv ?_
    simp only [List.mem_cons, List.not_mem_nil, or_false] at h ⊢
    exact .inr (.inr h)
  unfold parseScalar
  simp only [if_neg hempty, hint, hreal]
  simp only [List.mem_cons, List.not_mem_nil, or_false] at h
  obtain h | h := h
  · rw [h]
    rfl
  · rw [h]
    rfl

theorem parseScalar_eq_null (hfloat : std.FloatsSpelled) {text : String} :
    parseScalar std text = .null ↔ std.parseF64 (Str.trim text) = some .null ∨ IsNullText text := by
  constructor
  · intro h
    unfold parseScalar at h
    by_cases hempty : Str.trim text = ""
    · simp only [hempty, if_true] at h
      cases h
    simp only [if_neg hempty] at h
    cases hint : parseI64 (Str.trim text) with
    | some n =>
      rw [hint] at h
      cases h
    | none =>
      cases hreal : std.parseF64 (Str.trim text) with
      | some v =>
        rw [hint, hreal] at h
        exact .inl (congrArg some h)
      | none =>
        rw [hint, hreal] at h
        simp only at h
        right
        unfold IsNullText
        split at h
        · cases h
        · cases h
        · rename_i hword
          simp [hword]
        · rename_i hword
          simp [hword]
        · cases h
  · rintro (hreal | hword)
    · have hempty : Str.trim text ≠ "" := by
        intro hempty
        rw [hempty, hfloat.nonempty] at hreal
        cases hreal
      unfold parseScalar
      simp only [if_neg hempty, hfloat.finite hreal, hreal]
    · exact parseScalar_of_nullText hfloat hword

theorem nullKept_iff (hfloat : std.FloatsSpelled) {spec : String} : NullKept std spec ↔ NullFits std spec := by
  unfold NullKept NullFits
  rw [forall_accepted (p := fun o => ∀ piece ∈ pieces o (filterParts spec).2.2,
    parseScalar std piece = .null → IsNullText (if takesOne o then (filterParts spec).2.2 else piece))]
  refine forall₂_congr fun o ho => forall₂_congr fun piece hpiece => ?_
  rw [parseScalar_eq_null hfloat]
  have hnot : std.parseF64 (Str.trim piece) = some .null → ¬IsNullText piece := by
    intro hreal hword
    refine hfloat.words hreal ?_
    unfold IsNullText at hword
    simp only [List.mem_cons, List.not_mem_nil, or_false] at hword ⊢
    exact .inr (.inr hword)
  have hsame : ∀ {p : Prop}, (p ↔ IsNullText piece) →
      ((std.parseF64 (Str.trim piece) = some .null ∨ IsNullText piece → p) ↔ std.parseF64 (Str.trim piece) ≠ some .null) := by
    intro p hp
    exact ⟨fun h hreal => hnot hreal (hp.1 (h (.inl hreal))), fun h hnull => hp.2 (hnull.resolve_left h)⟩
  by_cases hone : takesOne o = true
  · rw [if_pos hone]
    by_cases hquoted : Str.trim (filterParts spec).2.2 = piece
    · have hword : IsNullText (filterParts spec).2.2 ↔ IsNullText piece := by rw [← hquoted, IsNullText, IsNullText, Str.trim_trim]
      rw [hsame hword]
      exact ⟨fun h => ⟨h, fun _ hne => absurd hquoted hne⟩, fun h => h.1⟩
    · have hpiece : piece = unquote (Str.trim (filterParts spec).2.2) := by
        rw [pieces_of_takesOne hone] at hpiece
        exact List.mem_singleton.1 hpiece
      have hquote : '\'' ∈ (Str.trim (filterParts spec).2.2).toList := by
        by_contra hno
        exact hquoted (hpiece.trans (unquote_of_not_mem hno)).symm
      have hword : ¬IsNullText (filterParts spec).2.2 := not_nullText_of_quote hquote
      constructor
      · exact fun h => ⟨fun hreal => hword (h (.inl hreal)), fun _ _ hnull => hword (h (.inr hnull))⟩
      · rintro ⟨hreal, hnull⟩ (h | h)
        · exact absurd h hreal
        · exact absurd h (hnull hone hquoted)
  · rw [if_neg hone, hsame Iff.rfl]
    exact ⟨fun h => ⟨h, fun htakes => absurd htakes hone⟩, fun h => h.1⟩

/-- Two values with a comma between them. -/
def TwoValues (text : String) : Prop :=
  ∃ a b, Str.split (unquote (Str.trim text)) ',' = [a, b] ∧ Str.trim a ≠ "" ∧ Str.trim b ≠ ""

/-- An operator with two values is accepted with two values. -/
def PairKept (std : RustStd) (spec : String) : Prop :=
  ∀ f, parseFilter std spec = .ok f → f.operator.needsTwoValues = true → TwoValues (filterParts spec).2.2

/-- What an accepted filter with two values has to say. -/
def PairFits (std : RustStd) (spec : String) : Prop :=
  ∀ o, Accepted std spec o → o.needsTwoValues = true → TwoValues (filterParts spec).2.2

/-- **What shorthand filters keep**: between quotes a text that is read as itself, of lists those of one such item,
unquoted numbers, alone or between commas, up to the integers beyond a signed word. -/
theorem filter_values_iff (std : RustStd) (hfloat : std.FloatsSpelled) :
    (∀ field s, '\'' ∉ s.toList → (QuotedKept std field s ↔ FieldFits field ∧ PlainText std s)) ∧
      (∀ field name items o, Names std name o → (o = .in ∨ o = .notIn) → (∀ item ∈ items, '\'' ∉ item.toList) →
        (ListKept std field name items ↔ FieldFits field ∧ ∃ s, items = [s] ∧ ',' ∉ s.toList ∧ PlainText std s)) ∧
      (∀ field name text o v, Names std name o → takesOne o = true → denoted std text = some v →
        (NumberKept std field name text v ↔ FieldFits field ∧ ¬BeyondI64 text)) ∧
      (∀ field name texts o vs, Names std name o → TakesSeveral o texts →
        List.Forall₂ (fun text v => denoted std text = some v) texts vs →
        (NumbersKept std field name texts vs ↔ FieldFits field ∧ texts ≠ [] ∧ ∀ text ∈ texts, ¬BeyondI64 text)) ∧
      (∀ spec, NullKept std spec ↔ NullFits std spec) ∧
      ∀ spec, PairKept std spec ↔ PairFits std spec := by
  refine ⟨?_, ?_, ?_, ?_, ?_, ?_⟩
  · intro field s hs
    exact quotedKept_iff hfloat hs
  · intro field name items o hname ho hitems
    exact listKept_iff hfloat hname ho hitems
  · intro field name text o v hname ho hv
    exact numberKept_iff hfloat hname ho hv
  · intro field name texts o vs hname ho hv
    exact numbersKept_iff hfloat hname ho hv
  · intro spec
    exact nullKept_iff hfloat
  · intro spec
    exact forall_accepted (p := fun o => o.needsTwoValues = true → TwoValues (filterParts spec).2.2)

/-! ## On some filters -/

/-- Floats of one digit, and the one that is no number. -/
def digitFloats : RustStd :=
  { escapes := fun _ => false
    hashOrder := id
    hashOrder_perm := List.Perm.refl
    hash := fun _ => 0
    parseF64 := fun s =>
      if s.toList = ['n', 'a', 'n'] then some .null
      else
        match s.toList with
        | [c] => if Str.isAsciiDigit c then some (.number (String.ofList [c, '.', '0'])) else none
        | _ => none
    sqrt := id }

theorem digitFloats_cases {s : String} {v : Value} (h : digitFloats.parseF64 s = some v) :
    (∃ c, Str.isAsciiDigit c = true ∧ s.toList = [c] ∧ v = .number (String.ofList [c, '.', '0'])) ∨ s.toList = ['n', 'a', 'n'] ∧ v = .null := by
  unfold digitFloats at h
  dsimp only at h
  generalize s.toList = cs at h ⊢
  split_ifs at h with hnan
  · exact .inr ⟨hnan, (Option.some.inj h).symm⟩
  · split at h
    · rename_i c
      split_ifs at h with hdigit
      exact .inl ⟨c, hdigit, rfl, (Option.some.inj h).symm⟩
    · cases h

theorem digitFloats_spelled : digitFloats.FloatsSpelled where
  nonempty := rfl
  letters := by
    intro s v h c hc hmem
    obtain ⟨d, hdigit, hs, -⟩ | ⟨hs, -⟩ := digitFloats_cases h
    · rw [hs, List.mem_singleton] at hmem
      subst hmem
      simp only [List.mem_cons, List.not_mem_nil, or_false] at hc
      obtain rfl | rfl | rfl := hc <;> cases hdigit
    · rw [hs] at hmem
      simp only [List.mem_cons, List.not_mem_nil, or_false] at hc
      obtain rfl | rfl | rfl := hc <;> revert hmem <;> decide
  words := by
    intro s v h hword
    have hlength : ∀ word ∈ ["true", "false", "null", "none"], 4 ≤ word.toList.length := by decide +kernel
    have hlower : (Str.toAsciiLowercase s).toList.length = s.toList.length := by simp [Str.toAsciiLowercase]
    have hlong := hlength _ hword
    obtain ⟨d, -, hs, -⟩ | ⟨hs, -⟩ := digitFloats_cases h
    · rw [hlower, hs, List.length_singleton] at hlong
      exact absurd hlong (by decide)
    · rw [hlower, hs] at hlong
      exact absurd hlong (by decide)
  finite := by
    intro s h
    obtain ⟨d, -, -, hv⟩ | ⟨hs, -⟩ := digitFloats_cases h
    · cases hv
    · obtain rfl : s = "nan" := String.toList_inj.1 hs
      decide +kernel
  written := by
    intro s v h
    obtain ⟨d, -, -, hv⟩ | ⟨-, hv⟩ := digitFloats_cases h
    · exact .inr ⟨_, hv, .inl (by simp)⟩
    · exact .inl hv

theorem names_in : Names digitFloats "in" .in := ⟨by decide, by decide +kernel, by rfl⟩

theorem names_gt : Names digitFloats "gt" .gt := ⟨by decide, by decide +kernel, by rfl⟩

theorem not_beyondI64 {text : String} {n : Int} (hread : readInt (Str.trim text) = some n) (hsmall : n < 2 ^ 63) :
    ¬BeyondI64 text := by
  rintro ⟨m, hm, hlow, -⟩
  obtain rfl := Option.some.inj (hread.symm.trans hm)
  omega

/-- A quoted word, a list of one, a number and a list of two. -/
theorem orders_filters_kept :
    QuotedKept digitFloats "status" "paid" ∧ ListKept digitFloats "status" "in" ["open"] ∧
      NumberKept digitFloats "total" "gt" "5" (.number "5") ∧
      NumbersKept digitFloats "total" "in" ["5", " 7"] [.number "5", .number "7"] := by
  obtain ⟨hquoted, hlist, hnumber, hnumbers, -⟩ := filter_values_iff digitFloats digitFloats_spelled
  refine ⟨?_, ?_, ?_, ?_⟩
  · exact (hquoted "status" "paid" (by decide)).2 ⟨⟨by decide, by decide +kernel⟩, by decide +kernel,
      fun _ => ⟨by decide +kernel, by rfl, by decide +kernel⟩⟩
  · refine (hlist "status" "in" ["open"] .in names_in (.inl rfl) (by simp)).2 ⟨⟨by decide, by decide +kernel⟩, "open", rfl, by decide,
      by decide +kernel, fun _ => ⟨by decide +kernel, by rfl, by decide +kernel⟩⟩
  · exact (hnumber "total" "gt" "5" .gt _ names_gt rfl (by rfl)).2 ⟨⟨by decide, by decide +kernel⟩,
      @not_beyondI64 "5" 5 (by decide +kernel) (by decide)⟩
  · refine (hnumbers "total" "in" ["5", " 7"] .in _ names_in (.inl rfl) (.cons (by rfl) (.cons (by rfl) .nil))).2
      ⟨⟨by decide, by decide +kernel⟩, List.cons_ne_nil _ _, ?_⟩
    intro text htext
    simp only [List.mem_cons, List.not_mem_nil, or_false] at htext
    rcases htext with rfl | rfl
    · exact @not_beyondI64 "5" 5 (by decide +kernel) (by decide)
    · exact @not_beyondI64 " 7" 7 (by decide +kernel) (by decide)

/-- A quoted digit is a number, two quoted items keep quotes, `nan` is a null, and one value makes a pair. -/
theorem orders_filters_lost :
    ¬QuotedKept digitFloats "grade" "5" ∧ ¬ListKept digitFloats "status" "in" ["open", "paid"] ∧
      ¬NumberKept digitFloats "total" "gt" "9223372036854775809" (.number "9223372036854775809") ∧
      ¬NullKept digitFloats "score:eq:nan" ∧ ¬PairKept digitFloats "total:between:5" := by
  refine ⟨fun h => ?_, fun h => ?_, fun h => ?_, fun h => ?_, fun h => ?_⟩
  · obtain ⟨-, -, hplain⟩ := (quotedKept_iff digitFloats_spelled (by decide)).1 h
    exact absurd (hplain (by decide)).1 (by decide +kernel)
  · obtain ⟨-, s, hs, -⟩ := (listKept_iff digitFloats_spelled names_in (.inl rfl) (by simp)).1 h
    cases hs
  · refine ((numberKept_iff digitFloats_spelled names_gt rfl (by rfl)).1 h).2 ⟨9223372036854775809, by decide +kernel, by decide, by decide⟩
  · have haccepted : Accepted digitFloats "score:eq:nan" .eq :=
      ⟨by decide +kernel, by decide +kernel, by rfl, fun _ => by decide +kernel⟩
    have hfits := (nullKept_iff digitFloats_spelled).1 h .eq haccepted (unquote (Str.trim "nan")) (by decide +kernel)
    exact hfits.1 (by rfl)
  · have haccepted : Accepted digitFloats "total:between:5" .between :=
      ⟨by decide +kernel, by decide +kernel, by rfl, fun _ => by decide +kernel⟩
    have hpair := (@forall_accepted digitFloats _ fun o => o.needsTwoValues = true →
      TwoValues (filterParts "total:between:5").2.2).1 h .between haccepted rfl
    obtain ⟨a, b, hsplit, -⟩ := hpair
    have hone : Str.split (unquote (Str.trim (filterParts "total:between:5").2.2)) ',' = ["5"] := by decide +kernel
    cases hone.symm.trans hsplit

end Suggest

end GraphNight
