import GraphNight.Lib.Utf8
import GraphNight.Runtime.Embedding
import GraphNight.Runtime.Llm

/-!
# The OpenAI-compatible provider (`graphnight-runtime/src/embedding.rs`)

The transport is what a request is answered: an error, or the JSON of a successful
response. Vectors are placed by the index each of them carries.
-/

namespace GraphNight

/-- An OpenAI-compatible `/embeddings` client. -/
structure OpenAiEmbeddingProvider where
  dimensions : Nat
  dimensions_pos : 0 < dimensions
  /-- The most texts one request may carry. -/
  maxInputs : Nat := 64
  maxInputs_pos : 0 < maxInputs
  /-- What the endpoint answers to a request for some texts. -/
  post : List String → Except String Value
  /-- `as_f64().unwrap_or(0.0) as f32`. -/
  asF32 : Value → Rat

namespace OpenAiEmbeddingProvider

/-- Longest text sent to a provider. -/
def maxInputBytes : Nat := 100000

/-- What a provider's error displays as (`EmbeddingError::Provider`). -/
def failed (reason : String) : String := "embedding request failed: " ++ reason

def withMaxInputs (p : OpenAiEmbeddingProvider) (limit : Nat) : OpenAiEmbeddingProvider :=
  { p with maxInputs := max limit 1, maxInputs_pos := le_max_right limit 1 }

/-- Which input an item of the response is for, and its vector. -/
def readItem (p : OpenAiEmbeddingProvider) (item : Value) : Nat × Option (List Rat) :=
  ((item.field "index").asU64.getD 0,
    match item.field "embedding" with
    | .array vector => some (vector.map p.asF32)
    | _ => none)

/-- Put the vector of an item in its place. -/
def place (p : OpenAiEmbeddingProvider) (inputs : Nat) (out : List (Option (List Rat))) (item : Nat × Option (List Rat)) :
    Res String (List (Option (List Rat))) :=
  let (idx, vector) := item
  if inputs ≤ idx then
    Res.fail (failed ("response index " ++ toString idx ++ " is out of range for " ++ toString inputs ++ " inputs"))
  else
    match vector with
    | none => Res.fail (failed "response item has no `embedding` array")
    | some floats =>
      if floats.length ≠ p.dimensions then
        Res.fail ("embedding dimension mismatch: expected " ++ toString p.dimensions ++ ", got " ++ toString floats.length)
      else .ok (out.set idx (some floats))

/-- Every input has its vector. -/
def collect (out : List (Option (List Rat))) : Res String (List (List Rat)) :=
  out.zipIdx.mapM fun slot => Res.ofOption (failed ("response omitted input " ++ toString slot.2)) slot.1

def embed (p : OpenAiEmbeddingProvider) : EmbeddingProvider := fun texts =>
  if texts.isEmpty then .ok []
  else if p.maxInputs < texts.length then
    Res.fail (toString texts.length ++ " inputs exceeds the batch limit of " ++ toString p.maxInputs)
  else
    match (texts.map fun t => Utf8.size t.toList).find? (maxInputBytes < ·) with
    | some len => Res.fail ("text exceeds the embedder's input limit (" ++ toString len ++ " bytes)")
    | none =>
      match p.post texts with
      | .error reason => Res.fail (failed reason)
      | .ok payload =>
        match payload.field "data" with
        | .array data => do
          let out ← (data.map p.readItem).foldlM (p.place texts.length) (List.replicate texts.length none)
          collect out
        | _ => Res.fail (failed "response has no `data` array")

/-- The texts one request may carry. -/
def Fits (p : OpenAiEmbeddingProvider) (texts : List String) : Prop :=
  texts.length ≤ p.maxInputs ∧ ∀ t ∈ texts, Utf8.size t.toList ≤ maxInputBytes

/-- The endpoint embeds each text by itself, in vectors of the configured length; it may
answer them in any order. -/
def Honest (p : OpenAiEmbeddingProvider) (vec : String → List Rat) : Prop :=
  (∀ text, (vec text).length = p.dimensions) ∧
    ∀ texts, p.Fits texts → ∃ payload data, p.post texts = .ok payload ∧ payload.field "data" = .array data ∧
      (data.map p.readItem).Perm (texts.zipIdx.map fun t => (t.2, some (vec t.1)))

variable {p : OpenAiEmbeddingProvider} {vec : String → List Rat} {texts : List String}

/-- Items with vectors of the right length, each for an input, are all placed. -/
theorem foldlM_place {inputs : Nat} {items : List (Nat × Option (List Rat))} {out : List (Option (List Rat))}
    (h : ∀ item ∈ items, item.1 < inputs ∧ ∃ v, item.2 = some v ∧ v.length = p.dimensions) :
    items.foldlM (p.place inputs) out = .ok (items.foldl (fun out item => out.set item.1 item.2) out) := by
  induction items generalizing out with
  | nil => rfl
  | cons item items ih =>
    obtain ⟨hidx, v, hv, hlen⟩ := h item List.mem_cons_self
    have hplace : p.place inputs out item = .ok (out.set item.1 item.2) := by
      simp only [place, hv, if_neg (not_le.2 hidx), hlen, ne_eq, not_true_eq_false, if_false]
    rw [List.foldlM_cons, hplace]
    exact ih fun item' hitem' => h item' (List.mem_cons_of_mem _ hitem')

/-- What is set once at an index stays there. -/
theorem foldl_set_get {α : Type} {items : List (Nat × α)} {out : List α} {item : Nat × α} (hnodup : (items.map Prod.fst).Nodup)
    (hmem : item ∈ items) (hlt : item.1 < out.length) :
    (items.foldl (fun out item => out.set item.1 item.2) out)[item.1]? = some item.2 := by
  have hkeep : ∀ (items : List (Nat × α)) (out : List α) (i : Nat), i ∉ items.map Prod.fst →
      (items.foldl (fun out item => out.set item.1 item.2) out)[i]? = out[i]? := by
    intro items
    induction items with
    | nil => exact fun _ _ _ => rfl
    | cons other items ih =>
      intro out i hi
      rw [List.map_cons, List.mem_cons, not_or] at hi
      rw [List.foldl_cons, ih _ _ hi.2, List.getElem?_set_ne (Ne.symm hi.1)]
  induction items generalizing out with
  | nil => cases hmem
  | cons other items ih =>
    rw [List.map_cons, List.nodup_cons] at hnodup
    rw [List.foldl_cons]
    rcases List.mem_cons.1 hmem with rfl | hrest
    · rw [hkeep _ _ _ hnodup.1, List.getElem?_set_self hlt]
    · exact ih hnodup.2 hrest (by simpa using hlt)

theorem length_foldl_set {α : Type} {items : List (Nat × α)} {out : List α} :
    (items.foldl (fun out item => out.set item.1 item.2) out).length = out.length := by
  induction items generalizing out with
  | nil => rfl
  | cons item items ih => rw [List.foldl_cons, ih, List.length_set]

/-- Whatever the order of the items, every vector ends up at the place of its text. -/
theorem placed_eq {items : List (Nat × Option (List Rat))} (h : items.Perm (texts.zipIdx.map fun t => (t.2, some (vec t.1)))) :
    items.foldl (fun out item => out.set item.1 item.2) (List.replicate texts.length none) = texts.map fun t => some (vec t) := by
  have hnodup : (items.map Prod.fst).Nodup := by
    rw [(h.map Prod.fst).nodup_iff, List.map_map]
    have hindexes : texts.zipIdx.map (Prod.fst ∘ fun t => (t.2, some (vec t.1))) = List.range' 0 texts.length := by
      rw [← List.zipIdx_map_snd 0 texts]
      rfl
    rw [hindexes]
    exact List.nodup_range'
  refine List.ext_getElem? fun i => ?_
  rcases lt_or_ge i texts.length with hlt | hge
  · have hmem : (i, some (vec texts[i])) ∈ items :=
      h.mem_iff.2 (List.mem_map.2 ⟨(texts[i], i), List.mem_zipIdx_iff_getElem?.2 (by simp [hlt]), rfl⟩)
    rw [foldl_set_get hnodup hmem (by simpa using hlt)]
    simp [hlt]
  · rw [List.getElem?_eq_none (by simpa [length_foldl_set] using hge), List.getElem?_eq_none (by simpa using hge)]

theorem collect_some (vs : List (List Rat)) : collect (vs.map some) = .ok vs := by
  have hall : ∀ slot ∈ (vs.map some).zipIdx,
      Res.ofOption (failed ("response omitted input " ++ toString slot.2)) slot.1 = .ok (slot.1.getD []) := by
    intro slot hslot
    obtain ⟨v, -, hv⟩ := List.mem_map.1 (List.fst_mem_of_mem_zipIdx hslot)
    rw [← hv]
    rfl
  rw [collect, Res.mapM_pure hall]
  have hfst : (fun slot : Option (List Rat) × Nat => slot.1.getD []) = (fun o => o.getD []) ∘ Prod.fst := rfl
  rw [hfst, ← List.map_map, List.zipIdx_map_fst, List.map_map]
  simp

/-- A request that fits returns the vector of each of its texts. -/
theorem embed_ok (h : p.Honest vec) (hfits : p.Fits texts) : p.embed texts = .ok (texts.map vec) := by
  obtain ⟨payload, data, hpost, hdata, hperm⟩ := h.2 texts hfits
  obtain ⟨hlimit, hbytes⟩ := hfits
  have hitems : ∀ item ∈ data.map p.readItem, item.1 < texts.length ∧ ∃ v, item.2 = some v ∧ v.length = p.dimensions := by
    intro item hitem
    obtain ⟨t, ht, rfl⟩ := List.mem_map.1 (hperm.mem_iff.1 hitem)
    refine ⟨?_, vec t.1, rfl, h.1 t.1⟩
    simpa using (List.mem_zipIdx ht).2.1
  have hlong : (texts.map fun t => Utf8.size t.toList).find? (maxInputBytes < ·) = none := by
    rw [List.find?_eq_none]
    intro len hlen
    obtain ⟨t, ht, rfl⟩ := List.mem_map.1 hlen
    simpa using hbytes t ht
  rw [embed]
  by_cases hempty : texts.isEmpty
  · rw [if_pos hempty, List.isEmpty_iff.1 hempty]
    rfl
  · rw [if_neg hempty, if_neg (not_lt.2 hlimit), hlong]
    simp only [hpost, hdata, foldlM_place hitems, placed_eq hperm]
    have hcollect := collect_some (texts.map vec)
    rw [List.map_map] at hcollect
    exact hcollect

/-- A request that does not fit is refused before it is sent. -/
theorem embed_ne_ok (hfits : ¬p.Fits texts) (vs : List (List Rat)) : p.embed texts ≠ .ok vs := by
  have hne : ¬texts.isEmpty := by
    intro hempty
    rw [List.isEmpty_iff.1 hempty] at hfits
    exact hfits ⟨Nat.zero_le _, by simp⟩
  rw [embed, if_neg hne]
  by_cases hlimit : p.maxInputs < texts.length
  · rw [if_pos hlimit]
    exact fun h => by cases h
  · rw [if_neg hlimit]
    cases hlong : (texts.map fun t => Utf8.size t.toList).find? (maxInputBytes < ·) with
    | some len => exact fun h => by cases h
    | none =>
      rw [List.find?_eq_none] at hlong
      refine absurd ⟨not_lt.1 hlimit, fun t ht => ?_⟩ hfits
      simpa using hlong _ (List.mem_map_of_mem ht)

end OpenAiEmbeddingProvider

end GraphNight
