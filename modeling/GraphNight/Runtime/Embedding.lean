import Mathlib.Algebra.Order.Ring.Rat
import GraphNight.Core.RustStd
import GraphNight.Lib.Fault
import GraphNight.Lib.KeyedList

/-!
# Embeddings for hybrid retrieval (`graphnight-runtime/src/embedding.rs`)

`f32` numbers are exact here. A provider is what its calls return; an error is the text
it displays.
-/

namespace GraphNight

/-- Produces vector embeddings for texts. -/
abbrev EmbeddingProvider := List String → Res String (List (List Rat))

/-- Convenience wrapper for a single string. -/
def EmbeddingProvider.embedOne (embed : EmbeddingProvider) (text : String) : Res String (List Rat) :=
  (embed [text]).map fun vs => vs.getLastD []

namespace Embedding

variable (std : RustStd)

/-- `f32::EPSILON`. -/
def epsilon : Rat := 1 / 8388608

/-- Cosine similarity, zero for zero-magnitude or mismatched vectors. -/
def cosineSimilarity (a b : List Rat) : Rat :=
  if a.length ≠ b.length ∨ a.isEmpty then 0
  else
    let dot := (List.zipWith (· * ·) a b).sum
    let normA := (a.map fun x => x * x).sum
    let normB := (b.map fun y => y * y).sum
    if normA ≤ epsilon ∨ normB ≤ epsilon then 0 else dot / (std.sqrt normA * std.sqrt normB)

/-- A ranked list, best first. -/
abbrev Ranking := List (String × Rat)

/-- Add what each rank of a list is worth to the score of its id. -/
def addRanks (k weight : Rat) : Ranking → Nat → KeyedList (String × Rat) Prod.fst → KeyedList (String × Rat) Prod.fst
  | [], _, scores => scores
  | (id, _) :: rest, rank, scores =>
    let score := ((scores.get id).map (·.2)).getD 0
    addRanks k weight rest (rank + 1) (scores.insert (id, score + weight / (k + rank + 1)))

/-- Reciprocal rank fusion of two ranked lists: merged by rank, not by score. -/
def reciprocalRankFusion (lexical dense : Ranking) (k weightLexical weightDense : Rat) : Ranking :=
  let scores := addRanks k weightDense dense 0 (addRanks k weightLexical lexical 0 .empty)
  let fused := (std.hashOrder (scores.items.map (·.1))).filterMap scores.get
  fused.mergeSort fun a b => b.2 ≤ a.2

end Embedding

end GraphNight
