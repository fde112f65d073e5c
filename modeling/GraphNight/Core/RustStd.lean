import GraphNight.Core.Value
import GraphNight.Lib.Str

/-!
# What the standard library leaves open

Unicode tables, hashing and floating point. A result that does not depend on them is
proved for every choice.
-/

namespace GraphNight

structure RustStd where
  /-- Whether `{:?}` escapes a character outside ASCII. -/
  escapes : Char → Bool
  /-- The order in which a `HashMap` yields its keys. -/
  hashOrder : List String → List String
  hashOrder_perm : ∀ keys, (hashOrder keys).Perm keys
  /-- `DefaultHasher` on a text. -/
  hash : String → UInt64
  /-- What `json!` makes of the `f64` a text parses as. -/
  parseF64 : String → Option Value
  /-- `f32::sqrt`. -/
  sqrt : Rat → Rat

namespace RustStd

/-- A string under `{:?}`. -/
def debug (std : RustStd) (s : String) : String := Str.debug std.escapes s

/-- A list of strings under `{:?}`. -/
def debugAll (std : RustStd) (l : List String) : String := "[" ++ Str.join ", " (l.map std.debug) ++ "]"

end RustStd

end GraphNight
