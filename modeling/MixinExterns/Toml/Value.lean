import MixinExterns.Decimal.Layout
import MixinExterns.Mismatch
import MixinExterns.Table
import MixinExterns.Toml.Datetime

/-!
TOML values. A table keeps its entries in key order.
-/

namespace MixinExterns.Toml

/-- A TOML value. -/
inductive Value where
  | string (s : String)
  | integer (n : Int)
  | real (x : Float)
  | boolean (b : Bool)
  | datetime (d : Datetime)
  | array (items : List Value)
  | table (entries : List (String × Value))
  deriving Inhabited

mutual

/-- Whether two values are the same, part by part. -/
def Value.same : Value → Value → Bool
  | .string a, .string b => a = b
  | .integer a, .integer b => a = b
  | .real a, .real b => a = b
  | .boolean a, .boolean b => a = b
  | .datetime a, .datetime b => a = b
  | .array vs, .array ws => sameItems vs ws
  | .table es, .table fs => sameEntries es fs
  | _, _ => false

def sameItems : List Value → List Value → Bool
  | [], [] => true
  | v :: vs, w :: ws => v.same w && sameItems vs ws
  | _, _ => false

def sameEntries : List (String × Value) → List (String × Value) → Bool
  | [], [] => true
  | (key, v) :: es, (key', w) :: fs => key = key' && v.same w && sameEntries es fs
  | _, _ => false

end

mutual

theorem Value.same_iff (v w : Value) : v.same w ↔ v = w := by
  cases v <;> cases w <;> simp [Value.same, sameItems_iff, sameEntries_iff]

theorem sameItems_iff (vs ws : List Value) : sameItems vs ws ↔ vs = ws := by
  cases vs <;> cases ws <;> simp [sameItems, Value.same_iff, sameItems_iff]

theorem sameEntries_iff (es fs : List (String × Value)) : sameEntries es fs ↔ es = fs := by
  cases es <;> cases fs <;> simp [sameEntries, Value.same_iff, sameEntries_iff, Prod.ext_iff]

end

instance : DecidableEq Value := fun v w => decidable_of_iff _ (v.same_iff w)

def Value.found : Value → Found
  | .string s => .string s
  | .integer n => .integer n
  | .real x => .real (Decimal.Layout.positional.write x)
  | .boolean b => .boolean b
  | .array _ => .sequence
  | .datetime _ | .table _ => .map

end MixinExterns.Toml
