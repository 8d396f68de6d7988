/-!
JSON values. An object keeps its members in the order of the document, repeated keys included.
-/

namespace MixinExterns.Json

/-- A number: an integer of 64 bits, signed or unsigned, or a floating point number. -/
inductive Number where
  | integer (n : Int)
  | real (x : Float)
  deriving DecidableEq, Inhabited

/-- A JSON value. -/
inductive Value where
  | null
  | bool (b : Bool)
  | number (n : Number)
  | string (s : String)
  | list (items : List Value)
  | object (members : List (String × Value))
  deriving Inhabited

mutual

/-- Whether two values are the same, part by part. -/
def Value.same : Value → Value → Bool
  | .null, .null => true
  | .bool a, .bool b => a = b
  | .number a, .number b => a = b
  | .string a, .string b => a = b
  | .list vs, .list ws => sameItems vs ws
  | .object ms, .object ns => sameMembers ms ns
  | _, _ => false

def sameItems : List Value → List Value → Bool
  | [], [] => true
  | v :: vs, w :: ws => v.same w && sameItems vs ws
  | _, _ => false

def sameMembers : List (String × Value) → List (String × Value) → Bool
  | [], [] => true
  | (key, v) :: ms, (key', w) :: ns => key = key' && v.same w && sameMembers ms ns
  | _, _ => false

end

mutual

theorem Value.same_iff (v w : Value) : v.same w ↔ v = w := by
  cases v <;> cases w <;> simp [Value.same, sameItems_iff, sameMembers_iff]

theorem sameItems_iff (vs ws : List Value) : sameItems vs ws ↔ vs = ws := by
  cases vs <;> cases ws <;> simp [sameItems, Value.same_iff, sameItems_iff]

theorem sameMembers_iff (ms ns : List (String × Value)) : sameMembers ms ns ↔ ms = ns := by
  cases ms <;> cases ns <;> simp [sameMembers, Value.same_iff, sameMembers_iff, Prod.ext_iff]

end

instance : DecidableEq Value := fun v w => decidable_of_iff _ (v.same_iff w)

end MixinExterns.Json
