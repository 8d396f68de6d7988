import MixinExterns.Externs.Options
import MixinExterns.Feature.Decode

/-!
The settings of the externs from a JSON value: an object with a key for each setting, or a list of
the settings in order. What is not given keeps its default.
-/

namespace MixinExterns.EmitOptions

open Json (Value)

/-- The keys of the settings, in order. -/
def keys : List String :=
  ["namespace", "suppress-override-params", "skip-inherited-methods", "static-methods",
   "undefined-return", "inheritance", "header"]

def bool (v : Value) : Except Mismatch Bool :=
  match v with
  | .bool b => .ok b
  | v => .error (.invalidType v.found "a boolean")

def string (v : Value) : Except Mismatch String :=
  match v with
  | .string s => .ok s
  | v => .error (.invalidType v.found "a string")

def policyOf (v : Value) : Except Mismatch NamespacePolicy :=
  match v with
  | .null => .ok .any
  | v => return .only (← string v)

def tagOf (v : Value) : Except Mismatch InheritanceTag :=
  match v with
  | .string s => InheritanceTag.ofWord s
  | .object members =>
    match Table.ofEntries members with
    | [(word, v)] => do
      let tag ← InheritanceTag.ofWord word
      match v with
      | .null => return tag
      | v => throw (.invalidType v.found "unit")
    | _ => .error (.invalidValue .map "map with a single key")
  | v => .error (.invalidType v.found "string or map")

/-- Sets one setting; other keys are passed over. -/
def set (o : EmitOptions) (key : String) (v : Value) : Except Mismatch EmitOptions :=
  match key with
  | "namespace" => return { o with policy := ← policyOf v }
  | "suppress-override-params" => return { o with suppressOverrideParams := ← bool v }
  | "skip-inherited-methods" => return { o with skipInheritedMethods := ← bool v }
  | "static-methods" => return { o with staticMethods := ← bool v }
  | "undefined-return" => return { o with undefinedReturn := ← bool v }
  | "inheritance" => return { o with inheritance := ← tagOf v }
  | "header" => return { o with header := ← string v }
  | _ => .ok o

def ofJson (v : Value) : Except Mismatch EmitOptions := do
  let visited := Dump.visit "EmitOptions" keys v
  let options ← visited.entries.foldlM (fun o e => set o e.1 e.2) {}
  match visited.fault with
  | none => return options
  | some fault => throw fault

end MixinExterns.EmitOptions
