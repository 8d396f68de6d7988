import MixinExterns.Config.Basic
import MixinExterns.Toml.Reader

/-!
The settings of a config file. Each setting is the value of its key or its default; the entries
under all other keys are kept aside. Of several values of the wrong shape the first one is
reported: those of the run come before those of the externs, and both in key order.
-/

namespace MixinExterns.Config

open Toml (Value)

def keys : List String :=
  ["analysis", "check", "output", "header", "inheritance", "namespace", "skip-inherited-methods",
   "static-methods", "suppress-override-params", "undefined-return"]

def bool : Value → Except Mismatch Bool
  | .boolean b => .ok b
  | v => .error (.invalidType v.found "a boolean")

def string : Value → Except Mismatch String
  | .string s => .ok s
  | v => .error (.invalidType v.found "a string")

def path : Value → Except Mismatch String
  | .string s => .ok s
  | v => .error (.invalidType v.found "path string")

def policyOf (v : Value) : Except Mismatch NamespacePolicy := do
  return .only (← string v)

/-- The key of the one entry that a date or time shows in place of a table. -/
def datetimeKey : String := "$__toml_private_datetime"

/-- A tag: its word, or an empty table under its word. -/
def tagOf : Value → Except Mismatch InheritanceTag
  | .string s => InheritanceTag.ofWord s
  | .table [(word, v)] => do
    let tag ← InheritanceTag.ofWord word
    match v with
    | .table [] => return tag
    | v => throw (.invalidType v.found "unit")
  | .table _ => .error (.invalidValue .map "map with a single key")
  | .datetime _ => InheritanceTag.ofWord datetimeKey
  | v => .error (.invalidType v.found "string or map")

def setting {α : Type} (t : Table Value) (key : String) (decode : Value → Except Mismatch α)
    (default : α) : Except Mismatch α :=
  match t.get? key with
  | some v => decode v
  | none => .ok default

def emitOfTable (t : Table Value) : Except Mismatch EmitOptions := do
  let base : EmitOptions := {}
  let header ← setting t "header" string base.header
  let inheritance ← setting t "inheritance" tagOf base.inheritance
  let policy ← setting t "namespace" policyOf base.policy
  let skipInheritedMethods ← setting t "skip-inherited-methods" bool base.skipInheritedMethods
  let staticMethods ← setting t "static-methods" bool base.staticMethods
  let suppressOverrideParams ←
    setting t "suppress-override-params" bool base.suppressOverrideParams
  let undefinedReturn ← setting t "undefined-return" bool base.undefinedReturn
  return {
    policy, suppressOverrideParams, skipInheritedMethods, staticMethods, undefinedReturn,
    inheritance, header }

def ofTable (t : Table Value) : Except Mismatch Config := do
  let base : Config := {}
  let analysis ← setting t "analysis" path base.analysis
  let check ← setting t "check" bool base.check
  let output ← setting t "output" (fun v => some <$> path v) base.output
  let emit ← emitOfTable t
  return { analysis, output, check, emit, unknown := t.without keys }

/-- Why a config file cannot be used. -/
inductive Fault where
  /-- It is not TOML. -/
  | malformed
  | shape (mismatch : Mismatch)
  deriving DecidableEq, Repr

def Fault.message : Fault → String
  | malformed => "not valid TOML"
  | shape mismatch => mismatch.message

def ofText (text : String) : Except Fault Config :=
  match Toml.document? text with
  | none => .error .malformed
  | some t => (ofTable t).mapError .shape

end MixinExterns.Config
