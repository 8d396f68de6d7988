import MixinExterns.Externs.Options
import MixinExterns.Feature.Basic
import MixinExterns.Mismatch

/-!
What a run reports about its work. Each event has a level, the part of the program it comes from,
a message and named fields. A computation that reports events is a value of `Logged`.
-/

namespace MixinExterns

/-- The weight of an event, from the least to the greatest. -/
inductive Level where
  | trace
  | debug
  | info
  | warn
  | error
  deriving DecidableEq, Repr

def Level.rank : Level → Nat
  | trace => 0
  | debug => 1
  | info => 2
  | warn => 3
  | error => 4

def Level.word : Level → String
  | trace => "TRACE"
  | debug => "DEBUG"
  | info => "INFO"
  | warn => "WARN"
  | error => "ERROR"

/-- Something worth reporting. -/
inductive Event where
  /-- An entry of a list in the dump was left out. -/
  | droppedEntry (cause : Mismatch)
  /-- A mixin is declared in a test directory. -/
  | testMixin (mixin : String)
  /-- The last part of a mixin's name is empty. -/
  | namelessMixin (mixin : String)
  | foreignMixin (mixin : String) (policy : NamespacePolicy)
  | emittedMixin (mixin typeName : String)
  | skippedProperty (property : String) (privacy : Privacy) (inherited : Bool)
  | skippedMethod (method : String) (privacy : Privacy)
  | skippedInheritedMethod (method : String)
  | generated (mixins declarations : Nat)
  /-- The externs are a well-formed script. -/
  | parsed (statements : Nat)
  | defaultConfig
  | loadingConfig (path : String)
  | unknownKey (path key : String)
  | readingDump (path : String)
  | loadedDump (features : Nat)
  | wrote (path : String)
  | failed (message : String)
  deriving DecidableEq, Repr

namespace Event

/-- The level of an event. -/
def level : Event → Level
  | skippedProperty .. | skippedMethod .. | skippedInheritedMethod .. => .trace
  | generated .. | loadedDump .. | wrote .. => .info
  | unknownKey .. => .warn
  | failed .. => .error
  | _ => .debug

/-- The message of an event. -/
def message : Event → String
  | droppedEntry cause => "dropping malformed entry: " ++ cause.message
  | testMixin .. => "skipping mixin declared in a test directory"
  | namelessMixin .. => "skipping mixin without a usable name"
  | foreignMixin .. => "skipping mixin outside the emitted namespace"
  | emittedMixin .. => "emitting mixin"
  | skippedProperty .. => "skipping property"
  | skippedMethod .. => "skipping method"
  | skippedInheritedMethod .. => "skipping inherited method"
  | generated .. => "generated externs"
  | parsed .. => "externs parsed"
  | defaultConfig => "no config file, using defaults"
  | loadingConfig .. => "loading config"
  | unknownKey .. => "ignoring unknown config key"
  | readingDump .. => "reading feature dump"
  | loadedDump .. => "loaded analysis"
  | wrote .. => "wrote externs"
  | failed message => message

def boolText (b : Bool) : String := if b then "true" else "false"

/-- The named fields of an event, in order. -/
def fields : Event → List (String × String)
  | testMixin mixin => [("mixin", mixin)]
  | namelessMixin mixin => [("mixin", mixin)]
  | foreignMixin mixin policy => [("mixin", mixin), ("policy", policy.describe)]
  | emittedMixin mixin typeName => [("mixin", mixin), ("type_name", typeName)]
  | skippedProperty property privacy inherited =>
    [("property", property), ("privacy", privacy.word), ("inherited", boolText inherited)]
  | skippedMethod method privacy => [("method", method), ("privacy", privacy.word)]
  | skippedInheritedMethod method => [("method", method)]
  | generated mixins declarations =>
    [("mixins", toString mixins), ("declarations", toString declarations)]
  | parsed statements => [("statements", toString statements)]
  | loadingConfig path => [("path", path)]
  | unknownKey path key => [("path", path), ("key", key)]
  | readingDump path => [("path", path)]
  | loadedDump features => [("features", toString features)]
  | wrote path => [("path", path)]
  | droppedEntry .. | defaultConfig | failed .. => []

/-- The part of the program that an event comes from. -/
def target : Event → String
  | droppedEntry .. => "polymer_externs::feature"
  | testMixin .. => "polymer_externs::filter"
  | namelessMixin .. | foreignMixin .. | emittedMixin .. | skippedProperty .. | skippedMethod ..
  | skippedInheritedMethod .. | generated .. => "polymer_externs::emit"
  | parsed .. => "polymer_externs::check"
  | defaultConfig | loadingConfig .. | unknownKey .. => "polymer_externs::config"
  | readingDump .. | loadedDump .. => "polymer_externs::analyzer"
  | wrote .. | failed .. => "polymer_externs"

end Event

/-- A value together with the events that were reported on the way to it, in order. -/
structure Logged (α : Type) where
  value : α
  events : List Event

namespace Logged

variable {α β : Type}

instance : Monad Logged where
  pure a := ⟨a, []⟩
  bind x f := ⟨(f x.value).value, x.events ++ (f x.value).events⟩

/-- Reports an event. -/
def note (e : Event) : Logged Unit := ⟨(), [e]⟩

@[simp]
theorem value_pure (a : α) : (pure a : Logged α).value = a := rfl

@[simp]
theorem events_pure (a : α) : (pure a : Logged α).events = [] := rfl

@[simp]
theorem value_bind (x : Logged α) (f : α → Logged β) : (x >>= f).value = (f x.value).value := rfl

@[simp]
theorem events_bind (x : Logged α) (f : α → Logged β) :
    (x >>= f).events = x.events ++ (f x.value).events := rfl

@[simp]
theorem events_note (e : Event) : (note e).events = [e] := rfl

instance : LawfulMonad Logged :=
  LawfulMonad.mk' (m := Logged)
    (fun x => by simp [Functor.map])
    (fun _ _ => by simp [bind, pure])
    (fun _ _ _ => by simp [bind])

end Logged

end MixinExterns
