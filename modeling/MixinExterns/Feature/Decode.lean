import MixinExterns.Decimal.Layout
import MixinExterns.Json.Reader
import MixinExterns.Log.Event
import MixinExterns.Table
import MixinExterns.Text.Blank

/-!
Features from a JSON dump. The document and its features are read strictly: a feature that does
not fit makes the whole dump unfit. Below that nothing fails: a field of the wrong shape keeps its
default, and an entry of a list that does not fit is left out and reported.

A record may be written as an object or as the list of its fields in their order. Either way its
fields are *visited* one after the other, and each visit sets one field; `Visit` holds what is
visited and what, at the end, is wrong with the record.
-/

namespace MixinExterns

open Json (Value)

def Json.Value.found : Value → Found
  | .null => .null
  | .bool b => .boolean b
  | .number (.integer n) => .integer n
  | .number (.real x) => .real (Decimal.Layout.compact.write x)
  | .string s => .string s
  | .list _ => .sequence
  | .object _ => .map

namespace Dump

/-- The fields of a record in the order in which they are visited, and what is wrong with it. -/
structure Visit where
  entries : List (String × Value)
  fault : Option Mismatch

/-- Visits a record written as a list. A list that is too long is noticed at its end. -/
def visitList (fields : List String) (items : List Value) : Visit :=
  ⟨fields.zip items,
    if items.length ≤ fields.length then none
    else some (.invalidLength items.length "fewer elements in array")⟩

/-- Visits a record inside a feature. The members of an object are visited in key order, and of
those with one key the last counts. -/
def visit (record : String) (fields : List String) : Value → Visit
  | .object members => ⟨Table.ofEntries members, none⟩
  | .list items => visitList fields items
  | v => ⟨[], some (.invalidType v.found ("struct " ++ record))⟩

/-- Visits members in document order up to the second one of a field. -/
def visitOnce (fields : List String) : List (String × Value) → List String → Visit
  | [], _ => ⟨[], none⟩
  | (key, v) :: rest, seen =>
    if !fields.contains key then visitOnce fields rest seen
    else if seen.contains key then ⟨[], some (.duplicateField key)⟩
    else
      let later := visitOnce fields rest (key :: seen)
      ⟨(key, v) :: later.entries, later.fault⟩

/-- Visits a record on the level of features. -/
def visitStrict (record : String) (fields : List String) : Value → Visit
  | .object members => visitOnce fields members []
  | v => visit record fields v

/-- The record that the visited fields make up, starting from the one with all defaults. -/
def Visit.build {α : Type} [Inhabited α] (v : Visit) (set : α → String → Value → Logged α) :
    Logged (Except Mismatch α) := do
  let record ← v.entries.foldlM (fun r e => set r e.1 e.2) default
  return match v.fault with
    | none => .ok record
    | some fault => .error fault

/-- A string, or else the empty one. -/
def stringOrEmpty : Value → String
  | .string s => s
  | _ => ""

/-- A string that is not blank. -/
def text? : Value → Option String
  | .string s => if Text.isBlankText s then none else some s
  | _ => none

def privacy : Value → Privacy
  | .string s => .ofWord s
  | _ => .everyone

/-- The entries of a list that fit. Each of the others is reported. -/
def entries {α : Type} (decode : Value → Logged (Except Mismatch α)) : Value → Logged (List α)
  | .list items => go items
  | _ => pure []
where
  /-- The fitting ones among some items. -/
  go : List Value → Logged (List α)
    | [] => pure []
    | v :: rest => do
      match ← decode v with
      | .ok a => return a :: (← go rest)
      | .error cause =>
        Logged.note (.droppedEntry cause)
        go rest

def record? {α : Type} (decode : Value → Logged (Except Mismatch α)) (v : Value) :
    Logged (Option α) := do
  return (← decode v).toOption

/-- A tag's title may also go by the name `tag`, but not both at once. -/
def tag (v : Value) : Logged (Except Mismatch String) :=
  let visited := visit "JsdocTag" ["title"] v
  let titles := visited.entries.filter fun e => e.1 = "title" || e.1 = "tag"
  let fault := if 1 < titles.length then some (.duplicateField "title") else visited.fault
  Visit.build ⟨titles, fault⟩ fun _ _ v => pure (stringOrEmpty v)

def docComment (v : Value) : Logged (Except Mismatch DocComment) :=
  (visit "Jsdoc" ["tags"] v).build fun r key v =>
    match key with
    | "tags" => return { r with tags := ← entries tag v }
    | _ => pure r

def returned (v : Value) : Logged (Except Mismatch Return) :=
  (visit "Return" ["type"] v).build fun r key v =>
    match key with
    | "type" => return { r with type := text? v }
    | _ => pure r

def param (v : Value) : Logged (Except Mismatch Param) :=
  (visit "Param" ["name", "type", "description"] v).build fun r key v =>
    match key with
    | "name" => return { r with name := stringOrEmpty v }
    | "type" => return { r with type := text? v }
    | "description" => return { r with description := text? v }
    | _ => pure r

def method (v : Value) : Logged (Except Mismatch Method) :=
  (visit "Method" ["name", "params", "return", "privacy", "inheritedFrom", "jsdoc"] v).build
    fun r key v =>
      match key with
      | "name" => return { r with name := stringOrEmpty v }
      | "params" => return { r with params := ← entries param v }
      | "return" => return { r with returned := ← record? returned v }
      | "privacy" => return { r with privacy := privacy v }
      | "inheritedFrom" => return { r with inheritedFrom := text? v }
      | "jsdoc" => return { r with doc := ← record? docComment v }
      | _ => pure r

def property (v : Value) : Logged (Except Mismatch Property) :=
  (visit "Property" ["name", "type", "privacy", "inheritedFrom"] v).build fun r key v =>
    match key with
    | "name" => return { r with name := stringOrEmpty v }
    | "type" => return { r with type := text? v }
    | "privacy" => return { r with privacy := privacy v }
    | "inheritedFrom" => return { r with inheritedFrom := text? v }
    | _ => pure r

/-- The identifier of a parent mixin, given alone or in an object; empty if there is none. -/
def parent : Value → String
  | .string s => s
  | .object members => ((Table.ofEntries members).get? "identifier").elim "" stringOrEmpty
  | _ => ""

def parents : Value → List String
  | .list items => items.map parent
  | _ => []

/-- Adds a word to words in increasing order, unless it is among them. -/
def insertWord (word : String) : List String → List String
  | [] => [word]
  | w :: rest =>
    if word < w then word :: w :: rest
    else if word = w then w :: rest
    else w :: insertWord word rest

/-- The strings of a list, in increasing order without repetition. -/
def kinds : Value → List String
  | .list items =>
    items.foldl (fun ws v => match v with | .string s => insertWord s ws | _ => ws) []
  | _ => []

def sourceRange (v : Value) : Logged (Except Mismatch SourceRange) :=
  (visit "SourceRange" ["file"] v).build fun r key v =>
    match key with
    | "file" => return { r with file := text? v }
    | _ => pure r

def featureFields : List String :=
  ["name", "kinds", "sourceRange", "mixins", "properties", "methods", "staticMethods"]

def feature (v : Value) : Logged (Except Mismatch Feature) :=
  (visitStrict "Feature" featureFields v).build fun r key v =>
    match key with
    | "name" => return { r with name := stringOrEmpty v }
    | "kinds" => return { r with kinds := kinds v }
    | "sourceRange" => return { r with sourceRange := ← record? sourceRange v }
    | "mixins" => return { r with parents := parents v }
    | "properties" => return { r with properties := ← entries property v }
    | "methods" => return { r with methods := ← entries method v }
    | "staticMethods" => return { r with staticMethods := ← entries method v }
    | _ => pure r

/-- The features of a list, all of which must fit. -/
def features : List Value → Logged (Option (List Feature))
  | [] => pure (some [])
  | v :: rest => do
    match ← feature v with
    | .error _ => return none
    | .ok f => return (← features rest).map (f :: ·)

/-- The features of a value that must be a list. -/
def featureList : Value → Logged (Option (List Feature))
  | .list items => features items
  | _ => pure none

/-- The values under a key, in order. -/
def occurrences (key : String) (members : List (String × Value)) : List Value :=
  (members.filter (·.1 = key)).map (·.2)

/-- The features of a document: a list, or an object with a list under its one key `features`. -/
def document : Value → Logged (Option (List Feature))
  | .object members =>
    match occurrences "features" members with
    | [] => pure none
    | [v] => featureList v
    | v :: _ => do
      let _ ← featureList v
      return none
  | v => featureList v

/-- Why a dump cannot be used. -/
inductive Fault where
  | malformed (error : Json.SyntaxError)
  | shape
  deriving DecidableEq, Repr

def Fault.message : Fault → String
  | malformed error => error.message
  | shape => "data did not match any variant of untagged enum AnalysisShape"

/-- The features of a dump. What follows the document is looked at last. -/
def decode (text : String) : Logged (Except Fault (List Feature)) :=
  match Json.readFirst text with
  | .error e => pure (.error (.malformed e))
  | .ok (v, c) => do
    match ← document v with
    | none => return .error .shape
    | some fs =>
      match Json.finish c with
      | .error e => return .error (.malformed e)
      | .ok () => return .ok fs

end Dump

end MixinExterns
