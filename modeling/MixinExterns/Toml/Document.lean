import MixinExterns.Toml.Value

/-!
The tables of a TOML document while it is built up, one entry or header after the other. No key is
set twice, and no table is defined twice: one that a header names, an array of tables, an inline
table and a table that dotted keys make up each have their own rules of what may still be added.
-/

namespace MixinExterns.Toml

inductive Origin where
  | header
  /-- A longer header goes through it. -/
  | passedThrough
  | dotted
  deriving DecidableEq

inductive Node where
  /-- A value to which nothing can be added. -/
  | value (v : Value)
  | table (origin : Origin) (entries : List (String × Node))
  /-- An array of tables, the last one first. -/
  | tables (elements : List (List (String × Node)))

def setEntry (entries : Table Node) : List String → Value → Option (Table Node)
  | [], _ => none
  | [key], v => if entries.has key then none else some (entries.put key (.value v))
  | key :: path, v =>
    match entries.get? key with
    | none => do return entries.put key (.table .dotted (← setEntry [] path v))
    | some (.table origin inner) => do
      guard (origin = .dotted || (origin = .passedThrough && 1 < path.length))
      return entries.put key (.table origin (← setEntry inner path v))
    | some _ => none

def openTable (entries : Table Node) : List String → Option (Table Node)
  | [] => none
  | [key] =>
    match entries.get? key with
    | none => some (entries.put key (.table .header []))
    | some (.table .passedThrough inner) => some (entries.put key (.table .header inner))
    | some _ => none
  | key :: path =>
    match entries.get? key with
    | none => do return entries.put key (.table .passedThrough (← openTable [] path))
    | some (.table origin inner) => do
      return entries.put key (.table origin (← openTable inner path))
    | some (.tables (last :: others)) => do
      return entries.put key (.tables ((← openTable last path) :: others))
    | some _ => none

/-- Opens another element of the array of tables that a header names. -/
def openElement (entries : Table Node) : List String → Option (Table Node)
  | [] => none
  | [key] =>
    match entries.get? key with
    | none => some (entries.put key (.tables [[]]))
    | some (.tables elements) => some (entries.put key (.tables ([] :: elements)))
    | some _ => none
  | key :: path =>
    match entries.get? key with
    | none => do return entries.put key (.table .passedThrough (← openElement [] path))
    | some (.table origin inner) => do
      return entries.put key (.table origin (← openElement inner path))
    | some (.tables (last :: others)) => do
      return entries.put key (.tables ((← openElement last path) :: others))
    | some _ => none

/-- Changes the entries of the table that was opened last under a path. -/
def inSection (change : Table Node → Option (Table Node)) (entries : Table Node) :
    List String → Option (Table Node)
  | [] => change entries
  | key :: path =>
    match entries.get? key with
    | some (.table origin inner) => do
      return entries.put key (.table origin (← inSection change inner path))
    | some (.tables (last :: others)) => do
      return entries.put key (.tables ((← inSection change last path) :: others))
    | _ => none

inductive Line where
  | entry (key : List String) (value : Value)
  | table (path : List String)
  | element (path : List String)

/-- The tables so far and the path of the one that is open. -/
structure Draft where
  entries : Table Node := []
  path : List String := []

def Draft.add (d : Draft) : Line → Option Draft
  | .entry key v => do
    return { d with entries := ← inSection (setEntry · key v) d.entries d.path }
  | .table path => do return ⟨← openTable d.entries path, path⟩
  | .element path => do return ⟨← openElement d.entries path, path⟩

mutual

def Node.toValue : Node → Value
  | .value v => v
  | .table _ entries => .table (tableOf entries)
  | .tables elements => .array (arrayOf elements [])

def tableOf : List (String × Node) → List (String × Value)
  | [] => []
  | (key, node) :: rest => (key, node.toValue) :: tableOf rest

def arrayOf : List (List (String × Node)) → List Value → List Value
  | [], values => values
  | entries :: rest, values => arrayOf rest (.table (tableOf entries) :: values)

end

def tableOfLines (lines : List Line) : Option (Table Value) := do
  let draft ← lines.foldlM Draft.add {}
  return tableOf draft.entries

end MixinExterns.Toml
