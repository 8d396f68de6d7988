import MixinExterns.Package.Access
import MixinExterns.Package.Path

/-!
A tree of files as a value, seen from a working folder inside of it. Reading and writing follow a
path from folder to folder: `..` leads to the folder around, a name to what is in the folder, and
nothing leads on from a file. A solidus at the end of a path says that it leads to a folder.

The tree is an ideal one. Everything in it may be read and written, so all faults come from a path
and from what it leads to: none of them is in the words of a system. There are no links and no
devices; `/dev/null` and the standard input `/dev/stdin` are files that are always empty, whatever
is written to them. They, the folder around them and the folder `/tmp` are in every tree. The
working folder and the folders around it have no names: a path that leads out of the working folder
and back by a name leads to another place than the folder, and so does every path from the root.
-/

namespace MixinExterns

inductive FileTree.Entry where
  | folder
  | file (bytes : ByteArray)
  /-- The file that is always empty. -/
  | null

/-- A place of the tree: names behind the working folder, behind a folder around it, or behind the
root of all files. -/
inductive FileTree.Location where
  | fromHere (up : Nat) (names : List String)
  | fromRoot (names : List String)
  deriving DecidableEq, Repr

/-- A tree of files: what is known to be at some places. The folders around the working folder are
there besides. -/
structure FileTree where
  entries : List (FileTree.Location × FileTree.Entry) := []

namespace FileTree

/-- The folders and files that are always there. -/
def Location.standing? : Location → Option Entry
  | .fromHere _ [] => some .folder
  | .fromRoot [] | .fromRoot ["dev"] | .fromRoot ["tmp"] => some .folder
  | .fromRoot ["dev", "null"] | .fromRoot ["dev", "stdin"] => some .null
  | _ => none

def get? (t : FileTree) (l : Location) : Option Entry :=
  match l.standing? with
  | some e => some e
  | none => (t.entries.find? fun e => e.1 = l).map (·.2)

/-- Puts something at a place. -/
def put (t : FileTree) (l : Location) (e : Entry) : FileTree :=
  ⟨(l, e) :: t.entries.filter fun e => e.1 ≠ l⟩

def Location.down (l : Location) (name : String) : Location :=
  match l, name with
  | l, "." => l
  | .fromHere up [], ".." => .fromHere (up + 1) []
  | .fromHere up names, ".." => .fromHere up names.dropLast
  | .fromRoot names, ".." => .fromRoot names.dropLast
  | .fromHere up names, name => .fromHere up (names ++ [name])
  | .fromRoot names, name => .fromRoot (names ++ [name])

def names : List Char → List (List Char)
  | [] => [[]]
  | c :: rest =>
    if c = '/' then [] :: names rest
    else
      match names rest with
      | [] => [[c]]
      | n :: ns => (c :: n) :: ns

def maxNameBytes : Nat := 255

def maxPathBytes : Nat := 4095

/-- Follows names from a place. Each but the last must lead to a folder. -/
def follow (t : FileTree) (l : Location) : List String → Except FileFault Location
  | [] => .ok l
  | name :: rest =>
    match t.get? l with
    | none => .error .notFound
    | some .folder =>
      if maxNameBytes < name.utf8ByteSize then .error .nameTooLong
      else follow t (l.down name) rest
    | some _ => .error .notFolder

def endsInSolidus (path : String) : Bool := path.toList.getLast? = some '/'

/-- The place that a path leads to, if `behind` stands behind it. -/
def resolve (t : FileTree) (path : String) (behind : List String) : Except FileFault Location :=
  if path.isEmpty then .error .notFound
  else if path.toList.any fun c => c.toNat = 0 then .error .nulInName
  else if maxPathBytes < path.utf8ByteSize then .error .nameTooLong
  else
    let parts := (names path.toList).filter fun n => !n.isEmpty
    follow t (if Path.isAbsolute path then .fromRoot [] else .fromHere 0 [])
      (parts.map String.ofList ++ behind)

/-- The place that a path leads to. A solidus at its end counts like a dot behind it. -/
def locate (t : FileTree) (path : String) : Except FileFault Location :=
  t.resolve path (if endsInSolidus path then ["."] else [])

def at? (t : FileTree) (path : String) : Option Entry :=
  match t.locate path with
  | .ok l => t.get? l
  | .error _ => none

def isFolder (t : FileTree) (path : String) : Bool :=
  match t.at? path with
  | some .folder => true
  | _ => false

def isFile (t : FileTree) (path : String) : Bool :=
  match t.at? path with
  | some (.file _) => true
  | _ => false

def read (t : FileTree) (path : String) : Except FileFault String := do
  match t.get? (← t.locate path) with
  | none => .error .notFound
  | some .folder => .error .isFolder
  | some .null => .ok ""
  | some (.file bytes) =>
    match String.fromUTF8? bytes with
    | some text => .ok text
    | none => .error .notUtf8

/-- The tree with a text in the file that a path leads to. The folder around the file must be
there. No file is written where a folder is, or is to be. -/
def write (t : FileTree) (path text : String) : Except FileFault FileTree :=
  match t.resolve path [] with
  | .error e => .error e
  | .ok l =>
    if endsInSolidus path then .error .isFolder
    else
      match t.get? l with
      | some .folder => .error .isFolder
      | some .null => .ok t
      | some (.file _) | none => .ok (t.put l (.file text.toUTF8))

instance : FileAccess (StateM FileTree) where
  isFolder path := do return (← get).isFolder path
  isFile path := do return (← get).isFile path
  read path := do return (← get).read path
  write path text := do
    match (← get).write path text with
    | .ok t =>
      set t
      return .ok ()
    | .error e => return .error e

theorem get?_put (t : FileTree) (l l' : Location) (e : Entry) :
    (t.put l e).get? l' =
      if l'.standing?.isSome || l' ≠ l then t.get? l' else some e := by
  unfold get? put
  cases hs : l'.standing? with
  | some e' => simp
  | none =>
    by_cases h : l' = l
    · simp [h]
    · have hl : ¬ l = l' := fun h' => h h'.symm
      simp only [List.find?_cons, hl, decide_false, h, ne_eq, not_false_eq_true, decide_true,
        Option.isSome_none, Bool.or_true, if_true]
      rw [List.find?_filter]
      congr 2
      funext x
      by_cases hx : x.1 = l'
      · simp [hx, h]
      · simp [hx]

end FileTree

end MixinExterns
