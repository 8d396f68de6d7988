/-!
Tables: lists of keyed entries in strictly increasing order of their keys, each key at most once.
`put` overwrites, so of two entries with one key the later one counts.
-/

namespace MixinExterns

/-- Entries by key, in increasing key order. -/
abbrev Table (α : Type) := List (String × α)

namespace Table

variable {α β : Type}

def get? (t : Table α) (key : String) : Option α :=
  match t with
  | [] => none
  | (k, v) :: rest => if k = key then some v else get? rest key

/-- Sets the entry under a key, at its place in the key order. -/
def put (t : Table α) (key : String) (value : α) : Table α :=
  match t with
  | [] => [(key, value)]
  | (k, v) :: rest =>
    if key < k then (key, value) :: (k, v) :: rest
    else if key = k then (key, value) :: rest
    else (k, v) :: put rest key value

/-- The table of a list of entries; a later entry replaces an earlier one with its key. -/
def ofEntries (entries : List (String × α)) : Table α :=
  entries.foldl (fun t e => put t e.1 e.2) []

/-- The table without the entries under the given keys. -/
def without (t : Table α) (keys : List String) : Table α :=
  t.filter fun e => !keys.contains e.1

def has (t : Table α) (key : String) : Bool :=
  (get? t key).isSome

@[simp]
theorem get?_nil (key : String) : get? ([] : Table α) key = none := rfl

theorem get?_put (t : Table α) (key key' : String) (value : α) :
    get? (put t key value) key' = if key = key' then some value else get? t key' := by
  induction t with
  | nil => simp [put, get?]
  | cons e rest ih =>
    obtain ⟨k, v⟩ := e
    unfold put
    split
    · simp [get?]
    · split
      · next h => subst h; simp only [get?]; split <;> simp_all
      · next h _ => simp only [get?, ih]; split <;> simp_all

end Table

end MixinExterns
