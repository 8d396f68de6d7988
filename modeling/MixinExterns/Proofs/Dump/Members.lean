import Mathlib.Data.List.Induction
import Mathlib.Data.List.Nodup
import MixinExterns.Proofs.Dump.Stages

/-!
What the members of an object say under a key. Of several values under one key the last counts, and
no value is as good as `null`. A record that is made up by visiting members one after the other
depends on nothing but what they say.
-/

namespace MixinExterns

open Json (Value)

variable {α : Type}

namespace Dump

/-- The value that counts under a key: the last. -/
def lastUnder (key : String) (members : List (String × Value)) : Option Value :=
  (occurrences key members).getLast?

/-- What members say under a key, which is `null` if the key is missing. -/
def said (key : String) (members : List (String × Value)) : Value :=
  (lastUnder key members).getD .null

@[simp]
theorem occurrences_append (key : String) (members more : List (String × Value)) :
    occurrences key (members ++ more) = occurrences key members ++ occurrences key more := by
  simp [occurrences]

theorem occurrences_eq_nil {key : String} {members : List (String × Value)} :
    occurrences key members = [] ↔ key ∉ members.map (·.1) := by
  rw [← List.count_eq_zero, ← length_occurrences, List.length_eq_zero_iff]

theorem occurrences_filter {key : String} {p : String × Value → Bool}
    (h : ∀ v, p (key, v) = true) (members : List (String × Value)) :
    occurrences key (members.filter p) = occurrences key members := by
  unfold occurrences
  rw [List.filter_filter]
  congr 1
  apply List.filter_congr
  rintro ⟨k, v⟩ -
  by_cases hk : k = key
  · simp [hk, h]
  · simp [hk]

/-- Members that repeat no key may be written in any order. -/
theorem occurrences_perm {members members' : List (String × Value)}
    (hnodup : (members.map (·.1)).Nodup) (hperm : members.Perm members') (key : String) :
    occurrences key members = occurrences key members' := by
  have hlength : (occurrences key members).length ≤ 1 := by
    rw [length_occurrences]
    exact List.nodup_iff_count_le_one.mp hnodup key
  have hoccurrences : (occurrences key members).Perm (occurrences key members') :=
    (hperm.filter _).map _
  cases hfirst : occurrences key members with
  | nil => exact (List.nil_perm.mp (hfirst ▸ hoccurrences)).symm
  | cons v more =>
    obtain rfl : more = [] := by simpa [hfirst] using hlength
    exact List.singleton_perm.mp (hfirst ▸ hoccurrences)

/-- The items of a list stand under the first of the names that they are given in their order. -/
theorem map_fst_zip (names : List String) (items : List Value) :
    (names.zip items).map (·.1) = names.take items.length := by
  induction names generalizing items with
  | nil => simp
  | cons name names ih =>
    cases items with
    | nil => rfl
    | cons v items => simp [ih]

theorem nodup_zip {names : List String} (h : names.Nodup) (items : List Value) :
    ((names.zip items).map (·.1)).Nodup := by
  rw [map_fst_zip]
  exact h.sublist (List.take_sublist _ _)

theorem lastUnder_concat (key : String) (members : List (String × Value)) (e : String × Value) :
    lastUnder key (members ++ [e]) = if e.1 = key then some e.2 else lastUnder key members := by
  simp only [lastUnder, occurrences_append]
  by_cases hkey : e.1 = key
  · simp [hkey, occurrences]
  · simp [hkey, occurrences]

theorem mem_keys_iff {key : String} {members : List (String × Value)} :
    key ∈ members.map (·.1) ↔ (lastUnder key members).isSome = true := by
  rw [lastUnder, List.getLast?_isSome, ne_eq, occurrences_eq_nil, not_not]

theorem said_congr {key : String} {members members' : List (String × Value)}
    (h : occurrences key members = occurrences key members') :
    said key members = said key members' := by
  simp only [said, lastUnder, h]

/-- What counts among members is all that other members need to have. -/
theorem said_of_occurrences {key : String} {members others : List (String × Value)}
    (h : occurrences key others = (lastUnder key members).toList) :
    said key others = said key members := by
  unfold said
  rw [lastUnder, h]
  cases lastUnder key members <;> rfl

theorem said_append_of_mem {key : String} {after : List (String × Value)}
    (h : key ∈ after.map (·.1)) (before : List (String × Value)) :
    said key (before ++ after) = said key after := by
  have hne : occurrences key after ≠ [] := fun hnil => occurrences_eq_nil.mp hnil h
  simp only [said, lastUnder, occurrences_append, List.getLast?_append_of_ne_nil _ hne]

/-- A value counts if no other one follows it under its key. -/
theorem said_insert (key : String) (before : List (String × Value)) (v : Value)
    (after : List (String × Value)) :
    said key (before ++ (key, v) :: after) =
      if key ∈ after.map (·.1) then said key after else v := by
  rw [said_append_of_mem (by simp)]
  split
  · next hafter => exact said_append_of_mem hafter [(key, v)]
  · next hafter => simp [said, lastUnder, occurrences_cons, occurrences_eq_nil.mpr hafter]

theorem said_insert_of_ne {key k : String} (hne : k ≠ key) (before : List (String × Value))
    (v : Value) (after : List (String × Value)) :
    said key (before ++ (k, v) :: after) = said key (before ++ after) :=
  said_congr (by simp [occurrences_cons, hne])

theorem said_of_repeated {k : String} {after : List (String × Value)} (h : k ∈ after.map (·.1))
    (key : String) (before : List (String × Value)) (v : Value) :
    said key (before ++ (k, v) :: after) = said key (before ++ after) := by
  by_cases hkey : k = key
  · subst hkey
    rw [said_insert, if_pos h, said_append_of_mem h]
  · exact said_insert_of_ne hkey before v after

/-- A record whose fields are set by visiting members, one field by each, is made up of what the
members say. -/
theorem foldl_of_said (of : (String → Value) → α) (set : α → String → Value → α)
    (hset : ∀ told key v, set (of told) key v = of fun k => if key = k then v else told k)
    (members : List (String × Value)) :
    members.foldl (fun r e => set r e.1 e.2) (of fun _ => .null) =
      of fun key => said key members := by
  induction members using List.reverseRecOn with
  | nil => rfl
  | append_singleton members e ih =>
    rw [List.foldl_append, ih]
    simp only [List.foldl_cons, List.foldl_nil, hset]
    congr 1
    funext key
    simp only [said, lastUnder_concat]
    split <;> rfl

theorem get?_ofEntries (key : String) (members : List (String × Value)) :
    (Table.ofEntries members).get? key = lastUnder key members := by
  induction members using List.reverseRecOn with
  | nil => rfl
  | append_singleton members e ih =>
    rw [lastUnder_concat, ← ih]
    simp [Table.ofEntries, Table.get?_put]

/-- A key that occurs at most once is found where it occurs. -/
theorem occurrences_eq_get? {t : Table Value} (h : (t.map (·.1)).Nodup) (key : String) :
    occurrences key t = (t.get? key).toList := by
  induction t with
  | nil => rfl
  | cons e rest ih =>
    obtain ⟨k, v⟩ := e
    obtain ⟨hnot, hrest⟩ := List.nodup_cons.mp h
    rw [occurrences_cons, Table.get?]
    split
    · next heq => simp [← heq, occurrences_eq_nil.mpr hnot]
    · exact ih hrest

theorem occurrences_ofEntries (key : String) (members : List (String × Value)) :
    occurrences key (Table.ofEntries members) = (lastUnder key members).toList := by
  rw [occurrences_eq_get? (Table.increasing_ofEntries members).nodup, get?_ofEntries]

/-- A table of members that repeat no key holds what they hold. -/
theorem get?_ofEntries_of_nodup {members : List (String × Value)}
    (h : (members.map (·.1)).Nodup) (key : String) :
    (Table.ofEntries members).get? key = Table.get? members key := by
  rw [get?_ofEntries, lastUnder, occurrences_eq_get? h]
  cases Table.get? members key <;> rfl

@[simp]
theorem said_ofEntries (key : String) (members : List (String × Value)) :
    said key (Table.ofEntries members) = said key members :=
  said_of_occurrences (occurrences_ofEntries key members)

end Dump

end MixinExterns
