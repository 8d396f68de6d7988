import Mathlib.Logic.Relation
import MixinExterns.Proofs.Dump.Fields

/-!
What is read from an object or a list depends only on what is read from its parts: on what the
object says under its keys, and on the items of the list at their places. So changes of a part that
make no difference to it make none to the whole, one by one or many of them.
-/

namespace MixinExterns.Dump

open Json (Value)

/-- Whether an object is a record does not depend on its values. -/
theorem Record.accepts_replace (r : Record) (before : List (String × Value)) (key : String)
    (w w' : Value) (after : List (String × Value)) :
    r.Accepts (.object (before ++ (key, w) :: after)) ↔
      r.Accepts (.object (before ++ (key, w') :: after)) := by
  simp [Accepts]

/-- Keys that go together still do so without some of them. -/
theorem Record.clash_of_sublist (r : Record) {keys keys' : List String} (h : keys'.Sublist keys)
    (hclash : r.Clash keys') : r.Clash keys := by
  cases r with
  | feature =>
    obtain ⟨field, hfield, hcount⟩ := hclash
    exact ⟨field, hfield, hcount.trans_le (h.count_le field)⟩
  | tag => exact ⟨h.subset hclash.1, h.subset hclash.2⟩
  | _ => exact hclash

namespace Role

theorem parent_object (members : List (String × Value)) :
    Dump.parent (.object members) = stringOrEmpty (said "identifier" members) := by
  have hget := get?_ofEntries "identifier" members
  unfold Dump.parent said
  dsimp only
  rw [hget]
  cases lastUnder "identifier" members <;> rfl

theorem value_document_object (members : List (String × Value)) :
    (Dump.document (.object members)).value =
      if (members.map (·.1)).count "features" = 1 then
        (featureList (said "features" members)).value
      else none := by
  rw [← length_occurrences]
  unfold Dump.document
  dsimp only
  split
  · next hnone => simp [hnone]
  · next v hone => simp [hone, said, lastUnder]
  · next v more hne hmany =>
    have hlength : (v :: more).length ≠ 1 := by
      cases more with
      | nil => exact absurd rfl hne
      | cons _ _ => simp
    rw [hmany, if_neg hlength]
    rfl

/-- Objects are read alike if they say alike under each key and their keys go together alike. -/
theorem read_object_congr {role : Role} {members members' : List (String × Value)}
    (hclash : role.Clash (members.map (·.1)) ↔ role.Clash (members'.map (·.1)))
    (hsaid : ∀ e ∈ role.keys, e.2.read (said e.1 members) = e.2.read (said e.1 members')) :
    role.read (.object members) = role.read (.object members') := by
  cases role with
  | one r =>
    refine Option.ext fun a => ?_
    change (record? r.decode _).value = some a ↔ (record? r.decode _).value = some a
    rw [record?_eq_some, record?_eq_some, Record.decode_eq_ok, Record.decode_eq_ok]
    exact and_congr (not_congr hclash) (iff_of_eq (congrArg (· = a) (Record.of_congr hsaid)))
  | parent =>
    have hidentifier := hsaid ("identifier", name) (.head _)
    change Dump.parent (.object members) = Dump.parent (.object members')
    rw [parent_object, parent_object]
    exact hidentifier
  | document =>
    have hfeatures := hsaid ("features", features) (.head _)
    change (Dump.document _).value = (Dump.document _).value
    rw [value_document_object, value_document_object]
    exact if_congr (not_iff_not.mp hclash) hfeatures rfl
  | _ => rfl

/-- A value that counts may be replaced by one that is read alike, and one that does not by any. -/
theorem read_said_replace {role : Role} {key : String} {w w' : Value}
    (h : ∀ part, (key, part) ∈ role.keys → part.read w = part.read w')
    (before after : List (String × Value)) :
    ∀ e ∈ role.keys, e.2.read (said e.1 (before ++ (key, w) :: after)) =
      e.2.read (said e.1 (before ++ (key, w') :: after)) := by
  intro e he
  by_cases hkey : key = e.1
  · subst hkey
    rw [said_insert, said_insert]
    split
    · rfl
    · exact h e.2 he
  · rw [said_insert_of_ne hkey, said_insert_of_ne hkey]

/-- Objects are read alike if a value under a key of one is replaced by one that is read alike. -/
theorem read_under_congr {role part : Role} {key : String} {w w' : Value}
    (hkey : (key, part) ∈ role.keys) (h : part.read w = part.read w')
    (before after : List (String × Value)) :
    role.read (.object (before ++ (key, w) :: after)) =
      role.read (.object (before ++ (key, w') :: after)) := by
  refine read_object_congr (by simp) (read_said_replace (fun part' hpart' => ?_) _ _)
  obtain rfl := eq_of_mem_keys hkey hpart'
  exact h

/-- Records written as lists that differ in one item say different things under one key at most. -/
theorem zip_replace (names : List String) (before : List Value) (w w' : Value)
    (after : List Value) :
    names.zip (before ++ w :: after) = names.zip (before ++ w' :: after) ∨
      ∃ front key back, names[before.length]? = some key ∧
        names.zip (before ++ w :: after) = front ++ (key, w) :: back ∧
        names.zip (before ++ w' :: after) = front ++ (key, w') :: back := by
  induction before generalizing names with
  | nil =>
    cases names with
    | nil => exact .inl rfl
    | cons key names => exact .inr ⟨[], key, names.zip after, rfl, rfl, rfl⟩
  | cons v before ih =>
    cases names with
    | nil => exact .inl rfl
    | cons k names =>
      rcases ih names with hsame | ⟨front, key, back, hkey, hw, hw'⟩
      · exact .inl (congrArg ((k, v) :: ·) hsame)
      · refine .inr ⟨(k, v) :: front, key, back, hkey, ?_, ?_⟩
        · exact congrArg ((k, v) :: ·) hw
        · exact congrArg ((k, v) :: ·) hw'

theorem read_members_replace {r : Record} {before after : List Value} {w w' : Value}
    (h : ((Role.one r).item before.length).read w = ((Role.one r).item before.length).read w') :
    ∀ e ∈ (Role.one r).keys,
      e.2.read (said e.1 (r.members (.list (before ++ w :: after)))) =
        e.2.read (said e.1 (r.members (.list (before ++ w' :: after)))) := by
  unfold Record.members
  dsimp only
  rcases zip_replace (r.fields.map (·.1)) before w w' after with
    hsame | ⟨front, key, back, hkey, hw, hw'⟩
  · intro e _
    rw [hsame]
  · rw [hw, hw']
    refine read_said_replace (fun part hpart => ?_) front back
    rw [List.getElem?_map, Option.map_eq_some_iff] at hkey
    obtain ⟨field, hfield, rfl⟩ := hkey
    have hmem : field ∈ (Role.one r).keys :=
      List.mem_append_left _ (List.mem_of_getElem? hfield)
    obtain rfl := eq_of_mem_keys hpart hmem
    have hitem : (one r).item before.length = field.2 := by simp [item, hfield]
    exact hitem ▸ h

theorem kinds_list (items : List Value) :
    Dump.kinds (.list items) =
      items.foldl (fun ws v => (word.read v).elim ws (insertWord · ws)) [] := by
  unfold Dump.kinds
  dsimp only
  congr 1
  funext ws v
  cases v <;> rfl

theorem value_features (items : List Value) :
    (Dump.features items).value = items.mapM fun v => (feature v).value.toOption := by
  induction items with
  | nil => rfl
  | cons v items ih =>
    rw [List.mapM_cons, ← ih]
    simp only [Dump.features, Logged.value_bind]
    cases (feature v).value with
    | error e => rfl
    | ok f => cases hrest : (Dump.features items).value <;> simp [hrest, Except.toOption]

theorem value_features_replace {before after : List Value} {w w' : Value}
    (h : (feature w).value.toOption = (feature w').value.toOption) :
    (Dump.features (before ++ w :: after)).value =
      (Dump.features (before ++ w' :: after)).value := by
  simp only [value_features, List.mapM_append, List.mapM_cons, h]

/-- Lists are read alike if an item of one is replaced by one that is read alike at its place. -/
theorem read_list_congr {role : Role} {before after : List Value} {w w' : Value}
    (h : (role.item before.length).read w = (role.item before.length).read w') :
    role.read (.list (before ++ w :: after)) = role.read (.list (before ++ w' :: after)) := by
  cases role with
  | kinds =>
    change Dump.kinds (.list _) = Dump.kinds (.list _)
    rw [kinds_list, kinds_list, List.foldl_append, List.foldl_append, List.foldl_cons,
      List.foldl_cons]
    change word.read w = word.read w' at h
    rw [h]
  | parents =>
    change (before ++ w :: after).map Dump.parent = (before ++ w' :: after).map Dump.parent
    rw [List.map_append, List.map_append, List.map_cons, List.map_cons]
    exact congrArg (fun p => before.map Dump.parent ++ p :: after.map Dump.parent) h
  | one r =>
    refine Option.ext fun a => ?_
    change (record? r.decode _).value = some a ↔ (record? r.decode _).value = some a
    rw [record?_eq_some, record?_eq_some, Record.decode_eq_ok, Record.decode_eq_ok]
    refine and_congr (by simp [Record.Accepts]) (iff_of_eq (congrArg (· = a) ?_))
    exact Record.of_congr (read_members_replace h)
  | many r =>
    have htoOption : (r.decode w).value.toOption = (r.decode w').value.toOption := h
    change (entries r.decode _).value = (entries r.decode _).value
    simp only [value_entries, itemsOf, List.filterMap_append, List.filterMap_cons, htoOption]
  | features => exact value_features_replace h
  | document => exact value_features_replace h
  | _ => rfl

end Role

section

variable {α β : Type} {change : α → α → Prop} {f : α → β} {a b : α}

/-- What no change makes a difference to is left the same by many changes, made or undone. -/
theorem eq_of_eqvGen (h : ∀ a b, change a b → f a = f b) (hab : Relation.EqvGen change a b) :
    f a = f b := by
  induction hab with
  | rel _ _ hchange => exact h _ _ hchange
  | refl => rfl
  | symm _ _ _ ih => exact ih.symm
  | trans _ _ _ _ _ ih ih' => exact ih.trans ih'

/-- Changes of a part, made or undone, are as many changes of the whole. -/
theorem eqvGen_map {change' : β → β → Prop} (h : ∀ a b, change a b → change' (f a) (f b))
    (hab : Relation.EqvGen change a b) : Relation.EqvGen change' (f a) (f b) := by
  induction hab with
  | rel _ _ hchange => exact .rel _ _ (h _ _ hchange)
  | refl => exact .refl _
  | symm _ _ _ ih => exact ih.symm
  | trans _ _ _ _ _ ih ih' => exact ih.trans _ _ _ ih'

end

end MixinExterns.Dump
