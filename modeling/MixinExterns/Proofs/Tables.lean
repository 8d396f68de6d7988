import Mathlib.Data.List.Induction
import Mathlib.Data.String.Basic
import MixinExterns.Table

/-!
Tables and their operations: what a table holds after an entry is set, that its keys stay in order,
and what is left of it without some keys.
-/

namespace MixinExterns.Table

variable {α : Type}

theorem mem_put {t : Table α} {key : String} {value : α} {e : String × α}
    (h : e ∈ put t key value) : e = (key, value) ∨ e ∈ t := by
  induction t with
  | nil => exact .inl (by simpa [put] using h)
  | cons first rest ih =>
    obtain ⟨k, v⟩ := first
    unfold put at h
    split at h
    · exact (List.mem_cons.mp h).imp_right id
    · split at h
      · rcases List.mem_cons.mp h with h | h
        · exact .inl h
        · exact .inr (.tail _ h)
      · rcases List.mem_cons.mp h with rfl | h
        · exact .inr (.head _)
        · exact (ih h).imp_right (.tail _)

theorem mem_ofEntries {entries : List (String × α)} {e : String × α}
    (h : e ∈ ofEntries entries) : e ∈ entries := by
  have hfold : ∀ (es : List (String × α)) (t : Table α),
      e ∈ es.foldl (fun t e => put t e.1 e.2) t → e ∈ t ∨ e ∈ es := by
    intro es
    induction es with
    | nil => exact fun t ht => .inl ht
    | cons first es ih =>
      intro t ht
      rcases ih _ ht with ht | ht
      · rcases mem_put ht with rfl | ht
        · exact .inr (.head _)
        · exact .inl ht
      · exact .inr (.tail _ ht)
  exact (hfold entries [] h).resolve_left (by simp)

theorem mem_of_get? {t : Table α} {key : String} {value : α} (h : t.get? key = some value) :
    (key, value) ∈ t := by
  induction t with
  | nil => simp at h
  | cons e rest ih =>
    obtain ⟨k, v⟩ := e
    unfold get? at h
    split at h
    · next hk =>
      obtain rfl := Option.some.inj h
      exact hk ▸ .head _
    · exact .tail _ (ih h)

theorem get?_eq_none {t : Table α} {key : String} : t.get? key = none ↔ key ∉ t.map (·.1) := by
  induction t with
  | nil => simp
  | cons e rest ih =>
    obtain ⟨k, v⟩ := e
    unfold get?
    split
    · next hk => simp [hk]
    · next hk => simp [ih, Ne.symm hk]

theorem get?_ofEntries_eq_none {entries : List (String × α)} {key : String} :
    (ofEntries entries).get? key = none ↔ key ∉ entries.map (·.1) := by
  induction entries using List.reverseRecOn with
  | nil => simp [ofEntries]
  | append_singleton entries e ih =>
    simp only [ofEntries, List.foldl_append, List.foldl_cons, List.foldl_nil] at ih ⊢
    rw [get?_put]
    by_cases hkey : e.1 = key
    · simp [hkey]
    · simp [hkey, ih, Ne.symm hkey]

/-- Whether the keys of a table increase from entry to entry. -/
def Increasing (t : Table α) : Prop := t.Pairwise fun e e' => e.1 < e'.1

theorem increasing_put {t : Table α} (h : t.Increasing) (key : String) (value : α) :
    (t.put key value).Increasing := by
  induction t with
  | nil => exact List.pairwise_singleton _ _
  | cons e rest ih =>
    obtain ⟨k, v⟩ := e
    obtain ⟨hfirst, hrest⟩ := List.pairwise_cons.mp h
    unfold put
    split
    · next hlt =>
      refine List.pairwise_cons.mpr ⟨fun e he => ?_, h⟩
      rcases List.mem_cons.mp he with rfl | he
      · exact hlt
      · exact String.lt_trans hlt (hfirst e he)
    · next hge =>
      split
      · next heq =>
        subst heq
        exact List.pairwise_cons.mpr ⟨hfirst, hrest⟩
      · next hne =>
        refine List.pairwise_cons.mpr ⟨fun e he => ?_, ih hrest⟩
        rcases mem_put he with rfl | he
        · exact (lt_trichotomy k key).resolve_right (by tauto)
        · exact hfirst e he

theorem increasing_ofEntries (entries : List (String × α)) : (ofEntries entries).Increasing := by
  induction entries using List.reverseRecOn with
  | nil => exact .nil
  | append_singleton entries e ih =>
    simp only [ofEntries, List.foldl_append]
    exact increasing_put ih e.1 e.2

/-- The order of keys does not depend on the values. -/
theorem increasing_iff {t : Table α} : t.Increasing ↔ (t.map (·.1)).Pairwise (· < ·) :=
  List.pairwise_map.symm

theorem Increasing.nodup {t : Table α} (h : t.Increasing) : (t.map (·.1)).Nodup :=
  (increasing_iff.mp h).imp ne_of_lt

section

variable {β : Type} (f : α → β)

theorem put_map (t : Table α) (key : String) (value : α) :
    put (t.map fun e => (e.1, f e.2)) key (f value) =
      (t.put key value).map fun e => (e.1, f e.2) := by
  induction t with
  | nil => rfl
  | cons e rest ih =>
    obtain ⟨k, v⟩ := e
    simp only [List.map_cons, put]
    split
    · rfl
    · split
      · rfl
      · rw [ih, List.map_cons]

theorem ofEntries_map (entries : List (String × α)) :
    ofEntries (entries.map fun e => (e.1, f e.2)) =
      (ofEntries entries).map fun e => (e.1, f e.2) := by
  induction entries using List.reverseRecOn with
  | nil => rfl
  | append_singleton entries e ih =>
    simp only [ofEntries, List.map_append, List.foldl_append] at ih ⊢
    rw [ih]
    exact put_map f _ e.1 e.2

theorem get?_map (t : Table α) (key : String) :
    get? (t.map fun e => (e.1, f e.2)) key = (t.get? key).map f := by
  induction t with
  | nil => rfl
  | cons e rest ih =>
    obtain ⟨k, v⟩ := e
    simp only [List.map_cons, get?]
    split
    · rfl
    · exact ih

end

/-- Entries under other keys are the same after an entry under one of the keys is set. -/
theorem without_put (t : Table α) {key : String} (value : α) {keys : List String}
    (h : key ∈ keys) : (t.put key value).without keys = t.without keys := by
  induction t with
  | nil => simp [put, without, h]
  | cons e rest ih =>
    obtain ⟨k, v⟩ := e
    simp only [without] at ih
    unfold put
    split
    · simp [without, h]
    · split
      · next hk => simp [without, ← hk, h]
      · simp only [without, List.filter_cons, ih]

theorem get?_without (t : Table α) (keys : List String) (key : String) :
    (t.without keys).get? key = if key ∈ keys then none else t.get? key := by
  induction t with
  | nil => simp [without]
  | cons e rest ih =>
    obtain ⟨k, v⟩ := e
    simp only [without, List.contains_eq_mem] at ih ⊢
    by_cases hk : k ∈ keys
    · rw [List.filter_cons_of_neg (by simp [hk]), ih]
      split
      · rfl
      · next hkey =>
        have hne : k ≠ key := by
          rintro rfl
          exact hkey hk
        simp [get?, hne]
    · rw [List.filter_cons_of_pos (by simp [hk])]
      unfold get?
      split
      · next heq => simp [← heq, hk]
      · exact ih

theorem mem_keys_without {t : Table α} {keys : List String} {key : String} :
    key ∈ (t.without keys).map (·.1) ↔ key ∈ t.map (·.1) ∧ key ∉ keys := by
  rw [← not_iff_not, ← get?_eq_none, get?_without]
  by_cases hkey : key ∈ keys
  · simp [hkey]
  · simp [hkey, get?_eq_none]

theorem increasing_without {t : Table α} (h : t.Increasing) (keys : List String) :
    (t.without keys).Increasing :=
  h.filter _

end MixinExterns.Table
