import Mathlib.Data.List.Forall2
import MixinExterns.Feature.Decode
import MixinExterns.Proofs.Tables

/-!
What decoding a record, a list of records and a list of features gives, without the reports on the
way. A decoded record has a property if the record of all defaults has it and each visited field
keeps it.
-/

namespace MixinExterns

open Json (Value)

variable {α β : Type}

@[simp]
theorem Logged.value_map (f : α → β) (x : Logged α) : (f <$> x).value = f x.value := rfl

theorem Logged.value_foldlM (f : β → α → Logged β) (items : List α) (b : β) :
    (items.foldlM f b).value = items.foldl (fun b a => (f b a).value) b := by
  induction items generalizing b with
  | nil => rfl
  | cons a items ih => simp only [List.foldlM_cons, Logged.value_bind, ih, List.foldl_cons]

namespace Dump

/-- A record that decodes is made up by the visited fields, and nothing is wrong with it. -/
theorem build_eq_ok [Inhabited α] {v : Visit} {set : α → String → Value → Logged α} {a : α} :
    (v.build set).value = .ok a ↔
      v.fault = none ∧ v.entries.foldl (fun r e => (set r e.1 e.2).value) default = a := by
  unfold Visit.build
  simp only [Logged.value_bind, Logged.value_pure, Logged.value_foldlM]
  cases v.fault <;> simp

/-- What holds of the defaults and is kept by each visited field holds of the decoded record. -/
theorem build_invariant [Inhabited α] {v : Visit} {set : α → String → Value → Logged α} {a : α}
    (P : α → Prop) (hdecoded : (v.build set).value = .ok a) (hdefault : P default)
    (hset : ∀ r key w, (key, w) ∈ v.entries → P r → P (set r key w).value) : P a := by
  obtain ⟨-, rfl⟩ := build_eq_ok.mp hdecoded
  have hfold : ∀ (es : List (String × Value)) (r : α), (∀ e ∈ es, e ∈ v.entries) → P r →
      P (es.foldl (fun r e => (set r e.1 e.2).value) r) := by
    intro es
    induction es with
    | nil => exact fun r _ hr => hr
    | cons e es ih =>
      intro r hes hr
      exact ih _ (fun e' he' => hes e' (.tail _ he')) (hset r e.1 e.2 (hes e (.head _)) hr)
  exact hfold v.entries default (fun _ he => he) hdefault

theorem record?_eq_some {decode : Value → Logged (Except Mismatch α)} {v : Value} {a : α} :
    (record? decode v).value = some a ↔ (decode v).value = .ok a := by
  unfold record?
  simp only [Logged.value_bind, Logged.value_pure]
  cases (decode v).value <;> simp [Except.toOption]

def itemsOf : Value → List Value
  | .list items => items
  | _ => []

/-- The decoded entries of a list are those of its items that decode, in order. -/
theorem value_entries (decode : Value → Logged (Except Mismatch α)) (v : Value) :
    (entries decode v).value = (itemsOf v).filterMap fun item => (decode item).value.toOption := by
  have hgo : ∀ items : List Value, (entries.go decode items).value =
      items.filterMap fun item => (decode item).value.toOption := by
    intro items
    induction items with
    | nil => rfl
    | cons item items ih =>
      simp only [entries.go, Logged.value_bind, List.filterMap_cons]
      cases (decode item).value with
      | error e => exact ih
      | ok a => exact congrArg (a :: ·) ih
  cases v with
  | list items => exact hgo items
  | _ => rfl

theorem mem_entries {decode : Value → Logged (Except Mismatch α)} {v : Value} {a : α}
    (h : a ∈ (entries decode v).value) : ∃ item ∈ itemsOf v, (decode item).value = .ok a := by
  rw [value_entries, List.mem_filterMap] at h
  obtain ⟨item, hitem, hdecoded⟩ := h
  refine ⟨item, hitem, ?_⟩
  cases hvalue : (decode item).value with
  | error e => simp [hvalue, Except.toOption] at hdecoded
  | ok b => simpa [hvalue, Except.toOption] using hdecoded

/-- Features decode together if each of them does, one for each item. -/
theorem features_eq_some {items : List Value} {fs : List Feature} :
    (features items).value = some fs ↔
      List.Forall₂ (fun item f => (feature item).value = .ok f) items fs := by
  induction items generalizing fs with
  | nil =>
    simp only [features, Logged.value_pure, Option.some.injEq, List.forall₂_nil_left_iff]
    exact eq_comm
  | cons item items ih =>
    simp only [features, Logged.value_bind]
    cases hitem : (feature item).value with
    | error e =>
      simp only [Logged.value_pure, reduceCtorEq, false_iff]
      rintro (_ | ⟨hfirst, -⟩)
      simp [hitem] at hfirst
    | ok f =>
      simp only [Logged.value_bind, Logged.value_pure, Option.map_eq_some_iff]
      constructor
      · rintro ⟨rest, hrest, rfl⟩
        exact .cons hitem (ih.mp hrest)
      · rintro (_ | ⟨hfirst, hrest⟩)
        rename_i f' rest
        obtain rfl : f = f' := by simpa [hitem] using hfirst
        exact ⟨rest, ih.mpr hrest, rfl⟩

end Dump

end MixinExterns
