import MixinExterns.Externs.Options.Decode
import MixinExterns.Proofs.Dump.Members
import MixinExterns.Proofs.Results

/-!
The settings of the externs from a JSON value. Each setting is decoded from what stands under its
own key alone. So the order of the keys makes no difference to what is decoded, nor does it matter
whether the settings are given by their keys or in their order.
-/

namespace MixinExterns.EmitOptions

open Json (Value)

variable {α : Type} {t t' : Table Value} {o o' : EmitOptions}

/-- A setting is what the value under its key stands for. Without a value it stays as it was. -/
def setting (t : Table Value) (key : String) (decode : Value → Except Mismatch α) (old : α) :
    Except Mismatch α :=
  match t.get? key with
  | some v => decode v
  | none => .ok old

/-- Whether the entries of a table make some settings of others. -/
@[mk_iff]
structure Sets (t : Table Value) (o o' : EmitOptions) : Prop where
  policy : setting t "namespace" policyOf o.policy = .ok o'.policy
  suppressOverrideParams :
    setting t "suppress-override-params" bool o.suppressOverrideParams =
      .ok o'.suppressOverrideParams
  skipInheritedMethods :
    setting t "skip-inherited-methods" bool o.skipInheritedMethods = .ok o'.skipInheritedMethods
  staticMethods : setting t "static-methods" bool o.staticMethods = .ok o'.staticMethods
  undefinedReturn : setting t "undefined-return" bool o.undefinedReturn = .ok o'.undefinedReturn
  inheritance : setting t "inheritance" tagOf o.inheritance = .ok o'.inheritance
  header : setting t "header" string o.header = .ok o'.header

theorem setting_congr {key : String} (h : t.get? key = t'.get? key)
    (decode : Value → Except Mismatch α) (old : α) :
    setting t key decode old = setting t' key decode old := by
  simp only [setting, h]

/-- Of two tables one after the other the first one has the first say, if they share no key. -/
theorem setting_cons {key : String} {v : Value} (hnew : t.get? key = none) (k : String)
    (decode : Value → Except Mismatch α) (old new : α) :
    setting ((key, v) :: t) k decode old = .ok new ↔
      ∃ a, setting [(key, v)] k decode old = .ok a ∧ setting t k decode a = .ok new := by
  by_cases hkey : key = k
  · subst hkey
    simp [setting, Table.get?, hnew]
  · simp [setting, Table.get?, hkey]

theorem sets_congr (h : ∀ key ∈ keys, t.get? key = t'.get? key) : Sets t o o' ↔ Sets t' o o' := by
  have hsetting {β : Type} {key : String} (hkey : key ∈ keys)
      (decode : Value → Except Mismatch β) (old : β) :
      setting t key decode old = setting t' key decode old :=
    setting_congr (h key hkey) decode old
  simp (disch := decide) only [sets_iff, hsetting]

theorem sets_nil : Sets [] o o' ↔ o = o' := by
  cases o
  cases o'
  simp [sets_iff, setting]

/-- An entry makes its own setting, if it makes any. -/
theorem set_eq_ok {key : String} {v : Value} : set o key v = .ok o' ↔ Sets [(key, v)] o o' := by
  cases o
  cases o'
  unfold set
  split
  case h_1 => cases hv : policyOf v <;> simp [sets_iff, setting, Table.get?, hv]
  case h_6 => cases hv : tagOf v <;> simp [sets_iff, setting, Table.get?, hv]
  case h_7 => cases hv : string v <;> simp [sets_iff, setting, Table.get?, hv]
  case h_8 => simp_all [sets_iff, setting, Table.get?]
  all_goals cases hv : bool v <;> simp [sets_iff, setting, Table.get?, hv]

theorem sets_cons {key : String} {v : Value} (hnew : t.get? key = none) :
    Sets ((key, v) :: t) o o' ↔ ∃ between, Sets [(key, v)] o between ∧ Sets t between o' := by
  simp only [sets_iff, setting_cons hnew]
  constructor
  · rintro ⟨⟨_, h₁, h₁'⟩, ⟨_, h₂, h₂'⟩, ⟨_, h₃, h₃'⟩, ⟨_, h₄, h₄'⟩, ⟨_, h₅, h₅'⟩, ⟨_, h₆, h₆'⟩,
      ⟨_, h₇, h₇'⟩⟩
    exact ⟨⟨_, _, _, _, _, _, _⟩, ⟨h₁, h₂, h₃, h₄, h₅, h₆, h₇⟩, h₁', h₂', h₃', h₄', h₅', h₆', h₇'⟩
  · rintro ⟨between, ⟨h₁, h₂, h₃, h₄, h₅, h₆, h₇⟩, h₁', h₂', h₃', h₄', h₅', h₆', h₇'⟩
    exact ⟨⟨_, h₁, h₁'⟩, ⟨_, h₂, h₂'⟩, ⟨_, h₃, h₃'⟩, ⟨_, h₄, h₄'⟩, ⟨_, h₅, h₅'⟩, ⟨_, h₆, h₆'⟩,
      ⟨_, h₇, h₇'⟩⟩

/-- Entries that share no key make the settings one after the other as the table of them does. -/
theorem foldlM_set_eq_ok (hnodup : (t.map (·.1)).Nodup) :
    t.foldlM (fun o e => set o e.1 e.2) o = .ok o' ↔ Sets t o o' := by
  induction t generalizing o with
  | nil =>
    rw [sets_nil]
    exact ⟨Except.ok.inj, congrArg _⟩
  | cons e t ih =>
    obtain ⟨key, v⟩ := e
    obtain ⟨hnot, hrest⟩ := List.nodup_cons.mp hnodup
    rw [List.foldlM_cons, bind_eq_ok_iff, sets_cons (Table.get?_eq_none.mpr hnot)]
    exact exists_congr fun _ => and_congr set_eq_ok (ih hrest)

/-- A value makes the settings that its visited entries make, if nothing is wrong with it. -/
theorem ofJson_eq_ok {v : Value} :
    ofJson v = .ok o ↔
      (Dump.visit "EmitOptions" keys v).fault = none ∧
        (Dump.visit "EmitOptions" keys v).entries.foldlM (fun o e => set o e.1 e.2) {} = .ok o := by
  unfold ofJson
  dsimp only
  rw [bind_eq_ok_iff]
  cases (Dump.visit "EmitOptions" keys v).fault with
  | none => simp [pure, Except.pure]
  | some fault => simp [throw, throwThe, MonadExceptOf.throw]

/-- Of an object the value that counts under a key makes its setting. -/
theorem ofJson_object_eq_ok {members : List (String × Value)} :
    ofJson (.object members) = .ok o ↔ Sets (Table.ofEntries members) {} o := by
  rw [ofJson_eq_ok, ← foldlM_set_eq_ok (Table.increasing_ofEntries members).nodup]
  exact and_iff_right rfl

/-- A list that is not too long makes the settings in their order. -/
theorem ofJson_list_eq_ok {items : List Value} (h : items.length ≤ keys.length) :
    ofJson (.list items) = .ok o ↔ Sets (keys.zip items) {} o := by
  rw [ofJson_eq_ok, ← foldlM_set_eq_ok (Dump.nodup_zip (by decide) items)]
  exact and_iff_right (if_pos h)

/-- The settings may be given in their order or by their keys. -/
theorem toOption_ofJson_list {items : List Value} (h : items.length ≤ keys.length) :
    (ofJson (.list items)).toOption = (ofJson (.object (keys.zip items))).toOption := by
  have hsame (o : EmitOptions) :
      ofJson (.list items) = .ok o ↔ ofJson (.object (keys.zip items)) = .ok o := by
    rw [ofJson_list_eq_ok h, ofJson_object_eq_ok]
    exact sets_congr fun key _ =>
      (Dump.get?_ofEntries_of_nodup (Dump.nodup_zip (by decide) items) key).symm
  refine Option.ext fun o => ?_
  rw [toOption_eq_some_iff, toOption_eq_some_iff]
  exact hsame o

end MixinExterns.EmitOptions
